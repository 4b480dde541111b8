import Mathlib.Data.List.Forall2

/-!
# Results that stand behind a list of faults

A computation that stops at the first thing that is wrong is described by all that is wrong, in the
order in which it would be met, and by what comes out if nothing is (`firstFault`). Going on after
such a computation puts two lists of faults behind each other (`firstFault_bind`), so what a whole
run reports first is the head of one list.
-/

namespace CrateDoc

variable {ε α β : Type}

/-- A computation in two parts succeeds exactly when both parts do. -/
theorem bind_eq_ok_iff {x : Except ε α} {f : α → Except ε β} {b : β} :
    (x >>= f) = .ok b ↔ ∃ a, x = .ok a ∧ f a = .ok b := by
  rcases x with e | a
  · constructor
    · intro h
      cases h
    · rintro ⟨_, ⟨⟩, _⟩
  · constructor
    · intro h
      exact ⟨a, rfl, h⟩
    · rintro ⟨_, ⟨⟩, h⟩
      exact h

/-- A computation in two parts fails as the first part does, or as the second does after it. -/
theorem bind_eq_error_iff {x : Except ε α} {f : α → Except ε β} {e : ε} :
    (x >>= f) = .error e ↔ x = .error e ∨ ∃ a, x = .ok a ∧ f a = .error e := by
  rcases x with e' | a
  · show Except.error e' = _ ↔ _
    simp
  · show f a = _ ↔ _
    simp

theorem eq_ok_of_toOption {x : Except ε α} {a : α} (h : x.toOption = some a) : x = .ok a := by
  rcases x with e | b
  · cases h
  · cases h
    rfl

theorem mapError_eq_ok_iff {ε' : Type} {f : ε → ε'} {x : Except ε α} {a : α} :
    x.mapError f = .ok a ↔ x = .ok a := by
  rcases x with e | b
  · simp [Except.mapError]
  · simp [Except.mapError]

/-- A renamed failure is the name of one. -/
theorem mapError_eq_error_iff {ε' : Type} {f : ε → ε'} {x : Except ε α} {e : ε'} :
    x.mapError f = .error e ↔ ∃ e', x = .error e' ∧ f e' = e := by
  rcases x with e' | a
  · simp [Except.mapError]
  · simp [Except.mapError]

theorem map_eq_ok_iff {f : α → β} {x : Except ε α} {b : β} :
    x.map f = .ok b ↔ ∃ a, x = .ok a ∧ f a = b := by
  rcases x with e | a
  · simp [Except.map]
  · simp [Except.map]

/-- Mapping results does not touch a failure. -/
theorem map_eq_error_iff {f : α → β} {x : Except ε α} {e : ε} :
    x.map f = .error e ↔ x = .error e := by
  rcases x with e' | a
  · simp [Except.map]
  · simp [Except.map]

/-- A list is gone through if each of its items gives something. -/
theorem mapM_eq_ok_iff {f : α → Except ε β} {xs : List α} {ys : List β} :
    xs.mapM f = .ok ys ↔ List.Forall₂ (fun x y ↦ f x = .ok y) xs ys := by
  induction xs generalizing ys with
  | nil =>
    rw [List.forall₂_nil_left_iff]
    exact ⟨fun h ↦ (Except.ok.inj h).symm, fun h ↦ h ▸ rfl⟩
  | cons x xs ih =>
    rw [List.mapM_cons, bind_eq_ok_iff, List.forall₂_cons_left_iff]
    constructor
    · rintro ⟨y, hy, h⟩
      obtain ⟨rest, hrest, hpure⟩ := bind_eq_ok_iff.1 h
      exact ⟨y, rest, hy, ih.1 hrest, (Except.ok.inj hpure).symm⟩
    · rintro ⟨y, rest, hy, hrest, rfl⟩
      exact ⟨y, hy, bind_eq_ok_iff.2 ⟨rest, ih.2 hrest, rfl⟩⟩

/-- If every element is needed, each has a result. -/
theorem exists_eq_ok_of_mapM_eq_ok {f : α → Except ε β} {xs : List α} {ys : List β} {x : α}
    (h : xs.mapM f = .ok ys) (hx : x ∈ xs) : ∃ y, f x = .ok y := by
  rw [mapM_eq_ok_iff] at h
  induction h with
  | nil => cases hx
  | cons hy _ ih =>
    rcases List.mem_cons.1 hx with rfl | hx
    · exact ⟨_, hy⟩
    · exact ih hx

/-- Where a list cannot be gone through, one of its items is to blame. -/
theorem exists_mem_of_mapM_eq_error {f : α → Except ε β} {xs : List α} {e : ε}
    (h : xs.mapM f = .error e) : ∃ x ∈ xs, f x = .error e := by
  induction xs with
  | nil => cases h
  | cons x xs ih =>
    rw [List.mapM_cons] at h
    rcases bind_eq_error_iff.1 h with hx | ⟨_, -, h⟩
    · exact ⟨x, List.mem_cons_self, hx⟩
    rcases bind_eq_error_iff.1 h with hrest | ⟨_, -, hpure⟩
    · obtain ⟨y, hy, hfails⟩ := ih hrest
      exact ⟨y, List.mem_cons_of_mem x hy, hfails⟩
    · cases hpure

/-- The first fault of a list, or else the result. -/
def firstFault (faults : List ε) (a : α) : Except ε α :=
  match faults with
  | [] => .ok a
  | e :: _ => .error e

@[simp]
theorem firstFault_nil (a : α) : firstFault ([] : List ε) a = .ok a :=
  rfl

@[simp]
theorem firstFault_cons (e : ε) (es : List ε) (a : α) : firstFault (e :: es) a = .error e :=
  rfl

theorem firstFault_eq_ok_iff {faults : List ε} {a b : α} :
    firstFault faults a = .ok b ↔ faults = [] ∧ a = b := by
  cases faults <;> simp

/-- The failure is the first of the faults. -/
theorem firstFault_eq_error_iff {faults : List ε} {a : α} {e : ε} :
    firstFault faults a = .error e ↔ faults.head? = some e := by
  cases faults <;> simp

/-- The faults of a first part come before those of what follows it. -/
theorem firstFault_bind {xs ys : List ε} {a : α} {b : β} {f : α → Except ε β}
    (h : f a = firstFault ys b) : (firstFault xs a >>= f) = firstFault (xs ++ ys) b := by
  cases xs with
  | nil => exact h
  | cons e es => rfl

/-- A result may be changed without new faults. -/
theorem firstFault_bind_pure (xs : List ε) (a : α) (f : α → β) :
    (firstFault xs a >>= fun a ↦ pure (f a)) = firstFault xs (f a) := by
  cases xs <;> rfl

end CrateDoc
