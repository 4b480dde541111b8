import CrateDoc.Definition

/-!
# Equality of ids

Ids are compared by their normal forms: `==` on `DefId` holds exactly when the keys are equal
(`beq_iff_key_eq`), so it is an equivalence, and a list of ids can be searched and counted
through the list of its keys (`contains_iff_key_mem`, `pairwise_beq_eq_false_iff`).
-/

namespace CrateDoc.DefId

mutual

/-- Ids that are spelled alike are the same. -/
theorem eq_of_alike : ∀ {a b : DefId}, alike a b = true → a = b
  | .null, .null, _ => rfl
  | .bool _, .bool _, h => by simpa [alike] using h
  | .int _, .int _, h => by simpa [alike] using h
  | .float _, .float _, h => by simpa [alike] using h
  | .text _, .text _, h => by simpa [alike] using h
  | .tuple _, .tuple _, h => by rw [alike] at h; rw [eq_of_allAlike h]

/-- Lists of ids that are spelled alike are the same. -/
theorem eq_of_allAlike : ∀ {as bs : List DefId}, allAlike as bs = true → as = bs
  | [], [], _ => rfl
  | a :: as, b :: bs, h => by
    rw [allAlike, Bool.and_eq_true] at h
    rw [eq_of_alike h.1, eq_of_allAlike h.2]

end

mutual

theorem alike_self : ∀ a : DefId, alike a a = true
  | .null => rfl
  | .bool _ | .int _ | .float _ | .text _ => by simp [alike]
  | .tuple items => by rw [alike]; exact allAlike_self items

theorem allAlike_self : ∀ as : List DefId, allAlike as as = true
  | [] => rfl
  | a :: as => by rw [allAlike, alike_self a, allAlike_self as]; rfl

end

/-- Ids are equal exactly when their normal forms are. -/
theorem beq_iff_key_eq {a b : DefId} : (a == b) = true ↔ a.key = b.key := by
  show alike a.key b.key = true ↔ a.key = b.key
  constructor
  · exact eq_of_alike
  · intro h
    rw [h]
    exact alike_self _

instance : EquivBEq DefId where
  rfl := beq_iff_key_eq.2 rfl
  symm h := beq_iff_key_eq.2 (beq_iff_key_eq.1 h).symm
  trans h k := beq_iff_key_eq.2 ((beq_iff_key_eq.1 h).trans (beq_iff_key_eq.1 k))

theorem beq_eq_false_iff {a b : DefId} : (a == b) = false ↔ a.key ≠ b.key := by
  rw [← Bool.not_eq_true, beq_iff_key_eq]

/-- A list holds an id when it holds one of its normal form. -/
theorem contains_iff_key_mem {ids : List DefId} {id : DefId} :
    ids.contains id = true ↔ id.key ∈ ids.map key := by
  rw [List.contains_iff_exists_mem_beq, List.mem_map]
  constructor
  · rintro ⟨a, ha, h⟩
    exact ⟨a, ha, (beq_iff_key_eq.1 h).symm⟩
  · rintro ⟨a, ha, h⟩
    exact ⟨a, ha, beq_iff_key_eq.2 h.symm⟩

/-- Ids are different when their normal forms are. -/
theorem pairwise_beq_eq_false_iff {ids : List DefId} :
    ids.Pairwise (fun a b ↦ (a == b) = false) ↔ (ids.map key).Nodup := by
  simp only [List.Nodup, List.pairwise_map, beq_eq_false_iff, ne_eq]

end CrateDoc.DefId
