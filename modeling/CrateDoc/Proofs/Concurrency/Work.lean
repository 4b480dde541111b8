import CrateDoc.Analysis.Snapshot
import CrateDoc.Proofs.Entries
import CrateDoc.Proofs.Identity

/-!
# Work on a shared cache

Threads that ask one source of snapshots for definitions share its cache. What a thread does is
`Work`: a program whose effects are single accesses of the cache, so that other threads may come in
between any two of them. `SnapshotSource.shared` gives the source as such work: a look-up reads the
cache, and if nothing is found there it makes the definition and writes it down in a second access.
Without interruption that is what `SnapshotSource.definition` does (`run_definition`).

Rely and guarantee: a cache is `Coherent` if it holds no other definitions than the source without a
cache would give, and `Work.Ends` says that work which finds coherent answers writes coherent ones
and ends as desired. So it ends as desired whatever other threads write (`Work.Ends.step`).

An id has several spellings, and a cache keeps the one that came first. Definitions and errors are
therefore compared with their ids in normal form (`Definition.key`, `inKeys`).
-/

namespace CrateDoc

/-- What a thread does: single accesses of a cache of definitions, up to a result. -/
inductive Work (α : Type) : Type
  | done (a : α)
  /-- Looks an id up in the cache. -/
  | look (id : DefId) (next : Option Definition → Work α)
  /-- Writes a definition into the cache. -/
  | keep (id : DefId) (d : Definition) (next : Work α)

namespace Work

variable {α β : Type}

/-- Goes on with the result of some work. -/
def bind : Work α → (α → Work β) → Work β
  | done a, f => f a
  | look id next, f => look id fun found ↦ (next found).bind f
  | keep id d next, f => keep id d (next.bind f)

instance : Monad Work where
  pure := done
  bind := bind

/-- Work goes on with nothing. -/
theorem bind_done (w : Work α) : w.bind done = w := by
  induction w with
  | done a => rfl
  | look id next ih => exact congrArg (look id) (funext ih)
  | keep id d next ih => exact congrArg (keep id d) ih

/-- Work in three parts may be grouped either way. -/
theorem bind_assoc {γ : Type} (w : Work α) (f : α → Work β) (g : β → Work γ) :
    (w.bind f).bind g = w.bind fun a ↦ (f a).bind g := by
  induction w with
  | done a => rfl
  | look id next ih => exact congrArg (look id) (funext ih)
  | keep id d next ih => exact congrArg (keep id d) ih

instance : LawfulMonad Work := LawfulMonad.mk' Work
  (fun w ↦ bind_done w) (fun _ _ ↦ rfl) (fun w f g ↦ bind_assoc w f g)

/-- The next access of some work, if it is not done: the cache after it, and the work left. -/
def step (cache : Entries DefId Definition) : Work α → Option (Entries DefId Definition × Work α)
  | done _ => none
  | look id next => some (cache, next (Entries.get? id cache))
  | keep id d next => some (Entries.put id d cache, next)

/-- Work without interruption: its result, and the cache after it. -/
def run (cache : Entries DefId Definition) : Work α → α × Entries DefId Definition
  | done a => (a, cache)
  | look id next => (next (Entries.get? id cache)).run cache
  | keep id d next => next.run (Entries.put id d cache)

/-- Whether there is nothing left to do. -/
def isDone : Work α → Bool
  | done _ => true
  | _ => false

/-- What may be left of some work after one access, whatever was found. -/
inductive Later : Work α → Work α → Prop
  | look (id : DefId) (next : Option Definition → Work α) (found : Option Definition) :
      Later (next found) (look id next)
  | keep (id : DefId) (d : Definition) (next : Work α) : Later next (keep id d next)

/-- A step leaves work that comes later. -/
theorem later_of_step {cache cache' : Entries DefId Definition} {w w' : Work α}
    (h : w.step cache = some (cache', w')) : Later w' w := by
  cases w with
  | done a => cases h
  | look id next =>
    obtain ⟨-, rfl⟩ : cache = cache' ∧ next (Entries.get? id cache) = w' := by simpa [step] using h
    exact .look id next _
  | keep id d next =>
    obtain ⟨-, rfl⟩ : Entries.put id d cache = cache' ∧ next = w' := by simpa [step] using h
    exact .keep id d next

/-- Some work on a list has gone one access further, the rest has not. -/
inductive LaterAmong {ι : Type} : List (ι × Work α) → List (ι × Work α) → Prop
  | head {i : ι} {w w' : Work α} (rest : List (ι × Work α)) (h : Later w' w) :
      LaterAmong ((i, w') :: rest) ((i, w) :: rest)
  | tail (first : ι × Work α) {rest rest' : List (ι × Work α)} (h : LaterAmong rest' rest) :
      LaterAmong (first :: rest') (first :: rest)

/-- Work on one item that comes later leaves the work on all items later. -/
theorem laterAmong_append {ι : Type} (before after : List (ι × Work α)) (i : ι) {w w' : Work α}
    (h : Later w' w) : LaterAmong (before ++ (i, w') :: after) (before ++ (i, w) :: after) := by
  induction before with
  | nil => exact .head after h
  | cons first before ih => exact .tail first ih

/-- However the accesses of several threads alternate, there are finitely many. -/
theorem acc_laterAmong {ι : Type} (ws : List (ι × Work α)) : Acc LaterAmong ws := by
  induction ws with
  | nil => exact ⟨_, nofun⟩
  | cons first rest ih =>
    obtain ⟨i, w⟩ := first
    -- The first of the list goes on, or the rest of it does: an induction inside of another.
    induction w generalizing rest with
    | done a =>
      induction ih with
      | intro rest _ ihRest =>
        refine ⟨_, fun ws h ↦ ?_⟩
        cases h with
        | head _ h => cases h
        | tail _ h => exact ihRest _ h
    | look id next ihNext =>
      induction ih with
      | intro rest hrest ihRest =>
        refine ⟨_, fun ws h ↦ ?_⟩
        cases h with
        | head _ h =>
          cases h with
          | look _ _ found => exact ihNext found rest ⟨rest, hrest⟩
        | tail _ h => exact ihRest _ h
    | keep id d next ihNext =>
      induction ih with
      | intro rest hrest ihRest =>
        refine ⟨_, fun ws h ↦ ?_⟩
        cases h with
        | head _ h =>
          cases h with
          | keep => exact ihNext rest ⟨rest, hrest⟩
        | tail _ h => exact ihRest _ h

end Work

/-! ### Ids in normal form -/

/-- A definition with its id in normal form. -/
def Definition.key (d : Definition) : Definition := { d with id := d.id.key }

/-- An error with its id in normal form. -/
def AnalysisError.key : AnalysisError → AnalysisError
  | .unknownId id => .unknownId id.key
  | .unsupportedKind id kind => .unsupportedKind id.key kind
  | .noQualifiedName id => .noQualifiedName id.key
  | e => e

/-- A result, as far as it does not depend on how ids are spelled: what `f` sees of it, or else its
error with the id in normal form. -/
def inKeys {ε α β : Type} (key : ε → ε) (f : α → β) (r : Except ε α) : Except ε β :=
  (r.map f).mapError key

section

variable {ε α β : Type} {key : ε → ε} {f : α → β}

@[simp]
theorem inKeys_ok (a : α) : inKeys key f (.ok a) = .ok (f a) := rfl

@[simp]
theorem inKeys_error (e : ε) : inKeys key f (.error e) = .error (key e) := rfl

theorem inKeys_fun_self (r : Except ε α) : inKeys key (fun a ↦ a) r = r.mapError key := by
  cases r <;> rfl

theorem inKeys_eq_ok_iff {r : Except ε α} {b : β} :
    inKeys key f r = .ok b ↔ ∃ a, r = .ok a ∧ f a = b := by
  cases r <;> simp

theorem inKeys_eq_error_iff {r : Except ε α} {e : ε} :
    inKeys key f r = .error e ↔ ∃ e', r = .error e' ∧ key e' = e := by
  cases r <;> simp

end

namespace SnapshotSource

/-- The crate of an id does not depend on how the id is spelled. -/
theorem crateOf_key (id : DefId) : crateOf id.key = crateOf id := by
  rcases id with - | b | n | x | s | items
  · rfl
  · rfl
  · rfl
  · rw [DefId.key]
    split <;> rfl
  · rfl
  · rcases items with - | ⟨first, rest⟩
    · rfl
    · rw [DefId.key, DefId.keys]
      rcases first with - | b | n | x | s | items
      · rfl
      · rfl
      · rfl
      · rw [DefId.key]
        split <;> rfl
      · rfl
      · rfl

theorem crateOf_congr {id id' : DefId} (h : id.key = id'.key) : crateOf id = crateOf id' := by
  rw [← crateOf_key id, h, crateOf_key]

/-! ### Sources with and without a cache -/

/-- The source without its cache. -/
def uncached (source : SnapshotSource) : AnalysisSource Id where
  resolveRoot name := match Entries.get? name source.roots with
    | some id => .ok id
    | none => .error (.crateNotFound name)
  definition id := match Entries.get? id source.records with
    | some fields => lower id fields
    | none => .error (.unknownId id)
  childrenOf id := match Entries.get? id source.records with
    | some fields => .ok ((itemsOf ((Json.Value.object fields).field? "children")).filterMap
        (localId? (crateOf id)))
    | none => .error (.unknownId id)

/-- The source as threads share it. The records do not change, so only the cache is accessed. -/
def shared (source : SnapshotSource) : AnalysisSource Work where
  resolveRoot name := .done (source.uncached.resolveRoot name)
  definition id := .look id fun
    | some d => .done (.ok d)
    | none => match source.uncached.definition id with
      | .ok d => .keep id d (.done (.ok d))
      | .error e => .done (.error e)
  childrenOf id := .done (source.uncached.childrenOf id)

variable {source : SnapshotSource} {id id' : DefId}

@[simp]
theorem resolveRoot_toSource : toSource.resolveRoot = resolveRoot := rfl

@[simp]
theorem definition_toSource : toSource.definition = definition := rfl

@[simp]
theorem childrenOf_toSource : toSource.childrenOf = childrenOf := rfl

/-- A root is looked up without the cache. -/
theorem run_resolveRoot (source : SnapshotSource) (name : String) :
    (resolveRoot name).run source = (source.uncached.resolveRoot name, source) := by
  simp only [resolveRoot, StateT.run_bind, StateT.run_get, pure_bind, uncached]
  rcases Entries.get? name source.roots with - | id
  · rfl
  · rfl

theorem run_childrenOf (source : SnapshotSource) (id : DefId) :
    (childrenOf id).run source = (source.uncached.childrenOf id, source) := by
  simp only [childrenOf, StateT.run_bind, StateT.run_get, pure_bind, uncached]
  rcases Entries.get? id source.records with - | fields
  · rfl
  · rfl

/-- A look-up that is not interrupted is a look-up of the source. -/
theorem run_definition (source : SnapshotSource) (id : DefId) :
    (definition id).run source =
      (((source.shared.definition id).run source.cache).1,
        { source with cache := ((source.shared.definition id).run source.cache).2 }) := by
  simp only [definition, StateT.run_bind, StateT.run_get, pure_bind, shared, uncached, Work.run]
  rcases Entries.get? id source.cache with - | d
  · rcases Entries.get? id source.records with - | fields
    · rfl
    · dsimp only
      rcases lower id fields with e | d
      · rfl
      · rfl
  · rfl

/-- Making a definition of a record under another spelling of its id changes the spelling only. -/
theorem lower_congr (h : id.key = id'.key) (fields : List (String × Json.Value)) :
    inKeys AnalysisError.key Definition.key (lower id fields) =
      inKeys AnalysisError.key Definition.key (lower id' fields) := by
  simp only [lower, crateOf_congr h]
  split
  · simp only [inKeys_error, AnalysisError.key, h]
  · split
    · simp only [inKeys_error, AnalysisError.key, h]
    · simp only [inKeys_ok, Definition.key, h]

theorem get?_congr {ν : Type} (h : id.key = id'.key) (entries : Entries DefId ν) :
    Entries.get? id entries = Entries.get? id' entries :=
  Entries.get?_of_beq (DefId.beq_iff_key_eq.2 h) entries

theorem definition_congr (source : SnapshotSource) (h : id.key = id'.key) :
    inKeys AnalysisError.key Definition.key (source.uncached.definition id) =
      inKeys AnalysisError.key Definition.key (source.uncached.definition id') := by
  simp only [uncached, get?_congr h]
  split
  · exact lower_congr h _
  · simp only [inKeys_error, AnalysisError.key, h]

theorem childrenOf_congr (source : SnapshotSource) (h : id.key = id'.key) :
    inKeys AnalysisError.key (List.map DefId.key) (source.uncached.childrenOf id) =
      inKeys AnalysisError.key (List.map DefId.key) (source.uncached.childrenOf id') := by
  simp only [uncached, get?_congr h, crateOf_congr h]
  split
  · rfl
  · simp only [inKeys_error, AnalysisError.key, h]

/-! ### Rely and guarantee -/

/-- A definition is the one that the source without a cache gives for an id, up to the spelling of
its id. -/
def Fits (source : SnapshotSource) (id : DefId) (d : Definition) : Prop :=
  inKeys AnalysisError.key Definition.key (source.uncached.definition id) = .ok d.key

/-- A cache holds definitions of the source only. -/
def Coherent (source : SnapshotSource) (cache : Entries DefId Definition) : Prop :=
  ∀ id d, Entries.get? id cache = some d → source.Fits id d

theorem coherent_nil (source : SnapshotSource) : source.Coherent [] := nofun

/-- A cache stays coherent if a definition is put where it fits. -/
theorem Coherent.put {cache : Entries DefId Definition} {d : Definition}
    (h : source.Coherent cache) (hd : source.Fits id d) :
    source.Coherent (Entries.put id d cache) := by
  intro other found hfound
  rcases Entries.get?_put_eq_some hfound with ⟨hother, rfl⟩ | hfound
  · exact (definition_congr source (DefId.beq_iff_key_eq.1 hother)).symm.trans hd
  · exact h other found hfound

end SnapshotSource

namespace Work

open SnapshotSource

variable {α β : Type} {source : SnapshotSource}

/-- Work that finds definitions of the source writes definitions of the source, and ends with a
result as desired. -/
def Ends (source : SnapshotSource) (desired : α → Prop) : Work α → Prop
  | done a => desired a
  | look id next => ∀ found : Option Definition, (∀ d ∈ found, source.Fits id d) →
      (next found).Ends source desired
  | keep id d next => source.Fits id d ∧ next.Ends source desired

theorem Ends.mono {desired desired' : α → Prop} {w : Work α} (h : w.Ends source desired)
    (himp : ∀ a, desired a → desired' a) : w.Ends source desired' := by
  induction w with
  | done a => exact himp a h
  | look id next ih => exact fun found hfound ↦ ih found (h found hfound)
  | keep id d next ih => exact ⟨h.1, ih h.2⟩

theorem Ends.bind {desired : α → Prop} {desired' : β → Prop} {w : Work α} {f : α → Work β}
    (h : w.Ends source desired) (hf : ∀ a, desired a → (f a).Ends source desired') :
    (w >>= f).Ends source desired' := by
  show (w.bind f).Ends source desired'
  induction w with
  | done a => exact hf a h
  | look id next ih => exact fun found hfound ↦ ih found (h found hfound)
  | keep id d next ih => exact ⟨h.1, ih h.2⟩

/-- One access on a coherent cache leaves a coherent cache, and work that ends as desired. -/
theorem Ends.step {desired : α → Prop} {w w' : Work α} {cache cache' : Entries DefId Definition}
    (h : w.Ends source desired) (hcache : source.Coherent cache)
    (hstep : w.step cache = some (cache', w')) :
    source.Coherent cache' ∧ w'.Ends source desired := by
  cases w with
  | done a => cases hstep
  | look id next =>
    cases hstep
    exact ⟨hcache, h _ fun d hd ↦ hcache id d hd⟩
  | keep id d next =>
    cases hstep
    exact ⟨hcache.put h.1, h.2⟩

/-- Work without interruption ends as desired and leaves a coherent cache. -/
theorem Ends.run {desired : α → Prop} {w : Work α} {cache : Entries DefId Definition}
    (h : w.Ends source desired) (hcache : source.Coherent cache) :
    desired (w.run cache).1 ∧ source.Coherent (w.run cache).2 := by
  induction w generalizing cache with
  | done a => exact ⟨h, hcache⟩
  | look id next ih => exact ih _ (h _ fun d hd ↦ hcache id d hd) hcache
  | keep id d next ih => exact ih h.2 (hcache.put h.1)

/-- A look-up ends with what the source without a cache gives. -/
theorem ends_definition (source : SnapshotSource) (id : DefId) :
    (source.shared.definition id).Ends source fun r ↦
      inKeys AnalysisError.key Definition.key r =
        inKeys AnalysisError.key Definition.key (source.uncached.definition id) := by
  intro found hfound
  rcases found with - | d
  · dsimp only
    rcases hd : source.uncached.definition id with e | d
    · rfl
    · have hfits : source.Fits id d := by
        rw [SnapshotSource.Fits, hd]
        rfl
      exact ⟨hfits, rfl⟩
  · exact (hfound d rfl).symm

end Work

end CrateDoc
