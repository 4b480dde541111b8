import CrateDoc.Proofs.Analysis.Isolation
import Mathlib.Data.List.Induction

/-!
# What a source remembers

Snapshots may be loaded before and after a source is asked for definitions and children, in any
order (`Call`). A source says of an id what its record says (`Current`), or what an earlier record
of the id said: a definition that was found once is remembered, and a snapshot that is loaded later
may put another record in the place of the one it was made of, while children are always read off
the record that is there.

One call keeps a source current, unless it brings a record of an id that the source remembers
(`Current.after`). What it remembers can be read off the calls (`get?_cache_afterAll_iff`): for an
id it is what the look-ups of that id have found (`Found`). So a source is current exactly if the
record that it holds makes what was found (`current_iff_found_fits`), and it is as long as no
snapshot brings a record of an id that was found before (`Reloads`). Otherwise it need not be
(`not_current`).
-/

namespace CrateDoc.SnapshotSource

open CrateDoc.Json

/-- A call of a source. -/
inductive Call
  | add (payload : Value)
  | definition (id : DefId)
  | children (id : DefId)

/-- The source after a call; a snapshot that is refused leaves it as it is. -/
def Call.after (source : SnapshotSource) : Call → SnapshotSource
  | add payload => (source.addSnapshot payload).toOption.getD source
  | definition id => ((SnapshotSource.definition id).run source).2
  | children id => ((childrenOf id).run source).2

/-- The source after calls, from the first to the last. -/
def afterAll (calls : List Call) : SnapshotSource := calls.foldl Call.after {}

/-- What a source says of an id is what the record of the id says: a look-up gives what is made of
the record, up to the spelling of the id, and the children are those that it lists. Without a record
both are unknown. -/
def Current (source : SnapshotSource) (id : DefId) : Prop :=
  match Entries.get? id source.records with
  | some fields =>
    inKeys AnalysisError.key Definition.key ((definition id).run source).1 =
        inKeys AnalysisError.key Definition.key (lower id fields) ∧
      ((childrenOf id).run source).1 = .ok (childrenIn id fields)
  | none =>
    ((definition id).run source).1 = .error (.unknownId id) ∧
      ((childrenOf id).run source).1 = .error (.unknownId id)

/-- One of some calls looked an id up and found a definition. -/
def Found (calls : List Call) (id : DefId) (d : Definition) : Prop :=
  ∃ before asked rest, calls = before ++ .definition asked :: rest ∧ (asked == id) = true ∧
    ((definition asked).run (afterAll before)).1 = .ok d

/-- One of some calls brings a snapshot with a record of an id for which a definition was found
before. -/
def Reloads (calls : List Call) (id : DefId) : Prop :=
  ∃ before payload rest d, calls = before ++ .add payload :: rest ∧ Found before id d ∧
    ∃ record ∈ localRecords payload, (record.1 == id) = true

/-! ### One call -/

variable {source : SnapshotSource} {payload : Value} {id : DefId} {d : Definition} {call : Call}
  {calls : List Call}

/-- A snapshot leaves what is remembered. -/
theorem cache_after_add (source : SnapshotSource) (payload : Value) :
    (Call.after source (.add payload)).cache = source.cache := by
  rw [Call.after]
  rcases hadd : source.addSnapshot payload with e | next
  · rfl
  · exact (addSnapshot_eq hadd).1

/-- A snapshot leaves the record of an id if it has none of that id. -/
theorem get?_records_after_add (source : SnapshotSource)
    (h : ∀ record ∈ localRecords payload, (record.1 == id) = false) :
    Entries.get? id (Call.after source (.add payload)).records =
      Entries.get? id source.records := by
  rw [Call.after]
  rcases hadd : source.addSnapshot payload with e | next
  · rfl
  · show Entries.get? id next.records = _
    rw [(addSnapshot_eq hadd).2.1, Entries.get?_foldl_put_of_ne _ h]

/-- Asking changes no record. -/
theorem records_run_definition (source : SnapshotSource) (id : DefId) :
    ((definition id).run source).2.records = source.records := by
  rcases run_definition_cases source id with ⟨e, h⟩ | ⟨d, -, h⟩ | ⟨fields, d, -, -, -, h⟩
  all_goals rw [h]

/-- What was found is remembered, and nothing else is. -/
theorem get?_cache_after_iff :
    Entries.get? id (call.after source).cache = some d ↔ Entries.get? id source.cache = some d ∨
      ∃ asked, call = .definition asked ∧ (asked == id) = true ∧
        ((definition asked).run source).1 = .ok d := by
  cases call with
  | add payload => simp [cache_after_add]
  | children other => simp [Call.after, run_childrenOf]
  | definition asked =>
    simp only [Call.after, Call.definition.injEq, exists_eq_left']
    rcases run_definition_cases source asked with
      ⟨e, hrun⟩ | ⟨d', hcache, hrun⟩ | ⟨fields, d', hcache, -, -, hrun⟩
    · simp [hrun]
    -- What is found was remembered before.
    · rw [hrun, Except.ok.injEq]
      refine (or_iff_left_of_imp ?_).symm
      rintro ⟨hid, rfl⟩
      rw [← Entries.get?_of_beq hid, hcache]
    -- What is found was not, and is remembered from now on.
    · rw [hrun, Except.ok.injEq]
      rcases hid : asked == id with - | -
      · rw [Entries.get?_put_of_ne _ _ hid]
        simp
      · rw [Entries.get?_put_of_beq _ _ hid, ← Entries.get?_of_beq hid, hcache]
        simp

/-- A look-up gives what is remembered, or else what the source without its cache gives. -/
theorem fst_run_definition (source : SnapshotSource) (id : DefId) :
    ((definition id).run source).1 =
      (Entries.get? id source.cache).elim (source.uncached.definition id) .ok := by
  rw [run_definition_eq]
  rcases Entries.get? id source.cache with - | d
  · rcases hmade : source.uncached.definition id with e | d
    · rfl
    · rfl
  · rfl

/-- A source is current if what it remembers is made of the record that it holds. -/
theorem current_iff :
    source.Current id ↔ ∀ d, Entries.get? id source.cache = some d → source.Fits id d := by
  rw [Current, fst_run_definition, run_childrenOf]
  simp only [Fits, uncached, childrenIn]
  rcases Entries.get? id source.records with - | fields
  · rcases Entries.get? id source.cache with - | d
    · simp
    · simp
  · rcases Entries.get? id source.cache with - | d
    · simp
    · simp [eq_comm]

/-- A definition is made of the record of its id, whatever else the source holds. -/
theorem Fits.of_get?_eq {source' : SnapshotSource} (h : source.Fits id d)
    (heq : Entries.get? id source'.records = Entries.get? id source.records) :
    source'.Fits id d := by
  simp only [Fits, uncached] at h ⊢
  rwa [heq]

/-- What a current source finds is made of the record that it holds. -/
theorem Current.fits {asked : DefId} (h : source.Current id) (hid : (asked == id) = true)
    (hrun : ((definition asked).run source).1 = .ok d) : source.Fits id d := by
  rw [fst_run_definition, Entries.get?_of_beq hid] at hrun
  rcases hcache : Entries.get? id source.cache with - | d'
  · rw [hcache, Option.elim_none] at hrun
    rw [Fits, ← definition_congr source (DefId.beq_iff_key_eq.1 hid), hrun, inKeys_ok]
  · rw [hcache, Option.elim_some, Except.ok.injEq] at hrun
    exact current_iff.1 h d (hrun ▸ hcache)

/-- A source stays current, unless a snapshot brings a record of an id that it remembers. -/
theorem Current.after (h : source.Current id)
    (hcall : ∀ payload d, call = .add payload → Entries.get? id source.cache = some d →
      ∀ record ∈ localRecords payload, (record.1 == id) = false) :
    (call.after source).Current id := by
  rw [current_iff]
  intro d hd
  rcases get?_cache_after_iff.1 hd with hold | ⟨asked, rfl, hid, hrun⟩
  · refine (current_iff.1 h d hold).of_get?_eq ?_
    cases call with
    | add payload => exact get?_records_after_add source (hcall payload d rfl hold)
    | definition asked => rw [Call.after, records_run_definition]
    | children other => rw [Call.after, run_childrenOf]
  · refine (h.fits hid hrun).of_get?_eq ?_
    rw [Call.after, records_run_definition]

/-! ### Many calls -/

theorem afterAll_concat (calls : List Call) (call : Call) :
    afterAll (calls ++ [call]) = call.after (afterAll calls) := by
  rw [afterAll, List.foldl_append]
  rfl

theorem found_concat_iff :
    Found (calls ++ [call]) id d ↔ Found calls id d ∨
      ∃ asked, call = .definition asked ∧ (asked == id) = true ∧
        ((definition asked).run (afterAll calls)).1 = .ok d := by
  constructor
  · rintro ⟨before, asked, rest, hcalls, hid, hfound⟩
    rcases List.eq_nil_or_concat rest with rfl | ⟨rest, last, rfl⟩
    · obtain ⟨rfl, hcall⟩ := List.append_inj' hcalls rfl
      exact .inr ⟨asked, List.singleton_inj.1 hcall, hid, hfound⟩
    · rw [List.concat_eq_append, ← List.cons_append, ← List.append_assoc] at hcalls
      exact .inl ⟨before, asked, rest, (List.append_inj' hcalls rfl).1, hid, hfound⟩
  · rintro (⟨before, asked, rest, rfl, hid, hfound⟩ | ⟨asked, rfl, hid, hfound⟩)
    · exact ⟨before, asked, rest ++ [call], by simp, hid, hfound⟩
    · exact ⟨calls, asked, [], rfl, hid, hfound⟩

theorem Reloads.concat (h : Reloads calls id) (call : Call) : Reloads (calls ++ [call]) id := by
  obtain ⟨before, payload, rest, d, rfl, hfound, hrecord⟩ := h
  exact ⟨before, payload, rest ++ [call], d, by simp, hfound, hrecord⟩

/-- The cache holds for an id what the look-ups of that id have found. -/
theorem get?_cache_afterAll_iff :
    Entries.get? id (afterAll calls).cache = some d ↔ Found calls id d := by
  induction calls using List.reverseRecOn with
  | nil => simp [afterAll, Found]
  | append_singleton calls call ih =>
    rw [afterAll_concat, get?_cache_after_iff, found_concat_iff, ih]

/-- A source is current, unless a snapshot has brought a record of an id that was found before. -/
theorem current_of_not_reloads (h : ¬ Reloads calls id) : (afterAll calls).Current id := by
  induction calls using List.reverseRecOn with
  | nil => exact current_iff.2 nofun
  | append_singleton calls call ih =>
    rw [afterAll_concat]
    refine (ih fun hreloads ↦ h (hreloads.concat call)).after ?_
    rintro payload d rfl hcache record hrecord
    rw [← Bool.not_eq_true]
    have hfound : Found calls id d := get?_cache_afterAll_iff.1 hcache
    exact fun hid ↦ h ⟨calls, payload, [], d, rfl, hfound, record, hrecord, hid⟩

/-- **A source is current exactly if the record that it holds makes what was found.** In whatever
order snapshots are loaded and definitions and children are asked for, a source says of an id what
the record of the id says exactly if all look-ups of the id that found a definition have found the
one that is made of this record. What was found once is found ever after, so a source can only fail
to be current because a snapshot has brought a record of an id that was found before. -/
theorem current_iff_found_fits (calls : List Call) (id : DefId) :
    ((afterAll calls).Current id ↔ ∀ d, Found calls id d → (afterAll calls).Fits id d) ∧
      (∀ d, Found calls id d → ((definition id).run (afterAll calls)).1 = .ok d) ∧
      ((afterAll calls).Current id ∨ Reloads calls id) := by
  refine ⟨?_, fun d hfound ↦ ?_, or_iff_not_imp_right.2 current_of_not_reloads⟩
  · simp only [current_iff, get?_cache_afterAll_iff]
  · rw [fst_run_definition, get?_cache_afterAll_iff.2 hfound, Option.elim_some]

/-! ### A crate that is loaded again -/

/-- The snapshots of a library and of a program, with a look-up between them. -/
def interruptedCalls (program : String) : List Call :=
  [.add (sampleSnapshot "c" [sampleRecord 1 "Struct" "Widget" []]),
    .definition (.tuple [.text "c", .int 1]),
    .add (sampleSnapshot program [sampleRecord 1 "Function" "main" [2]])]

/-- Under two names the source stays current, and goes on to give what it has found. -/
theorem current_interruptedCalls :
    ∃ d, Found (interruptedCalls "d") (.tuple [.text "c", .int 1]) d ∧ d.kind = .struct ∧
      (afterAll (interruptedCalls "d")).Current (.tuple [.text "c", .int 1]) := by
  obtain ⟨hiff, hfound, -⟩ :=
    current_iff_found_fits (interruptedCalls "d") (.tuple [.text "c", .int 1])
  refine ⟨_, ⟨_, _, _, (List.singleton_append).symm, rfl, rfl⟩, rfl, hiff.2 fun d hd ↦ ?_⟩
  cases hfound d hd
  rfl

/-- Under one name the source goes on to give the structure, although the function has taken its
place and a definition can be made of it. -/
theorem not_current :
    ¬ ∀ (calls : List Call) (id : DefId), (afterAll calls).Current id ∨
      ∃ fields e, Entries.get? id (afterAll calls).records = some fields ∧
        lower id fields = .error e := by
  intro h
  rcases h (interruptedCalls "c") (.tuple [.text "c", .int 1]) with
    hcurrent | ⟨fields, e, hfields, hlower⟩
  · have hkind := congrArg (fun r ↦ (Except.toOption r).map Definition.kind) hcurrent.1
    revert hkind
    decide
  · cases hfields
    cases hlower

end CrateDoc.SnapshotSource
