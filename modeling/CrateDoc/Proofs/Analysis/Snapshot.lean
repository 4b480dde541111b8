import CrateDoc.Analysis.Snapshot
import CrateDoc.Proofs.Entries
import CrateDoc.Proofs.FirstFault
import CrateDoc.Proofs.Identity

/-!
# What snapshots leave in a source

Snapshots that are loaded one after the other put their local records into one table. Ids are made
of the name of a crate and a number, so snapshots of one name share them, as those of a library and
of a program of one package do. Nothing is said when an id comes again: the later record takes the
place of the earlier one.

* `records_of_load`, `roots_of_load`: the records of a source are those of its snapshots, in order,
  and so are the roots.
* `reads_last`, `reads_iff_last_says_the_same`: what is read under an id is the last record of it.
* `reads_every_record`: no record is lost if no two ids are equal.
* `not_reads_every_record`: otherwise one can be.

A look-up makes a definition of a record and remembers it (`run_definition_cases`).
-/

namespace CrateDoc.SnapshotSource

open CrateDoc.Json

/-- The fields of a record. -/
abbrev Fields := List (String × Value)

/-- An entry of a snapshot of a crate, with its id, if it is a local record that has one. -/
def localRecord? (crate : String) : Value → Option (DefId × Fields)
  | .object fields => (((Value.object fields).field? "id").bind (localId? crate)).map (·, fields)
  | _ => none

/-- The local records of a snapshot. -/
def localRecords (payload : Value) : List (DefId × Fields) :=
  match crateName? payload with
  | some crate => (itemsOf (payload.field? "defs")).filterMap (localRecord? crate)
  | none => []

/-- The ids of the children that a record lists. -/
def childrenIn (id : DefId) (fields : Fields) : List DefId :=
  (itemsOf ((Value.object fields).field? "children")).filterMap (localId? (crateOf id))

/-- The root that a record is, under the name of its crate. -/
def rootOf? (record : DefId × Fields) : Option (String × DefId) :=
  if isRoot (.object record.2) then some (crateOf record.1, record.1) else none

theorem mem_filterMap_rootOf? {records : List (DefId × Fields)} {name : String} {id : DefId} :
    (name, id) ∈ records.filterMap rootOf? ↔
      ∃ record ∈ records, record.1 = id ∧ crateOf id = name ∧ isRoot (.object record.2) = true := by
  rw [List.mem_filterMap]
  refine exists_congr fun record ↦ and_congr_right fun _ ↦ ?_
  rw [rootOf?]
  split_ifs with hroot
  · simp only [Option.some.injEq, Prod.mk.injEq, hroot, and_true]
    constructor
    · rintro ⟨rfl, rfl⟩
      exact ⟨rfl, rfl⟩
    · rintro ⟨rfl, rfl⟩
      exact ⟨rfl, rfl⟩
  · exact ⟨nofun, fun h ↦ absurd h.2.2 hroot⟩

/-- The ids of a snapshot belong to its crate. -/
theorem crateOf_of_localId? {crate : String} {reference : Value} {id : DefId}
    (h : localId? crate reference = some id) : crateOf id = crate := by
  rw [localId?] at h
  split_ifs at h
  split at h
  · cases h
    rfl
  · cases h
    rfl
  · cases h

/-! ### Loading -/

/-- One more entry of a snapshot. -/
theorem addRecord_eq (crate : String) (source : SnapshotSource) (entry : Value) :
    (addRecord crate source entry).cache = source.cache ∧
      (addRecord crate source entry).records =
        (localRecord? crate entry).toList.foldl
          (fun records record ↦ Entries.put record.1 record.2 records) source.records ∧
      (addRecord crate source entry).roots =
        ((localRecord? crate entry).toList.filterMap rootOf?).foldl
          (fun roots root ↦ Entries.put root.1 root.2 roots) source.roots := by
  rcases entry with - | - | - | - | - | - | fields
  case object =>
    rw [addRecord, localRecord?]
    rcases hid : ((Value.object fields).field? "id").bind (localId? crate) with - | id
    · exact ⟨rfl, rfl, rfl⟩
    · refine ⟨rfl, rfl, ?_⟩
      obtain ⟨reference, -, hlocal⟩ := Option.bind_eq_some_iff.1 hid
      simp only [Option.map_some, Option.toList_some, List.filterMap_cons, List.filterMap_nil,
        rootOf?, crateOf_of_localId? hlocal]
      split_ifs
      · rfl
      · rfl
  all_goals exact ⟨rfl, rfl, rfl⟩

theorem foldl_addRecord_eq (crate : String) (source : SnapshotSource) (entries : List Value) :
    (entries.foldl (addRecord crate) source).cache = source.cache ∧
      (entries.foldl (addRecord crate) source).records =
        (entries.filterMap (localRecord? crate)).foldl
          (fun records record ↦ Entries.put record.1 record.2 records) source.records ∧
      (entries.foldl (addRecord crate) source).roots =
        ((entries.filterMap (localRecord? crate)).filterMap rootOf?).foldl
          (fun roots root ↦ Entries.put root.1 root.2 roots) source.roots := by
  induction entries generalizing source with
  | nil => exact ⟨rfl, rfl, rfl⟩
  | cons entry rest ih =>
    obtain ⟨hcache, hrecords, hroots⟩ := addRecord_eq crate source entry
    obtain ⟨hcache', hrecords', hroots'⟩ := ih (addRecord crate source entry)
    have hsplit : (entry :: rest).filterMap (localRecord? crate) =
        (localRecord? crate entry).toList ++ rest.filterMap (localRecord? crate) := by
      rw [List.filterMap_cons]
      rcases localRecord? crate entry with - | record
      · rfl
      · rfl
    rw [List.foldl_cons, hsplit, List.foldl_append, List.filterMap_append, List.foldl_append]
    exact ⟨hcache'.trans hcache, hrecords ▸ hrecords', hroots ▸ hroots'⟩

/-- One more snapshot. -/
theorem addSnapshot_eq {source source' : SnapshotSource} {payload : Value}
    (h : source.addSnapshot payload = .ok source') :
    source'.cache = source.cache ∧
      source'.records = (localRecords payload).foldl
        (fun records record ↦ Entries.put record.1 record.2 records) source.records ∧
      source'.roots = ((localRecords payload).filterMap rootOf?).foldl
        (fun roots root ↦ Entries.put root.1 root.2 roots) source.roots := by
  rw [addSnapshot] at h
  split_ifs at h
  rw [localRecords]
  rcases hcrate : crateName? payload with - | crate
  · rw [hcrate] at h
    cases h
  · rw [hcrate] at h
    cases h
    exact foldl_addRecord_eq crate source _

theorem foldlM_addSnapshot_eq {source source' : SnapshotSource} {payloads : List Value}
    (h : payloads.foldlM addSnapshot source = .ok source') :
    source'.cache = source.cache ∧
      source'.records = (payloads.flatMap localRecords).foldl
        (fun records record ↦ Entries.put record.1 record.2 records) source.records ∧
      source'.roots = ((payloads.flatMap localRecords).filterMap rootOf?).foldl
        (fun roots root ↦ Entries.put root.1 root.2 roots) source.roots := by
  induction payloads generalizing source with
  | nil =>
    cases h
    exact ⟨rfl, rfl, rfl⟩
  | cons payload rest ih =>
    rw [List.foldlM_cons] at h
    obtain ⟨next, hnext, hrest⟩ := bind_eq_ok_iff.1 h
    obtain ⟨hcache, hrecords, hroots⟩ := addSnapshot_eq hnext
    obtain ⟨hcache', hrecords', hroots'⟩ := ih hrest
    rw [List.flatMap_cons, List.foldl_append, List.filterMap_append, List.foldl_append]
    exact ⟨hcache'.trans hcache, hrecords ▸ hrecords', hroots ▸ hroots'⟩

variable {source : SnapshotSource} {payloads : List Value}

/-- A source that was just loaded remembers no definitions. -/
theorem cache_of_load (h : payloads.foldlM addSnapshot {} = .ok source) : source.cache = [] :=
  (foldlM_addSnapshot_eq h).1

/-- The records of a source are those of its snapshots. -/
theorem records_of_load (h : payloads.foldlM addSnapshot {} = .ok source) :
    source.records = Entries.ofPairs (payloads.flatMap localRecords) :=
  (foldlM_addSnapshot_eq h).2.1

/-- The roots of a source are those of its snapshots. -/
theorem roots_of_load (h : payloads.foldlM addSnapshot {} = .ok source) :
    source.roots = Entries.ofPairs ((payloads.flatMap localRecords).filterMap rootOf?) :=
  (foldlM_addSnapshot_eq h).2.2

/-! ### Reading -/

/-- A definition that is made of a record has the id, a name in the crate of the id, and the parent
that the record names, if it is one of the crate. -/
theorem eq_of_lower {id : DefId} {fields : Fields} {d : Definition} (h : lower id fields = .ok d) :
    d.id = id ∧ (∃ name, d.qualifiedName = qualify (crateOf id) name) ∧
      d.parent = ((Value.object fields).field? "parent").bind (localId? (crateOf id)) := by
  simp only [lower] at h
  split at h
  · cases h
  · split at h
    · cases h
    · cases h
      exact ⟨rfl, ⟨_, rfl⟩, rfl⟩

/-- What a look-up comes to: an error, a definition that is remembered, or one that is made of a
record and remembered from then on. -/
theorem run_definition_cases (source : SnapshotSource) (id : DefId) :
    (∃ e, (definition id).run source = (.error e, source)) ∨
      (∃ d, Entries.get? id source.cache = some d ∧
        (definition id).run source = (.ok d, source)) ∨
      ∃ fields d, Entries.get? id source.cache = none ∧
        Entries.get? id source.records = some fields ∧ lower id fields = .ok d ∧
          (definition id).run source =
            (.ok d, { source with cache := Entries.put id d source.cache }) := by
  simp only [definition, StateT.run_bind, StateT.run_get, pure_bind]
  rcases hcache : Entries.get? id source.cache with - | d
  · rcases hrecord : Entries.get? id source.records with - | fields
    · exact .inl ⟨_, rfl⟩
    · dsimp only
      rcases hlower : lower id fields with e | d
      · exact .inl ⟨e, rfl⟩
      · exact .inr (.inr ⟨fields, d, rfl, rfl, hlower, rfl⟩)
  · exact .inr (.inl ⟨d, rfl, rfl⟩)

/-- A definition that was found is found again, and is remembered. -/
theorem run_definition_again {source source' : SnapshotSource} {id : DefId} {d : Definition}
    (h : (definition id).run source = (.ok d, source')) :
    (definition id).run source' = (.ok d, source') := by
  have hremembered : Entries.get? id source'.cache = some d := by
    rcases run_definition_cases source id with
      ⟨e, hrun⟩ | ⟨d', hcache, hrun⟩ | ⟨fields, d', -, -, -, hrun⟩
    · rw [hrun] at h
      cases h
    · rw [hrun] at h
      cases h
      exact hcache
    · rw [hrun] at h
      cases h
      exact Entries.get?_put_of_beq d _ (DefId.beq_iff_key_eq.2 rfl)
  simp only [definition, StateT.run_bind, StateT.run_get, pure_bind, hremembered]
  rfl

/-- What a source that was just loaded says of an id is what one record says of it. -/
def Reads (source : SnapshotSource) (id : DefId) (fields : Fields) : Prop :=
  ((definition id).run source).1 = lower id fields ∧
    ((childrenOf id).run source).1 = .ok (childrenIn id fields)

theorem reads_of_get? {id : DefId} {fields : Fields} (hcache : source.cache = [])
    (h : Entries.get? id source.records = some fields) : source.Reads id fields := by
  constructor
  · simp only [definition, StateT.run_bind, StateT.run_get, pure_bind, hcache, Entries.get?_nil, h]
    rcases lower id fields with e | d
    · rfl
    · rfl
  · simp only [childrenOf, StateT.run_bind, StateT.run_get, pure_bind, h]
    rfl

/-- What is read under an id is the last record of it, in the order of the snapshots. -/
theorem reads_last {before after : List (DefId × Fields)} {id id' : DefId} {fields : Fields}
    (hload : payloads.foldlM addSnapshot {} = .ok source)
    (hrecords : payloads.flatMap localRecords = before ++ (id', fields) :: after)
    (hid : (id' == id) = true) (hlast : ∀ record ∈ after, (record.1 == id) = false) :
    source.Reads id fields := by
  refine reads_of_get? (cache_of_load hload) ?_
  rw [records_of_load hload, hrecords]
  exact Entries.get?_ofPairs_of_last hid hlast

/-- Every id that a record has is the id of a last record. -/
theorem exists_last {records : List (DefId × Fields)} {id : DefId} {fields : Fields}
    (h : (id, fields) ∈ records) :
    ∃ before id' last after, records = before ++ (id', last) :: after ∧ (id' == id) = true ∧
      ∀ record ∈ after, (record.1 == id) = false := by
  have hfound : (records.reverse.find? fun record ↦ record.1 == id).isSome := by
    rw [List.find?_isSome]
    exact ⟨_, List.mem_reverse.2 h, DefId.beq_iff_key_eq.2 rfl⟩
  obtain ⟨⟨id', last⟩, hlast⟩ := Option.isSome_iff_exists.1 hfound
  -- The first record of the id from behind.
  obtain ⟨hid, after, before, hreverse, hafter⟩ := List.find?_eq_some_iff_append.1 hlast
  refine ⟨before.reverse, id', last, after.reverse, ?_, hid, fun record hrecord ↦ ?_⟩
  · rw [← List.reverse_reverse records, hreverse, List.reverse_append, List.reverse_cons,
      List.append_assoc, List.singleton_append]
  · simpa using hafter record (List.mem_reverse.1 hrecord)

/-- A record is what is read under its id exactly if the last record of that id says the same: of
two records that share an id and differ, the earlier one is lost. -/
theorem reads_iff_last_says_the_same {id : DefId} {fields : Fields}
    (hload : payloads.foldlM addSnapshot {} = .ok source)
    (h : (id, fields) ∈ payloads.flatMap localRecords) :
    ∃ before id' last after, payloads.flatMap localRecords = before ++ (id', last) :: after ∧
      (id' == id) = true ∧ (∀ record ∈ after, (record.1 == id) = false) ∧
      (source.Reads id fields ↔
        lower id last = lower id fields ∧ childrenIn id last = childrenIn id fields) := by
  obtain ⟨before, id', last, after, hrecords, hid, hlast⟩ := exists_last h
  refine ⟨before, id', last, after, hrecords, hid, hlast, ?_⟩
  obtain ⟨hdefinition, hchildren⟩ := reads_last hload hrecords hid hlast
  rw [Reads, hdefinition, hchildren, Except.ok.injEq]

/-- Every record of every snapshot is what is read under its id, if no id comes twice. -/
theorem reads_every_record (hload : payloads.foldlM addSnapshot {} = .ok source)
    (hids : (payloads.flatMap localRecords).Pairwise fun r r' ↦ (r'.1 == r.1) = false) :
    ∀ payload ∈ payloads, ∀ record ∈ localRecords payload, source.Reads record.1 record.2 := by
  intro payload hpayload record hrecord
  have hmem := List.mem_flatMap.2 ⟨payload, hpayload, hrecord⟩
  obtain ⟨before, after, hsplit⟩ := List.append_of_mem hmem
  rw [hsplit, List.pairwise_append, List.pairwise_cons] at hids
  exact reads_last hload hsplit (DefId.beq_iff_key_eq.2 rfl) hids.2.1.1

/-! ### A library and a program -/

/-- A record of a snapshot. -/
def sampleRecord (index : Int) (kind name : String) (children : List Int) : Value :=
  .object [("id", .object [("krate", .int 0), ("index", .int index)]), ("kind", .text kind),
    ("qualname", .text name), ("name", .text name),
    ("children", .list (children.map fun child ↦
      .object [("krate", .int 0), ("index", .int child)]))]

/-- A snapshot of a crate. -/
def sampleSnapshot (crate : String) (records : List Value) : Value :=
  .object [("prelude", .object [("crate_id", .object [("name", .text crate)])]),
    ("defs", .list records)]

/-- The snapshots of a library and of a program. -/
def samples (program : String) : List Value :=
  [sampleSnapshot "c" [sampleRecord 1 "Struct" "Widget" []],
    sampleSnapshot program [sampleRecord 1 "Function" "main" []]]

/-- Under two names both records are there. -/
theorem reads_every_record_of_two_names :
    ∃ source, (samples "d").foldlM addSnapshot {} = .ok source ∧
      ((samples "d").flatMap localRecords).Pairwise (fun r r' ↦ (r'.1 == r.1) = false) ∧
      ∀ payload ∈ samples "d", ∀ record ∈ localRecords payload,
        source.Reads record.1 record.2 := by
  have hids : ((samples "d").flatMap localRecords).Pairwise fun r r' ↦ (r'.1 == r.1) = false := by
    decide
  exact ⟨_, rfl, hids, reads_every_record rfl hids⟩

/-- Under one name the record of the library is lost, and nothing is said. -/
theorem not_reads_every_record :
    ¬ ∀ (payloads : List Value) (source : SnapshotSource),
      payloads.foldlM addSnapshot {} = .ok source →
        ∀ payload ∈ payloads, ∀ record ∈ localRecords payload, source.Reads record.1 record.2 := by
  intro h
  have hlost := h (samples "c") _ rfl _ List.mem_cons_self _ List.mem_cons_self
  -- The id of the structure leads to the function.
  have hkind := congrArg (fun r ↦ (Except.toOption r).map Definition.kind) hlost.1
  revert hkind
  decide

end CrateDoc.SnapshotSource
