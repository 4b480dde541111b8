import CrateDoc.Proofs.Analysis.Snapshot
import CrateDoc.Proofs.Graph.Provenance

/-!
# The crates of a source of snapshots

A source of snapshots holds definitions of several crates. Everything in it is filed under the crate
to which it belongs (`Filed`): a root under the name of its crate, and a definition that was looked
up under an id of its crate. This is so whatever was done with the source before (`Arises.filed`):
snapshots may be loaded when definitions are remembered already, and graphs may be built of one
crate after the other.

The children of a definition belong to its crate (`keeps_toSource`), so a build never leaves the
crate whose root it starts from, and the documents have names in that crate (`ids_of_build`).
-/

namespace CrateDoc.SnapshotSource

open CrateDoc.Json

/-- A definition of a crate: its id belongs to the crate, and its name is one in it. -/
structure BelongsTo (crate : String) (d : Definition) : Prop where
  crateOf_eq : crateOf d.id = crate
  exists_name : ∃ name, d.qualifiedName = qualify crate name

/-- A source files roots and definitions under the crates to which they belong. -/
structure Filed (source : SnapshotSource) : Prop where
  roots : ∀ name id, Entries.get? name source.roots = some id → name ≠ "" ∧ crateOf id = name
  cache : ∀ id d, Entries.get? id source.cache = some d → BelongsTo (crateOf id) d

/-- A source that has arisen from an empty one: snapshots were loaded, definitions were looked up,
and graphs were built. -/
inductive Arises : SnapshotSource → Prop
  | empty : Arises {}
  | load {source source' : SnapshotSource} {payload : Value} (h : Arises source)
      (hload : source.addSnapshot payload = .ok source') : Arises source'
  | lookUp {source : SnapshotSource} (h : Arises source) (id : DefId) :
      Arises ((definition id).run source).2
  | build {source : SnapshotSource} (h : Arises source) (size : ℕ) (workers : Option Int)
      (crate : String) : Arises ((Graph.build toSource size workers crate).run source).2

variable {source source' : SnapshotSource} {crate : String}

/-! ### Names in a crate -/

theorem qualify_eq_or (crate name : String) :
    qualify crate name = crate ∨ ∃ rest, qualify crate name = crate ++ "::" ++ rest := by
  rw [qualify]
  split_ifs with htop hprefix
  · exact .inl rfl
  · obtain ⟨rest, hrest⟩ := List.isPrefixOf_iff_prefix.1 hprefix
    have hname : name = "::" ++ String.ofList rest := by
      rw [← String.toList_inj, String.toList_append, @String.toList_ofList rest, hrest]
    exact .inr ⟨String.ofList rest, by rw [String.append_assoc, ← hname]⟩
  · exact .inr ⟨name, rfl⟩

theorem belongsTo_of_lower {id : DefId} {fields : Fields} {d : Definition}
    (h : lower id fields = .ok d) : BelongsTo (crateOf id) d := by
  obtain ⟨rfl, hname, -⟩ := eq_of_lower h
  exact ⟨rfl, hname⟩

theorem ne_empty_of_crateName? {payload : Value} (h : crateName? payload = some crate) :
    crate ≠ "" := by
  simpa using (Option.filter_eq_some_iff.1 h).2

/-- The local records of a snapshot belong to its crate. -/
theorem crateName?_of_mem_localRecords {payload : Value} {record : DefId × Fields}
    (h : record ∈ localRecords payload) : crateName? payload = some (crateOf record.1) := by
  rw [localRecords] at h
  rcases hcrate : crateName? payload with - | crate
  · rw [hcrate] at h
    cases h
  · rw [hcrate] at h
    obtain ⟨entry, -, hentry⟩ := List.mem_filterMap.1 h
    cases entry
    case object fields =>
      obtain ⟨id, hid, rfl⟩ := Option.map_eq_some_iff.1 hentry
      obtain ⟨reference, -, hlocal⟩ := Option.bind_eq_some_iff.1 hid
      rw [crateOf_of_localId? hlocal]
    all_goals cases hentry

/-! ### What is done with a source -/

theorem filed_empty : Filed {} := ⟨nofun, nofun⟩

/-- Snapshots file their roots, and leave what is remembered. -/
theorem Filed.addSnapshot {payload : Value} (h : source.Filed)
    (hload : source.addSnapshot payload = .ok source') : source'.Filed := by
  obtain ⟨hcache, -, hroots⟩ := addSnapshot_eq hload
  refine ⟨fun name id hid ↦ ?_, hcache ▸ h.cache⟩
  rw [hroots] at hid
  rcases Entries.get?_foldl_put_eq_some hid with ⟨k, hmem, hk⟩ | hid
  · obtain rfl := eq_of_beq hk
    obtain ⟨record, hrecord, rfl, rfl, -⟩ := mem_filterMap_rootOf?.1 hmem
    exact ⟨ne_empty_of_crateName? (crateName?_of_mem_localRecords hrecord), rfl⟩
  · exact h.roots name id hid

/-- What is looked up belongs to the crate of the id, and is remembered under that id. -/
theorem Filed.definition (h : source.Filed) (id : DefId) :
    (∀ d, ((SnapshotSource.definition id).run source).1 = .ok d → BelongsTo (crateOf id) d) ∧
      ((SnapshotSource.definition id).run source).2.Filed := by
  rcases run_definition_cases source id with
    ⟨e, hrun⟩ | ⟨d, hcache, hrun⟩ | ⟨fields, d, -, -, hlower, hrun⟩
  · rw [hrun]
    exact ⟨nofun, h⟩
  · rw [hrun]
    refine ⟨?_, h⟩
    rintro _ ⟨⟩
    exact h.cache id d hcache
  · rw [hrun]
    have hd := belongsTo_of_lower hlower
    refine ⟨?_, h.roots, fun other d' hd' ↦ ?_⟩
    · rintro _ ⟨⟩
      exact hd
    · rcases Entries.get?_put_eq_some hd' with ⟨hother, rfl⟩ | hd'
      · rw [← crateOf_congr (DefId.beq_iff_key_eq.1 hother)]
        exact hd
      · exact h.cache other d' hd'

theorem get?_of_resolveRoot {id : DefId} (h : source.uncached.resolveRoot crate = .ok id) :
    Entries.get? crate source.roots = some id := by
  simp only [uncached] at h
  rcases hget : Entries.get? crate source.roots with - | root
  · rw [hget] at h
    cases h
  · rw [hget] at h
    cases h
    rfl

/-- Children belong to the crate of their parent. -/
theorem crateOf_of_mem_childrenOf {id : DefId} {ids : List DefId}
    (h : source.uncached.childrenOf id = .ok ids) : ∀ i ∈ ids, crateOf i = crateOf id := by
  intro i hi
  simp only [uncached] at h
  rcases hget : Entries.get? id source.records with - | fields
  · rw [hget] at h
    cases h
  · rw [hget] at h
    cases h
    obtain ⟨reference, -, hlocal⟩ := List.mem_filterMap.1 hi
    exact crateOf_of_localId? hlocal

/-- A source that files what it holds finds definitions of the crate that is asked for. -/
theorem keeps_toSource (crate : String) :
    toSource.Keeps (Assurance.keeping Filed) (crateOf · = crate) (BelongsTo crate) where
  definition {id} hid s hs := by
    obtain ⟨hd, hs'⟩ := hs.definition id
    exact ⟨fun d heq ↦ hid ▸ hd d heq, hs'⟩
  parent _ _ s hs := ⟨trivial, (hs.definition _).2⟩
  childrenOf {d} hd s hs := by
    rw [childrenOf_toSource, run_childrenOf]
    exact ⟨fun ids hids i hi ↦ (crateOf_of_mem_childrenOf hids i hi).trans hd.crateOf_eq, hs⟩

theorem yields_build (size : ℕ) (workers : Option Int) (crate : String) :
    Graph.Yields (Assurance.keeping Filed) (BelongsTo crate)
      (fun graph : Documentation ↦
        ∀ document ∈ graph.documents, Graph.Named (BelongsTo crate) crate document)
      (Graph.building toSource size workers crate) := by
  refine Graph.yields_building (keeps_toSource crate) crate size workers fun s hs ↦ ?_
  rw [resolveRoot_toSource, run_resolveRoot]
  exact ⟨fun id hid ↦ (hs.roots crate id (get?_of_resolveRoot hid)).2, hs⟩

/-- Whatever was done with a source, everything in it is filed under its crate. -/
theorem Arises.filed (h : Arises source) : source.Filed := by
  induction h with
  | empty => exact filed_empty
  | load _ hload ih => exact ih.addSnapshot hload
  | lookUp _ id ih => exact (ih.definition id).2
  | build _ size workers crate ih => exact (yields_build size workers crate [] _ ih).2

/-- The ids of documents are the name of the crate, or begin with it and two colons. -/
theorem Filed.ids_of_build (h : source.Filed) {size : ℕ} {workers : Option Int}
    {graph : Documentation}
    (hbuild : ((Graph.build toSource size workers crate).run source).1.1 = .ok graph) :
    crate ≠ "" ∧ ∀ document ∈ graph.documents,
      document.id = crate ∨ ∃ rest, document.id = crate ++ "::" ++ rest := by
  constructor
  · obtain ⟨id, hid⟩ := Graph.exists_root_of_run_build hbuild
    rw [resolveRoot_toSource, run_resolveRoot] at hid
    exact (h.roots crate id (get?_of_resolveRoot hid)).1
  · have hstems := (yields_build size workers crate).stems_run_build h
    rw [hbuild] at hstems
    intro document hdocument
    rcases hstems document hdocument with hid | ⟨d, hd, hid⟩
    · exact .inl hid
    · obtain ⟨name, hname⟩ := hd.exists_name
      rw [hid, hname]
      exact qualify_eq_or crate name

end CrateDoc.SnapshotSource
