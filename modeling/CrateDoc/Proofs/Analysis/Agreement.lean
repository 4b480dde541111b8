import CrateDoc.Proofs.Analysis.Crates
import CrateDoc.Proofs.Graph.ParentLinks
import Mathlib.Data.List.Find

/-!
# Snapshots and definitions in memory

The same crate can be given as a snapshot, whose records list their children, or as its definitions,
whose children are told by their parents. If a snapshot says the same about parents and about
children (`IsConsistent`), builds over the two sources have one outcome (`build_eq_build_memory`).

Both sources give the same answers, up to the spelling of ids (`faithful_memory`), and so the builds
do (`agrees_building`). An outcome holds an id only if it reports a definition that was met twice.
In memory this is the root at most (`of_build_eq_error`). A source of snapshots spells the root as
its record does, because it remembers the definition from the first look-up of a build
(`Remembers`).
-/

namespace CrateDoc

/-- Outcomes that are the same up to the spelling of ids are the same, if no look-up has failed and
a definition that is reported twice is spelled alike. -/
theorem Graph.eq_of_mapError_key_eq {α : Type} {x y : Except GraphError α}
    (h : x.mapError GraphError.key = y.mapError GraphError.key)
    (hanalysis : ∀ a, y ≠ .error (.analysis a))
    (hid : ∀ id id', x = .error (.duplicateDefinition id) → y = .error (.duplicateDefinition id') →
      id.key = id'.key → id = id') : x = y := by
  rcases y with e' | b
  · rcases x with e | a
    · have hkey : e.key = e'.key := Except.error.inj h
      -- keys tell failures apart up to the spelling of an id, which one failure alone carries
      cases e' with
      | analysis a => exact absurd rfl (hanalysis a)
      | duplicateDefinition id' =>
        cases e with
        | duplicateDefinition id =>
          rw [hid id id' rfl rfl (GraphError.duplicateDefinition.inj hkey)]
        | _ => cases hkey
      | duplicateDocument name =>
        cases e with
        | duplicateDocument name' => exact congrArg Except.error hkey
        | _ => cases hkey
      | singularRelation r =>
        cases e with
        | singularRelation r' => exact congrArg Except.error hkey
        | _ => cases hkey
      | noWorkers =>
        cases e with
        | noWorkers => rfl
        | _ => cases hkey
      | summary error =>
        cases e with
        | summary error' => exact congrArg Except.error hkey
        | _ => cases hkey
    · cases h
  · rcases x with e | a
    · cases h
    · exact h

namespace SnapshotSource

open CrateDoc.Json InMemorySource

/-- The definitions that the local records of a snapshot make, in their order. -/
def definitionsIn (payload : Value) : List Definition :=
  (localRecords payload).filterMap fun record ↦ (lower record.1 record.2).toOption

/-- A snapshot of a crate that can be told by parents as well as by children. -/
structure IsConsistent (payload : Value) (crate : String) : Prop where
  crateName : crateName? payload = some crate
  /-- A local record is a root. -/
  root : ∃ record ∈ localRecords payload, isRoot (.object record.2) = true
  /-- All local records make definitions. -/
  lowers : ∀ record ∈ localRecords payload, ∃ d, lower record.1 record.2 = .ok d
  /-- Their ids are different. -/
  ids : (localRecords payload).Pairwise fun r r' ↦ (r.1 == r'.1) = false
  /-- A parent of the same crate is the id of a local record. -/
  parents : ∀ d ∈ definitionsIn payload, ∀ p, d.parent = some p →
    ∃ record ∈ localRecords payload, (record.1 == p) = true
  /-- A record lists those that name it as their parent, in their order. -/
  children : ∀ record ∈ localRecords payload, (childrenIn record.1 record.2).map DefId.key =
    (childIds (definitionsIn payload) record.1).map DefId.key

variable {payload : Value} {crate : String} {source : SnapshotSource} {memory : InMemorySource}
  {root : DefId}

/-! ### The definitions of a snapshot -/

theorem mem_definitionsIn {d : Definition} : d ∈ definitionsIn payload ↔
    ∃ record ∈ localRecords payload, lower record.1 record.2 = .ok d := by
  simp only [definitionsIn, List.mem_filterMap]
  refine exists_congr fun record ↦ and_congr_right fun _ ↦ ?_
  rcases lower record.1 record.2 with e | d'
  · simp [Except.toOption]
  · simp [Except.toOption]

theorem IsConsistent.map_id_definitionsIn (h : IsConsistent payload crate) :
    (definitionsIn payload).map (·.id) = (localRecords payload).map (·.1) := by
  rw [definitionsIn, List.map_filterMap, ← List.filterMap_eq_map]
  refine List.filterMap_congr fun record hrecord ↦ ?_
  obtain ⟨d, hd⟩ := h.lowers record hrecord
  rw [hd]
  exact congrArg some (eq_of_lower hd).1

theorem IsConsistent.find?_definitionsIn (h : IsConsistent payload crate) (id : DefId) :
    (definitionsIn payload).find? (·.id == id) =
      ((localRecords payload).find? (·.1 == id)).bind fun record ↦
        (lower record.1 record.2).toOption := by
  rw [definitionsIn, List.find?_filterMap]
  refine congrArg (Option.bind · _) (List.find?_congr fun record hrecord ↦ ?_)
  obtain ⟨d, hd⟩ := h.lowers record hrecord
  rw [hd, ← (eq_of_lower hd).1]
  rfl

/-! ### Loading -/

theorem isObject_of_crateName? (h : crateName? payload = some crate) :
    payload.isObject = true := by
  cases payload
  case object fields => rfl
  all_goals cases h

/-- A consistent snapshot is loaded as it stands: nothing is replaced, and a root is found. -/
theorem IsConsistent.exists_load (h : IsConsistent payload crate) : ∃ source root,
    addSnapshot {} payload = .ok source ∧ source.cache = [] ∧
      source.records = localRecords payload ∧
      (∃ record ∈ localRecords payload, record.1 = root ∧ isRoot (.object record.2) = true) ∧
      ∀ name, Entries.get? name source.roots = if name = crate then some root else none := by
  obtain ⟨source, hload⟩ : ∃ source, addSnapshot {} payload = .ok source := by
    rw [addSnapshot, if_pos (isObject_of_crateName? h.crateName), h.crateName]
    exact ⟨_, rfl⟩
  obtain ⟨hcache, hrecords, hroots⟩ := addSnapshot_eq hload
  have hcrates : ∀ record ∈ localRecords payload, crateOf record.1 = crate := fun record hrecord ↦
    Option.some.inj ((crateName?_of_mem_localRecords hrecord).symm.trans h.crateName)
  have hroot : Entries.has crate source.roots = true := by
    obtain ⟨record, hrecord, hisRoot⟩ := h.root
    have hmem := mem_filterMap_rootOf?.2 ⟨record, hrecord, rfl, hcrates record hrecord, hisRoot⟩
    rw [hroots, Entries.has_foldl_put, Bool.or_eq_true, List.any_eq_true]
    exact .inl ⟨_, hmem, beq_self_eq_true _⟩
  -- every record of the payload is one of the crate, so no other crate gets a root
  have hfound : ∀ {name id}, Entries.get? name source.roots = some id → name = crate ∧
      ∃ record ∈ localRecords payload, record.1 = id ∧ isRoot (.object record.2) = true := by
    intro name id hid
    rw [hroots] at hid
    obtain ⟨k, hmem, hk⟩ := Entries.exists_mem_of_get?_ofPairs hid
    obtain rfl := eq_of_beq hk
    obtain ⟨record, hrecord, rfl, rfl, hisRoot⟩ := mem_filterMap_rootOf?.1 hmem
    exact ⟨hcrates record hrecord, record, hrecord, rfl, hisRoot⟩
  obtain ⟨root, hget⟩ := Option.isSome_iff_exists.1 hroot
  refine ⟨source, root, hload, hcache, ?_, (hfound hget).2, fun name ↦ ?_⟩
  · rw [hrecords]
    exact Entries.ofPairs_eq_self h.ids
  · split_ifs with hname
    · rw [hname, hget]
    · rcases hother : Entries.get? name source.roots with - | id
      · rfl
      · exact absurd (hfound hother).1 hname

/-! ### The same answers -/

/-- The definitions of a consistent snapshot make a source in memory. -/
theorem IsConsistent.exists_memory (h : IsConsistent payload crate) (root : DefId) :
    ∃ memory, ofDefinitions (definitionsIn payload) (some [(crate, root)]) = .ok memory := by
  refine exists_ofDefinitions_iff.2 ⟨?_, fun d hd p hp ↦ ?_⟩
  · have hids : ((definitionsIn payload).map (·.id)).Pairwise fun a b ↦ (a == b) = false := by
      rw [h.map_id_definitionsIn]
      exact List.pairwise_map.2 h.ids
    rw [DefId.pairwise_beq_eq_false_iff, List.map_map] at hids
    exact hids
  · obtain ⟨record, hrecord, hbeq⟩ := h.parents d hd p hp
    obtain ⟨owner, howner⟩ := h.lowers record hrecord
    exact ⟨owner, mem_definitionsIn.2 ⟨record, hrecord, howner⟩, (eq_of_lower howner).1 ▸ hbeq⟩

section

variable (h : IsConsistent payload crate) (hrecords : source.records = localRecords payload)

include h hrecords

/-- Under an id there is a record, which makes a definition, or there is neither. -/
theorem find?_eq_none_or (id : DefId) :
    Entries.get? id source.records = none ∧ (definitionsIn payload).find? (·.id == id) = none ∨
      ∃ record ∈ localRecords payload, ∃ d, (record.1 == id) = true ∧
        lower record.1 record.2 = .ok d ∧ Entries.get? id source.records = some record.2 ∧
          (definitionsIn payload).find? (·.id == id) = some d := by
  have hget : Entries.get? id source.records =
      ((localRecords payload).find? (·.1 == id)).map (·.2) := by
    rw [← Entries.get?_map, List.map_id', hrecords]
  rw [hget, h.find?_definitionsIn]
  rcases hfind : (localRecords payload).find? (·.1 == id) with - | record
  · rw [hfind]
    exact .inl ⟨rfl, rfl⟩
  · have hmem := List.mem_of_find?_eq_some hfind
    have hbeq := List.find?_some hfind
    obtain ⟨d, hd⟩ := h.lowers record hmem
    rw [hfind, Option.bind_some, hd]
    exact .inr ⟨record, hmem, d, hbeq, hd, rfl, rfl⟩

theorem inKeys_definition_listed (roots : Entries String DefId) (id : DefId) :
    inKeys AnalysisError.key Definition.key (source.uncached.definition id) =
      inKeys AnalysisError.key Definition.key
        ((listed (definitionsIn payload) roots).definition id) := by
  simp only [uncached, listed]
  rcases find?_eq_none_or h hrecords id with ⟨hget, hfind⟩ | ⟨record, -, d, hbeq, hd, hget, hfind⟩
  · simp only [hget, hfind]
  · simp only [hget, hfind, ← lower_congr (DefId.beq_iff_key_eq.1 hbeq), hd]

theorem inKeys_childrenOf_listed (roots : Entries String DefId) (id : DefId) :
    inKeys AnalysisError.key (List.map DefId.key) (source.uncached.childrenOf id) =
      inKeys AnalysisError.key (List.map DefId.key)
        ((listed (definitionsIn payload) roots).childrenOf id) := by
  simp only [uncached, listed]
  rcases find?_eq_none_or h hrecords id with ⟨hget, hfind⟩ | ⟨record, hmem, d, hbeq, -, hget, hfind⟩
  · simp only [hget, hfind]
  · have hchildren := h.children record hmem
    rw [childrenIn, crateOf_congr (DefId.beq_iff_key_eq.1 hbeq), childIds_of_beq hbeq] at hchildren
    simp only [hget, hfind, inKeys_ok, hchildren]

/-- A source that was loaded from a consistent snapshot answers as the definitions in memory. -/
theorem faithful_memory
    (hroots : ∀ name, Entries.get? name source.roots = if name = crate then some root else none)
    (hmemory : ofDefinitions (definitionsIn payload) (some [(crate, root)]) = .ok memory) :
    toSource.Faithful source.assurance memory.toSource := by
  rw [(toSource_eq_listed hmemory).2.2]
  refine source.faithful_toSource.congr (fun name ↦ ?_) (inKeys_definition_listed h hrecords _)
    (inKeys_childrenOf_listed h hrecords _)
  have hget : Entries.get? name [(crate, root)] = Entries.get? name source.roots := by
    simp only [hroots, Entries.get?, beq_iff_eq, @eq_comm _ crate]
  rcases hname : Entries.get? name source.roots with - | id
  · simp only [uncached, listed, Option.getD_some, hget, hname]
  · simp only [uncached, listed, Option.getD_some, hget, hname]

end

/-! ### The spelling of the root -/

/-- A source remembers a root, and finds the same spelling of it under every other. -/
structure Remembers (root : DefId) (source : SnapshotSource) : Prop where
  has_root : Entries.has root source.cache = true
  cache : ∀ id d, Entries.get? id source.cache = some d →
    d.id.key = id.key ∧ (id.key = root.key → d.id = root)

/-- What is looked up is the root, as it was spelled first, or another definition, and the root
stays remembered. -/
theorem Remembers.definition (h : source.Remembers root) (id : DefId) :
    (∀ d, ((SnapshotSource.definition id).run source).1 = .ok d → d.id.key = root.key →
      d.id = root) ∧ ((SnapshotSource.definition id).run source).2.Remembers root := by
  rcases run_definition_cases source id with
    ⟨e, hrun⟩ | ⟨d, hcache, hrun⟩ | ⟨fields, d, hcache, -, hlower, hrun⟩
  · rw [hrun]
    exact ⟨nofun, h⟩
  · rw [hrun]
    obtain ⟨hkey, hid⟩ := h.cache id d hcache
    refine ⟨?_, h⟩
    rintro _ ⟨⟩ hroot
    exact hid (hkey.symm.trans hroot)
  · rw [hrun]
    obtain ⟨rfl, -⟩ := eq_of_lower hlower
    -- The root is remembered, so this is another definition.
    have hne : d.id.key ≠ root.key := by
      intro hkey
      have hroot := h.has_root
      rw [Entries.has, ← get?_congr hkey, hcache] at hroot
      cases hroot
    refine ⟨?_, ?_, fun other d' hd' ↦ ?_⟩
    · rintro _ ⟨⟩ hroot
      exact absurd hroot hne
    · rw [Entries.has_put, h.has_root, Bool.or_true]
    · rcases Entries.get?_put_eq_some hd' with ⟨hother, rfl⟩ | hd'
      · have hkey := DefId.beq_iff_key_eq.1 hother
        exact ⟨hkey, fun hroot ↦ absurd (hkey.trans hroot) hne⟩
      · exact h.cache other d' hd'

theorem keeps_of_remembers (root : DefId) :
    toSource.Keeps (Assurance.keeping (Remembers root)) (fun _ ↦ True)
      (fun d ↦ d.id.key = root.key → d.id = root) where
  definition {id} _ s hs := hs.definition id
  parent _ _ s hs := ⟨trivial, (hs.definition _).2⟩
  childrenOf {d} _ s hs := by
    rw [childrenOf_toSource, run_childrenOf]
    exact ⟨fun _ _ _ _ ↦ trivial, hs⟩

/-- A source that remembers nothing remembers the root as soon as it was looked up. -/
theorem remembers_of_run_definition {d : Definition} {after : SnapshotSource}
    (hcache : source.cache = [])
    (hrun : (SnapshotSource.definition root).run source = (.ok d, after)) :
    after.Remembers root := by
  rcases run_definition_cases source root with
    ⟨e, hcase⟩ | ⟨d', hcached, -⟩ | ⟨fields, d', -, -, hlower, hcase⟩
  · rw [hcase] at hrun
    cases hrun
  · rw [hcache] at hcached
    cases hcached
  · rw [hcase] at hrun
    cases hrun
    obtain ⟨hid, -⟩ := eq_of_lower hlower
    refine ⟨?_, fun other d' hd' ↦ ?_⟩
    · rw [Entries.has_put, beq_self_eq_true, Bool.true_or]
    · rcases Entries.get?_put_eq_some hd' with ⟨hother, rfl⟩ | hd'
      · exact ⟨hid ▸ DefId.beq_iff_key_eq.1 hother, fun _ ↦ hid⟩
      · rw [hcache] at hd'
        cases hd'

/-- A build over a source that remembers nothing reports no other spelling of the root. -/
theorem eq_root_of_run_build {size : ℕ} {workers : Option Int} {id : DefId}
    (hcache : source.cache = []) (hroot : Entries.get? crate source.roots = some root)
    (he : ((Graph.build toSource size workers crate).run source).1.1 =
      .error (.duplicateDefinition id)) (hid : id.key = root.key) : id = root := by
  have hresolve : ∀ s : SnapshotSource, s.roots = source.roots →
      (toSource.resolveRoot crate).run s = (.ok root, s) := fun s hs ↦ by
    rw [resolveRoot_toSource, run_resolveRoot]
    simp only [uncached, hs, hroot]
  rcases hrun : (toSource.definition root).run source with ⟨e | d, after⟩
  -- If the root were not found, that would be reported.
  · rw [Graph.build, Graph.building, Graph.run_ask_bind, hresolve source rfl] at he
    dsimp only at he
    rw [Graph.run_ask_bind, hrun] at he
    cases he
  · have hroots : after.roots = source.roots :=
      (congrArg (·.2.roots) hrun).symm.trans (congrArg (·.2.roots) (run_definition source root))
    rw [Graph.run_build_eq_of_definition (hresolve source rfl) hrun (hresolve after hroots)
      (run_definition_again hrun)] at he
    have hyields := Graph.yields_building (keeps_of_remembers root) crate size workers fun s hs ↦ by
      rw [resolveRoot_toSource, run_resolveRoot]
      exact ⟨fun _ _ ↦ trivial, hs⟩
    have hstems := hyields.stems_run_build (remembers_of_run_definition hcache hrun)
    rw [he] at hstems
    obtain ⟨d', hd', rfl⟩ := hstems id rfl
    exact hd' hid

/-- The root of a consistent snapshot is found in memory. -/
theorem IsConsistent.exists_root_memory (h : IsConsistent payload crate)
    {record : DefId × Fields} (hrecord : record ∈ localRecords payload)
    (hmemory : ofDefinitions (definitionsIn payload) (some [(crate, record.1)]) = .ok memory) :
    ∃ d, d.id = record.1 ∧ memory.toSource.resolveRoot crate = .ok d.id ∧
      memory.toSource.definition d.id = .ok d := by
  obtain ⟨d, hd⟩ := h.lowers record hrecord
  obtain ⟨hid, -⟩ := eq_of_lower hd
  rw [(toSource_eq_listed hmemory).2.2]
  refine ⟨d, hid, ?_, definition_listed_of_mem (exists_ofDefinitions_iff.1 ⟨memory, hmemory⟩).1
    (mem_definitionsIn.2 ⟨record, hrecord, hd⟩) (beq_self_eq_true d.id)⟩
  simp only [listed, Option.getD_some, Entries.get?, beq_self_eq_true, if_true, hid]

/-- **A consistent snapshot and its definitions in memory have one outcome.** The snapshot is
loaded, a root of it is found, and its definitions make a source with that root. Then builds over
the two sources end, and the one has the documents of the other, or fails with the same error. -/
theorem build_eq_build_memory (h : IsConsistent payload crate) :
    ∃ source root memory, addSnapshot {} payload = .ok source ∧
      (∃ record ∈ localRecords payload, record.1 = root ∧ isRoot (.object record.2) = true) ∧
      Entries.get? crate source.roots = some root ∧
      ofDefinitions (definitionsIn payload) (some [(crate, root)]) = .ok memory ∧
      ∀ workers, ∃ outcome, Graph.Runs memory.toSource workers crate outcome ∧
        ((Graph.build toSource source.records.length workers crate).run source).1.1 = outcome ∧
        (Graph.build memory.toSource memory.definitions.length workers crate).1 = outcome := by
  obtain ⟨source, root, hload, hcache, hrecords, hrecord, hroots⟩ := h.exists_load
  obtain ⟨memory, hmemory⟩ := h.exists_memory root
  have hroot : Entries.get? crate source.roots = some root := by rw [hroots, if_pos rfl]
  refine ⟨source, root, memory, hload, hrecord, hroot, hmemory, fun workers ↦
    ⟨_, Graph.runs_build (finite_toSource hmemory []), ?_, rfl⟩⟩
  have hlength : memory.definitions.length = source.records.length := by
    have hids := congrArg List.length h.map_id_definitionsIn
    rw [List.length_map, List.length_map] at hids
    rw [(toSource_eq_listed hmemory).1, hids, hrecords]
  rw [hlength]
  have hkeys := source.build_of_faithful (faithful_memory h hrecords hroots hmemory)
    (hcache ▸ source.coherent_nil) source.records.length workers crate
  obtain ⟨record, hmem, rfl, -⟩ := hrecord
  obtain ⟨d, hd, hid, hdefinition⟩ := h.exists_root_memory hmem hmemory
  have herror := fun {e} he ↦
    @of_build_eq_error _ _ _ hmemory _ _ hid hdefinition workers e (hlength ▸ he)
  -- results agree up to the spelling of an id, and only the root can be the duplicate
  refine Graph.eq_of_mapError_key_eq hkeys (fun a he ↦ (herror he).1 a rfl)
    fun id id' he he' hkey ↦ ?_
  obtain rfl := ((herror he').2 id' rfl).trans hd
  exact eq_root_of_run_build hcache hroot he hkey

/-! ### A module in a crate -/

/-- A record that names its parent. -/
def linkedRecord (parent index : Int) (kind name : String) (children : List Int) : Value :=
  .object [("id", .object [("krate", .int 0), ("index", .int index)]), ("kind", .text kind),
    ("qualname", .text name), ("name", .text name),
    ("parent", .object [("krate", .int 0), ("index", .int parent)]),
    ("children", .list (children.map fun child ↦
      .object [("krate", .int 0), ("index", .int child)]))]

/-- A crate with a function and a module, which holds a structure. The structure comes before the
module. -/
def linkedSnapshot : Value :=
  sampleSnapshot "c" [sampleRecord 1 "Mod" "::" [3, 4], linkedRecord 4 2 "Struct" "::m::S" [],
    linkedRecord 1 3 "Function" "::f" [], linkedRecord 1 4 "Mod" "::m" [2]]

theorem isConsistent_linkedSnapshot : IsConsistent linkedSnapshot "c" where
  crateName := rfl
  root := ⟨_, List.mem_cons_self, rfl⟩
  lowers := by
    refine List.forall_mem_cons.2 ⟨⟨_, rfl⟩, List.forall_mem_cons.2 ⟨⟨_, rfl⟩,
      List.forall_mem_cons.2 ⟨⟨_, rfl⟩, List.forall_mem_singleton.2 ⟨_, rfl⟩⟩⟩⟩
  ids := by decide
  parents := by
    have howners : ∀ d ∈ definitionsIn linkedSnapshot, d.parent.all (fun p ↦
        (localRecords linkedSnapshot).any (·.1 == p)) = true := by decide
    intro d hd p hp
    have howner := howners d hd
    rw [hp, Option.all_some] at howner
    exact List.any_eq_true.1 howner
  children := by
    refine List.forall_mem_cons.2 ⟨rfl, List.forall_mem_cons.2 ⟨rfl, List.forall_mem_cons.2 ⟨rfl,
      List.forall_mem_singleton.2 rfl⟩⟩⟩

/-- The module leads to its structure whether children or parents are asked for. -/
theorem build_linkedSnapshot_eq_build_memory :
    IsConsistent linkedSnapshot "c" ∧
      ∃ source memory graph, addSnapshot {} linkedSnapshot = .ok source ∧
        ofDefinitions (definitionsIn linkedSnapshot) (some [("c", .tuple [.text "c", .int 1])]) =
          .ok memory ∧
        ((Graph.build toSource source.records.length none "c").run source).1.1 = .ok graph ∧
        (Graph.build memory.toSource memory.definitions.length none "c").1 = .ok graph ∧
        graph.documents.map Document.id = ["c", "c::f", "c::m", "c::m::S"] := by
  obtain ⟨source, root, memory, hload, -, hroot, hmemory, hbuild⟩ :=
    build_eq_build_memory isConsistent_linkedSnapshot
  have hload' : addSnapshot {} linkedSnapshot = .ok _ := rfl
  obtain rfl := Except.ok.inj (hload'.symm.trans hload)
  obtain rfl := Option.some.inj hroot
  obtain ⟨_, -, hsnapshot, hdefinitions⟩ := hbuild none
  exact ⟨isConsistent_linkedSnapshot, _, memory, _, hload, hmemory, rfl,
    hdefinitions.trans hsnapshot.symm, rfl⟩

end SnapshotSource

end CrateDoc
