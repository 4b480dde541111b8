import CrateDoc.Proofs.Analysis.Crates
import CrateDoc.Proofs.Analysis.Loading
import CrateDoc.Proofs.Graph.Together
import Mathlib.Data.List.Dedup

/-!
# Crates do not interfere

A source holds the records of all crates in one table, and so it does with what it remembers.
`Alike` says that two sources hold the same of one crate. What is asked of one crate is then
answered the same (`Alike.run`), and what is asked of other crates changes nothing about it
(`Alike.run_other`). So the answers that are given for a crate are those of a source that holds
nothing else and is asked for nothing else, request by request.

A build of a crate stays in it: it asks for the root, and from there for children and parents, which
are ids of the crate again (`keeps_alongside`).
-/

namespace CrateDoc.SnapshotSource

open CrateDoc.Json

/-- What a source may be asked for. -/
inductive Request
  | root (name : String)
  | definition (id : DefId)
  | children (id : DefId)
  | documentation (workers : Option Int) (crate : String)

/-- What a source answers. -/
inductive Answer
  | root (result : Except AnalysisError DefId)
  | definition (result : Except AnalysisError Definition)
  | children (result : Except AnalysisError (List DefId))
  /-- A graph, or why there is none, with the reports of the build. -/
  | documentation (result : Except GraphError Documentation × List LogRecord)

/-- The crate that is asked for. -/
def Request.crate : Request → String
  | root name => name
  | definition id | children id => crateOf id
  | documentation _ crate => crate

/-- The answer to a request, and what the source is then. -/
def Request.run : Request → SnapshotSource → Answer × SnapshotSource
  | root name, source => ((resolveRoot name).run source).map .root id
  | definition i, source => ((SnapshotSource.definition i).run source).map .definition id
  | children i, source => ((childrenOf i).run source).map .children id
  | documentation workers crate, source =>
    ((Graph.build toSource source.records.length workers crate).run source).map .documentation id

/-- The answers for one crate, when requests for any crates are made one after the other. -/
def answersFor (crate : String) : List Request → SnapshotSource → List Answer
  | [], _ => []
  | request :: rest, source =>
    let later := answersFor crate rest (request.run source).2
    if request.crate = crate then (request.run source).1 :: later else later

/-- A definition that stays in a crate, with its parent, and is found under one of some ids. -/
structure Inside (crate : String) (keys : List DefId) (d : Definition) : Prop where
  crateOf_eq : crateOf d.id = crate
  parent : ∀ p, d.parent = some p → crateOf p = crate
  key : d.id.key ∈ keys

/-- Two sources hold the same of a crate, under some ids. -/
structure Alike (crate : String) (keys : List DefId) (s s' : SnapshotSource) : Prop where
  roots : Entries.get? crate s.roots = Entries.get? crate s'.roots
  crateOf_root : ∀ id, Entries.get? crate s.roots = some id → crateOf id = crate
  records : ∀ id, crateOf id = crate → Entries.get? id s.records = Entries.get? id s'.records
  mem_keys : ∀ id fields, crateOf id = crate → Entries.get? id s.records = some fields →
    id.key ∈ keys
  cache : ∀ id, crateOf id = crate → Entries.get? id s.cache = Entries.get? id s'.cache
  inside : ∀ id d, crateOf id = crate → Entries.get? id s.cache = some d → Inside crate keys d
  length_le : keys.length ≤ s.records.length
  length_le' : keys.length ≤ s'.records.length

variable {crate : String} {keys : List DefId} {s s' : SnapshotSource} {id : DefId}

theorem Alike.symm (h : Alike crate keys s s') : Alike crate keys s' s where
  roots := h.roots.symm
  crateOf_root id hid := h.crateOf_root id (h.roots.trans hid)
  records id hid := (h.records id hid).symm
  mem_keys id fields hid hget := h.mem_keys id fields hid ((h.records id hid).trans hget)
  cache id hid := (h.cache id hid).symm
  inside id d hid hget := h.inside id d hid ((h.cache id hid).trans hget)
  length_le := h.length_le'
  length_le' := h.length_le

/-! ### What is remembered -/

/-- The source after a definition was looked up. -/
def remember (id : DefId) (d : Definition) (source : SnapshotSource) : SnapshotSource :=
  { source with cache := Entries.put id d source.cache }

theorem inside_of_lower {fields : Fields} {d : Definition} (hid : crateOf id = crate)
    (hkey : id.key ∈ keys) (h : lower id fields = .ok d) : Inside crate keys d := by
  obtain ⟨rfl, -, hparent⟩ := eq_of_lower h
  refine ⟨hid, fun p hp ↦ ?_, hkey⟩
  rw [hparent] at hp
  obtain ⟨reference, -, hlocal⟩ := Option.bind_eq_some_iff.1 hp
  exact (crateOf_of_localId? hlocal).trans hid

/-- Sources that are alike remember the same definition. -/
theorem Alike.remember {d : Definition} (h : Alike crate keys s s') (hd : Inside crate keys d) :
    Alike crate keys (s.remember id d) (s'.remember id d) where
  roots := h.roots
  crateOf_root := h.crateOf_root
  records := h.records
  mem_keys := h.mem_keys
  cache other hother := by
    rw [SnapshotSource.remember, SnapshotSource.remember]
    rcases hbeq : id == other with - | -
    · rw [Entries.get?_put_of_ne _ _ hbeq, Entries.get?_put_of_ne _ _ hbeq, h.cache other hother]
    · rw [Entries.get?_put_of_beq _ _ hbeq, Entries.get?_put_of_beq _ _ hbeq]
  inside other d' hother hget := by
    rcases Entries.get?_put_eq_some hget with ⟨-, rfl⟩ | hget
    · exact hd
    · exact h.inside other d' hother hget
  length_le := h.length_le
  length_le' := h.length_le'

/-- A definition of another crate may be remembered. -/
theorem Alike.remember_other {d : Definition} (h : Alike crate keys s s')
    (hid : crateOf id ≠ crate) :
    Alike crate keys (s.remember id d) s' where
  roots := h.roots
  crateOf_root := h.crateOf_root
  records := h.records
  mem_keys := h.mem_keys
  cache other hother := by
    have hne : (id == other) = false :=
      DefId.beq_eq_false_iff.2 fun hkey ↦ hid ((crateOf_congr hkey).trans hother)
    rw [SnapshotSource.remember, Entries.get?_put_of_ne _ _ hne, h.cache other hother]
  inside other d' hother hget := by
    rcases Entries.get?_put_eq_some hget with ⟨hbeq, rfl⟩ | hget
    · exact absurd ((crateOf_congr (DefId.beq_iff_key_eq.1 hbeq)).trans hother) hid
    · exact h.inside other d' hother hget
  length_le := h.length_le
  length_le' := h.length_le'

/-- A look-up gives what is remembered, or else what is made of the record, which is remembered. -/
theorem run_definition_eq (source : SnapshotSource) (id : DefId) :
    (definition id).run source = match Entries.get? id source.cache with
      | some d => (.ok d, source)
      | none => match source.uncached.definition id with
        | .error e => (.error e, source)
        | .ok d => (.ok d, source.remember id d) := by
  simp only [definition, StateT.run_bind, StateT.run_get, pure_bind, uncached]
  rcases Entries.get? id source.cache with - | d
  · rcases Entries.get? id source.records with - | fields
    · rfl
    · dsimp only
      rcases lower id fields with e | d
      · rfl
      · rfl
  · rfl

/-- What is found in a crate without a cache. -/
theorem Alike.uncached_definition (h : Alike crate keys s s') (hid : crateOf id = crate) :
    s.uncached.definition id = s'.uncached.definition id ∧
      ∀ d, s.uncached.definition id = .ok d → Inside crate keys d := by
  refine ⟨by simp only [uncached, ← h.records id hid], fun d hd ↦ ?_⟩
  simp only [uncached] at hd
  rcases hget : Entries.get? id s.records with - | fields
  · rw [hget] at hd
    cases hd
  · rw [hget] at hd
    exact inside_of_lower hid (h.mem_keys id fields hid hget) hd

/-- A look-up in a crate gives the same in sources that are alike, and they stay alike. -/
theorem Alike.definition (h : Alike crate keys s s') (hid : crateOf id = crate) :
    ((SnapshotSource.definition id).run s).1 = ((SnapshotSource.definition id).run s').1 ∧
      (∀ d, ((SnapshotSource.definition id).run s).1 = .ok d → Inside crate keys d) ∧
      Alike crate keys ((SnapshotSource.definition id).run s).2
        ((SnapshotSource.definition id).run s').2 := by
  obtain ⟨hsame, hinside⟩ := h.uncached_definition hid
  rw [run_definition_eq, run_definition_eq, ← h.cache id hid, ← hsame]
  rcases hcache : Entries.get? id s.cache with - | d
  · rcases hfound : s.uncached.definition id with e | d
    · exact ⟨rfl, nofun, h⟩
    · refine ⟨rfl, ?_, h.remember (hinside d hfound)⟩
      rintro _ ⟨⟩
      exact hinside d hfound
  · refine ⟨rfl, ?_, h⟩
    rintro _ ⟨⟩
    exact h.inside id d hid hcache

/-- A look-up in another crate changes nothing. -/
theorem Alike.definition_other (h : Alike crate keys s s') (hid : crateOf id ≠ crate) :
    Alike crate keys ((SnapshotSource.definition id).run s).2 s' := by
  rw [run_definition_eq]
  rcases Entries.get? id s.cache with - | d
  · rcases s.uncached.definition id with e | d
    · exact h
    · exact h.remember_other hid
  · exact h

/-! ### What is asked for -/

/-- Children in a crate are the same in sources that are alike, and belong to the crate. -/
theorem Alike.uncached_childrenOf (h : Alike crate keys s s') (hid : crateOf id = crate) :
    s.uncached.childrenOf id = s'.uncached.childrenOf id ∧
      ∀ ids, s.uncached.childrenOf id = .ok ids → ∀ i ∈ ids, crateOf i = crate := by
  refine ⟨?_, fun ids hids i hi ↦ (crateOf_of_mem_childrenOf hids i hi).trans hid⟩
  simp only [uncached, ← h.records id hid]

theorem Alike.uncached_resolveRoot (h : Alike crate keys s s') :
    s.uncached.resolveRoot crate = s'.uncached.resolveRoot crate ∧
      ∀ id, s.uncached.resolveRoot crate = .ok id → crateOf id = crate := by
  refine ⟨?_, fun id hid ↦ h.crateOf_root id (get?_of_resolveRoot hid)⟩
  simp only [uncached, ← h.roots]

theorem Inside.crateOf_parent {child parent : Definition} (hchild : Inside crate keys child)
    (hparent : Inside crate keys parent) : crateOf (child.parent.getD parent.id) = crate := by
  rcases hp : child.parent with - | p
  · exact hparent.crateOf_eq
  · exact hchild.parent p hp

/-- All that a build of a crate asks for is answered the same by sources that are alike. -/
theorem keeps_alongside (crate : String) (keys : List DefId) :
    toSource.Keeps (Assurance.alongside (Alike crate keys)) (crateOf · = crate)
      (Inside crate keys) where
  definition hid _ _ h := h.definition hid
  parent hchild hparent _ _ h := by
    obtain ⟨hsame, -, hafter⟩ := h.definition (hchild.crateOf_parent hparent)
    exact ⟨hsame, trivial, hafter⟩
  childrenOf {d} hd s s' h := by
    rw [childrenOf_toSource, run_childrenOf, run_childrenOf]
    obtain ⟨hsame, hids⟩ := h.uncached_childrenOf hd.crateOf_eq
    exact ⟨hsame, hids, h⟩

/-- All that a build of another crate asks for leaves sources alike. -/
theorem keeps_other {other : String} {keys' : List DefId} (hne : other ≠ crate) :
    toSource.Keeps
      (Assurance.keeping fun t ↦ Alike crate keys t s' ∧ Alike other keys' t t)
      (crateOf · = other) (Inside other keys') where
  definition hid t h := by
    obtain ⟨-, hinside, hafter⟩ := h.2.definition hid
    exact ⟨hinside, h.1.definition_other (hid.trans_ne hne), hafter⟩
  parent hchild hparent t h := by
    have hid := hchild.crateOf_parent hparent
    exact ⟨trivial, h.1.definition_other (hid.trans_ne hne), (h.2.definition hid).2.2⟩
  childrenOf {d} hd t h := by
    rw [childrenOf_toSource, run_childrenOf]
    exact ⟨(h.2.uncached_childrenOf hd.crateOf_eq).2, h⟩

/-- Requests for a crate have the same answers from sources that are alike, and leave them alike. -/
theorem Alike.run {request : Request} (h : Alike request.crate keys s s') :
    (request.run s).1 = (request.run s').1 ∧
      Alike request.crate keys (request.run s).2 (request.run s').2 := by
  cases request with
  | root name =>
    rw [Request.run, Request.run, run_resolveRoot, run_resolveRoot]
    exact ⟨congrArg Answer.root h.uncached_resolveRoot.1, h⟩
  | definition i =>
    obtain ⟨hsame, -, hafter⟩ := h.definition rfl
    exact ⟨congrArg Answer.definition hsame, hafter⟩
  | children i =>
    rw [Request.run, Request.run, run_childrenOf, run_childrenOf]
    exact ⟨congrArg Answer.children (h.uncached_childrenOf rfl).1, h⟩
  | documentation workers crate =>
    have hroot : (Assurance.alongside (Alike crate keys)).Ends
        (fun r ↦ ∀ id, r = .ok id → crateOf id = crate) (toSource.resolveRoot crate) := by
      intro t t' ht
      rw [resolveRoot_toSource, run_resolveRoot, run_resolveRoot]
      obtain ⟨hsame, hcrate⟩ := ht.uncached_resolveRoot
      exact ⟨hsame, hcrate, ht⟩
    obtain ⟨hsame, hafter⟩ := Graph.run_build_of_related (keeps_alongside crate keys)
      (fun d hd ↦ hd.key) hroot h.length_le h.length_le' h
    exact ⟨congrArg Answer.documentation hsame, hafter⟩

/-- Requests for other crates leave sources alike. -/
theorem Alike.run_other {request : Request} {keys' : List DefId} (h : Alike crate keys s s')
    (hself : Alike request.crate keys' s s) (hne : request.crate ≠ crate) :
    Alike crate keys (request.run s).2 s' := by
  cases request with
  | root name =>
    rw [Request.run, run_resolveRoot]
    exact h
  | definition i => exact h.definition_other hne
  | children i =>
    rw [Request.run, run_childrenOf]
    exact h
  | documentation workers other =>
    have hkeeps : toSource.Keeps
        (Assurance.keeping fun t ↦ Alike crate keys t s' ∧ Alike other keys' t t)
        (crateOf · = other) (Inside other keys') := keeps_other hne
    have hyields := Graph.yields_building hkeeps other s.records.length workers fun t ht ↦ by
      rw [resolveRoot_toSource, run_resolveRoot]
      exact ⟨ht.2.uncached_resolveRoot.2, ht⟩
    exact (hyields [] s ⟨h, hself⟩).2.1

/-! ### One request after the other -/

/-- A source that keeps its crates apart: it is like itself, crate by crate. -/
def Apart (source : SnapshotSource) : Prop := ∀ crate, ∃ keys, Alike crate keys source source

/-- Whatever is asked for, the crates stay apart. -/
theorem Apart.run {source : SnapshotSource} (h : source.Apart) (request : Request) :
    (request.run source).2.Apart := by
  intro crate
  obtain ⟨keys, hkeys⟩ := h crate
  obtain ⟨keys', hself⟩ := h request.crate
  by_cases hcrate : request.crate = crate
  · subst hcrate
    exact ⟨keys, hkeys.run.2⟩
  -- The source before is like the one after, and so is that one itself.
  · exact ⟨keys, (hkeys.run_other hself hcrate).symm.run_other hself hcrate⟩

/-- The answers for a crate are those of a source that is alike, when it is asked for that crate
only. -/
theorem Alike.answersFor_eq (h : Alike crate keys s s') (hs : s.Apart) (requests : List Request) :
    answersFor crate requests s = answersFor crate (requests.filter (·.crate = crate)) s' := by
  induction requests generalizing s s' with
  | nil => rfl
  | cons request rest ih =>
    by_cases hcrate : request.crate = crate
    · subst hcrate
      obtain ⟨hsame, hafter⟩ := h.run
      rw [List.filter_cons, if_pos (decide_eq_true rfl), answersFor, answersFor,
        if_pos rfl, if_pos rfl, hsame, ih hafter (hs.run request)]
    · obtain ⟨keys', hself⟩ := hs request.crate
      rw [List.filter_cons, if_neg (by simpa using hcrate), answersFor, if_neg hcrate,
        ih (h.run_other hself hcrate) (hs.run request)]

/-! ### Loading -/

variable {payloads payloads' : List Value}

/-- The records of a crate are those of the snapshots that name it. -/
theorem flatMap_localRecords_filter (crate : String) (payloads : List Value) :
    (payloads.filter (crateName? · = some crate)).flatMap localRecords =
      (payloads.flatMap localRecords).filter (crateOf ·.1 = crate) := by
  induction payloads with
  | nil => rfl
  | cons payload rest ih =>
    have hcrate : ∀ record ∈ localRecords payload,
        (crateOf record.1 = crate ↔ crateName? payload = some crate) := by
      intro record hrecord
      rw [crateName?_of_mem_localRecords hrecord, Option.some.injEq]
    rw [List.filter_cons, List.flatMap_cons, List.filter_append, ← ih]
    split_ifs with hname
    · rw [List.flatMap_cons, List.filter_eq_self.2 fun record hrecord ↦
        decide_eq_true ((hcrate record hrecord).2 (of_decide_eq_true hname))]
    · rw [List.filter_eq_nil_iff.2 fun record hrecord hrecordCrate ↦
        hname (decide_eq_true ((hcrate record hrecord).1 (of_decide_eq_true hrecordCrate))),
        List.nil_append]

theorem filterMap_rootOf?_filter (crate : String) (records : List (DefId × Fields)) :
    (records.filter (crateOf ·.1 = crate)).filterMap rootOf? =
      (records.filterMap rootOf?).filter (·.1 = crate) := by
  rw [List.filterMap_filter, List.filter_filterMap]
  refine List.filterMap_congr fun record _ ↦ ?_
  rw [rootOf?]
  split_ifs with hcrate hroot
  · simpa [Option.filter] using hcrate
  · rfl
  · simpa [Option.filter] using hcrate
  · rfl

/-- A source that was loaded has the records and the root of a crate from the snapshots that name
it. -/
theorem get?_of_load (h : payloads.foldlM addSnapshot {} = .ok s) (crate : String) :
    (∀ id, crateOf id = crate → Entries.get? id s.records = Entries.get? id
      (Entries.ofPairs ((payloads.filter (crateName? · = some crate)).flatMap localRecords))) ∧
    Entries.get? crate s.roots = Entries.get? crate (Entries.ofPairs
      (((payloads.filter (crateName? · = some crate)).flatMap localRecords).filterMap
        rootOf?)) := by
  rw [flatMap_localRecords_filter, filterMap_rootOf?_filter]
  refine ⟨fun id hid ↦ ?_, ?_⟩
  · rw [records_of_load h]
    refine (Entries.get?_ofPairs_filter (p := (crateOf · = crate))
      (fun k hk ↦ decide_eq_true ?_) _).symm
    exact (crateOf_congr (DefId.beq_iff_key_eq.1 hk)).trans hid
  · rw [roots_of_load h]
    exact (Entries.get?_ofPairs_filter (p := (· = crate))
      (fun k hk ↦ decide_eq_true (eq_of_beq hk)) _).symm

open scoped Classical in
/-- The ids of the records of a crate. -/
noncomputable def keysOf (crate : String) (source : SnapshotSource) : List DefId :=
  ((source.records.map (·.1.key)).filter (crateOf · = crate)).dedup

open scoped Classical in
theorem mem_keysOf_iff {source : SnapshotSource} {key : DefId} :
    key ∈ keysOf crate source ↔
      crateOf key = crate ∧ ∃ id, Entries.has id source.records = true ∧ id.key = key := by
  rw [keysOf, List.mem_dedup, List.mem_filter, List.mem_map, decide_eq_true_iff, and_comm]
  refine and_congr_right fun _ ↦ ⟨?_, ?_⟩
  · rintro ⟨record, hrecord, rfl⟩
    exact ⟨record.1, Entries.has_eq_true_iff_exists.2
      ⟨record.1, List.mem_map_of_mem hrecord, beq_self_eq_true record.1⟩, rfl⟩
  · rintro ⟨id, hid, rfl⟩
    obtain ⟨k, hk, hbeq⟩ := Entries.has_eq_true_iff_exists.1 hid
    obtain ⟨record, hrecord, rfl⟩ := List.mem_map.1 hk
    exact ⟨record, hrecord, DefId.beq_iff_key_eq.1 hbeq⟩

open scoped Classical in
/-- A source has at least as many records as a crate has ids. -/
theorem length_keysOf_le (h : ∀ id, crateOf id = crate →
    Entries.get? id s.records = Entries.get? id s'.records) :
    (keysOf crate s).length ≤ s'.records.length := by
  have hsubset : keysOf crate s ⊆ s'.records.map (·.1.key) := by
    intro key hkey
    obtain ⟨hcrate, id, hid, rfl⟩ := mem_keysOf_iff.1 hkey
    rw [crateOf_key] at hcrate
    rw [Entries.has, h id hcrate] at hid
    obtain ⟨k, hk, hbeq⟩ := Entries.has_eq_true_iff_exists.1 hid
    obtain ⟨record, hrecord, rfl⟩ := List.mem_map.1 hk
    exact List.mem_map.2 ⟨record, hrecord, DefId.beq_iff_key_eq.1 hbeq⟩
  have hnodup : (keysOf crate s).Nodup := List.nodup_dedup _
  simpa using (List.subperm_of_subset hnodup hsubset).length_le

/-- Sources that were loaded from the same snapshots of a crate are alike in it, whatever other
snapshots there were. -/
theorem alike_of_load (h : payloads.foldlM addSnapshot {} = .ok s)
    (h' : payloads'.foldlM addSnapshot {} = .ok s')
    (hsame : payloads.filter (crateName? · = some crate) =
      payloads'.filter (crateName? · = some crate)) :
    Alike crate (keysOf crate s) s s' := by
  obtain ⟨hrecords, hroots⟩ := get?_of_load h crate
  obtain ⟨hrecords', hroots'⟩ := get?_of_load h' crate
  rw [← hsame] at hrecords' hroots'
  -- records of the crate come from its own payloads, which are the same on both sides
  have hsameRecords : ∀ id, crateOf id = crate →
      Entries.get? id s.records = Entries.get? id s'.records := fun id hid ↦
    (hrecords id hid).trans (hrecords' id hid).symm
  exact {
    roots := hroots.trans hroots'.symm
    crateOf_root := fun id hid ↦ by
      obtain ⟨name, hmem, hname⟩ := Entries.exists_mem_of_get?_ofPairs (hroots.symm.trans hid)
      obtain ⟨record, -, rfl, hcrate, -⟩ := mem_filterMap_rootOf?.1 hmem
      exact hcrate.trans (eq_of_beq hname)
    records := hsameRecords
    mem_keys := fun id fields hid hget ↦ mem_keysOf_iff.2
      ⟨(crateOf_key id).trans hid, id, by rw [Entries.has, hget]; rfl, rfl⟩
    cache := fun id _ ↦ by rw [cache_of_load h, cache_of_load h']
    inside := fun id d _ hget ↦ by
      rw [cache_of_load h] at hget
      cases hget
    length_le := length_keysOf_le fun _ _ ↦ rfl
    length_le' := length_keysOf_le hsameRecords }

/-- A source that was loaded keeps its crates apart. -/
theorem apart_of_load (h : payloads.foldlM addSnapshot {} = .ok s) : s.Apart :=
  fun crate ↦ ⟨keysOf crate s, alike_of_load h h rfl⟩

/-- Snapshots can be loaded if nothing is wrong with any of them. -/
theorem exists_foldlM_addSnapshot_iff {source : SnapshotSource} :
    (∃ source', payloads.foldlM addSnapshot source = .ok source') ↔
      ∀ payload ∈ payloads, snapshotFault? payload = none := by
  induction payloads generalizing source with
  | nil => exact ⟨fun _ _ h ↦ absurd h List.not_mem_nil, fun _ ↦ ⟨source, rfl⟩⟩
  | cons payload rest ih =>
    rw [List.forall_mem_cons, List.foldlM_cons]
    rcases addSnapshot_cases source payload with ⟨hfault, next, hadd⟩ | ⟨e, hfault, hadd⟩
    · rw [hadd]
      exact ih.trans (and_iff_right hfault).symm
    · rw [hadd, hfault]
      exact iff_of_false nofun nofun

/-- **Crates do not interfere.** Whatever snapshots were loaded and whatever is asked for in which
order, the answers for a crate are those of a source that was loaded from the snapshots of that
crate only, in their order, and is asked for that crate only. So they are the same for any other
snapshots of other crates, before, between and behind those of the crate. -/
theorem crates_do_not_interfere (h : payloads.foldlM addSnapshot {} = .ok s) (crate : String) :
    (∃ own, (payloads.filter (crateName? · = some crate)).foldlM addSnapshot {} = .ok own ∧
      ∀ requests, answersFor crate requests s =
        answersFor crate (requests.filter (·.crate = crate)) own) ∧
    ∀ (payloads' : List Value) (s' : SnapshotSource), payloads'.foldlM addSnapshot {} = .ok s' →
      payloads'.filter (crateName? · = some crate) =
        payloads.filter (crateName? · = some crate) →
      ∀ requests requests' : List Request, requests'.filter (·.crate = crate) =
          requests.filter (·.crate = crate) →
        answersFor crate requests' s' = answersFor crate requests s := by
  obtain ⟨own, hown⟩ : ∃ own,
      (payloads.filter (crateName? · = some crate)).foldlM addSnapshot {} = .ok own := by
    refine exists_foldlM_addSnapshot_iff.2 fun payload hpayload ↦ ?_
    exact exists_foldlM_addSnapshot_iff.1 ⟨s, h⟩ payload (List.mem_of_mem_filter hpayload)
  -- any store answers for the crate as the store of its own payloads does
  have hanswers : ∀ {payloads' : List Value} {s' : SnapshotSource},
      payloads'.foldlM addSnapshot {} = .ok s' →
      payloads'.filter (crateName? · = some crate) =
        payloads.filter (crateName? · = some crate) →
      ∀ requests, answersFor crate requests s' =
        answersFor crate (requests.filter (·.crate = crate)) own := by
    intro payloads' s' h' hsame requests
    refine (alike_of_load h' hown ?_).answersFor_eq (apart_of_load h') requests
    rw [hsame, List.filter_filter]
    simp only [Bool.and_self]
  refine ⟨⟨own, hown, hanswers h rfl⟩, fun payloads' s' h' hsame requests requests' hrequests ↦ ?_⟩
  rw [hanswers h' hsame requests', hanswers h rfl requests, hrequests]

/-- The snapshot of a crate with one function. -/
def functionSnapshot (crate name : String) : Value :=
  sampleSnapshot crate [sampleRecord 1 "Mod" "::" [2], sampleRecord 2 "Function" name []]

/-- The ids of two crates differ in the name of the crate only. -/
theorem functionSnapshots_do_not_interfere :
    ∃ s own graph logs,
      [functionSnapshot "d" "::g", functionSnapshot "c" "::f"].foldlM addSnapshot {} = .ok s ∧
      [functionSnapshot "c" "::f"].foldlM addSnapshot {} = .ok own ∧
      answersFor "c" [.documentation none "d", .documentation none "c"] s =
        answersFor "c" [.documentation none "c"] own ∧
      answersFor "c" [.documentation none "c"] own = [.documentation (.ok graph, logs)] ∧
      graph.documents.map (·.id) = ["c", "c::f"] := by
  have hload : [functionSnapshot "d" "::g", functionSnapshot "c" "::f"].foldlM addSnapshot {} =
      .ok _ := rfl
  obtain ⟨⟨own, hown, hanswers⟩, -⟩ := crates_do_not_interfere hload "c"
  have hload' : [functionSnapshot "c" "::f"].foldlM addSnapshot {} = .ok _ := rfl
  obtain rfl := Except.ok.inj (hload'.symm.trans hown)
  exact ⟨_, _, _, _, hload, hload', hanswers _, rfl, rfl⟩

end CrateDoc.SnapshotSource
