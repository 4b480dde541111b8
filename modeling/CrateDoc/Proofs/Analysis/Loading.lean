import CrateDoc.Json.Writer
import CrateDoc.Proofs.Concurrency.Schedules

/-!
# How loading fails

Snapshot files are read in the order of their names, and the first one that something is wrong with
ends the loading (`addFiles_eq_error_iff`). Inside of a snapshot nothing can be wrong but that its
crate has no name: records, ids and children of any other shape than the expected one are left out.
So what is wrong with a file is a failed look-up (`IsFileFailure`), with two exceptions: a number of
too many digits, and a value that is no object (`fileFault?_eq_malformed_iff`).

A source that was loaded fails as its interface says (`failsByName_uncached`), and so does every
build over it, whatever the source remembers of builds before; again with an exception, a text that
has no plain summary (`build_fails_by_name`).
-/

namespace CrateDoc

open CrateDoc.Json

/-- A failed look-up in a snapshot file. -/
def AnalysisError.IsFileFailure : AnalysisError → Prop
  | .unreadable _ _ | .namelessSnapshot => True
  | _ => False

/-- Whether an error has a name does not depend on how an id in it is spelled. -/
theorem Graph.isNamed_key_iff {e : GraphError} : IsNamed e.key ↔ IsNamed e := by
  rcases e with a | id | name | e | - | e
  case analysis =>
    have hlookup : a.key.IsLookupFailure ↔ a.IsLookupFailure := by
      cases a
      all_goals exact Iff.rfl
    simp only [IsNamed, GraphError.key, GraphError.analysis.injEq, exists_eq_right', hlookup,
      reduceCtorEq, exists_false, or_false]
  all_goals simp [IsNamed, GraphError.key]

theorem Graph.eq_crateNotFound_of_key {e : GraphError} {crate : String}
    (h : e.key = .analysis (.crateNotFound crate)) : e = .analysis (.crateNotFound crate) := by
  cases e with
  | analysis a =>
    cases a
    all_goals cases h
    rfl
  | _ => cases h

namespace SnapshotSource

/-- What is wrong with a snapshot. -/
def snapshotFault? (payload : Value) : Option AnalysisError :=
  if payload.isObject then
    if (crateName? payload).isSome then none else some .namelessSnapshot
  else some .malformedSnapshot

/-- What is wrong with a snapshot file. -/
def fileFault? (tree : FileTree) (path : Path) : Option AnalysisError :=
  match readFile tree path with
  | .ok payload => snapshotFault? payload
  | .error e => some e

/-! ### Files -/

variable {tree : FileTree} {path directory : Path}

/-- A snapshot is taken in, or something is wrong with it. -/
theorem addSnapshot_cases (source : SnapshotSource) (payload : Value) :
    (snapshotFault? payload = none ∧ ∃ source', source.addSnapshot payload = .ok source') ∨
      ∃ e, snapshotFault? payload = some e ∧ source.addSnapshot payload = .error e := by
  rw [snapshotFault?, addSnapshot]
  split_ifs with hobject hname
  · obtain ⟨crate, hcrate⟩ := Option.isSome_iff_exists.1 hname
    rw [hcrate]
    exact .inl ⟨rfl, _, rfl⟩
  · rw [Option.not_isSome_iff_eq_none.1 hname]
    exact .inr ⟨_, rfl, rfl⟩
  · exact .inr ⟨_, rfl, rfl⟩

/-- Loading ends with the first file that something is wrong with. -/
theorem addFiles_eq_error_iff {source : SnapshotSource} {files : List Path} {e : AnalysisError} :
    addFiles tree source files = .error e ↔ files.findSome? (fileFault? tree) = some e := by
  induction files generalizing source with
  | nil => exact ⟨nofun, nofun⟩
  | cons file files ih =>
    rw [addFiles, List.findSome?_cons, fileFault?]
    rcases readFile tree file with e' | payload
    · simp only [bind, Except.bind, Except.error.injEq, Option.some.injEq]
    · rcases addSnapshot_cases source payload with ⟨hfault, source', hadd⟩ | ⟨e', hfault, hadd⟩
      · simp only [bind, Except.bind, hadd, hfault]
        exact ih
      · simp only [bind, Except.bind, hadd, hfault, Except.error.injEq, Option.some.injEq]

/-- What is loaded from files is loaded from the snapshots in them. -/
theorem exists_payloads_of_addFiles {source source' : SnapshotSource} {files : List Path}
    (h : addFiles tree source files = .ok source') :
    ∃ payloads : List Value, payloads.foldlM addSnapshot source = .ok source' := by
  induction files generalizing source with
  | nil => exact ⟨[], h⟩
  | cons file files ih =>
    obtain ⟨payload, -, h⟩ := bind_eq_ok_iff.1 h
    obtain ⟨next, hadd, h⟩ := bind_eq_ok_iff.1 h
    obtain ⟨payloads, hpayloads⟩ := ih h
    exact ⟨payload :: payloads, bind_eq_ok_iff.2 ⟨next, hadd, hpayloads⟩⟩

/-- A file that cannot be read is a failed look-up, unless it holds a number of too many digits. -/
theorem readFile_eq_error {e : AnalysisError} (h : readFile tree path = .error e) :
    (∃ reason, e = .unreadable path.toString reason) ∨ ∃ complaint, e = .longNumber complaint := by
  rcases bind_eq_error_iff.1 h with h | ⟨bytes, -, h⟩
  · obtain ⟨_, -, rfl⟩ := mapError_eq_error_iff.1 h
    exact .inl ⟨_, rfl⟩
  rcases bind_eq_error_iff.1 h with h | ⟨text, -, h⟩
  · obtain ⟨_, -, rfl⟩ := mapError_eq_error_iff.1 h
    exact .inl ⟨_, rfl⟩
  obtain ⟨e', -, rfl⟩ := mapError_eq_error_iff.1 h
  dsimp only
  split
  · exact .inr ⟨_, rfl⟩
  · exact .inl ⟨_, rfl⟩

/-- Only a value that is no object makes a file malformed. -/
theorem fileFault?_eq_malformed_iff :
    fileFault? tree path = some .malformedSnapshot ↔
      ∃ payload, readFile tree path = .ok payload ∧ payload.isObject = false := by
  rw [fileFault?]
  rcases hread : readFile tree path with e | payload
  · refine ⟨fun h ↦ ?_, nofun⟩
    cases h
    rcases readFile_eq_error hread with ⟨_, ⟨⟩⟩ | ⟨_, ⟨⟩⟩
  · simp only [snapshotFault?, Except.ok.injEq, exists_eq_left']
    split_ifs with hobject
    · simp [hobject]
    · simp [hobject]
    · simpa using hobject

/-- What is wrong with a file is a failed look-up, with two exceptions. -/
theorem isFileFailure_of_fileFault? {e : AnalysisError} (h : fileFault? tree path = some e) :
    e.IsFileFailure ∨ e = .malformedSnapshot ∨
      ∃ complaint, readFile tree path = .error (.longNumber complaint) := by
  rw [fileFault?] at h
  rcases hread : readFile tree path with e' | payload
  · rw [hread] at h
    cases h
    rcases readFile_eq_error hread with ⟨reason, rfl⟩ | ⟨complaint, rfl⟩
    · exact .inl trivial
    · exact .inr (.inr ⟨complaint, rfl⟩)
  · rw [hread] at h
    dsimp only [snapshotFault?] at h
    split_ifs at h
    · cases h
      exact .inl trivial
    · cases h
      exact .inr (.inl rfl)

/-! ### Builds -/

/-- A source of snapshots fails as its interface says. -/
theorem failsByName_uncached (source : SnapshotSource) : source.uncached.FailsByName where
  resolveRoot {name e} h := by
    simp only [uncached] at h
    split at h
    · cases h
    · cases h
      rfl
  definition {id e} h := by
    simp only [uncached] at h
    split at h
    · simp only [lower] at h
      split at h
      · cases h
        trivial
      · split at h
        · cases h
          trivial
        · cases h
    · cases h
      trivial
  childrenOf {id e} h := by
    simp only [uncached] at h
    split at h
    · cases h
    · cases h
      trivial

/-- A build over a source that was loaded fails by name, for want of a plain summary, or for want of
workers. -/
theorem error_of_build {source other : SnapshotSource} (h : source.Serves other)
    {workers : Option Int} {crate : String} {e : GraphError}
    (hbuild : ((Graph.build toSource source.records.length workers crate).run other).1.1 =
      .error e) :
    e = .analysis (.crateNotFound crate) ∨ Graph.IsNamed e ∨
      Graph.LacksSummary source.uncached crate e ∨
        e = .noWorkers ∧ workers.any (· < 1) = true := by
  obtain ⟨cache, hcache, rfl⟩ := h
  -- The result is that of a build which remembers nothing, up to the spelling of ids.
  have hkeys :=
    build_toSource { source with cache := cache } hcache source.records.length workers crate
  rw [hbuild] at hkeys
  obtain ⟨e', he', hkey⟩ := mapError_eq_error_iff.1 hkeys.symm
  rcases Graph.error_of_build (Graph.finite_uncached source) source.failsByName_uncached he' with
    rfl | hnamed | ⟨id, root, c, error, hid, hroot, hc, hplain, rfl⟩ | ⟨rfl, hworkers⟩
  · exact .inl (Graph.eq_crateNotFound_of_key hkey.symm)
  · exact .inr (.inl (Graph.isNamed_key_iff.1 (hkey ▸ Graph.isNamed_key_iff.2 hnamed)))
  · refine .inr (.inr (.inl ⟨id, root, c, error, hid, hroot, hc, hplain, ?_⟩))
    cases e <;> cases hkey
    rfl
  · refine .inr (.inr (.inr ⟨?_, hworkers⟩))
    cases e <;> cases hkey
    rfl

/-- A build over a source that was loaded ends with a graph, or fails by name, or a text has no
plain summary. -/
theorem build_fails_by_name {source other : SnapshotSource} (h : source.Serves other)
    {workers : Option Int} (hworkers : workers.any (· < 1) = false) (crate : String) :
    (∃ graph, ((Graph.build toSource source.records.length workers crate).run other).1.1 =
        .ok graph) ∨
      ∃ e, ((Graph.build toSource source.records.length workers crate).run other).1.1 = .error e ∧
        (e = .analysis (.crateNotFound crate) ∨ Graph.IsNamed e ∨
          Graph.LacksSummary source.uncached crate e) := by
  rcases hrun : ((Graph.build toSource source.records.length workers crate).run other).1.1
    with e | graph
  · refine .inr ⟨e, rfl, ?_⟩
    rcases error_of_build h hrun with hmissing | hnamed | hlacks | ⟨-, hnone⟩
    · exact .inl hmissing
    · exact .inr (.inl hnamed)
    · exact .inr (.inr hlacks)
    · rw [hworkers] at hnone
      cases hnone
  · exact .inl ⟨graph, rfl⟩

/-! ### Loading and building -/

/-- A file that a snapshot is taken in from. -/
def HoldsSnapshot (tree : FileTree) (path : Path) : Prop :=
  ∃ payload, readFile tree path = .ok payload ∧ payload.isObject = true ∧
    (crateName? payload).isSome = true

/-- Nothing is wrong with a file exactly if a snapshot is taken in from it. -/
theorem fileFault?_eq_none_iff : fileFault? tree path = none ↔ HoldsSnapshot tree path := by
  rw [fileFault?, HoldsSnapshot]
  rcases readFile tree path with e | payload
  · simp
  · simp only [snapshotFault?, Except.ok.injEq, exists_eq_left']
    split_ifs with hobject hname
    · simp [hobject, hname]
    · simp [hobject, hname]
    · simp [hobject]

/-- **Loading and building fail by name, unless a file holds a value that is no object.** As long as
no file holds a number of too many digits, what ends the loading is a failed look-up, or else the
first file from which no snapshot is taken in holds a value that is no object. A source that was
loaded gives a graph of a crate, or fails by name, or something that the crate shows has a text
without a plain summary, whatever the source remembers of builds before. -/
theorem load_and_build_fail_by_name (tree : FileTree) (directory : Path)
    (hnumbers : ∀ path ∈ filesIn tree directory, ∀ complaint,
      readFile tree path ≠ .error (.longNumber complaint)) :
    (∀ e, (load tree directory).2 = .error e → e.IsFileFailure ∨ e = .malformedSnapshot) ∧
      ((load tree directory).2 = .error .malformedSnapshot ↔
        ∃ before path after payload, filesIn tree directory = before ++ path :: after ∧
          (∀ earlier ∈ before, HoldsSnapshot tree earlier) ∧
          readFile tree path = .ok payload ∧ payload.isObject = false) ∧
      ∀ source, (load tree directory).2 = .ok source → source.Serves source ∧
        ∀ other, source.Serves other → ∀ workers crate, workers.any (· < 1) = false →
          (∃ graph, ((Graph.build toSource source.records.length workers crate).run other).1.1 =
              .ok graph) ∨
            ∃ e, ((Graph.build toSource source.records.length workers crate).run other).1.1 =
                .error e ∧ (e = .analysis (.crateNotFound crate) ∨ Graph.IsNamed e ∨
                  Graph.LacksSummary source.uncached crate e) := by
  refine ⟨fun e h ↦ ?_, ?_, fun source h ↦ ⟨?_, fun other hother workers crate hworkers ↦
    build_fails_by_name hother hworkers crate⟩⟩
  · obtain ⟨path, hpath, hfault⟩ := List.exists_of_findSome?_eq_some (addFiles_eq_error_iff.1 h)
    rcases isFileFailure_of_fileFault? hfault with hnamed | hmalformed | ⟨complaint, hread⟩
    · exact .inl hnamed
    · exact .inr hmalformed
    · exact absurd hread (hnumbers path hpath complaint)
  · rw [load, addFiles_eq_error_iff, List.findSome?_eq_some_iff]
    simp only [fileFault?_eq_malformed_iff, fileFault?_eq_none_iff]
    constructor
    · rintro ⟨before, path, after, hfiles, ⟨payload, hread, hobject⟩, hbefore⟩
      exact ⟨before, path, after, payload, hfiles, hbefore, hread, hobject⟩
    · rintro ⟨before, path, after, payload, hfiles, hbefore, hread, hobject⟩
      exact ⟨before, path, after, hfiles, ⟨payload, hread, hobject⟩, hbefore⟩
  · -- a source fresh from the files has cached nothing
    obtain ⟨payloads, hpayloads⟩ := exists_payloads_of_addFiles h
    exact ⟨[], source.coherent_nil, by rw [← cache_of_load hpayloads]⟩

/-! ### Two snapshots and an empty list -/

/-- A directory with snapshot files. -/
def sampleTree (files : List (String × List Char)) : FileTree where
  entries := files.map fun file ↦ (["d", file.1], .file (Text.Utf8.encode file.2))

/-- A snapshot of a crate with a structure, whose fields have some ids. -/
def structSnapshot (crate : String) (fields : List Int) : Value :=
  sampleSnapshot crate [sampleRecord 0 "Mod" "::" [1], sampleRecord 1 "Struct" "::S" fields]

/-- The snapshots of two crates. The structure of the second has a field that is not there. -/
def samplePair : FileTree :=
  sampleTree [("a.json", write ⟨none⟩ 0 (structSnapshot "c" [])),
    ("b.json", write ⟨none⟩ 0 (structSnapshot "d" [2]))]

theorem filesIn_samplePair : filesIn samplePair ⟨.none, ["d"]⟩ =
    [⟨.none, ["d", "a.json"]⟩, ⟨.none, ["d", "b.json"]⟩] := by
  have hnames : (samplePair.names ⟨.none, ["d"]⟩).filter
      (fun name ↦ ".json".toList.isSuffixOf name.toList) = ["a.json", "b.json"] := rfl
  rw [filesIn, hnames, List.mergeSort_of_pairwise (by simp)]
  rfl

/-- The ids of the documents of a crate, or why there are none. -/
def idsOf (source : SnapshotSource) (crate : String) : Except String (List String) :=
  (((Graph.build toSource source.records.length none crate).run source).1.1.map fun graph ↦
    graph.included.map (·.id)).mapError (·.message)

theorem idsOf_samplePair : (load samplePair ⟨.none, ["d"]⟩).2.toOption.map
    (fun source ↦ (idsOf source "c", idsOf source "d")) =
      some (.ok ["c::S"], .error "Analysis lookup failed for ('d', 2): unknown definition id") := by
  rw [load, filesIn_samplePair]
  decide +kernel

/-- The first crate has a graph with the structure, and the second one fails for the missing
field. -/
theorem load_and_build_samplePair_fail_by_name :
    (∀ path ∈ filesIn samplePair ⟨.none, ["d"]⟩, ∀ complaint,
      readFile samplePair path ≠ .error (.longNumber complaint)) ∧
    ∃ source, (load samplePair ⟨.none, ["d"]⟩).2 = .ok source ∧
      (∃ graph, ((Graph.build toSource source.records.length none "c").run source).1.1 =
          .ok graph ∧ graph.included.map (·.id) = ["c::S"]) ∧
      ∃ e, ((Graph.build toSource source.records.length none "d").run source).1.1 = .error e ∧
        e.message = "Analysis lookup failed for ('d', 2): unknown definition id" ∧
        (e = .analysis (.crateNotFound "d") ∨ Graph.IsNamed e ∨
          Graph.LacksSummary source.uncached "d" e) := by
  have hread : ∀ path ∈ [(⟨.none, ["d", "a.json"]⟩ : Path), ⟨.none, ["d", "b.json"]⟩],
      (readFile samplePair path).toOption.isSome := by
    decide +kernel
  have hnumbers : ∀ path ∈ filesIn samplePair ⟨.none, ["d"]⟩, ∀ complaint,
      readFile samplePair path ≠ .error (.longNumber complaint) := by
    rw [filesIn_samplePair]
    intro path hpath complaint hlong
    have hsome := hread path hpath
    rw [hlong] at hsome
    cases hsome
  have hids := idsOf_samplePair
  rcases hload : (load samplePair ⟨.none, ["d"]⟩).2 with e | source
  · rw [hload] at hids
    cases hids
  rw [hload] at hids
  obtain ⟨hc, hd⟩ := Prod.mk.injEq .. ▸ Option.some.inj hids
  obtain ⟨hserves, hnamed⟩ := (load_and_build_fail_by_name _ _ hnumbers).2.2 source hload
  obtain ⟨graph, hgraph, hdocuments⟩ := map_eq_ok_iff.1 (mapError_eq_ok_iff.1 hc)
  obtain ⟨e, he, hmessage⟩ := mapError_eq_error_iff.1 hd
  rw [map_eq_error_iff] at he
  refine ⟨hnumbers, source, rfl, ⟨graph, hgraph, hdocuments⟩, e, he, hmessage, ?_⟩
  rcases hnamed source hserves none "d" rfl with ⟨graph, hok⟩ | ⟨e', he', hname⟩
  · cases he.symm.trans hok
  · cases he.symm.trans he'
    exact hname

/-- A directory with a file that holds an empty list. -/
def listTree : FileTree := sampleTree [("a.json", "[]".toList)]

theorem filesIn_listTree : filesIn listTree ⟨.none, ["d"]⟩ = [⟨.none, ["d", "a.json"]⟩] := by
  have hnames : (listTree.names ⟨.none, ["d"]⟩).filter
      (fun name ↦ ".json".toList.isSuffixOf name.toList) = ["a.json"] := rfl
  rw [filesIn, hnames, List.mergeSort_singleton]
  rfl

/-- An empty list is a JSON value, but no snapshot, and nothing says so. -/
theorem not_load_fails_by_name :
    ¬ ∀ (tree : FileTree) (directory : Path),
      (∀ path ∈ filesIn tree directory, ∀ complaint,
        readFile tree path ≠ .error (.longNumber complaint)) →
      ∀ e, (load tree directory).2 = .error e → e.IsFileFailure := by
  intro h
  have hread : readFile listTree ⟨.none, ["d", "a.json"]⟩ = .ok (.list []) := rfl
  have hload : (load listTree ⟨.none, ["d"]⟩).2 = .error .malformedSnapshot := by
    rw [load, filesIn_listTree]
    rfl
  refine h listTree ⟨.none, ["d"]⟩ ?_ _ hload
  rw [filesIn_listTree]
  intro path hpath complaint hlong
  rw [List.mem_singleton.1 hpath, hread] at hlong
  cases hlong

end SnapshotSource

end CrateDoc
