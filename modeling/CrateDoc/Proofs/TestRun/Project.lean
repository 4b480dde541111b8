import CrateDoc.Proofs.Config
import CrateDoc.Proofs.TestRun.Discipline

/-!
# Opening a project

A project is opened by looking at its manifest and at its settings, and asking cargo for its
metadata (`returns_openProject_iff`). The first two are looked up in the files; what cargo is asked,
and what becomes of the answer, is the same in every session (`sameResult_resolveTarget`).
-/

namespace CrateDoc

open CrateDoc.Action

/-! ### Work that does not look at the session -/

namespace Action

variable {α β : Type} {s t : Surroundings}

/-- From whatever sessions, work ends with the same result in the one surroundings and in the
other. -/
def SameResult (work : Action α) (s t : Surroundings) : Prop :=
  ∀ ⦃before before' : Session⦄ ⦃result result' : Except Failure α⦄ ⦃after after' : Session⦄,
    Runs work s before result after → Runs work t before' result' after' → result' = result

theorem sameResult_pure (a : α) : SameResult (pure a) s t := fun _ _ _ _ _ _ h h' ↦
  (runs_pure_iff.1 h').1.trans (runs_pure_iff.1 h).1.symm

theorem sameResult_throw (failure : Failure) : SameResult (throw failure : Action α) s t :=
  fun _ _ _ _ _ _ h h' ↦ (runs_throw_iff.1 h').1.trans (runs_throw_iff.1 h).1.symm

theorem sameResult_ofExcept {ε : Type} (toFailure : ε → Failure) (r : Except ε α) :
    SameResult (ofExcept toFailure r) s t := fun _ _ _ _ _ _ h h' ↦
  (runs_ofExcept_iff.1 h').1.trans (runs_ofExcept_iff.1 h).1.symm

theorem sameResult_log (r : LogRecord) : SameResult (log r) s t := fun _ _ _ _ _ _ h h' ↦
  (runs_log_iff.1 h').1.trans (runs_log_iff.1 h).1.symm

theorem SameResult.bind {x : Action α} {f : α → Action β} (hx : SameResult x s t)
    (hf : ∀ a, SameResult (f a) s t) : SameResult (x >>= f) s t := by
  intro before before' result result' after after' h h'
  rcases h.of_bind with ⟨failure, hfirst, rfl⟩ | ⟨a, between, hfirst, hsecond⟩
  · rcases h'.of_bind with ⟨failure', hfirst', rfl⟩ | ⟨a', between', hfirst', -⟩
    · cases hx hfirst hfirst'
      rfl
    · cases hx hfirst hfirst'
  · rcases h'.of_bind with ⟨failure', hfirst', -⟩ | ⟨a', between', hfirst', hsecond'⟩
    · cases hx hfirst hfirst'
    · cases hx hfirst hfirst'
      exact hf a hsecond hsecond'

theorem sameResult_logAll (records : List LogRecord) : SameResult (logAll records) s t := by
  induction records with
  | nil => exact sameResult_pure ()
  | cons record records ih => exact (sameResult_log record).bind fun _ ↦ ih

/-- A program that answers the same is gone on with in the same way. -/
theorem sameResult_start {call : Child.Call} (h : t.runner call = s.runner call) :
    SameResult (start call) s t := by
  intro before before' result result' after after' hruns hruns'
  have hresult : ∀ {u : Surroundings} {before after : Session} {result},
      Runs (start call) u before result after → result = (u.runner call).mapError .child :=
    fun hruns ↦ (runs_ofExcept_iff.1 hruns).1
  rw [hresult hruns, hresult hruns', h]

end Action

variable {s t : Surroundings}

/-- Whether an answer is a success can be seen from the answer alone. -/
theorem Cargo.sameResult_requireSuccess (response : Child.Response) :
    SameResult (requireSuccess response) s t := by
  rw [requireSuccess]
  split
  · exact sameResult_throw _
  · exact sameResult_pure ()

/-- What becomes of the metadata of a project is decided by the answer of cargo. -/
theorem Cargo.sameResult_metadata {cargo : String} {manifest : Path}
    (h : t.runner (metadataCall cargo manifest) = s.runner (metadataCall cargo manifest)) :
    SameResult (metadata cargo manifest) s t := by
  refine (sameResult_start h).bind fun response ↦ ?_
  refine (sameResult_requireSuccess response).bind fun _ ↦ ?_
  rcases Json.Value.read .tolerant response.stdout.toList with fault | value
  · dsimp only
    split
    · exact sameResult_throw _
    · exact sameResult_throw _
  · dsimp only
    split
    · exact sameResult_pure _
    · exact sameResult_throw _

/-- The target depends on the answer to one call, and on nothing else of the surroundings. -/
theorem sameResult_resolveTarget {manifest : Path} {config : Config}
    (h : t.runner (Cargo.metadataCall config.cargo manifest) =
      s.runner (Cargo.metadataCall config.cargo manifest)) :
    SameResult (resolveTarget manifest config) s t := by
  rw [resolveTarget]
  refine (Cargo.sameResult_metadata h).bind fun metadata ↦ ?_
  refine (sameResult_ofExcept _ _).bind fun chosen ↦ ?_
  refine (sameResult_logAll _).bind fun _ ↦ ?_
  exact (sameResult_log _).bind fun _ ↦ sameResult_pure _

/-! ### The manifest and the settings -/

variable {before after : Session}

/-- A manifest passes if it is called what a manifest is called and is a file. -/
theorem Cargo.returns_checkManifest_iff {path manifest : Path} :
    Returns (checkManifest path) s before manifest after ↔
      (manifest = path ∧ after = before) ∧
        path.name = manifestName ∧ before.tree.isFile (s.directory.join path) = true := by
  constructor
  · intro h
    obtain ⟨hafter, hmanifest⟩ := runs_checkManifest h
    refine ⟨⟨hmanifest manifest rfl, hafter⟩, ?_⟩
    rw [checkManifest] at h
    split at h
    · cases (Runs.of_throw_bind h).1
    · rename_i hname
      have h := (Runs.of_absolute_bind h).of_get_bind
      split at h
      · cases h.of_throw_bind.1
      · rename_i hfile
        exact ⟨by simpa using hname, by simpa using hfile⟩
  · rintro ⟨⟨rfl, rfl⟩, hname, hfile⟩
    rw [checkManifest, if_neg (not_not_intro hname)]
    show Returns (if !after.tree.isFile (s.directory.join manifest) then _ else pure manifest) s
      after manifest after
    rw [hfile]
    rfl

/-- A project is opened if its manifest is there, its settings can be loaded, and cargo names a
target. -/
theorem returns_openProject_iff {manifest path : Path} {config : Config} {target : Cargo.Target} :
    Returns (openProject manifest) s before (path, config, target) after ↔
      (s.fault? manifest = none ∧ path = s.canonical manifest ∧
        path.name = manifestName ∧ before.tree.isFile (s.directory.join path) = true) ∧
      Config.load before.tree s.toStandpoint path.parent = .ok config ∧
      Returns (resolveTarget path config) s before target after := by
  constructor
  · intro h
    rcases Runs.of_canonical_bind h with ⟨_, -, hresult, -⟩ | ⟨hfollow, h⟩
    · cases hresult
    rcases h.of_bind with ⟨_, -, hresult⟩ | ⟨manifest', between, hcheck, hrest⟩
    · cases hresult
    obtain ⟨⟨rfl, rfl⟩, hname, hfile⟩ := Cargo.returns_checkManifest_iff.1 hcheck
    rcases hrest.of_read_bind.of_withTree_bind with ⟨_, -, hresult, -⟩ | ⟨config', hconfig, hrest⟩
    · cases hresult
    obtain ⟨ending, htarget, hending⟩ := hrest.of_bind_pure
    rcases ending with e | target'
    · cases hending
    · cases hending
      exact ⟨⟨hfollow, rfl, hname, hfile⟩, hconfig, htarget⟩
  · rintro ⟨⟨hfollow, rfl, hname, hfile⟩, hconfig, htarget⟩
    have hpath : Returns (Action.canonical manifest) s before (s.canonical manifest) before :=
      runs_canonical_iff.2 ⟨.inl ⟨hfollow, rfl⟩, rfl⟩
    have hcheck := Cargo.returns_checkManifest_iff.2 ⟨⟨rfl, rfl⟩, hname, hfile⟩
    have hload : Returns (withTree .config
        (Config.load · s.toStandpoint (s.canonical manifest).parent)) s before config before :=
      runs_ofExcept_iff.2 ⟨by dsimp only; rw [hconfig]; rfl, rfl⟩
    exact hpath.bind (hcheck.bind (hload.bind (htarget.bind (returns_pure _ _))))

/-! ### Where the manifest stands -/

/-- A path from the root that goes down only leads to a manifest, in the directory at a place. -/
structure IsManifest (tree : FileTree) (path : Path) (place : List String) : Prop where
  name : path.name = manifestName
  absolute : path.isAbsolute = true
  down : ".." ∉ path.parts
  isAt : tree.IsAt path.parent place
  file : ∃ bytes, tree.at? (place ++ [manifestName]) = some (.file bytes)

theorem isComponent_manifestName : Path.IsComponent manifestName :=
  ⟨by decide, by decide, by decide, by decide⟩

/-- A path to a manifest is its directory and the name of a manifest. -/
theorem eq_parent_div_manifestName {path : Path} (h : path.name = manifestName) :
    path = path.parent / manifestName := by
  rw [← h]
  exact Path.eq_parent_div_name (h ▸ isComponent_manifestName)

/-- The manifest of a project that was opened is there. -/
theorem exists_isManifest {tree : FileTree} {base : Standpoint} {manifest path : Path}
    (hbase : base.directory.isAbsolute = true) (hpath : path = base.canonical manifest)
    (hname : path.name = manifestName) (hfile : tree.isFile (base.directory.join path) = true) :
    ∃ place, IsManifest tree path place := by
  have habsolute : path.isAbsolute = true := hpath ▸ base.isAbsolute_canonical manifest hbase
  rw [Path.join_eq_self base.directory habsolute, eq_parent_div_manifestName hname] at hfile
  obtain ⟨place, bytes, hat, hthere⟩ :=
    FileTree.exists_isAt_of_isFile isComponent_manifestName hfile
  exact ⟨place, hname, habsolute, hpath ▸ base.notMem_parts_canonical manifest, hat, bytes, hthere⟩

namespace IsManifest

variable {tree later : FileTree} {path : Path} {place : List String} {config : Config}
  (h : IsManifest tree path place)

include h in
theorem absolute_parent : path.parent.isAbsolute = true := h.absolute

include h in
theorem down_parent : ".." ∉ path.parent.parts :=
  fun hmem ↦ h.down (List.dropLast_subset _ hmem)

include h in
/-- The directory of the manifest is at the place of its components. -/
theorem parts_parent : path.parent.parts = place :=
  (FileTree.eq_append_of_walk h.isAt.walk h.down_parent).symm

include h in
/-- The manifest is found from whatever directory it is looked up. -/
theorem isFile (base : Path) : tree.isFile (base.join path) = true := by
  obtain ⟨bytes, hfile⟩ := h.file
  rw [Path.join_eq_self base h.absolute, eq_parent_div_manifestName h.name]
  exact h.isAt.isFile isComponent_manifestName hfile

/-- The manifest stays where it is as long as nothing is done there. -/
theorem keep {calls : List Child.Call} (h : IsManifest before.tree path place)
    (hpasses : before.Passes (place ++ [manifestName]) calls after) :
    IsManifest after.tree path place := by
  obtain ⟨bytes, hfile⟩ := h.file
  exact
    { h with
      isAt := h.isAt.keep hpasses.tree.directories
      file := ⟨bytes, (hpasses.tree.below _ List.prefix_rfl).trans hfile⟩ }

include h in
/-- The settings of a project belong to the directory of its manifest. -/
theorem root_of_load {base : Standpoint} (hload : Config.load tree base path.parent = .ok config) :
    config.root = path.parent := by
  obtain ⟨file, hfile, hconfig⟩ := Config.isFor_of_load hload
  rw [Config.locate?_of_isAt h.absolute_parent h.down_parent h.isAt, Option.some.injEq] at hfile
  rw [hconfig.root, ← hfile, Path.parent_div _ Config.isComponent_configName]

include h in
/-- Where the manifest still is and the file of the settings is what it was, the settings are the
same. -/
theorem load_congr (hlater : IsManifest later path place)
    (hsame : later.at? (place ++ [configName]) = tree.at? (place ++ [configName]))
    (base : Standpoint) :
    Config.load later base path.parent = Config.load tree base path.parent :=
  Config.load_congr h.absolute_parent h.down_parent h.isAt hlater.isAt hsame base

end IsManifest

end CrateDoc
