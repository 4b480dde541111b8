import CrateDoc.Build
import CrateDoc.Proofs.Cargo.Messages
import CrateDoc.Proofs.FileTree.Frame
import CrateDoc.Proofs.Session

/-!
# Calls in their order

What the parts of a run ask of other programs. A part *makes* a plan of calls (`Action.Makes`) if it
makes a beginning of the plan, each call after the earlier ones succeeded, and the whole plan if it
ends well. Such parts are put together in their order (`Action.Makes.bind`).

The parts keep the files at and below a place (`Session.Passes`), as long as the log is written
elsewhere: records are the only thing that is written. So each call finds what was there before.

`makes_metadata`, `makes_analyse` and `makes_artifacts` are the calls of cargo, `makes_buildGraph`
says that a graph is built without any.
-/

namespace CrateDoc

/-! ### What a part of a run does -/

/-- The calls of other programs in a session. -/
def Session.calls (s : Session) : List Child.Call := s.started.map Session.Started.call

/-- The log does not go to a file, or to one that is there and neither at nor below a place. -/
def Session.LogApart (place : List String) (s : Session) : Prop :=
  ∀ level file, s.logging = some ⟨level, some file⟩ → FileTree.FileApart place file s.tree

/-- A part of a run makes some calls and keeps what is at and below a place. -/
structure Session.Passes (place : List String) (before : Session) (calls : List Child.Call)
    (after : Session) : Prop where
  /-- Each call finds what was at and below the place before. -/
  started : ∃ added, after.started = before.started ++ added ∧
    added.map Session.Started.call = calls ∧
    ∀ one ∈ added, FileTree.KeepsBelow place before.tree one.tree
  tree : FileTree.KeepsBelow place before.tree after.tree
  apart : after.LogApart place

/-- The calls of a passage are added to those before. -/
theorem Session.Passes.calls {place : List String} {before after : Session}
    {made : List Child.Call} (h : before.Passes place made after) :
    after.calls = before.calls ++ made := by
  obtain ⟨added, hadded, rfl, -⟩ := h.started
  rw [Session.calls, hadded, List.map_append]
  rfl

namespace Session

variable {place : List String} {before between after : Session} {calls calls' : List Child.Call}

/-- Where the log does not go, doing nothing leaves a place alone. -/
theorem LogApart.passes (h : before.LogApart place) : before.Passes place [] before :=
  ⟨⟨[], (List.append_nil _).symm, rfl, nofun⟩, .refl place before.tree, h⟩

theorem Passes.trans (h : before.Passes place calls between)
    (h' : between.Passes place calls' after) : before.Passes place (calls ++ calls') after := by
  obtain ⟨added, hadded, rfl, hfound⟩ := h.started
  obtain ⟨added', hadded', rfl, hfound'⟩ := h'.started
  refine ⟨⟨added ++ added', ?_, List.map_append, fun one hone ↦ ?_⟩, h.tree.trans h'.tree, h'.apart⟩
  · rw [hadded', hadded, List.append_assoc]
  · rcases List.mem_append.1 hone with hone | hone
    · exact hfound one hone
    · exact h.tree.trans (hfound' one hone)

/-- A record changes the files only where the log is written. -/
theorem tree_record (time : String) (s : Session) (r : LogRecord) :
    (s.record time r).tree = s.tree ∨ ∃ level file bytes, s.logging = some ⟨level, some file⟩ ∧
      s.tree.append file bytes = .ok (s.record time r).tree := by
  rw [record]
  rcases hlogging : s.logging with - | ⟨level, - | file⟩
  · exact .inl rfl
  · exact .inl rfl
  · dsimp only
    split
    · exact .inr ⟨level, file, _, rfl, ‹_›⟩
    · exact .inl rfl

/-- A record may make a file, and takes no directory away. -/
theorem keepsDirectories_record (time : String) (s : Session) (r : LogRecord) :
    s.tree.KeepsDirectories (s.record time r).tree := by
  rcases tree_record time s r with hsame | ⟨_, _, _, -, happend⟩
  · rw [hsame]
    exact .refl s.tree
  · exact FileTree.keepsDirectories_append happend

/-- A record is written elsewhere. -/
theorem LogApart.passes_record (h : before.LogApart place) (time : String) (r : LogRecord) :
    before.Passes place [] (before.record time r) := by
  have hlogging : (before.record time r).logging = before.logging := rfl
  have hstarted : (before.record time r).started = before.started ++ [] := (List.append_nil _).symm
  rcases tree_record time before r with hsame | ⟨level, file, bytes, hfile, happend⟩
  · refine ⟨⟨[], hstarted, rfl, nofun⟩, hsame ▸ .refl place before.tree, fun level file hfile ↦ ?_⟩
    rw [hsame]
    exact h level file (hlogging ▸ hfile)
  · obtain ⟨hkeep, hapart⟩ := FileTree.keepsBelow_append (h level file hfile) happend
    refine ⟨⟨[], hstarted, rfl, nofun⟩, hkeep, fun level' file' hfile' ↦ ?_⟩
    -- The log goes to the same file as before.
    cases hfile.symm.trans (hlogging ▸ hfile')
    exact hapart

/-- A call leaves every place alone. -/
theorem LogApart.passes_calling (h : before.LogApart place) (call : Child.Call) :
    before.Passes place [call] (before.calling call) :=
  ⟨⟨[⟨call, before.tree⟩], rfl, rfl, fun _ hone ↦
    List.mem_singleton.1 hone ▸ .refl place before.tree⟩, .refl place before.tree, h⟩

end Session

/-! ### Work without calls -/

namespace Action

variable {α β : Type} {surroundings : Surroundings} {place : List String}

/-- Work gives a result, makes no call, and keeps what is at and below a place. -/
def Gives (work : Action α) (surroundings : Surroundings) (place : List String) (a : α) : Prop :=
  ∀ ⦃before : Session⦄ ⦃result : Except Failure α⦄ ⦃after : Session⦄, before.LogApart place →
    Runs work surroundings before result after → result = .ok a ∧ before.Passes place [] after

theorem gives_pure (a : α) : Gives (pure a) surroundings place a := by
  intro before result after hbefore hruns
  obtain ⟨rfl, rfl⟩ := runs_pure_iff.1 hruns
  exact ⟨rfl, hbefore.passes⟩

theorem gives_log (r : LogRecord) : Gives (log r) surroundings place () := by
  intro before result after hbefore hruns
  obtain ⟨rfl, rfl⟩ := runs_log_iff.1 hruns
  exact ⟨rfl, hbefore.passes_record _ r⟩

/-- Work behind a part that gives a result goes on with it. -/
theorem Gives.of_bind {x : Action α} {f : α → Action β} {a : α} {before after : Session}
    {result : Except Failure β} (hx : Gives x surroundings place a)
    (hbefore : before.LogApart place) (h : Runs (x >>= f) surroundings before result after) :
    ∃ between, before.Passes place [] between ∧ Runs (f a) surroundings between result after := by
  rcases h.of_bind with ⟨failure, hfirst, -⟩ | ⟨a', between, hfirst, hsecond⟩
  · cases (hx hbefore hfirst).1
  · obtain ⟨hresult, hpasses⟩ := hx hbefore hfirst
    cases hresult
    exact ⟨between, hpasses, hsecond⟩

theorem Gives.bind {x : Action α} {f : α → Action β} {a : α} {b : β}
    (hx : Gives x surroundings place a) (hf : Gives (f a) surroundings place b) :
    Gives (x >>= f) surroundings place b := by
  intro before result after hbefore hruns
  obtain ⟨between, hpasses, hrest⟩ := hx.of_bind hbefore hruns
  obtain ⟨rfl, hpasses'⟩ := hf hpasses.apart hrest
  exact ⟨rfl, hpasses.trans hpasses'⟩

/-- Work on items one after the other gives nothing but the work on each. -/
theorem gives_forM {f : α → Action Unit} (items : List α)
    (h : ∀ item, Gives (f item) surroundings place ()) :
    Gives (items.forM f) surroundings place () := by
  induction items with
  | nil => exact gives_pure ()
  | cons item items ih => exact (h item).bind ih

theorem gives_logAll (records : List LogRecord) : Gives (logAll records) surroundings place () :=
  gives_forM records gives_log

/-- Work on items one after the other gives what the work on each gives. -/
theorem gives_mapM {f : α → Action β} {g : α → β} (items : List α)
    (h : ∀ item, Gives (f item) surroundings place (g item)) :
    Gives (items.mapM f) surroundings place (items.map g) := by
  induction items with
  | nil => exact gives_pure []
  | cons item items ih =>
    rw [List.mapM_cons]
    exact (h item).bind (ih.bind (gives_pure _))

end Action

/-! ### Plans -/

/-- The program of a call answers that it succeeded. -/
def Succeeds (surroundings : Surroundings) (call : Child.Call) : Prop :=
  ∃ response, surroundings.runner call = .ok response ∧ response.ok = true

/-- Calls are the beginning of a plan, each made after the earlier ones succeeded. -/
structure InOrder (surroundings : Surroundings) (plan calls : List Child.Call) : Prop where
  order : calls <+: plan
  checked : ∀ call ∈ calls.dropLast, Succeeds surroundings call

/-- Calls are made in the order of a plan, and all of them if the work ended well. -/
structure Follows {α : Type} (surroundings : Surroundings) (plan : List Child.Call)
    (result : Except Failure α) (calls : List Child.Call) : Prop where
  inOrder : InOrder surroundings plan calls
  finished : ∀ a, result = .ok a → calls = plan ∧ ∀ call ∈ plan, Succeeds surroundings call

section

variable {α β : Type} {surroundings : Surroundings} {plan plan' calls calls' : List Child.Call}

theorem inOrder_nil : InOrder surroundings plan [] := ⟨List.nil_prefix, nofun⟩

theorem inOrder_singleton {call : Child.Call} : InOrder surroundings (call :: plan) [call] :=
  ⟨List.prefix_cons_inj call |>.2 List.nil_prefix, nofun⟩

/-- Calls in the order of a plan do not reach what comes behind it. -/
theorem InOrder.not_reached (h : InOrder surroundings plan calls) (call : Child.Call)
    (more : List Child.Call) : ¬ plan ++ call :: more <+: calls := by
  intro hlong
  have hlength := (hlong.trans h.order).length_le
  simp at hlength

/-- After a plan that succeeded the next one may be begun. -/
theorem InOrder.append (hplan : ∀ call ∈ plan, Succeeds surroundings call)
    (h : InOrder surroundings plan' calls) :
    InOrder surroundings (plan ++ plan') (plan ++ calls) := by
  refine ⟨(List.prefix_append_right_inj plan).2 h.order, fun call hcall ↦ ?_⟩
  by_cases hne : calls = []
  · subst hne
    rw [List.append_nil] at hcall
    exact hplan call (List.dropLast_subset plan hcall)
  · rw [List.dropLast_append_of_ne_nil hne, List.mem_append] at hcall
    rcases hcall with hfirst | hsecond
    · exact hplan call hfirst
    · exact h.checked call hsecond

/-- Work that failed is not gone on with. -/
theorem Follows.of_error {failure : Failure}
    (h : Follows surroundings plan (.error failure : Except Failure α) calls)
    (plan' : List Child.Call) :
    Follows surroundings (plan ++ plan') (.error failure : Except Failure β) calls :=
  ⟨⟨h.inOrder.order.trans (List.prefix_append plan plan'), h.inOrder.checked⟩, nofun⟩

/-- After work that ended well the next plan is followed. -/
theorem Follows.append {a : α} {result : Except Failure β}
    (h : Follows surroundings plan (.ok a) calls) (h' : Follows surroundings plan' result calls') :
    Follows surroundings (plan ++ plan') result (calls ++ calls') := by
  obtain ⟨rfl, hcalls⟩ := h.finished a rfl
  refine ⟨h'.inOrder.append hcalls, fun b hb ↦ ?_⟩
  obtain ⟨rfl, hcalls'⟩ := h'.finished b hb
  refine ⟨rfl, fun call hcall ↦ ?_⟩
  rcases List.mem_append.1 hcall with hfirst | hsecond
  · exact hcalls call hfirst
  · exact hcalls' call hsecond

end

namespace Action

variable {α β : Type} {surroundings : Surroundings} {place : List String}
  {plan plan' : List Child.Call}

/-- Work follows a plan of calls and keeps what is at and below a place. -/
def Makes (work : Action α) (surroundings : Surroundings) (place : List String)
    (plan : List Child.Call) : Prop :=
  ∀ ⦃before : Session⦄ ⦃result : Except Failure α⦄ ⦃after : Session⦄, before.LogApart place →
    Runs work surroundings before result after →
    ∃ calls, before.Passes place calls after ∧ Follows surroundings plan result calls

/-- Work that leaves the session as it is makes no call. -/
theorem makes_nil_of_same {work : Action α}
    (h : ∀ {before result after}, Runs work surroundings before result after → after = before) :
    Makes work surroundings place [] := by
  intro before result after hbefore hruns
  obtain rfl := h hruns
  exact ⟨[], hbefore.passes, inOrder_nil, fun _ _ ↦ ⟨rfl, nofun⟩⟩

/-- Work that gives a result needs no plan. -/
theorem Gives.makes {work : Action α} {a : α} (h : Gives work surroundings place a) :
    Makes work surroundings place [] := by
  intro before result after hbefore hruns
  exact ⟨[], (h hbefore hruns).2, inOrder_nil, fun _ _ ↦ ⟨rfl, nofun⟩⟩

theorem makes_pure (a : α) : Makes (pure a) surroundings place [] :=
  makes_nil_of_same fun h ↦ (runs_pure_iff.1 h).2

theorem makes_throw (failure : Failure) : Makes (throw failure : Action α) surroundings place [] :=
  makes_nil_of_same fun h ↦ (runs_throw_iff.1 h).2

theorem makes_get : Makes get surroundings place [] :=
  makes_nil_of_same fun h ↦ (congrArg Prod.snd h).symm

/-- Nothing is called behind a failure. -/
theorem makes_throw_bind (failure : Failure) (f : α → Action β) :
    Makes (throw failure >>= f) surroundings place [] :=
  makes_nil_of_same fun h ↦ h.of_throw_bind.2

theorem makes_ofExcept {ε : Type} (toFailure : ε → Failure) (r : Except ε α) :
    Makes (ofExcept toFailure r) surroundings place [] :=
  makes_nil_of_same fun h ↦ (runs_ofExcept_iff.1 h).2

theorem makes_log (r : LogRecord) : Makes (log r) surroundings place [] := (gives_log r).makes

/-- The calls of the second part come after those of the first. -/
theorem Makes.bind {x : Action α} {f : α → Action β} (hx : Makes x surroundings place plan)
    (hf : ∀ a, Makes (f a) surroundings place plan') :
    Makes (x >>= f) surroundings place (plan ++ plan') := by
  intro before result after hbefore hruns
  rcases hruns.of_bind with ⟨failure, hfirst, rfl⟩ | ⟨a, between, hfirst, hsecond⟩
  · obtain ⟨calls, hpasses, hfollows⟩ := hx hbefore hfirst
    exact ⟨calls, hpasses, hfollows.of_error plan'⟩
  · obtain ⟨calls, hpasses, hfollows⟩ := hx hbefore hfirst
    obtain ⟨calls', hpasses', hfollows'⟩ := hf a hpasses.apart hsecond
    exact ⟨calls ++ calls', hpasses.trans hpasses', hfollows.append hfollows'⟩

/-- A part without calls may come first. -/
theorem Makes.bind_of_nil {x : Action α} {f : α → Action β} (hx : Makes x surroundings place [])
    (hf : ∀ a, Makes (f a) surroundings place plan) : Makes (x >>= f) surroundings place plan :=
  hx.bind hf

/-- A part without calls may come last. -/
theorem Makes.bind_nil {x : Action α} {f : α → Action β} (hx : Makes x surroundings place plan)
    (hf : ∀ a, Makes (f a) surroundings place []) : Makes (x >>= f) surroundings place plan := by
  have h := hx.bind hf
  rwa [List.append_nil] at h

/-- A call is made, with work without calls behind it. -/
theorem passes_of_start_bind {call : Child.Call} {f : Child.Response → Action β}
    {before after : Session} {result : Except Failure β}
    (hf : ∀ response, Makes (f response) surroundings place []) (hbefore : before.LogApart place)
    (h : Runs (start call >>= f) surroundings before result after) :
    before.Passes place [call] after := by
  have hcalling := hbefore.passes_calling call
  rcases h.of_start_bind with ⟨e, -, -, rfl⟩ | ⟨response, -, hrest⟩
  · exact hcalling
  · obtain ⟨calls, hpasses, hfollows⟩ := hf response hcalling.apart hrest
    obtain rfl : calls = [] := List.prefix_nil.1 hfollows.inOrder.order
    exact hcalling.trans hpasses

/-- A call is made, and the work ends well only if it succeeded. -/
theorem makes_start_bind {call : Child.Call} {f : Child.Response → Action β}
    (hf : ∀ response, Makes (f response) surroundings place [])
    (hfails : ∀ response, response.ok = false → ∀ {before b after},
      ¬ Runs (f response) surroundings before (.ok b) after) :
    Makes (start call >>= f) surroundings place [call] := by
  intro before result after hbefore hruns
  refine ⟨[call], passes_of_start_bind hf hbefore hruns, inOrder_singleton, fun b hb ↦ ⟨rfl, ?_⟩⟩
  subst hb
  intro c hc
  rw [List.mem_singleton.1 hc]
  rcases hruns.of_start_bind with ⟨e, -, hresult, -⟩ | ⟨response, hanswer, hrest⟩
  · cases hresult
  rcases hok : response.ok with - | -
  · exact absurd hrest (hfails response hok)
  · exact ⟨response, hanswer, hok⟩

end Action

/-! ### The calls of cargo -/

namespace Cargo

open CrateDoc.Action

variable {surroundings : Surroundings} {place : List String}

/-- The call for the metadata of a project. -/
def metadataCall (cargo : String) (manifest : Path) : Child.Call where
  args := [cargo, "metadata", "--manifest-path", manifest.toString, "--no-deps", "--format-version",
    "1"]

/-- The call for the analysis of a project. -/
def checkCall (cargo : String) (manifest : Path) (verbose : Bool) : Child.Call where
  args := [cargo, "check", "--manifest-path", manifest.toString] ++
    if verbose then ["--verbose"] else []
  environment := [analysisFlags]
  discardStdout := true
  lineSink := true

/-- To ask for success is to call nothing. -/
theorem makes_requireSuccess (response : Child.Response) :
    Makes (requireSuccess response) surroundings place [] := by
  rw [requireSuccess]
  split
  · exact makes_throw _
  · exact makes_pure ()

/-- A failure of a program is not taken for a success. -/
theorem not_runs_requireSuccess {response : Child.Response} (hok : response.ok = false)
    {before after : Session} {u : Unit} :
    ¬ Runs (requireSuccess response) surroundings before (.ok u) after := by
  intro h
  rw [requireSuccess, hok] at h
  cases (runs_throw_iff.1 h).1

/-- Metadata take one call. -/
theorem makes_metadata (cargo : String) (manifest : Path) :
    Makes (metadata cargo manifest) surroundings place [metadataCall cargo manifest] := by
  refine makes_start_bind (fun response ↦ ?_) fun response hok before b after h ↦ ?_
  rotate_left
  · rcases h.of_bind with ⟨_, _, hresult⟩ | ⟨_, _, h, -⟩
    · cases hresult
    · exact not_runs_requireSuccess hok h
  refine (makes_requireSuccess response).bind_of_nil fun _ ↦ ?_
  rcases Json.Value.read .tolerant response.stdout.toList with fault | value
  · dsimp only
    split
    · exact makes_throw _
    · exact makes_throw _
  · dsimp only
    split
    · exact makes_pure _
    · exact makes_throw _

/-- A manifest is looked at and nothing else. -/
theorem runs_checkManifest {path : Path} {before after : Session} {result : Except Failure Path}
    (h : Runs (checkManifest path) surroundings before result after) :
    after = before ∧ ∀ manifest, result = .ok manifest → manifest = path := by
  rw [checkManifest] at h
  split at h
  · obtain ⟨rfl, rfl⟩ := h.of_throw_bind
    exact ⟨rfl, nofun⟩
  · have h := h.of_absolute_bind.of_get_bind
    dsimp only at h
    split at h
    · obtain ⟨rfl, rfl⟩ := h.of_throw_bind
      exact ⟨rfl, nofun⟩
    · obtain ⟨rfl, rfl⟩ := runs_pure_iff.1 h
      exact ⟨rfl, fun manifest hmanifest ↦ (Except.ok.inj hmanifest).symm⟩

/-- An analysis takes one call. -/
theorem makes_analyse (cargo : String) (manifest : Path) (verbose : Bool) :
    Makes (analyse cargo manifest verbose) surroundings place
      [checkCall cargo manifest verbose] := by
  intro before result after hbefore h
  rw [analyse] at h
  rcases h.of_bind with ⟨failure, hcheck, rfl⟩ | ⟨manifest', between, hcheck, hrest⟩
  · obtain ⟨rfl, -⟩ := runs_checkManifest hcheck
    exact ⟨[], hbefore.passes, inOrder_nil, nofun⟩
  · obtain ⟨rfl, hmanifest⟩ := runs_checkManifest hcheck
    obtain rfl := hmanifest manifest' rfl
    have hmakes : Makes (start (checkCall cargo manifest' verbose) >>= fun response ↦ do
        (response.lines.filterMap progressLine?).forM logProgress
        requireSuccess response) surroundings place [checkCall cargo manifest' verbose] := by
      refine makes_start_bind (fun response ↦ ?_) fun response hok before b after h ↦ ?_
      · exact (gives_forM _ fun line ↦ gives_log _).makes.bind_of_nil fun _ ↦
          makes_requireSuccess response
      · rcases h.of_bind with ⟨_, _, hresult⟩ | ⟨_, _, _, h⟩
        · cases hresult
        · exact not_runs_requireSuccess hok h
    exact hmakes hbefore hrest

/-- For its artifacts a project is built once. -/
theorem passes_artifacts {cargo : String} {manifest : Path} {before after : Session}
    {result : Except Failure (List Artifact)} (hbefore : before.LogApart place)
    (h : Runs (artifacts cargo manifest) surroundings before result after) :
    before.Passes place [Artifact.buildCall cargo manifest] after := by
  refine passes_of_start_bind (fun response ↦ ?_) hbefore h
  dsimp only
  split
  · exact makes_throw_bind _ _
  · exact (makes_ofExcept _ _).bind_of_nil fun found ↦
      (makes_log _).bind_of_nil fun _ ↦ makes_pure found

/-- A project that has artifacts was built. -/
theorem succeeds_of_ofAnswer {call : Child.Call} {found : List Artifact}
    (h : Artifact.ofAnswer (surroundings.runner call) = .ok found) :
    Succeeds surroundings call := by
  rcases hanswer : surroundings.runner call with e | response
  · rw [hanswer] at h
    cases h
  rw [hanswer, Artifact.ofAnswer] at h
  rcases hok : response.ok with - | -
  · rw [hok] at h
    cases h
  · exact ⟨response, hanswer, hok⟩

end Cargo

/-! ### The parts of a build -/

open CrateDoc.Action

variable {surroundings : Surroundings} {place : List String}

/-- A target is found with the call for the metadata. -/
theorem makes_resolveTarget (manifest : Path) (config : Config) :
    Makes (resolveTarget manifest config) surroundings place
      [Cargo.metadataCall config.cargo manifest] := by
  rw [resolveTarget]
  refine (Cargo.makes_metadata config.cargo manifest).bind_nil fun metadata ↦ ?_
  refine (makes_ofExcept _ _).bind_of_nil fun chosen ↦ ?_
  refine (gives_logAll _).makes.bind_of_nil fun _ ↦ ?_
  exact (makes_log _).bind_of_nil fun _ ↦ makes_pure _

/-- A graph is built without a call. -/
theorem makes_buildGraph (root : Path) (crate : String) (workers : Option Int) :
    Makes (buildGraph root crate workers) surroundings place [] := by
  refine makes_get.bind_of_nil fun session ↦ ?_
  rcases SnapshotSource.discover session.tree root with ⟨records, loaded⟩
  refine (gives_logAll records).makes.bind_of_nil fun _ ↦ ?_
  refine (makes_ofExcept _ loaded).bind_of_nil fun source ↦ ?_
  exact (gives_logAll _).makes.bind_of_nil fun _ ↦ makes_ofExcept _ _

end CrateDoc
