import CrateDoc.Session

/-!
# How work ends

`Action.Returns` says that work ends without a failure, with which result and in which session; it
is put together step by step (`Action.Returns.bind`). `Action.Runs` says how work ends in general;
it is taken apart step by step (`Action.Runs.of_bind`).
-/

namespace CrateDoc

/-- A session in which another program was called. -/
def Session.calling (s : Session) (call : Child.Call) : Session :=
  { s with started := s.started ++ [⟨call, s.tree⟩] }

namespace Action

variable {α β : Type} {surroundings : Surroundings}

/-- Work that is begun in one session ends well, with a result and in another session. -/
def Returns (work : Action α) (surroundings : Surroundings) (before : Session) (a : α)
    (after : Session) : Prop :=
  ((work.run surroundings).run.run before) = (.ok a, after)

theorem returns_pure (a : α) (session : Session) :
    Returns (pure a) surroundings session a session := rfl

theorem Returns.bind {x : Action α} {f : α → Action β} {before between after : Session} {a : α}
    {b : β} (hx : Returns x surroundings before a between)
    (hf : Returns (f a) surroundings between b after) :
    Returns (x >>= f) surroundings before b after := by
  rw [Returns, ReaderT.run_bind, ExceptT.run_bind, StateT.run_bind, hx]
  exact hf

theorem returns_absolute (path : Path) (session : Session) :
    Returns (absolute path) surroundings session (surroundings.directory.join path) session := rfl

/-- A change of the files that succeeds leaves nothing else changed. -/
theorem returns_changeTree {f : FileTree → Except FileError FileTree} {session : Session}
    {tree : FileTree} (h : f session.tree = .ok tree) :
    Returns (changeTree f) surroundings session () { session with tree := tree } := by
  have hwith : Returns (withTree .file f) surroundings session tree session := by
    show (((ofExcept .file (f session.tree) : Action FileTree).run surroundings).run.run
      session) = _
    rw [h]
    rfl
  exact hwith.bind rfl

/-! ### However work ends -/

/-- Work that is begun in one session ends in another, with a result or a failure. -/
def Runs (work : Action α) (surroundings : Surroundings) (before : Session)
    (result : Except Failure α) (after : Session) : Prop :=
  ((work.run surroundings).run.run before) = (result, after)

/-- Work ends in one way. -/
theorem exists_runs (work : Action α) (surroundings : Surroundings) (before : Session) :
    ∃ result after, Runs work surroundings before result after := ⟨_, _, rfl⟩

/-- Work in two parts ends with the failure of the first, or goes on with its result. -/
theorem Runs.of_bind {x : Action α} {f : α → Action β} {before after : Session}
    {result : Except Failure β} (h : Runs (x >>= f) surroundings before result after) :
    (∃ failure, Runs x surroundings before (.error failure) after ∧ result = .error failure) ∨
      ∃ a between, Runs x surroundings before (.ok a) between ∧
        Runs (f a) surroundings between result after := by
  rw [Runs, ReaderT.run_bind, ExceptT.run_bind, StateT.run_bind] at h
  rcases hx : (x.run surroundings).run.run before with ⟨failure | a, between⟩
  · rw [hx] at h
    cases h
    exact .inl ⟨failure, hx, rfl⟩
  · rw [hx] at h
    exact .inr ⟨a, between, hx, h⟩

/-- Work behind a part that ends well goes on with its result. -/
theorem Returns.of_bind {x : Action α} {f : α → Action β} {before between after : Session} {a : α}
    {result : Except Failure β} (hx : Returns x surroundings before a between)
    (h : Runs (x >>= f) surroundings before result after) :
    Runs (f a) surroundings between result after := by
  rw [Runs, ReaderT.run_bind, ExceptT.run_bind, StateT.run_bind, hx] at h
  exact h

/-- Work goes on with the result of a part that ends well. -/
theorem Returns.bind_runs {x : Action α} {f : α → Action β} {before between after : Session} {a : α}
    {result : Except Failure β} (hx : Returns x surroundings before a between)
    (hf : Runs (f a) surroundings between result after) :
    Runs (x >>= f) surroundings before result after := by
  rw [Runs, ReaderT.run_bind, ExceptT.run_bind, StateT.run_bind, hx]
  exact hf

/-- Work whose result is computed ends well. -/
theorem returns_of_toOption {work : Action α} {before : Session} {a : α}
    (h : ((work.run surroundings).run.run before).1.toOption = some a) :
    Returns work surroundings before a ((work.run surroundings).run.run before).2 := by
  rw [Returns]
  generalize (work.run surroundings).run.run before = ending at h ⊢
  obtain ⟨e | b, after⟩ := ending
  · cases h
  · cases h
    rfl

variable {before after : Session}

/-- Work that gives a value gives it, and leaves the session alone. -/
theorem runs_pure_iff {a : α} {result : Except Failure α} :
    Runs (pure a) surroundings before result after ↔ result = .ok a ∧ after = before := by
  show (Except.ok a, before) = (result, after) ↔ _
  rw [Prod.mk.injEq]
  exact and_congr eq_comm eq_comm

/-- Work of which only the result is changed afterwards. -/
theorem Runs.of_bind_pure {x : Action α} {f : α → β} {result : Except Failure β}
    (h : Runs (x >>= fun a ↦ pure (f a)) surroundings before result after) :
    ∃ ending, Runs x surroundings before ending after ∧ result = ending.map f := by
  rcases h.of_bind with ⟨failure, hx, rfl⟩ | ⟨a, between, hx, hpure⟩
  · exact ⟨.error failure, hx, rfl⟩
  · obtain ⟨rfl, rfl⟩ := runs_pure_iff.1 hpure
    exact ⟨.ok a, hx, rfl⟩

/-- A failure ends the work, and leaves the session alone. -/
theorem runs_throw_iff {failure : Failure} {result : Except Failure α} :
    Runs (throw failure) surroundings before result after ↔
      result = .error failure ∧ after = before := by
  show (Except.error failure, before) = (result, after) ↔ _
  rw [Prod.mk.injEq]
  exact and_congr eq_comm eq_comm

/-- A result is gone on with, or is the failure of the work. -/
theorem runs_ofExcept_iff {ε : Type} {toFailure : ε → Failure} {r : Except ε α}
    {result : Except Failure α} :
    Runs (ofExcept toFailure r) surroundings before result after ↔
      result = r.mapError toFailure ∧ after = before := by
  rcases r with e | a
  · exact runs_throw_iff
  · exact runs_pure_iff

/-- A record is logged without a failure. -/
theorem runs_log_iff {r : LogRecord} {result : Except Failure Unit} :
    Runs (log r) surroundings before result after ↔
      result = .ok () ∧ after = before.record surroundings.time r := by
  show (Except.ok (), before.record surroundings.time r) = (result, after) ↔ _
  rw [Prod.mk.injEq]
  exact and_congr eq_comm eq_comm

/-- A path has a canonical form unless it cannot be followed. -/
theorem runs_canonical_iff {path : Path} {result : Except Failure Path} :
    Runs (canonical path) surroundings before result after ↔
      (surroundings.fault? path = none ∧ result = .ok (surroundings.canonical path) ∨
        ∃ e, surroundings.fault? path = some e ∧ result = .error (.path e)) ∧ after = before := by
  have hread : ∀ f : Surroundings → Action Path,
      Runs (read >>= f) surroundings before result after ↔
        Runs (f surroundings) surroundings before result after := fun _ ↦ Iff.rfl
  rw [canonical, hread]
  dsimp only
  rcases surroundings.fault? path with - | e
  · simp [runs_pure_iff]
  · simp [runs_throw_iff]

/-! ### Steps with work behind them -/

section

variable {f : α → Action β} {result : Except Failure β}

/-- Behind a failure nothing is done. -/
theorem Runs.of_throw_bind {failure : Failure}
    (h : Runs (throw failure >>= f) surroundings before result after) :
    result = .error failure ∧ after = before := by
  rcases h.of_bind with ⟨failure, hthrow, rfl⟩ | ⟨_, _, hthrow, -⟩
  · obtain ⟨hresult, hafter⟩ := runs_throw_iff.1 hthrow
    cases hresult
    exact ⟨rfl, hafter⟩
  · cases (runs_throw_iff.1 hthrow).1

/-- A result that is given is used, or ends the work. -/
theorem Runs.of_ofExcept_bind {ε : Type} {toFailure : ε → Failure} {r : Except ε α}
    (h : Runs (ofExcept toFailure r >>= f) surroundings before result after) :
    (∃ e, r = .error e ∧ result = .error (toFailure e) ∧ after = before) ∨
      ∃ a, r = .ok a ∧ Runs (f a) surroundings before result after := by
  rcases r with e | a
  · exact .inl ⟨e, rfl, h.of_throw_bind⟩
  · exact .inr ⟨a, rfl, h⟩

/-- Work behind a look at the files begins in the session as it was, if there is any. -/
theorem Runs.of_withTree_bind {ε : Type} {toFailure : ε → Failure} {g : FileTree → Except ε α}
    (h : Runs (withTree toFailure g >>= f) surroundings before result after) :
    (∃ e, g before.tree = .error e ∧ result = .error (toFailure e) ∧ after = before) ∨
      ∃ a, g before.tree = .ok a ∧ Runs (f a) surroundings before result after :=
  Runs.of_ofExcept_bind h

theorem Runs.of_log_bind {f : Unit → Action β} {r : LogRecord}
    (h : Runs (log r >>= f) surroundings before result after) :
    Runs (f ()) surroundings (before.record surroundings.time r) result after := h

theorem Runs.of_absolute_bind {f : Path → Action β} {path : Path}
    (h : Runs (absolute path >>= f) surroundings before result after) :
    Runs (f (surroundings.directory.join path)) surroundings before result after := h

/-- Work behind the canonical form of a path begins if the path can be followed. -/
theorem Runs.of_canonical_bind {f : Path → Action β} {path : Path}
    (h : Runs (canonical path >>= f) surroundings before result after) :
    (∃ e, surroundings.fault? path = some e ∧ result = .error (.path e) ∧ after = before) ∨
      surroundings.fault? path = none ∧
        Runs (f (surroundings.canonical path)) surroundings before result after := by
  rcases h.of_bind with ⟨failure, hpath, rfl⟩ | ⟨_, _, hpath, hrest⟩
  · obtain ⟨⟨-, ⟨⟩⟩ | ⟨e, hfault, ⟨⟩⟩, hafter⟩ := runs_canonical_iff.1 hpath
    exact .inl ⟨e, hfault, rfl, hafter⟩
  · obtain ⟨⟨hnone, ⟨⟩⟩ | ⟨-, -, ⟨⟩⟩, rfl⟩ := runs_canonical_iff.1 hpath
    exact .inr ⟨hnone, hrest⟩

theorem Runs.of_read_bind {f : Surroundings → Action β}
    (h : Runs (read >>= f) surroundings before result after) :
    Runs (f surroundings) surroundings before result after := h

theorem Runs.of_get_bind {f : Session → Action β}
    (h : Runs (get >>= f) surroundings before result after) :
    Runs (f before) surroundings before result after := h

theorem Runs.of_modify_bind {f : Unit → Action β} {change : Session → Session}
    (h : Runs (modify change >>= f) surroundings before result after) :
    Runs (f ()) surroundings (change before) result after := h

/-- Files that are changed are gone on with, or the work ends. -/
theorem Runs.of_changeTree_bind {f : Unit → Action β}
    {change : FileTree → Except FileError FileTree}
    (h : Runs (changeTree change >>= f) surroundings before result after) :
    (∃ e, change before.tree = .error e ∧ result = .error (.file e) ∧ after = before) ∨
      ∃ tree, change before.tree = .ok tree ∧
        Runs (f ()) surroundings { before with tree := tree } result after := by
  rw [changeTree, bind_assoc] at h
  exact h.of_withTree_bind

/-- A program that is called answers, or ends the work. -/
theorem Runs.of_start_bind {f : Child.Response → Action β} {call : Child.Call}
    (h : Runs (start call >>= f) surroundings before result after) :
    (∃ e, surroundings.runner call = .error e ∧ result = .error (.child e) ∧
        after = before.calling call) ∨
      ∃ response, surroundings.runner call = .ok response ∧
        Runs (f response) surroundings (before.calling call) result after :=
  Runs.of_ofExcept_bind h

end

/-- Work that may be recovered ends well, or ends as its recovery does. -/
theorem Runs.of_tryCatch {x : Action α} {recover : Failure → Action α}
    {result : Except Failure α} (h : Runs (tryCatch x recover) surroundings before result after) :
    (∃ a, Runs x surroundings before (.ok a) after ∧ result = .ok a) ∨
      ∃ failure between, Runs x surroundings before (.error failure) between ∧
        Runs (recover failure) surroundings between result after := by
  have hcatch : ((ExceptT.tryCatch (x.run surroundings) fun failure ↦
      (recover failure).run surroundings).run).run before = (result, after) := h
  rw [ExceptT.tryCatch, ExceptT.run_mk, StateT.run_bind] at hcatch
  rcases hx : (x.run surroundings).run.run before with ⟨failure | a, between⟩
  · have hrun : StateT.run (x.run surroundings) before = (.error failure, between) := hx
    rw [hrun] at hcatch
    exact .inr ⟨failure, between, hx, hcatch⟩
  · have hrun : StateT.run (x.run surroundings) before = (.ok a, between) := hx
    rw [hrun] at hcatch
    cases hcatch
    exact .inl ⟨a, hx, rfl⟩

end Action

end CrateDoc
