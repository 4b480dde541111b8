import CrateDoc.Proofs.Analysis.Snapshot
import CrateDoc.Proofs.Concurrency.Expansion
import CrateDoc.Proofs.Graph.Termination
import Mathlib.Data.List.Forall2
import Mathlib.Logic.Relation

/-!
# Builds on a thread pool

A build gives the expansions of a level to a pool of threads, as tasks in the order of the level.
The calling thread fetches their results in that order and attaches the children, while the threads
go on with later tasks and access the cache of the source in any order (`Step`). The first error
that the calling thread comes to, in a result or in attaching it, ends the build.

`settles_start`: every schedule comes to an end, no schedule gets stuck, and each ends with what a
build over the source without a cache gives, which expands one node after the other. Only the
spelling of an id in an error may differ, where the snapshots spell an id in two ways.

The proof has one lemma for a step and one for a run at each of two scales. Inside a level, a step
keeps what the level comes to (`Merging.step`), so a level comes to that (`inevitable_of_merging`);
from level to level, the build follows `LevelsRun` (`inevitable_of_levelsRun`).
-/

namespace CrateDoc.Graph

open SnapshotSource

/-- The expansion of a node, as far as a thread has come with it. -/
abbrev Task := Node × Work (Except GraphError (List Node))

/-- The expansion of a node that nobody has begun. What it reports is no part of its result. -/
def task (source : SnapshotSource) (root : DefId) (node : Node) : Task :=
  (node, Prod.fst <$> (expand source.shared root node.1).run.run [])

/-- A build in the middle of its work. -/
structure Pool where
  root : DefId
  /-- The cache that all threads share. -/
  cache : Entries DefId Definition
  /-- The ids that were met. -/
  met : Met
  /-- The finished documents. -/
  finished : List Document
  /-- The next level, as far as the children of this one are attached. -/
  next : List Node
  /-- The tasks whose results the calling thread has not fetched yet. -/
  tasks : List Task

/-- A build on a thread pool: under way, or ended. -/
inductive Progress
  | running (pool : Pool)
  | ended (outcome : Except GraphError (List Document))

section

variable (source : SnapshotSource) (threads : ℕ)

/-- What may happen next in a build on so many threads. -/
inductive Step : Progress → Progress → Prop
  /-- A thread makes one access of the cache. The threads take the tasks in order, so theirs are the
  first ones that are not done. -/
  | work {pool : Pool} {before after : List Task} {node : Node}
      {w w' : Work (Except GraphError (List Node))} {cache : Entries DefId Definition}
      (htasks : pool.tasks = before ++ (node, w) :: after)
      (hthread : (before.filter fun task ↦ !task.2.isDone).length < threads)
      (h : w.step pool.cache = some (cache, w')) :
      Step (.running pool)
        (.running { pool with cache := cache, tasks := before ++ (node, w') :: after })
  /-- The calling thread fetches the next result and attaches the children. -/
  | attach {pool : Pool} {node : Node} {children : List Node} {rest : List Task} {met : Met}
      {document : Document} (htasks : pool.tasks = (node, .done (.ok children)) :: rest)
      (h : attach (node.1.id == pool.root) pool.met node.2 children = .ok (met, document)) :
      Step (.running pool) (.running { pool with
        met := met, finished := pool.finished ++ [document], next := pool.next ++ children,
        tasks := rest })
  /-- One of the children cannot be attached. -/
  | clash {pool : Pool} {node : Node} {children : List Node} {rest : List Task} {e : GraphError}
      (htasks : pool.tasks = (node, .done (.ok children)) :: rest)
      (h : Graph.attach (node.1.id == pool.root) pool.met node.2 children = .error e) :
      Step (.running pool) (.ended (.error e))
  /-- The next result is an error. -/
  | fail {pool : Pool} {node : Node} {rest : List Task} {e : GraphError}
      (htasks : pool.tasks = (node, .done (.error e)) :: rest) :
      Step (.running pool) (.ended (.error e))
  /-- With all children attached, the tasks of the next level are handed out. -/
  | descend {pool : Pool} (htasks : pool.tasks = []) (hnext : pool.next ≠ []) :
      Step (.running pool)
        (.running { pool with next := [], tasks := pool.next.map (task source pool.root) })
  /-- There is no next level. -/
  | finish {pool : Pool} (htasks : pool.tasks = []) (hnext : pool.next = []) :
      Step (.running pool) (.ended (.ok pool.finished))

/-- The beginning of a build: its root is looked up before there are threads. -/
def start (workers : Option Int) (crate : String) : Progress :=
  match (resolveRoot crate).run source with
  | (.error e, _) => .ended (.error (.analysis e))
  | (.ok id, source) =>
    match (definition id).run source with
    | (.error e, _) => .ended (.error (.analysis e))
    | (.ok root, source) =>
      if workers.any (· < 1) then .ended (.error .noWorkers)
      else .running ⟨id, source.cache, ⟨[id], [crate]⟩, [], [(root, rootDocument crate root)], []⟩

/-- However the threads take turns, a build ends with a given outcome, up to the spelling of ids. -/
inductive Inevitable (outcome : Except GraphError (List Document)) : Progress → Prop
  | ended {outcome' : Except GraphError (List Document)}
      (h : outcome'.mapError GraphError.key = outcome.mapError GraphError.key) :
      Inevitable outcome (.ended outcome')
  | running {pool : Pool} (hstep : ∃ later, Step source threads (.running pool) later)
      (h : ∀ later, Step source threads (.running pool) later → Inevitable outcome later) :
      Inevitable outcome (.running pool)

end

variable {source : SnapshotSource} {threads : ℕ} {root : DefId}

/-! ### One level -/

/-- A task gives what the expansion of its node gives without a cache. -/
def Promises (source : SnapshotSource) (task : Task)
    (expansion : Node × Except GraphError (List Node)) : Prop :=
  Node.key task.1 = Node.key expansion.1 ∧ task.2.Ends source fun r ↦
    inKeys GraphError.key (List.map Node.key) r =
      inKeys GraphError.key (List.map Node.key) expansion.2

/-- What a build has come to when the rest of a level comes to something. -/
def Pool.join (pool : Pool) (level : Met × List Document × List Node) :
    Met × List Document × List Node :=
  (level.1, pool.finished ++ level.2.1, pool.next ++ level.2.2)

/-- The tasks of a build promise the rest of a level, and attaching it comes to `level`. -/
structure Merging (source : SnapshotSource) (root : DefId)
    (level : Except GraphError (Met × List Document × List Node))
    (rest : List (Node × Except GraphError (List Node))) (pool : Pool) : Prop where
  sameRoot : pool.root = root
  coherent : source.Coherent pool.cache
  promises : List.Forall₂ (Promises source) pool.tasks rest
  level : inKeys GraphError.key levelKey ((attachAll root pool.met rest).map pool.join) =
    inKeys GraphError.key levelKey level

/-- A build between two levels: what it has come to, and no tasks. -/
structure Between (source : SnapshotSource) (root : DefId) (level : Met × List Document × List Node)
    (pool : Pool) : Prop where
  sameRoot : pool.root = root
  coherent : source.Coherent pool.cache
  idle : pool.tasks = []
  level : levelKey (pool.met, pool.finished, pool.next) = levelKey level

variable {level : Except GraphError (Met × List Document × List Node)}
  {rest : List (Node × Except GraphError (List Node))} {pool : Pool}

/-- Without tasks a level is at its end. -/
theorem Merging.between (h : Merging source root level [] pool) :
    ∃ level', level = .ok level' ∧ Between source root level' pool := by
  have hlevel := h.level
  obtain ⟨level', rfl, hkey⟩ := inKeys_eq_ok_iff.1 hlevel.symm
  refine ⟨level', rfl, h.sameRoot, h.coherent, List.forall₂_nil_right_iff.1 h.promises, ?_⟩
  rw [hkey, Pool.join, List.append_nil, List.append_nil]

/-- Attaching a level, after its first node was attached. -/
theorem map_attachAll_cons_of_ok {β : Type} (f : Met × List Document × List Node → β)
    {met met' : Met} {node : Node} {document : Document} {children : List Node}
    (h : attach (node.1.id == root) met node.2 children = .ok (met', document)) :
    (attachAll root met ((node, .ok children) :: rest)).map f =
      (attachAll root met' rest).map fun level ↦
        f (level.1, document :: level.2.1, children ++ level.2.2) := by
  show (attach (node.1.id == root) met node.2 children >>= fun attached ↦
    attachAll root attached.1 rest >>= fun level ↦
      .ok (level.1, attached.2 :: level.2.1, children ++ level.2.2)).map f = _
  rw [h]
  show (attachAll root met' rest >>= _).map f = _
  rcases attachAll root met' rest with e | level
  · rfl
  · rfl

theorem attachAll_cons_of_error {met : Met} {node : Node} {children : List Node} {e : GraphError}
    (h : attach (node.1.id == root) met node.2 children = .error e) :
    attachAll root met ((node, .ok children) :: rest) = .error e := by
  show (attach (node.1.id == root) met node.2 children >>= _) = _
  rw [h]
  rfl

/-- The next task of a level with its expansion, seen by the calling thread: its node has the same
document, and attaching to it is the same. -/
theorem Merging.fetch {task : Task} {tasks : List Task} (h : Merging source root level rest pool)
    (htasks : pool.tasks = task :: tasks) :
    ∃ expansion rest', rest = expansion :: rest' ∧ Promises source task expansion ∧
      List.Forall₂ (Promises source) tasks rest' := by
  have hpromises := h.promises
  rw [htasks] at hpromises
  obtain ⟨expansion, rest', htask, htasks', rfl⟩ := List.forall₂_cons_left_iff.1 hpromises
  exact ⟨expansion, rest', rfl, htask, htasks'⟩

variable (root) in
/-- Attaching what a task gave is attaching what it promised. -/
theorem inKeys_attach_of_promises {node : Node} {children : List Node}
    {expansion : Node × Except GraphError (List Node)} (met : Met)
    (h : Promises source (node, .done (.ok children)) expansion) :
    ∃ children', expansion.2 = .ok children' ∧ children'.map Node.key = children.map Node.key ∧
      inKeys GraphError.key attachedKey
          (attach (expansion.1.1.id == root) met expansion.1.2 children') =
        inKeys GraphError.key attachedKey (attach (node.1.id == root) met node.2 children) := by
  obtain ⟨hnode, hresult⟩ := h
  obtain ⟨children', hchildren', hkey⟩ := inKeys_eq_ok_iff.1 (Eq.symm hresult)
  obtain ⟨hparent, hdocument⟩ := Prod.mk.injEq .. ▸ hnode
  obtain ⟨hid, -⟩ := key_eq_iff.1 hparent
  refine ⟨children', hchildren', hkey, ?_⟩
  rw [← hdocument, ← beq_congr hid (rfl : root.key = root.key)]
  exact attach_congr _ _ rfl hkey

/-- One member of a list that goes along with another list may be replaced by another that goes
along with the same. -/
theorem exists_forall₂_replace {α β : Type} {R : α → β → Prop} {before after : List α} {a : α}
    {bs : List β} (h : List.Forall₂ R (before ++ a :: after) bs) :
    ∃ b, R a b ∧ ∀ a', R a' b → List.Forall₂ R (before ++ a' :: after) bs := by
  induction before generalizing bs with
  | nil =>
    obtain ⟨b, bs, hab, hrest, rfl⟩ := List.forall₂_cons_left_iff.1 h
    exact ⟨b, hab, fun a' ha' ↦ .cons ha' hrest⟩
  | cons first before ih =>
    obtain ⟨b₀, bs, hfirst, hrest, rfl⟩ := List.forall₂_cons_left_iff.1 h
    obtain ⟨b, hab, hreplace⟩ := ih hrest
    exact ⟨b, hab, fun a' ha' ↦ .cons hfirst (hreplace a' ha')⟩

/-- An access of the cache keeps what a level comes to. -/
theorem Merging.work {before after : List Task} {node : Node}
    {w w' : Work (Except GraphError (List Node))} {cache : Entries DefId Definition}
    (h : Merging source root level rest pool) (htasks : pool.tasks = before ++ (node, w) :: after)
    (hwork : w.step pool.cache = some (cache, w')) :
    Merging source root level rest
      { pool with cache := cache, tasks := before ++ (node, w') :: after } := by
  have hpromises := h.promises
  rw [htasks] at hpromises
  obtain ⟨expansion, ⟨hnode, hends⟩, hreplace⟩ := exists_forall₂_replace hpromises
  obtain ⟨hcache, hends'⟩ := hends.step h.coherent hwork
  exact ⟨h.sameRoot, hcache, hreplace _ ⟨hnode, hends'⟩, h.level⟩

/-- Attaching the next result keeps what a level comes to. -/
theorem Merging.attach {node : Node} {children : List Node} {tasks : List Task} {met : Met}
    {document : Document} (h : Merging source root level rest pool)
    (htasks : pool.tasks = (node, .done (.ok children)) :: tasks)
    (hattach : attach (node.1.id == pool.root) pool.met node.2 children = .ok (met, document)) :
    ∃ expansion rest', rest = expansion :: rest' ∧ Merging source root level rest'
      { pool with met := met, finished := pool.finished ++ [document],
                  next := pool.next ++ children, tasks := tasks } := by
  obtain ⟨⟨node', r⟩, rest', rfl, htask, htasks'⟩ := h.fetch htasks
  obtain ⟨children', rfl, hchildren, hsame⟩ := inKeys_attach_of_promises root pool.met htask
  rw [h.sameRoot] at hattach
  rw [hattach] at hsame
  obtain ⟨⟨met', document'⟩, hattach', hkey⟩ := inKeys_eq_ok_iff.1 hsame
  obtain ⟨hmet, rfl⟩ := Prod.mk.injEq .. ▸ hkey
  refine ⟨_, rest', rfl, h.sameRoot, h.coherent, htasks', ?_⟩
  refine Eq.trans ?_ h.level
  rw [map_attachAll_cons_of_ok _ hattach']
  refine inKeys_map (attachAll_congr root hmet.symm rfl) fun level level' hlevel ↦ ?_
  obtain ⟨hmet', hlevel⟩ := Prod.mk.injEq .. ▸ hlevel
  obtain ⟨hdocuments, hbelow⟩ := Prod.mk.injEq .. ▸ hlevel
  simp only [levelKey, Pool.join, List.map_append, List.append_assoc, hmet', hdocuments,
    hbelow, hchildren, List.singleton_append]

/-- What cannot be attached is what a level comes to. -/
theorem Merging.clash {node : Node} {children : List Node} {tasks : List Task} {e : GraphError}
    (h : Merging source root level rest pool)
    (htasks : pool.tasks = (node, .done (.ok children)) :: tasks)
    (hclash : Graph.attach (node.1.id == pool.root) pool.met node.2 children = .error e) :
    ∃ e', level = .error e' ∧ e'.key = e.key := by
  obtain ⟨⟨node', r⟩, rest', rfl, htask, -⟩ := h.fetch htasks
  obtain ⟨children', rfl, -, hsame⟩ := inKeys_attach_of_promises root pool.met htask
  rw [h.sameRoot] at hclash
  rw [hclash] at hsame
  obtain ⟨e', hclash', hkey⟩ := inKeys_eq_error_iff.1 hsame
  have hlevel := h.level
  rw [attachAll_cons_of_error hclash'] at hlevel
  obtain ⟨e'', rfl, hkey'⟩ := inKeys_eq_error_iff.1 hlevel.symm
  exact ⟨e'', rfl, hkey'.trans hkey⟩

/-- An error that a task gave is what a level comes to. -/
theorem Merging.fail {node : Node} {tasks : List Task} {e : GraphError}
    (h : Merging source root level rest pool)
    (htasks : pool.tasks = (node, .done (.error e)) :: tasks) :
    ∃ e', level = .error e' ∧ e'.key = e.key := by
  obtain ⟨⟨node', r⟩, rest', rfl, ⟨-, hresult⟩, -⟩ := h.fetch htasks
  obtain ⟨e', rfl, hkey⟩ := inKeys_eq_error_iff.1 (Eq.symm hresult)
  obtain ⟨e'', rfl, hkey'⟩ := inKeys_eq_error_iff.1 h.level.symm
  exact ⟨e'', rfl, hkey'.trans hkey⟩

/-- In the middle of a level some step is possible: a thread goes on with the next task, or its
result is fetched. -/
theorem exists_step_of_tasks (hthreads : 0 < threads) {task : Task} {tasks : List Task}
    (htasks : pool.tasks = task :: tasks) : ∃ later, Step source threads (.running pool) later := by
  obtain ⟨node, w⟩ := task
  have hwork : ∀ cache w', w.step pool.cache = some (cache, w') →
      ∃ later, Step source threads (.running pool) later := by
    intro cache w' h
    have htasks' : pool.tasks = [] ++ (node, w) :: tasks := htasks
    exact ⟨_, .work htasks' hthreads h⟩
  rcases w with r | ⟨id, next⟩ | ⟨id, d, next⟩
  · rcases r with e | children
    · exact ⟨_, Step.fail htasks⟩
    · rcases hattach : attach (node.1.id == pool.root) pool.met node.2 children with
        e | ⟨met, document⟩
      · exact ⟨_, Step.clash htasks hattach⟩
      · exact ⟨_, Step.attach htasks hattach⟩
  · exact hwork _ _ rfl
  · exact hwork _ _ rfl

/-- A level comes to what it promises, however the threads take turns. -/
theorem inevitable_of_merging (hthreads : 0 < threads) {outcome : Except GraphError (List Document)}
    (herror : ∀ e, level = .error e → outcome.mapError GraphError.key = .error e.key)
    (hok : ∀ level', level = .ok level' → ∀ pool, Between source root level' pool →
      Inevitable source threads outcome (.running pool))
    (h : Merging source root level rest pool) :
    Inevitable source threads outcome (.running pool) := by
  induction rest generalizing pool with
  | nil =>
    obtain ⟨level', hlevel, hbetween⟩ := h.between
    exact hok level' hlevel pool hbetween
  | cons expansion rest ihRest =>
    -- Until the next result is fetched, the threads make finitely many accesses.
    obtain ⟨tasks, htasks⟩ : ∃ tasks, pool.tasks = tasks := ⟨_, rfl⟩
    induction Work.acc_laterAmong tasks generalizing pool with
    | intro tasks _ ihTasks =>
      obtain ⟨task, tasks', -, -, hcons⟩ := List.forall₂_cons_right_iff.1 h.promises
      have hended : ∀ e, (∃ e', level = .error e' ∧ e'.key = e.key) →
          Inevitable source threads outcome (.ended (.error e)) := by
        rintro e ⟨e', hlevel, hkey⟩
        refine .ended ?_
        rw [herror e' hlevel, hkey]
        rfl
      refine .running (exists_step_of_tasks hthreads hcons) fun later hstep ↦ ?_
      cases hstep with
      | @work _ before after node w w' cache hsplit hthread hwork =>
        refine ihTasks (before ++ (node, w') :: after) ?_ (h.work hsplit hwork) rfl
        rw [← htasks, hsplit]
        exact Work.laterAmong_append before after node (Work.later_of_step hwork)
      | attach hfirst hattach =>
        obtain ⟨_, rest', hrest, hmerging⟩ := h.attach hfirst hattach
        cases hrest
        exact ihRest hmerging
      | clash hfirst hclash => exact hended _ (h.clash hfirst hclash)
      | fail hfirst => exact hended _ (h.fail hfirst)
      | descend hidle =>
        rw [hidle] at hcons
        cases hcons
      | finish hidle =>
        rw [hidle] at hcons
        cases hcons

/-! ### From level to level -/

/-- New tasks promise the expansions of their nodes. -/
theorem forall₂_promises_task {nodes nodes' : List Node}
    (hnodes : nodes.map Node.key = nodes'.map Node.key) :
    List.Forall₂ (Promises source) (nodes.map (task source root))
      ((expandAll source.uncached root nodes').run []).1 := by
  rw [run_expandAll]
  induction nodes generalizing nodes' with
  | nil =>
    obtain rfl : nodes' = [] := List.map_eq_nil_iff.1 hnodes.symm
    exact .nil
  | cons node nodes ih =>
    obtain ⟨node', nodes', rfl, hnode, hrest⟩ := List.map_eq_cons_iff.1 hnodes.symm
    refine .cons ⟨hnode.symm, ?_⟩ (ih hrest.symm)
    have hparent : node.1.key = node'.1.key := (congrArg Prod.fst hnode).symm
    have hagrees := agrees_expand source.faithful_shared root hparent [] []
    have hgives := gives_expand source.uncached root node'.1 []
    rw [outcome, hgives] at hagrees
    exact Work.Ends.bind hagrees fun _ hr ↦ hr

/-- The tasks of a level come to what attaching its expansions comes to. -/
theorem Between.merging {met : Met} {documents : List Document} {nodes : List Node}
    (h : Between source root (met, documents, nodes) pool) :
    Merging source root
      ((attachAll root met ((expandAll source.uncached root nodes).run []).1).map fun level ↦
        (level.1, documents ++ level.2.1, level.2.2))
      ((expandAll source.uncached root nodes).run []).1
      { pool with next := [], tasks := pool.next.map (task source pool.root) } := by
  obtain ⟨hmet, hrest⟩ := Prod.mk.injEq .. ▸ h.level
  obtain ⟨hdocuments, hnodes⟩ := Prod.mk.injEq .. ▸ hrest
  have htasks : List.Forall₂ (Promises source) (pool.next.map (task source pool.root))
      ((expandAll source.uncached root nodes).run []).1 := by
    rw [h.sameRoot]
    exact forall₂_promises_task hnodes
  refine ⟨h.sameRoot, h.coherent, htasks, ?_⟩
  refine inKeys_map (attachAll_congr root hmet rfl) fun level level' hlevel ↦ ?_
  obtain ⟨hmet', hlevel⟩ := Prod.mk.injEq .. ▸ hlevel
  obtain ⟨hdocuments', hbelow⟩ := Prod.mk.injEq .. ▸ hlevel
  simp only at hdocuments
  simp only [levelKey, Pool.join, hmet', hdocuments, hdocuments', hbelow, List.nil_append]

theorem Between.next_eq_nil_iff {met : Met} {documents : List Document} {nodes : List Node}
    (h : Between source root (met, documents, nodes) pool) : pool.next = [] ↔ nodes = [] := by
  have hnodes : pool.next.map Node.key = nodes.map Node.key :=
    congrArg (fun level ↦ level.2.2) h.level
  rw [← List.map_eq_nil_iff (f := Node.key), hnodes, List.map_eq_nil_iff]

/-- Between two levels there is one step: to the end, or to the tasks of the next level. -/
theorem inevitable_of_idle {outcome : Except GraphError (List Document)} (hidle : pool.tasks = [])
    (hend : pool.next = [] → Inevitable source threads outcome (.ended (.ok pool.finished)))
    (hnext : pool.next ≠ [] → Inevitable source threads outcome (.running
      { pool with next := [], tasks := pool.next.map (task source pool.root) })) :
    Inevitable source threads outcome (.running pool) := by
  refine .running ?_ fun later hstep ↦ ?_
  · by_cases h : pool.next = []
    · exact ⟨_, .finish hidle h⟩
    · exact ⟨_, .descend hidle h⟩
  · cases hstep with
    | work htasks =>
      rw [hidle] at htasks
      exact absurd htasks.symm (by simp)
    | attach htasks =>
      rw [hidle] at htasks
      cases htasks
    | clash htasks =>
      rw [hidle] at htasks
      cases htasks
    | fail htasks =>
      rw [hidle] at htasks
      cases htasks
    | descend _ h => exact hnext h
    | finish _ h => exact hend h

/-- A build follows the level loop over the source without a cache. -/
theorem inevitable_of_levelsRun (hthreads : 0 < threads) {met : Met} {nodes : List Node}
    {outcome : Except GraphError (List Document)}
    (h : LevelsRun source.uncached root met nodes outcome) {documents : List Document} {pool : Pool}
    (hpool : Between source root (met, documents, nodes) pool) :
    Inevitable source threads (outcome.map (documents ++ ·)) (.running pool) := by
  induction h generalizing documents pool with
  | done met =>
    have hdocuments : pool.finished = documents := congrArg (fun level ↦ level.2.1) hpool.level
    refine inevitable_of_idle hpool.idle (fun _ ↦ .ended ?_) fun hnext ↦
      absurd (hpool.next_eq_nil_iff.2 rfl) hnext
    show Except.ok pool.finished = Except.ok (documents ++ [])
    rw [hdocuments, List.append_nil]
  | @failed met nodes e hnodes hattach =>
    have hmerging := hpool.merging
    -- the level fails in the merge, whatever the order in which its nodes were expanded
    rw [hattach] at hmerging
    refine inevitable_of_idle hpool.idle (fun hnext ↦ absurd (hpool.next_eq_nil_iff.1 hnext) hnodes)
      fun _ ↦ inevitable_of_merging hthreads ?_ ?_ hmerging
    · rintro _ ⟨⟩
      rfl
    · rintro _ ⟨⟩
  | @next met met' nodes below documentsHere outcome hnodes hattach _ ih =>
    have hmerging := hpool.merging
    rw [hattach] at hmerging
    refine inevitable_of_idle hpool.idle (fun hnext ↦ absurd (hpool.next_eq_nil_iff.1 hnext) hnodes)
      fun _ ↦ inevitable_of_merging hthreads ?_ ?_ hmerging
    · rintro _ ⟨⟩
    · rintro _ ⟨⟩ pool' hpool'
      have hrest := ih hpool'
      have hmap : (outcome.map (documents ++ documentsHere ++ ·)) =
          (outcome.map (documentsHere ++ ·)).map (documents ++ ·) := by
        rcases outcome with e | rest
        · rfl
        · exact congrArg Except.ok (List.append_assoc _ _ _)
      rwa [hmap] at hrest

/-! ### Whole builds -/

/-- The records of a source are finitely many definitions. -/
theorem finite_uncached (source : SnapshotSource) :
    source.uncached.Finite source.records.length := by
  have hfound : ∀ {id d}, source.uncached.definition id = .ok d →
      d.id = id ∧ ∃ fields, Entries.get? id source.records = some fields := by
    intro id d hd
    simp only [uncached] at hd
    rcases hget : Entries.get? id source.records with - | fields
    · rw [hget] at hd
      cases hd
    · rw [hget] at hd
      exact ⟨(eq_of_lower hd).1, fields, rfl⟩
  refine ⟨fun hd ↦ ?_, source.records.map Prod.fst, by simp, fun {id d} hd ↦ ?_⟩
  · rw [(hfound hd).1]
    exact DefId.beq_iff_key_eq.2 rfl
  · obtain ⟨rfl, fields, hget⟩ := hfound hd
    obtain ⟨k, hmem, hk⟩ := Entries.exists_mem_of_get?_eq_some hget
    rw [List.contains_iff_exists_mem_beq]
    exact ⟨k, List.mem_map.2 ⟨_, hmem, rfl⟩, PartialEquivBEq.symm hk⟩

/-- With a root and workers, a build comes to what the level loop gives. -/
theorem inevitable_start_of_levelsRun (hthreads : 0 < threads)
    (hcache : source.Coherent source.cache) {workers : Option Int} {crate : String} {id : DefId}
    {root : Definition} {outcome : Except GraphError (List Document)}
    (hid : source.uncached.resolveRoot crate = .ok id)
    (hroot : source.uncached.definition id = .ok root) (hworkers : workers.any (· < 1) = false)
    (hrun : LevelsRun source.uncached id ⟨[id], [crate]⟩ [(root, rootDocument crate root)]
      outcome) :
    Inevitable source threads outcome (start source workers crate) := by
  obtain ⟨hresult, hcache'⟩ := (Work.ends_definition source id).run hcache
  rw [hroot] at hresult
  obtain ⟨root', hroot', hkey⟩ := inKeys_eq_ok_iff.1 hresult
  simp only [start, run_resolveRoot, hid, run_definition, hroot', hworkers]
  have hbetween : Between source id (⟨[id], [crate]⟩, [], [(root, rootDocument crate root)])
      ⟨id, ((source.shared.definition id).run source.cache).2, ⟨[id], [crate]⟩, [],
        [(root', rootDocument crate root')], []⟩ := by
    refine ⟨rfl, hcache', rfl, ?_⟩
    simp only [levelKey, List.map_cons, Node.key, hkey, rootDocument_congr hkey]
  have hinevitable := inevitable_of_levelsRun hthreads hrun hbetween
  have hmap : outcome.map (([] : List Document) ++ ·) = outcome := by
    rcases outcome with e | documents
    · rfl
    · rfl
  rwa [hmap] at hinevitable

/-- A build comes to what a build over the source without a cache gives. -/
theorem inevitable_start (hthreads : 0 < threads) (hcache : source.Coherent source.cache)
    (workers : Option Int) (crate : String) :
    Inevitable source threads
      ((Graph.build source.uncached source.records.length workers crate).1.map
        Documentation.documents) (start source workers crate) := by
  have hruns : Runs source.uncached workers crate
      (Graph.build source.uncached source.records.length workers crate).1 :=
    runs_build (finite_uncached source)
  -- the outcome without a cache says how far the build gets
  generalize
    (Graph.build source.uncached source.records.length workers crate).1 = outcome at hruns ⊢
  cases hruns with
  | unresolved h =>
    rw [start, run_resolveRoot, h]
    exact .ended rfl
  | @rootless id e hid h =>
    obtain ⟨hresult, -⟩ := (Work.ends_definition source id).run hcache
    rw [h] at hresult
    obtain ⟨e', he', hkey⟩ := inKeys_eq_error_iff.1 hresult
    simp only [start, run_resolveRoot, hid, run_definition, he']
    exact .ended (congrArg (fun e ↦ Except.error (GraphError.analysis e)) hkey)
  | @noWorkers id root hid h hworkers =>
    obtain ⟨hresult, -⟩ := (Work.ends_definition source id).run hcache
    rw [h] at hresult
    obtain ⟨root', hroot', -⟩ := inKeys_eq_ok_iff.1 hresult
    simp only [start, run_resolveRoot, hid, run_definition, hroot', hworkers]
    exact .ended rfl
  | failed hid h hworkers hrun =>
    exact inevitable_start_of_levelsRun hthreads hcache hid h hworkers hrun
  | built hid h hworkers hrun =>
    exact inevitable_start_of_levelsRun hthreads hcache hid h hworkers hrun

/-! ### Schedules -/

/-- No schedule of a build goes on forever or gets stuck, and all end with one outcome. Ids are
taken up to their spelling, as they are everywhere else. -/
structure Settles (source : SnapshotSource) (threads : ℕ) (first : Progress)
    (outcome : Except GraphError (List Document)) : Prop where
  ends : ¬ ∃ run : ℕ → Progress, run 0 = first ∧ ∀ n, Step source threads (run n) (run (n + 1))
  goesOn : ∀ pool, Relation.ReflTransGen (Step source threads) first (.running pool) →
    ∃ later, Step source threads (.running pool) later
  outcome : ∀ outcome', Relation.ReflTransGen (Step source threads) first (.ended outcome') →
    outcome'.mapError GraphError.key = outcome.mapError GraphError.key

variable {outcome : Except GraphError (List Document)} {first later : Progress}

theorem Inevitable.step (h : Inevitable source threads outcome first)
    (hstep : Step source threads first later) : Inevitable source threads outcome later := by
  cases h with
  | ended => cases hstep
  | running _ hlater => exact hlater later hstep

theorem Inevitable.reaches (h : Inevitable source threads outcome first)
    (hreach : Relation.ReflTransGen (Step source threads) first later) :
    Inevitable source threads outcome later := by
  induction hreach with
  | refl => exact h
  | tail _ hstep ih => exact ih.step hstep

theorem Inevitable.not_exists_run (h : Inevitable source threads outcome first) :
    ¬ ∃ run : ℕ → Progress, run 0 = first ∧ ∀ n, Step source threads (run n) (run (n + 1)) := by
  induction h with
  | ended =>
    rintro ⟨run, hzero, hrun⟩
    have hstep := hrun 0
    rw [hzero] at hstep
    cases hstep
  | running _ _ ih =>
    rintro ⟨run, hzero, hrun⟩
    have hstep := hrun 0
    rw [hzero] at hstep
    -- What is left of the run begins one step later.
    exact ih _ hstep ⟨fun n ↦ run (n + 1), rfl, fun n ↦ hrun (n + 1)⟩

theorem Inevitable.settles (h : Inevitable source threads outcome first) :
    Settles source threads first outcome where
  ends := h.not_exists_run
  goesOn pool hreach := by
    cases h.reaches hreach with
    | running hstep _ => exact hstep
  outcome outcome' hreach := by
    cases h.reaches hreach with
    | ended hkey => exact hkey

/-- However the threads of a build take turns with one source of snapshots, the build ends, with the
documents or the error of a build that expands one node after the other over the source without a
cache. -/
theorem settles_start {payloads : List Json.Value} {source : SnapshotSource}
    (hload : payloads.foldlM addSnapshot {} = .ok source) {threads : ℕ} (hthreads : 0 < threads)
    (workers : Option Int) (crate : String) :
    Settles source threads (start source workers crate)
      ((Graph.build source.uncached source.records.length workers crate).1.map
        Documentation.documents) := by
  have hcoherent : source.Coherent source.cache := by
    rw [cache_of_load hload]
    exact coherent_nil source
  exact (inevitable_start hthreads hcoherent workers crate).settles

/-- A crate of two structures that list the same field. -/
def sampleCrate : List Json.Value :=
  [sampleSnapshot "c" [sampleRecord 0 "Mod" "::" [1, 2], sampleRecord 1 "Struct" "::A" [3],
    sampleRecord 2 "Struct" "::B" [3], sampleRecord 3 "Field" "::A::x" []]]

/-- Whichever of the structures is expanded first, the second one is at fault. -/
theorem settles_start_of_shared_field :
    ∃ source, sampleCrate.foldlM addSnapshot {} = .ok source ∧ 0 < 2 ∧
      Settles source 2 (start source none "c")
        (.error (.duplicateDefinition (.tuple [.text "c", .int 3]))) := by
  have hload : sampleCrate.foldlM addSnapshot {} = .ok _ := rfl
  exact ⟨_, hload, by decide, settles_start hload (by decide) none "c"⟩

end CrateDoc.Graph
