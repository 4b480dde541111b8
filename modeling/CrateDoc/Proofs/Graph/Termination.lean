import CrateDoc.Proofs.Graph.Listing
import CrateDoc.Proofs.Graph.WellFormed

/-!
# When a build ends, and how

The level loop of a build is bounded by the number of definitions. `Runs` is the same build without
a bound: it goes on until a level is empty or something is wrong, so that it has an outcome only if
it ends.

`build_ends_ok_iff_wellFormed_error_iff_first`: on every finite source, cyclic or not, the bounded
build has the outcome of the unbounded one. It is a graph exactly when the crate is `WellFormed` and
the texts of all that is shown have plain summaries, and otherwise the first fault of a
breadth-first walk (`FirstFault`). The bound is never what ends it: a walk that meets no fault is at
its end by then, because what it met is distinct.

A well-formed crate may be without a graph: a page that is no page, like an unknown marked section
inside a block of HTML, leaves its definition without a plain summary
(`not_build_of_unknownSection`).
-/

namespace CrateDoc

/-- A failed look-up of an id. -/
def AnalysisError.IsLookupFailure : AnalysisError → Prop
  | .unknownId _ | .unsupportedKind _ _ | .noQualifiedName _ => True
  | _ => False

/-- A source fails as its interface says: a name leads to no crate, or an id to nothing. -/
structure AnalysisSource.FailsByName (source : AnalysisSource Id) : Prop where
  resolveRoot : ∀ {name e}, source.resolveRoot name = .error e → e = .crateNotFound name
  definition : ∀ {id e}, source.definition id = .error e → e.IsLookupFailure
  childrenOf : ∀ {id e}, source.childrenOf id = .error e → e.IsLookupFailure

namespace Graph

section Definitions

variable (source : AnalysisSource Id) (workers : Option Int) (crate : String)

/-- The level loop without a bound on the levels. -/
inductive LevelsRun (root : DefId) : Met → List Node → Except GraphError (List Document) → Prop
  /-- An empty level ends the loop. -/
  | done (met : Met) : LevelsRun root met [] (.ok [])
  /-- What is wrong with a level ends the loop. -/
  | failed {met : Met} {nodes : List Node} {e : GraphError} (hnodes : nodes ≠ [])
      (h : attachAll root met ((expandAll source root nodes).run []).1 = .error e) :
      LevelsRun root met nodes (.error e)
  /-- Otherwise the loop goes on with the next level. -/
  | next {met met' : Met} {nodes below : List Node} {documents : List Document}
      {outcome : Except GraphError (List Document)} (hnodes : nodes ≠ [])
      (h : attachAll root met ((expandAll source root nodes).run []).1 =
        .ok (met', documents, below))
      (hnext : LevelsRun root met' below outcome) :
      LevelsRun root met nodes (outcome.map (documents ++ ·))

/-- A build without a bound on the levels. -/
inductive Runs : Except GraphError Documentation → Prop
  | unresolved {e : AnalysisError} (h : source.resolveRoot crate = .error e) :
      Runs (.error (.analysis e))
  | rootless {id : DefId} {e : AnalysisError} (hid : source.resolveRoot crate = .ok id)
      (h : source.definition id = .error e) : Runs (.error (.analysis e))
  | noWorkers {id : DefId} {root : Definition} (hid : source.resolveRoot crate = .ok id)
      (hroot : source.definition id = .ok root) (h : workers.any (· < 1) = true) :
      Runs (.error .noWorkers)
  | failed {id : DefId} {root : Definition} {e : GraphError}
      (hid : source.resolveRoot crate = .ok id) (hroot : source.definition id = .ok root)
      (hworkers : workers.any (· < 1) = false)
      (h : LevelsRun source id ⟨[id], [crate]⟩ [(root, rootDocument crate root)] (.error e)) :
      Runs (.error e)
  | built {id : DefId} {root : Definition} {data : Document} {included : List Document}
      (hid : source.resolveRoot crate = .ok id) (hroot : source.definition id = .ok root)
      (hworkers : workers.any (· < 1) = false)
      (h : LevelsRun source id ⟨[id], [crate]⟩ [(root, rootDocument crate root)]
        (.ok (data :: included))) :
      Runs (.ok ⟨data, included⟩)

/-- What is wrong first: with the root, with the workers, or on a breadth-first walk that is long
enough to meet it. -/
inductive FirstFault : GraphError → Prop
  | unresolved {e : AnalysisError} (h : source.resolveRoot crate = .error e) :
      FirstFault (.analysis e)
  | rootless {id : DefId} {e : AnalysisError} (hid : source.resolveRoot crate = .ok id)
      (h : source.definition id = .error e) : FirstFault (.analysis e)
  | noWorkers {id : DefId} {root : Definition} (hid : source.resolveRoot crate = .ok id)
      (hroot : source.definition id = .ok root) (h : workers.any (· < 1) = true) :
      FirstFault .noWorkers
  | walk {id : DefId} {root : Definition} {n : ℕ} {e : GraphError}
      (hid : source.resolveRoot crate = .ok id) (hroot : source.definition id = .ok root)
      (hworkers : workers.any (· < 1) = false)
      (h : (faults source id crate [] (source.rounds n [root])).head? = some e) :
      FirstFault e

end Definitions

variable {source : AnalysisSource Id} {size : ℕ} {workers : Option Int} {crate : String}
  {id : DefId} {root : Definition}

/-! ### The loop ends -/

/-- The loop ends if so many rounds meet a fault or come to an empty level. -/
theorem levelsRun_of_faults_or_level (n : ℕ) (earlier : List Definition) {nodes : List Node}
    (hnodes : ∀ node ∈ nodes, node.2.OnlyParentSingular)
    (hend : faults source id crate earlier (source.rounds n (nodes.map Prod.fst)) ≠ [] ∨
      source.level n (nodes.map Prod.fst) = []) :
    LevelsRun source id (met id crate earlier) nodes
      (firstFault (faults source id crate earlier (source.rounds n (nodes.map Prod.fst)))
        (finishedRounds source id n nodes)) := by
  induction n generalizing earlier nodes with
  | zero =>
    obtain rfl : nodes = [] := by
      rcases hend with hfault | hlevel
      · exact absurd rfl hfault
      · exact List.map_eq_nil_iff.1 hlevel
    exact .done _
  | succ n ih =>
    rcases nodes with - | ⟨node, nodes⟩
    · have h := (gives_levels source id crate (n + 1) earlier hnodes []).symm
      rw [h]
      exact .done _
    · have hattach := attachAll_eq source id crate earlier hnodes
      rw [← run_expandAll _ []] at hattach
      rw [AnalysisSource.rounds_succ, faults_append] at hend ⊢
      rw [finishedRounds]
      rcases hlevel : faults source id crate earlier ((node :: nodes).map Prod.fst) with - | ⟨e, es⟩
      · rw [hlevel] at hend hattach
        rw [List.nil_append] at hend ⊢
        -- Nothing is wrong with this level, so the loop goes on below it with one round less.
        have hrest := ih (earlier ++ ((node :: nodes).map Prod.fst).flatMap source.shownChildren)
          fun below (hbelow : below ∈ (node :: nodes).flatMap fun node ↦
            nodesBelow source id node.1) ↦ (spec_of_mem_flatMap_nodesBelow hbelow).2
        rw [map_fst_flatMap_nodesBelow] at hrest
        have hnext := LevelsRun.next (List.cons_ne_nil node nodes) hattach (hrest hend)
        convert hnext using 1
        generalize faults source id crate _ _ = fs
        cases fs <;> rfl
      · rw [hlevel] at hattach
        exact .failed (List.cons_ne_nil node nodes) hattach

/-- More rounds do not change what was met first. -/
theorem head?_faults_of_le {n m : ℕ} (hnm : n ≤ m) {e : GraphError}
    (h : (faults source id crate [] (source.rounds n [root])).head? = some e) :
    (faults source id crate [] (source.rounds m [root])).head? = some e := by
  induction hnm with
  | refl => exact h
  | step _ ih =>
    rw [AnalysisSource.rounds_succ_append, faults_append, List.head?_append, ih]
    rfl

/-- What a walk meets first it meets within as many rounds as there are definitions. -/
theorem head?_faults_iff (hfin : source.Finite size) (hid : source.resolveRoot crate = .ok id)
    (hroot : source.definition id = .ok root) {e : GraphError} :
    (faults source id crate [] (source.rounds (size + 1) [root])).head? = some e ↔
      ∃ n, (faults source id crate [] (source.rounds n [root])).head? = some e := by
  refine ⟨fun h ↦ ⟨size + 1, h⟩, fun ⟨n, h⟩ ↦ ?_⟩
  have hn := head?_faults_of_le (Nat.le_max_left n (size + 1)) h
  rcases hfaults : faults source id crate [] (source.rounds (size + 1) [root]) with - | ⟨e', es⟩
  -- A walk without faults is at its end, so more rounds meet none either.
  · rw [faults_eq_nil_iff_wellFormed hfin (Nat.le_succ size) hid hroot,
      ← faults_eq_nil_iff_wellFormed hfin
        (Nat.le_trans (Nat.le_succ size) (Nat.le_max_right n (size + 1))) hid hroot] at hfaults
    rw [hfaults] at hn
    cases hn
  · have hhead : (faults source id crate [] (source.rounds (size + 1) [root])).head? = some e' := by
      rw [hfaults]
      rfl
    rw [head?_faults_of_le (Nat.le_max_right n (size + 1)) hhead] at hn
    exact hn

/-- The build without a bound has the outcome of the bounded one. -/
theorem runs_build (hfin : source.Finite size) :
    Runs source workers crate (Graph.build source size workers crate).1 := by
  rcases hid : source.resolveRoot crate with e | id
  · rw [build_of_unresolved hid]
    exact .unresolved hid
  rcases hroot : source.definition id with e | root
  · rw [build_of_rootless hid hroot]
    exact .rootless hid hroot
  rcases hworkers : workers.any (· < 1) with - | -
  · -- either something is wrong, or distinct ids use up the size of the source
    have hend : faults source id crate [] (source.rounds (size + 1) [root]) ≠ [] ∨
        source.level (size + 1) [root] = [] := by
      by_cases hfaults : faults source id crate [] (source.rounds (size + 1) [root]) = []
      · exact .inr (level_eq_nil_of_distinct hfin (Nat.le_succ size) hroot
          (faults_rounds_eq_nil_iff.1 hfaults).2)
      · exact .inl hfaults
    have hrun := levelsRun_of_faults_or_level (size + 1) []
      (onlyParentSingular_rootDocument crate root) hend
    rw [build_of_root hid hroot hworkers]
    rcases hfaults : faults source id crate [] (source.rounds (size + 1) [root]) with - | ⟨e, es⟩
    · refine .built hid hroot hworkers ?_
      simp only [List.map_cons, List.map_nil, hfaults, finishedRounds, List.singleton_append,
        List.flatMap_cons, List.flatMap_nil, List.append_nil] at hrun
      exact hrun
    · refine .failed hid hroot hworkers ?_
      simp only [List.map_cons, List.map_nil, hfaults] at hrun
      exact hrun
  · rw [build_of_noWorkers hid hroot hworkers]
    exact .noWorkers hid hroot hworkers

/-- A level loop that ends with documents has met no fault and has come to an empty level. -/
theorem exists_rounds_of_levelsRun {m : Met} {nodes : List Node}
    {outcome : Except GraphError (List Document)} (h : LevelsRun source id m nodes outcome)
    {earlier : List Definition} (hm : m = met id crate earlier)
    (hnodes : ∀ node ∈ nodes, node.2.OnlyParentSingular) {documents : List Document}
    (hok : outcome = .ok documents) :
    ∃ n, faults source id crate earlier (source.rounds n (nodes.map Prod.fst)) = [] ∧
      source.level n (nodes.map Prod.fst) = [] ∧ documents = finishedRounds source id n nodes := by
  induction h generalizing earlier documents with
  | done _ =>
    cases hok
    exact ⟨0, rfl, rfl, rfl⟩
  | failed => cases hok
  | @next m m' nodes below finishedHere outcome _ hattach _ ih =>
    rcases outcome with e | rest
    · cases hok
    cases hok
    subst hm
    rw [run_expandAll, attachAll_eq source id crate earlier hnodes, firstFault_eq_ok_iff] at hattach
    -- this level has no faults, and one round more than the levels below has none either
    obtain ⟨hfaults, hresult⟩ := hattach
    cases hresult
    obtain ⟨n, hrest, hlevel, rfl⟩ := ih rfl
      (fun below hbelow ↦ (spec_of_mem_flatMap_nodesBelow hbelow).2) rfl
    rw [map_fst_flatMap_nodesBelow] at hrest hlevel
    refine ⟨n + 1, ?_, hlevel, rfl⟩
    rw [AnalysisSource.rounds_succ, faults_append, hfaults, hrest]
    rfl

/-- A build that ends with a graph has found a root, and its walk has met no fault and has come to
an empty level. -/
theorem exists_rounds_of_runs {graph : Documentation}
    (h : Runs source workers crate (.ok graph)) :
    ∃ id root n, source.resolveRoot crate = .ok id ∧ source.definition id = .ok root ∧
      faults source id crate [] (source.rounds (n + 1) [root]) = [] ∧
      source.level (n + 1) [root] = [] ∧
      graph = ⟨finished source id (root, rootDocument crate root),
        finishedRounds source id n (nodesBelow source id root)⟩ := by
  cases h with
  | @built id root data included hid hroot _ hlevels =>
    have hmet : (⟨[id], [crate]⟩ : Met) = met id crate [] := rfl
    obtain ⟨n, hfaults, hlevel, hdocuments⟩ := exists_rounds_of_levelsRun hlevels hmet
      (onlyParentSingular_rootDocument crate root) rfl
    rcases n with - | n
    · cases hlevel
    · refine ⟨id, root, n, hid, hroot, hfaults, hlevel, ?_⟩
      simp only [finishedRounds, List.map_cons, List.map_nil, List.singleton_append,
        List.flatMap_cons, List.flatMap_nil, List.append_nil, List.cons.injEq] at hdocuments
      rw [hdocuments.1, hdocuments.2]

/-! ### Graphs and faults -/

theorem exists_build_eq_ok_iff (hfin : source.Finite size) :
    (∃ graph, (Graph.build source size workers crate).1 = .ok graph) ↔
      workers.any (· < 1) = false ∧ ∃ id root, WellFormed source crate id root ∧
        ∀ c, source.Shown root c → c.HasPlainSummary := by
  constructor
  · rintro ⟨graph, h⟩
    obtain ⟨id, root, hid, hroot, hworkers, hfaults, -⟩ := exists_root_of_build_eq_ok h
    exact ⟨hworkers, id, root,
      (faults_eq_nil_iff_wellFormed hfin (Nat.le_succ size) hid hroot).1 hfaults⟩
  · rintro ⟨hworkers, id, root, hwf, hplain⟩
    rw [build_of_root hwf.resolved hwf.found hworkers,
      (faults_eq_nil_iff_wellFormed hfin (Nat.le_succ size) hwf.resolved hwf.found).2 ⟨hwf, hplain⟩]
    exact ⟨_, rfl⟩

theorem build_eq_error_iff (hfin : source.Finite size) {e : GraphError} :
    (Graph.build source size workers crate).1 = .error e ↔ FirstFault source workers crate e := by
  constructor
  · intro h
    rcases hid : source.resolveRoot crate with a | id
    · rw [build_of_unresolved hid] at h
      cases h
      exact .unresolved hid
    rcases hroot : source.definition id with a | root
    · rw [build_of_rootless hid hroot] at h
      cases h
      exact .rootless hid hroot
    rcases hworkers : workers.any (· < 1) with - | -
    · rw [build_of_root hid hroot hworkers, firstFault_eq_error_iff] at h
      exact .walk hid hroot hworkers h
    · rw [build_of_noWorkers hid hroot hworkers] at h
      cases h
      exact .noWorkers hid hroot hworkers
  · intro h
    cases h with
    | unresolved h => exact build_of_unresolved h
    | rootless hid h => exact build_of_rootless hid h
    | noWorkers hid hroot h => exact build_of_noWorkers hid hroot h
    | walk hid hroot hworkers h =>
      rw [build_of_root hid hroot hworkers, firstFault_eq_error_iff]
      exact (head?_faults_iff hfin hid hroot).2 ⟨_, h⟩

/-! ### Faults have names -/

/-- A failed look-up of an id, or something that was met twice. -/
def IsNamed (e : GraphError) : Prop :=
  (∃ a, a.IsLookupFailure ∧ e = .analysis a) ∨ (∃ id, e = .duplicateDefinition id) ∨
    ∃ name, e = .duplicateDocument name

theorem isNamed_of_mem_parentFaults (h : source.FailsByName) {d c : Definition} {e : GraphError}
    (he : e ∈ parentFaults source id d c) : IsNamed e := by
  rw [parentFaults] at he
  rcases hp : c.parent with - | p
  · rw [hp] at he
    cases he
  · rw [hp] at he
    simp only at he
    split_ifs at he
    · cases he
    · rcases howner : source.definition p with a | owner
      · rw [howner, List.mem_singleton] at he
        exact .inl ⟨a, h.definition howner, he⟩
      · rw [howner] at he
        cases he

theorem isNamed_of_mem_clashes {earlier cs : List Definition} {e : GraphError}
    (he : e ∈ clashes id crate earlier cs) : IsNamed e := by
  induction cs generalizing earlier with
  | nil => cases he
  | cons c cs ih =>
    rw [clashes, List.mem_append] at he
    rcases he with he | he
    · rw [clash] at he
      split_ifs at he
      · exact .inr (.inl ⟨c.id, List.mem_singleton.1 he⟩)
      · exact .inr (.inr ⟨c.qualifiedName, List.mem_singleton.1 he⟩)
      · cases he
    · exact ih he

/-- What is wrong with a source that fails by name has a name, unless the text of something that is
shown has no plain summary. -/
theorem isNamed_of_mem_faults (h : source.FailsByName) {n : ℕ} {e : GraphError}
    (he : e ∈ faults source id crate [] (source.rounds n [root])) :
    IsNamed e ∨ ∃ c, source.Shown root c ∧ e ∈ summaryFaults c := by
  rcases of_mem_faults he with ⟨d, hd, he⟩ | he
  · rcases of_mem_expansionFaults he with ⟨c, hc, he⟩ | ⟨a, hids, rfl⟩ | ⟨ids, -, i, -, he⟩
    · exact .inr ⟨c, AnalysisSource.shown_iff_exists_reached.2
        ⟨d, AnalysisSource.Reached.of_mem_rounds hd, hc⟩, he⟩
    · exact .inl (.inl ⟨a, h.childrenOf hids, rfl⟩)
    · rcases he with ⟨a, hc, rfl⟩ | ⟨c, -, -, he⟩
      · exact .inl (.inl ⟨a, h.definition hc, rfl⟩)
      · exact .inl (isNamed_of_mem_parentFaults h he)
  · exact .inl (isNamed_of_mem_clashes he)

/-- Something that the root of a crate shows has a text without a plain summary. -/
def LacksSummary (source : AnalysisSource Id) (crate : String) (e : GraphError) : Prop :=
  ∃ id root c s, source.resolveRoot crate = .ok id ∧ source.definition id = .ok root ∧
    source.Shown root c ∧ plainSummary c.docs.toList = .error s ∧ e = .summary s

/-- Over a source that fails by name a build fails by name, for want of a plain summary, or for want
of workers. -/
theorem error_of_build (hfin : source.Finite size) (hnamed : source.FailsByName) {e : GraphError}
    (hbuild : (Graph.build source size workers crate).1 = .error e) :
    e = .analysis (.crateNotFound crate) ∨ IsNamed e ∨ LacksSummary source crate e ∨
      e = .noWorkers ∧ workers.any (· < 1) = true := by
  cases (build_eq_error_iff hfin).1 hbuild with
  | unresolved h => exact .inl (congrArg GraphError.analysis (hnamed.resolveRoot h))
  | rootless _ h => exact .inr (.inl (.inl ⟨_, hnamed.definition h, rfl⟩))
  | noWorkers _ _ h => exact .inr (.inr (.inr ⟨rfl, h⟩))
  | @walk id root n e hid hroot _ h =>
    rcases isNamed_of_mem_faults hnamed (List.mem_of_mem_head? h) with hname | ⟨c, hc, he⟩
    · exact .inr (.inl hname)
    · obtain ⟨s, hs, rfl⟩ := mem_summaryFaults_iff.1 he
      exact .inr (.inr (.inl ⟨id, root, c, s, hid, hroot, hc, hs, rfl⟩))

/-- **A build ends on every finite source.** It has a graph exactly when there are workers, the
crate is well formed, and the texts of all that is shown have plain summaries. Otherwise it fails
with what is wrong first; over a source that fails by name that is a crate that is not found, a
failed look-up, something that is met twice, or a text without a plain summary. -/
theorem build_ends_ok_iff_wellFormed_error_iff_first (hfin : source.Finite size) :
    Runs source workers crate (Graph.build source size workers crate).1 ∧
      ((∃ graph, (Graph.build source size workers crate).1 = .ok graph) ↔
        workers.any (· < 1) = false ∧ ∃ id root, WellFormed source crate id root ∧
          ∀ c, source.Shown root c → c.HasPlainSummary) ∧
      (∀ e, (Graph.build source size workers crate).1 = .error e ↔
        FirstFault source workers crate e) ∧
      (source.FailsByName → workers.any (· < 1) = false →
        ∀ e, (Graph.build source size workers crate).1 = .error e →
          e = .analysis (.crateNotFound crate) ∨
            (∃ a, a.IsLookupFailure ∧ e = .analysis a) ∨
            (∃ id, e = .duplicateDefinition id) ∨ (∃ name, e = .duplicateDocument name) ∨
            LacksSummary source crate e) := by
  refine ⟨runs_build hfin, exists_build_eq_ok_iff hfin, fun e ↦ build_eq_error_iff hfin, ?_⟩
  intro hnamed hworkers e he
  rcases error_of_build hfin hnamed he with h | (h | h | h) | h | ⟨-, hnone⟩
  · exact .inl h
  · exact .inr (.inl h)
  · exact .inr (.inr (.inl h))
  · exact .inr (.inr (.inr (.inl h)))
  · exact .inr (.inr (.inr (.inr h)))
  · rw [hworkers] at hnone
    cases hnone

/-- A module whose struct lists the module again: the cycle is met as a definition that is
enumerated twice. -/
theorem build_cyclic_ends_with_duplicate :
    (sampleSource.toSource [(.int 5, [.int 3])]).Finite 6 ∧
      Runs (sampleSource.toSource [(.int 5, [.int 3])]) none "c"
        (.error (.duplicateDefinition (.int 3))) ∧
      FirstFault (sampleSource.toSource [(.int 5, [.int 3])]) none "c"
        (.duplicateDefinition (.int 3)) := by
  have hfin : (sampleSource.toSource [(.int 5, [.int 3])]).Finite 6 :=
    InMemorySource.finite_toSource ofDefinitions_sampleDefinitions _
  have h := @build_ends_ok_iff_wellFormed_error_iff_first _ _ none "c" hfin
  exact ⟨hfin, h.1, (h.2.2.1 _).1 rfl⟩

/-! ### A text without a plain summary -/

/-- The root of a crate that has one function. -/
def markedRoot : Definition := ⟨.int 1, .module, "c", "c", "", none⟩

/-- A function whose text is a block of HTML with a marked section of no known name. -/
def markedFunction : Definition :=
  ⟨.int 2, .function, "c::f", "f", "<div>\n<![foo[bar]]>\n</div>", some (.int 1)⟩

/-- The source of this crate. -/
def markedSource : InMemorySource where
  definitions := [(.int 1, markedRoot), (.int 2, markedFunction)]
  children := [(.int 1, [.int 2]), (.int 2, [])]
  roots := [("c", .int 1)]

theorem ofDefinitions_marked :
    InMemorySource.ofDefinitions [markedRoot, markedFunction] none = .ok markedSource := rfl

theorem plainSummary_markedFunction :
    plainSummary markedFunction.docs.toList = .error (.unknownSection "foo".toList) := by
  decide +kernel

theorem wellFormed_markedSource :
    WellFormed markedSource.toSource "c" (.int 1) markedRoot := by
  have hreached : ∀ d, markedSource.toSource.Reached markedRoot d →
      d ∈ [markedRoot, markedFunction] := fun d hd ↦
    (AnalysisSource.mem_rounds_iff_reached (n := 2) rfl).2 hd
  have hshown : ∀ c, markedSource.toSource.Shown markedRoot c → c = markedFunction := fun c hc ↦
    List.mem_singleton.1 ((AnalysisSource.mem_below_iff_shown (n := 2) rfl).2 hc)
  -- The function is listed once, by the root, which is its parent.
  have hlisted : ∀ d, markedSource.toSource.Reached markedRoot d → ∀ ids,
      markedSource.toSource.childrenOf d.id = .ok ids → ∀ (k : ℕ) i, ids[k]? = some i →
        d = markedRoot ∧ k = 0 ∧ i = .int 2 := by
    intro d hd ids hids k i hi
    rcases List.mem_pair.1 (hreached d hd) with rfl | rfl
    · cases hids
      obtain ⟨hk, rfl⟩ := List.getElem?_eq_some_iff.1 hi
      obtain rfl : k = 0 := by simpa using hk
      exact ⟨rfl, rfl, rfl⟩
    · cases hids
      cases hi
  exact {
    resolved := rfl
    found := rfl
    children := fun d hd ↦ by
      rcases List.mem_pair.1 (hreached d hd) with rfl | rfl
      · exact ⟨[.int 2], rfl, fun i hi ↦ ⟨markedFunction, List.mem_singleton.1 hi ▸ rfl⟩⟩
      · exact ⟨[], rfl, nofun⟩
    parents := fun d hd ids hids i hi c p hc hmodule ↦ by
      obtain ⟨k, hk⟩ := List.mem_iff_getElem?.1 hi
      obtain ⟨-, -, rfl⟩ := hlisted d hd ids hids k i hk
      cases hc
      cases hmodule
    once := fun d d' k k' c c' hd hd' hc hc' _ ↦ by
      obtain ⟨ids, i, hids, hi, -⟩ := hc
      obtain ⟨ids', i', hids', hi', -⟩ := hc'
      obtain ⟨rfl, rfl, -⟩ := hlisted d hd ids hids k i hi
      obtain ⟨rfl, rfl, -⟩ := hlisted d' hd' ids' hids' k' i' hi'
      exact ⟨rfl, rfl⟩
    root_once := fun c hc ↦ by
      rw [hshown c hc]
      rfl
    names := fun c c' hc hc' _ ↦ (hshown c hc).trans (hshown c' hc').symm
    crate_name := fun c hc ↦ by
      rw [hshown c hc]
      decide }

theorem finite_markedSource : markedSource.toSource.Finite 2 :=
  InMemorySource.finite_toSource ofDefinitions_marked []

theorem build_markedSource : (Graph.build markedSource.toSource 2 none "c").1 =
    .error (.summary (.unknownSection "foo".toList)) := by
  have hwalk : (faults markedSource.toSource (.int 1) "c" []
      (markedSource.toSource.rounds 1 [markedRoot])).head? =
        some (.summary (.unknownSection "foo".toList)) := by
    show (((summaryFaults markedFunction ++ []) ++ _) ++ _ ++ _).head? = _
    rw [summaryFaults, plainSummary_markedFunction]
    rfl
  exact (build_eq_error_iff finite_markedSource).2 (.walk rfl rfl rfl hwalk)

/-- The crate is as well formed as any, and yet it has no graph. -/
theorem not_build_of_unknownSection :
    markedSource.toSource.Finite 2 ∧
      WellFormed markedSource.toSource "c" (.int 1) markedRoot ∧
      (Graph.build markedSource.toSource 2 none "c").1 =
        .error (.summary (.unknownSection "foo".toList)) :=
  ⟨finite_markedSource, wellFormed_markedSource, build_markedSource⟩

end Graph

end CrateDoc
