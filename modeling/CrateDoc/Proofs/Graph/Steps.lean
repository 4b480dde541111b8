import CrateDoc.Proofs.FirstFault
import CrateDoc.Proofs.Graph.Faults

/-!
# What the look-ups of a build give

A step of a build reports and may fail. What it reports is no concern of the theorems on graphs, so
a step is described by `Gives`: the faults that it would meet, in their order, and its result if
there are none. Steps are put together by `Gives.bind` and `gives_mapM`.

The expansion of a definition gives its `expansionFaults`, and otherwise the nodes of its children
(`gives_expand`); these are its `shownChildren`, each with its document (`map_fst_nodesBelow`). A
document is spelled out whether or not it can be made (`draft`), so that the nodes of a walk are
there before it is known that nothing is wrong with it.
-/

namespace CrateDoc.Graph

variable {α β : Type}

/-- Whatever was reported before, a step fails with the first of the faults, or has the result. -/
def Gives (step : Building Id α) (faults : List GraphError) (a : α) : Prop :=
  ∀ logs, (step.run.run logs).1 = firstFault faults a

/-- Whatever was reported before, a step fails. -/
def Fails (step : Building Id α) (e : GraphError) : Prop :=
  ∀ logs, (step.run.run logs).1 = .error e

/-! ### Steps in general -/

theorem gives_pure (a : α) : Gives (pure a) [] a := fun _ ↦ rfl

theorem gives_report (r : LogRecord) : Gives (report r) [] () := fun _ ↦ rfl

theorem fails_throw (e : GraphError) : Fails (throw e : Building Id α) e := fun _ ↦ rfl

/-- An answered question gives the answer. -/
theorem gives_ask_of_ok {answer : Id (Except AnalysisError α)} {a : α} (h : answer = .ok a) :
    Gives (ask answer) [] a := fun _ ↦ by
  rw [h]
  rfl

/-- A refused question fails with the refusal. -/
theorem fails_ask {answer : Id (Except AnalysisError α)} {e : AnalysisError}
    (h : answer = .error e) : Fails (ask answer) (.analysis e) := fun _ ↦ by
  rw [h]
  rfl

/-- A computation of a first fault gives what it returns unless there is a fault. -/
theorem gives_liftM {x : Except GraphError α} {xs : List GraphError} {a : α}
    (h : x = firstFault xs a) : Gives (liftM x) xs a := fun _ ↦ by
  rw [h]
  cases xs <;> rfl

/-- After a result the next step runs, with some reports before it. -/
theorem exists_run_bind_of_ok {x : Building Id α} {logs : List LogRecord} {a : α}
    (h : (x.run.run logs).1 = .ok a) (f : α → Building Id β) :
    ∃ logs', ((x >>= f).run.run logs).1 = ((f a).run.run logs').1 := by
  rw [ExceptT.run_bind, StateT.run_bind]
  rcases hr : x.run.run logs with ⟨r, logs'⟩
  rw [hr] at h
  simp only at h
  subst h
  exact ⟨logs', rfl⟩

/-- What follows a failure is not run. -/
theorem Fails.bind {x : Building Id α} {f : α → Building Id β} {e : GraphError} (hx : Fails x e) :
    Fails (x >>= f) e := by
  intro logs
  have h := hx logs
  rw [ExceptT.run_bind, StateT.run_bind]
  rcases hr : x.run.run logs with ⟨r, logs'⟩
  rw [hr] at h
  simp only at h
  subst h
  rfl

/-- Behind a failure it does not matter what would have come out. -/
theorem Fails.gives {x : Building Id α} {e : GraphError} (hx : Fails x e) (es : List GraphError)
    (a : α) : Gives x (e :: es) a :=
  hx

/-- A step with faults fails with the first of them. -/
theorem Gives.fails {x : Building Id α} {e : GraphError} {es : List GraphError} {a : α}
    (hx : Gives x (e :: es) a) : Fails x e :=
  hx

/-- The faults of a step come before those of what follows; what follows a fault is not run. -/
theorem Gives.bind {x : Building Id α} {f : α → Building Id β} {xs ys : List GraphError} {a : α}
    {b : β} (hx : Gives x xs a) (hf : xs = [] → Gives (f a) ys b) :
    Gives (x >>= f) (xs ++ ys) b := by
  cases xs with
  | nil =>
    intro logs
    obtain ⟨logs', h⟩ := exists_run_bind_of_ok (hx logs) f
    rw [h, List.nil_append]
    exact hf rfl logs'
  | cons e es => exact hx.fails.bind.gives (es ++ ys) b

/-- Behind a step without faults stand the faults of what follows. -/
theorem Gives.bind_of_nil {x : Building Id α} {f : α → Building Id β} {ys : List GraphError} {a : α}
    {b : β} (hx : Gives x [] a) (hf : Gives (f a) ys b) : Gives (x >>= f) ys b :=
  hx.bind fun _ ↦ hf

/-- A step without faults hands on the failure of what follows. -/
theorem Gives.bind_fails {x : Building Id α} {f : α → Building Id β} {e : GraphError} {a : α}
    (hx : Gives x [] a) (hf : Fails (f a) e) : Fails (x >>= f) e := fun logs ↦ by
  obtain ⟨logs', h⟩ := exists_run_bind_of_ok (hx logs) f
  rw [h]
  exact hf logs'

/-- A result may be changed without new faults. -/
theorem Gives.bind_pure {x : Building Id α} {xs : List GraphError} {a : α} (hx : Gives x xs a)
    (g : α → β) : Gives (x >>= fun a ↦ pure (g a)) xs (g a) := fun logs ↦ by
  have h := hx.bind (f := fun a ↦ pure (g a)) (fun _ ↦ gives_pure (g a)) logs
  rwa [List.append_nil] at h

/-- Steps in turn have the faults of all, in order, and give the list of what each gives. -/
theorem gives_mapM {f : α → Building Id β} {faults : α → List GraphError} {g : α → β} {xs : List α}
    (h : ∀ x ∈ xs, Gives (f x) (faults x) (g x)) :
    Gives (xs.mapM f) (xs.flatMap faults) (xs.map g) := by
  induction xs with
  | nil =>
    rw [List.mapM_nil]
    exact gives_pure []
  | cons x xs ih =>
    rw [List.mapM_cons, List.flatMap_cons]
    refine (h x List.mem_cons_self).bind fun _ ↦ ?_
    exact (ih fun y hy ↦ h y (List.mem_cons_of_mem x hy)).bind_pure (g x :: ·)

/-! ### The nodes below a definition -/

/-- The document of a definition, with an empty plain summary if there is none. -/
def draft (d : Definition) (type : String) : Document where
  type := type
  id := d.qualifiedName
  attributes := [("name", d.name), ("docs", d.docs),
    ("summary", String.ofList (summary d.docs.toList)),
    ("plainSummary", String.ofList ((plainSummary d.docs.toList).toOption.getD []))]

/-- The document of a definition is its draft, unless the summary has a fault. -/
theorem documentFor_eq (d : Definition) (type : String) :
    documentFor d type = firstFault (summaryFaults d) (draft d type) := by
  rw [documentFor, summaryFaults, draft]
  rcases plainSummary d.docs.toList with e | plain
  · rfl
  · rfl

section Definitions

variable (source : AnalysisSource Id) (root : DefId)

/-- The reference from a module to its parent, if all look-ups succeed. -/
def parentOf? (parent child : Definition) : Option Reference :=
  let id := child.parent.getD parent.id
  if id == root then none
  else if id == parent.id then parent.kind.documentType?.map (⟨·, parent.qualifiedName⟩)
  else match source.definition id with
    | .ok owner => owner.kind.documentType?.map (⟨·, owner.qualifiedName⟩)
    | .error _ => none

/-- The document of a child before any child of its own is attached to it. -/
def childDocument (parent child : Definition) (type : String) : Document :=
  if child.kind = .module then
    match parentOf? source root parent child with
    | some reference => (draft child type).addSingularRelationship parentRelation reference
    | none => draft child type
  else draft child type

/-- A child with its document, if it has one. -/
def childNode? (parent child : Definition) : Option Node :=
  child.kind.documentType?.map fun type ↦ (child, childDocument source root parent child type)

/-- The node of an enumerated id, if its definition is there and has a document. -/
def nodeOf? (parent : Definition) (id : DefId) : Option Node :=
  match source.definition id with
  | .ok child => childNode? source root parent child
  | .error _ => none

/-- The nodes of the children of a definition, if all look-ups succeed. -/
def nodesBelow (parent : Definition) : List Node :=
  match source.childrenOf parent.id with
  | .ok ids => ids.filterMap (nodeOf? source root parent)
  | .error _ => []

end Definitions

variable {source : AnalysisSource Id} {root : DefId}

/-- A child is a node of the graph exactly if its kind is retained. -/
theorem map_fst_childNode? (parent child : Definition) :
    (childNode? source root parent child).map Prod.fst =
      if child.kind.isRetained then some child else none := by
  have hkind := @DefKind.documentType?_eq_none_iff child.kind
  rw [childNode?]
  rcases h : child.kind.documentType? with - | type
  · rw [if_neg (by simp [hkind.1 h])]
    rfl
  · have hretained : child.kind.isRetained = true := by
      by_contra hne
      rw [hkind.2 (by simpa using hne)] at h
      cases h
    rw [if_pos hretained]
    rfl

/-- The nodes below a definition are those of its children that have documents. -/
theorem map_fst_nodesBelow (parent : Definition) :
    (nodesBelow source root parent).map Prod.fst = source.shownChildren parent := by
  rcases h : source.childrenOf parent.id with e | ids
  · rw [nodesBelow, AnalysisSource.shownChildren_of_error h, h]
    rfl
  · rw [nodesBelow, AnalysisSource.shownChildren_of_ok h, h, List.map_filterMap]
    refine List.filterMap_congr fun id _ ↦ ?_
    rw [nodeOf?, AnalysisSource.shown?]
    rcases source.definition id with e | child
    · rfl
    · exact map_fst_childNode? parent child

/-! ### The look-ups of a build -/

variable (source root)

/-- The parent of a child is looked up as the definition of its faults and result says. -/
theorem gives_parentReference (parent child : Definition) :
    Gives (parentReference source root child parent) (parentFaults source root parent child)
      (parentOf? source root parent child) := by
  rw [parentReference, parentFaults, parentOf?]
  rcases hp : child.parent with - | p
  · simp only [Option.getD_none, beq_self_eq_true, if_true]
    split_ifs
    · exact gives_pure none
    · exact gives_pure _
  · simp only [Option.getD_some, Bool.or_eq_true]
    by_cases hroot : (p == root) = true
    · simp only [hroot, if_true, true_or]
      exact gives_pure none
    · by_cases hparent : (p == parent.id) = true
      · simp only [hroot, hparent, if_true, or_true, Bool.false_eq_true, if_false]
        exact gives_pure _
      · simp only [hroot, hparent, or_self, Bool.false_eq_true, if_false]
        rcases source.definition p with e | owner
        · exact (fails_ask rfl).bind.gives [] none
        · exact (gives_ask_of_ok rfl).bind_of_nil (gives_pure _)

theorem gives_expandChild (parent : Definition) (id : DefId) :
    Gives (expandChild source root parent id) (childFaults source root parent id)
      (nodeOf? source root parent id) := by
  rw [expandChild, childFaults, nodeOf?]
  -- the three questions of a step in turn: the definition, its type, its parent
  rcases source.definition id with e | child
  · exact (fails_ask rfl).bind.gives [] none
  · refine (gives_ask_of_ok rfl).bind_of_nil ?_
    simp only [childNode?, childDocument]
    have hkind := @DefKind.documentType?_eq_none_iff child.kind
    rcases htype : child.kind.documentType? with - | type
    · rw [if_neg (by simp [hkind.1 htype])]
      exact (gives_report _).bind_of_nil (gives_pure none)
    · rw [if_pos (by simpa [htype] using hkind)]
      refine (gives_liftM (documentFor_eq child type)).bind fun _ ↦ ?_
      by_cases hmodule : child.kind = .module
      · simp only [hmodule, if_true]
        have hparent := gives_parentReference source root parent child
        rcases hfaults : parentFaults source root parent child with - | ⟨e, es⟩
        · rw [hfaults] at hparent
          refine hparent.bind_of_nil ?_
          rcases parentOf? source root parent child with - | reference
          · exact gives_pure _
          · exact gives_pure _
        · rw [hfaults] at hparent
          exact hparent.fails.bind.gives es _
      · simp only [hmodule, if_false]
        exact gives_pure _

/-- The expansion of a definition fails with its first fault, or gives the nodes below. -/
theorem gives_expand (parent : Definition) :
    Gives (expand source root parent) (expansionFaults source root parent)
      (nodesBelow source root parent) := by
  rw [expand, expansionFaults, nodesBelow]
  rcases source.childrenOf parent.id with e | ids
  · exact (fails_ask rfl).bind.gives [] []
  · refine (gives_ask_of_ok rfl).bind_of_nil ?_
    have h := (gives_mapM fun id (_ : id ∈ ids) ↦
      gives_expandChild source root parent id).bind_pure
        (fun children ↦ children.filterMap id)
    rw [List.filterMap_map] at h
    exact h

end CrateDoc.Graph
