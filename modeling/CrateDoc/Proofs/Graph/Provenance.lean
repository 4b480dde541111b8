import CrateDoc.Proofs.Concurrency.Expansion
import CrateDoc.Proofs.Document

/-!
# Where documents come from

A build asks its source for definitions, and whatever it says in the end is taken from the answers:
each document but the crate's has the name of a definition that was found, and a definition that is
reported as a duplicate has the id that the source gave it. `yields_building` says so over every
source, whether it keeps a state or not, for the definitions that a source gives if it is asked for
certain ids (`AnalysisSource.Keeps`).

The steps of a build are followed as in `Agrees`, but over one source only: `Stems` is what a step
may come to, and `Yields` that it comes to that.
-/

namespace CrateDoc

/-- Computations on a state that keep an invariant. -/
def Assurance.keeping {σ : Type} (invariant : σ → Prop) : Assurance (StateM σ) where
  Ends desired x := ∀ s, invariant s → desired (x.run s).1 ∧ invariant (x.run s).2
  pure h _ hs := ⟨h, hs⟩
  bind h hf s hs := hf _ (h s hs).1 _ (h s hs).2

theorem Assurance.mono {m : Type → Type} [Monad m] [LawfulMonad m] (assurance : Assurance m)
    {α : Type} {desired desired' : α → Prop} {x : m α} (h : assurance.Ends desired x)
    (himp : ∀ a, desired a → desired' a) : assurance.Ends desired' x := by
  rw [← bind_pure x]
  exact assurance.bind h fun a ha ↦ assurance.pure (himp a ha)

/-- Under ids of a kind a source finds definitions of a kind, and these list ids of that kind. The
parents of such definitions may be looked up. -/
structure AnalysisSource.Keeps {m : Type → Type} [Monad m] (assurance : Assurance m)
    (source : AnalysisSource m) (P : DefId → Prop) (Q : Definition → Prop) : Prop where
  definition : ∀ {id}, P id →
    assurance.Ends (fun r ↦ ∀ d, r = .ok d → Q d) (source.definition id)
  parent : ∀ {child parent}, Q child → Q parent →
    assurance.Ends (fun _ ↦ True) (source.definition (child.parent.getD parent.id))
  childrenOf : ∀ {d}, Q d →
    assurance.Ends (fun r ↦ ∀ ids, r = .ok ids → ∀ id ∈ ids, P id) (source.childrenOf d.id)

namespace Graph

section

variable {m : Type → Type} [Monad m] {α β : Type} {assurance : Assurance m} {Q : Definition → Prop}
  {R : α → Prop} {R' : β → Prop}

/-- What a step may come to: a result of a kind, or an error that reports no definition as a
duplicate but one of a kind. -/
def Stems (Q : Definition → Prop) (R : α → Prop) : Except GraphError α → Prop
  | .ok a => R a
  | .error e => ∀ id, e = .duplicateDefinition id → ∃ d, Q d ∧ d.id = id

/-- Whatever was reported before, a step comes to a result of a kind, or to an error. -/
def Yields (assurance : Assurance m) (Q : Definition → Prop) (R : α → Prop) (x : Building m α) :
    Prop :=
  ∀ logs, assurance.Ends (fun r ↦ Stems Q R r.1) (x.run.run logs)

/-! ### Steps in general -/

theorem Stems.bind {x : Except GraphError α} {f : α → Except GraphError β} (h : Stems Q R x)
    (hf : ∀ a, R a → Stems Q R' (f a)) : Stems Q R' (x >>= f) := by
  rcases x with e | a
  · exact h
  · exact hf a h

theorem yields_pure {a : α} (h : R a) : Yields assurance Q R (pure a) := fun _ ↦ assurance.pure h

theorem yields_report (r : LogRecord) : Yields assurance Q (fun _ ↦ True) (report r) :=
  fun _ ↦ assurance.pure trivial

/-- The refusal of workers stems from no definition. -/
theorem yields_noWorkers : Yields assurance Q (fun _ : α ↦ False) (throw .noWorkers) :=
  fun _ ↦ assurance.pure nofun

/-- What the source answers stems from it. -/
theorem yields_ask {answer : m (Except AnalysisError α)}
    (h : assurance.Ends (fun r ↦ ∀ a, r = .ok a → R a) answer) :
    Yields assurance Q R (ask answer) := by
  intro logs
  refine assurance.bind h fun r hr ↦ ?_
  rcases r with e | a
  · exact assurance.pure nofun
  · exact assurance.pure (hr a rfl)

theorem yields_liftM {x : Except GraphError α} (h : Stems Q R x) :
    Yields assurance Q R (liftM x) := by
  intro logs
  rcases x with e | a
  · exact assurance.pure h
  · exact assurance.pure h

/-- A step goes on with a result of a kind only. -/
theorem Yields.bind {x : Building m α} {f : α → Building m β} (h : Yields assurance Q R x)
    (hf : ∀ a, R a → Yields assurance Q R' (f a)) : Yields assurance Q R' (x >>= f) := by
  intro logs
  rw [ExceptT.run_bind, StateT.run_bind]
  refine assurance.bind (h logs) fun r hr ↦ ?_
  obtain ⟨r, logs'⟩ := r
  rcases r with e | a
  · exact assurance.pure hr
  · exact hf a hr logs'

/-- Building from items one after the other yields what building from each does. -/
theorem yields_mapM [LawfulMonad m] {x : α → Building m β} {items : List α}
    (h : ∀ item ∈ items, Yields assurance Q R' (x item)) :
    Yields assurance Q (fun results ↦ ∀ result ∈ results, R' result) (items.mapM x) := by
  induction items with
  | nil => exact yields_pure nofun
  | cons item items ih =>
    rw [List.mapM_cons]
    refine (h item List.mem_cons_self).bind fun b hb ↦ ?_
    refine (ih fun item hitem ↦ h item (List.mem_cons_of_mem _ hitem)).bind fun bs hbs ↦ ?_
    exact yields_pure (List.forall_mem_cons.2 ⟨hb, hbs⟩)

end

/-! ### Documents and their children -/

section

variable {Q : Definition → Prop} {crate : String}

/-- A document of a crate has its name, or that of a definition of a kind. -/
def Named (Q : Definition → Prop) (crate : String) (document : Document) : Prop :=
  document.id = crate ∨ ∃ d, Q d ∧ document.id = d.qualifiedName

/-- A definition of a kind, with a document that has its name or the crate's. -/
def Node.Of (Q : Definition → Prop) (crate : String) (node : Node) : Prop :=
  Q node.1 ∧ Named Q crate node.2

/-- A document has the name of its definition, and a text without a plain summary is no
duplicate. -/
theorem stems_documentFor (d : Definition) (type : String) :
    Stems Q (fun document : Document ↦ document.id = d.qualifiedName) (documentFor d type) := by
  rw [documentFor]
  rcases plainSummary d.docs.toList with e | plain
  · rintro _ ⟨⟩
  · exact rfl

/-- Attaching children keeps the name of a document; a failure names one of the children. -/
theorem stems_attach (top : Bool) (met : Met) (document : Document) {nodes : List Node}
    (h : ∀ node ∈ nodes, Node.Of Q crate node) :
    Stems Q (fun attached : Met × Document ↦ attached.2.id = document.id)
      (attach top met document nodes) := by
  induction nodes generalizing met document with
  | nil => exact rfl
  | cons node nodes ih =>
    obtain ⟨child, childDocument⟩ := node
    have hrest := fun met document ↦ ih met document fun node hnode ↦
      h node (List.mem_cons_of_mem _ hnode)
    rw [attach]
    split_ifs
    · rintro _ ⟨⟩
      exact ⟨child, (h _ List.mem_cons_self).1, rfl⟩
    · rintro _ ⟨⟩
    · rcases hrel : child.kind.relationName? top with - | relation
      · exact hrest _ document
      · have hadd := document.id_addRelationship relation childDocument.reference
        dsimp only
        rcases hupdate : document.addRelationship relation childDocument.reference with ⟨e | _, d⟩
        · rintro _ ⟨⟩
        · rw [hupdate] at hadd
          rw [← hadd]
          exact hrest _ d

/-- The finished documents of a level keep their names, and below it stand nodes of the kind. -/
theorem stems_attachAll (root : DefId) (met : Met)
    {expansions : List (Node × Except GraphError (List Node))}
    (h : ∀ expansion ∈ expansions, Node.Of Q crate expansion.1 ∧
      Stems Q (fun nodes : List Node ↦ ∀ node ∈ nodes, Node.Of Q crate node) expansion.2) :
    Stems Q (fun level : Met × List Document × List Node ↦
        (∀ document ∈ level.2.1, Named Q crate document) ∧
          ∀ node ∈ level.2.2, Node.Of Q crate node)
      (attachAll root met expansions) := by
  induction expansions generalizing met with
  | nil => exact ⟨nofun, nofun⟩
  | cons expansion expansions ih =>
    obtain ⟨⟨parent, document⟩, children⟩ := expansion
    obtain ⟨⟨-, hname⟩, hchildren⟩ := h _ List.mem_cons_self
    rw [attachAll]
    refine hchildren.bind fun nodes hnodes ↦ ?_
    refine (stems_attach _ met document hnodes).bind fun attached hattached ↦ ?_
    refine (ih attached.1 fun expansion hmem ↦ h expansion (List.mem_cons_of_mem _ hmem)).bind
      fun level hlevel ↦ ?_
    refine ⟨List.forall_mem_cons.2 ⟨?_, hlevel.1⟩, List.forall_mem_append.2 ⟨hnodes, hlevel.2⟩⟩
    rw [Named, hattached]
    exact hname

end

/-! ### Expansions -/

section

variable {m : Type → Type} [Monad m] [LawfulMonad m] {assurance : Assurance m}
  {source : AnalysisSource m} {P : DefId → Prop} {Q : Definition → Prop}
  (h : source.Keeps assurance P Q) (root : DefId) (crate : String)

include h

/-- Nothing is taken from a parent but a reference. -/
theorem yields_parentReference {child parent : Definition} (hchild : Q child) (hparent : Q parent) :
    Yields assurance Q (fun _ : Option Reference ↦ True)
      (parentReference source root child parent) := by
  rw [parentReference]
  dsimp only
  split_ifs
  · exact yields_pure trivial
  · exact (yields_pure (R := fun _ ↦ True) trivial).bind fun _ _ ↦ yields_pure trivial
  · refine (yields_ask (R := fun _ ↦ True) ?_).bind fun _ _ ↦ yields_pure trivial
    exact assurance.mono (h.parent hchild hparent) fun _ _ _ _ ↦ trivial

/-- A child of a definition of the kind is one of the kind, under its own name. -/
theorem yields_expandChild {parent : Definition} (hparent : Q parent) {id : DefId} (hid : P id) :
    Yields assurance Q (fun node? : Option Node ↦ ∀ node ∈ node?, Node.Of Q crate node)
      (expandChild source root parent id) := by
  rw [expandChild]
  refine (yields_ask (h.definition hid)).bind fun child hchild ↦ ?_
  have hnode : ∀ document : Document, document.id = child.qualifiedName →
      Yields assurance Q (fun node? : Option Node ↦ ∀ node ∈ node?, Node.Of Q crate node)
        (pure (some (child, document))) := by
    intro document hname
    refine yields_pure ?_
    rintro _ ⟨⟩
    exact ⟨hchild, .inr ⟨child, hchild, hname⟩⟩
  rcases child.kind.documentType? with - | type
  · exact (yields_report _).bind fun _ _ ↦ yields_pure fun _ h ↦ absurd h (Option.not_mem_none _)
  · dsimp only
    refine (yields_liftM (stems_documentFor child type)).bind fun document hname ↦ ?_
    split_ifs
    · refine (yields_parentReference h root hchild hparent).bind fun reference _ ↦ ?_
      rcases reference with - | reference
      · exact hnode _ hname
      · exact hnode _ ((document.id_addSingularRelationship _ reference).trans hname)
    · exact hnode _ hname

theorem yields_expand {parent : Definition} (hparent : Q parent) :
    Yields assurance Q (fun nodes : List Node ↦ ∀ node ∈ nodes, Node.Of Q crate node)
      (expand source root parent) := by
  rw [expand]
  refine (yields_ask (h.childrenOf hparent)).bind fun ids hids ↦ ?_
  refine (yields_mapM fun id hid ↦ yields_expandChild h root crate hparent (hids id hid)).bind
    fun children hchildren ↦ yields_pure fun node hnode ↦ ?_
  obtain ⟨child, hchild, hsome⟩ := List.mem_filterMap.1 hnode
  exact hchildren child hchild node hsome

/-- All nodes of a level stay of the kind when they are expanded. -/
theorem ends_expandAll_of_keeps {nodes : List Node} (hnodes : ∀ node ∈ nodes, Node.Of Q crate node)
    (logs : List LogRecord) :
    assurance.Ends (fun r ↦ ∀ expansion ∈ r.1, Node.Of Q crate expansion.1 ∧
        Stems Q (fun nodes : List Node ↦ ∀ node ∈ nodes, Node.Of Q crate node) expansion.2)
      ((expandAll source root nodes).run logs) := by
  induction nodes generalizing logs with
  | nil => exact assurance.pure fun _ h ↦ absurd h List.not_mem_nil
  | cons node nodes ih =>
    have hnode := hnodes node List.mem_cons_self
    rw [expandAll, StateT.run_bind]
    refine assurance.bind (yields_expand h root crate hnode.1 logs) fun r hr ↦ ?_
    rw [StateT.run_bind]
    refine assurance.bind (ih (fun node hmem ↦ hnodes node (List.mem_cons_of_mem _ hmem)) r.2)
      fun rest hrest ↦ ?_
    exact assurance.pure (List.forall_mem_cons.2 ⟨⟨hnode, hr⟩, hrest⟩)

theorem yields_expandAll {nodes : List Node} (hnodes : ∀ node ∈ nodes, Node.Of Q crate node) :
    Yields assurance Q (fun expansions ↦ ∀ expansion ∈ expansions, Node.Of Q crate expansion.1 ∧
        Stems Q (fun nodes : List Node ↦ ∀ node ∈ nodes, Node.Of Q crate node) expansion.2)
      (liftM (expandAll source root nodes)) := by
  intro logs
  have hrun : (liftM (expandAll source root nodes) : Building m _).run.run logs =
      (expandAll source root nodes).run logs >>= fun r ↦ pure (.ok r.1, r.2) := rfl
  rw [hrun]
  exact assurance.bind (ends_expandAll_of_keeps h root crate hnodes logs) fun _ hr ↦
    assurance.pure hr

/-! ### Whole builds -/

/-- All documents of all levels are named after definitions of the kind. -/
theorem yields_levels (fuel : ℕ) (met : Met) {nodes : List Node}
    (hnodes : ∀ node ∈ nodes, Node.Of Q crate node) :
    Yields assurance Q
      (fun documents : List Document ↦ ∀ document ∈ documents, Named Q crate document)
      (levels source root fuel met nodes) := by
  induction fuel generalizing met nodes with
  | zero => exact yields_pure nofun
  | succ fuel ih =>
    rcases nodes with - | ⟨node, nodes⟩
    · exact yields_pure nofun
    · rw [levels]
      refine (yields_expandAll h root crate hnodes).bind fun expansions hexpansions ↦ ?_
      refine (yields_liftM (stems_attachAll root met hexpansions)).bind fun level hlevel ↦ ?_
      refine (ih level.1 hlevel.2).bind fun rest hrest ↦ yields_pure ?_
      exact List.forall_mem_append.2 ⟨hlevel.1, hrest⟩

/-- The documents of a build have the names of definitions that the source has given, and so do the
duplicates that it reports. -/
theorem yields_building (size : ℕ) (workers : Option Int)
    (hroot : assurance.Ends (fun r ↦ ∀ id, r = .ok id → P id) (source.resolveRoot crate)) :
    Yields assurance Q
      (fun graph : Documentation ↦ ∀ document ∈ graph.documents, Named Q crate document)
      (building source size workers crate) := by
  rw [building]
  refine (yields_ask hroot).bind fun id hid ↦ ?_
  refine (yields_ask (h.definition hid)).bind fun root hroot ↦ ?_
  refine (yields_report _).bind fun _ _ ↦ ?_
  have hname : Named Q crate (rootDocument crate root) := .inl rfl
  have hnodes : ∀ node ∈ [(root, rootDocument crate root)], Node.Of Q crate node :=
    List.forall_mem_singleton.2 ⟨hroot, hname⟩
  have hlevels := yields_levels h id crate (size + 1) ⟨[id], [crate]⟩ hnodes
  dsimp only
  split_ifs
  · exact yields_noWorkers.bind fun _ h ↦ h.elim
  · refine hlevels.bind fun documents hdocuments ↦ (yields_report _).bind fun _ _ ↦ yields_pure ?_
    rcases documents with - | ⟨data, included⟩
    · exact List.forall_mem_singleton.2 hname
    · exact hdocuments

end

/-! ### Sources with a state -/

/-- What a build yields over a state that keeps an invariant stems from the source. -/
theorem Yields.stems_run_build {σ : Type} {invariant : σ → Prop} {Q : Definition → Prop}
    {R : Documentation → Prop} {source : AnalysisSource (StateM σ)} {size : ℕ}
    {workers : Option Int} {crate : String}
    (h : Yields (Assurance.keeping invariant) Q R (building source size workers crate)) {s : σ}
    (hs : invariant s) : Stems Q R ((Graph.build source size workers crate).run s).1.1 :=
  (h [] s hs).1

/-- What follows a question goes on with the state in which the answer was given. -/
theorem run_ask_bind {σ α β : Type} (answer : StateM σ (Except AnalysisError α))
    (f : α → Building (StateM σ) β) (logs : List LogRecord) (s : σ) :
    (((ask answer >>= f).run.run logs).run s) = match answer.run s with
      | (.ok a, s') => ((f a).run.run logs).run s'
      | (.error e, s') => ((.error (.analysis e), logs), s') := by
  rw [ExceptT.run_bind, StateT.run_bind, StateT.run_bind]
  have hask : ((ask answer : Building (StateM σ) α).run.run logs).run s = match answer.run s with
      | (.ok a, s') => ((.ok a, logs), s')
      | (.error e, s') => ((.error (.analysis e), logs), s') := by
    show (answer >>= _).run s = _
    rw [StateT.run_bind]
    rcases answer.run s with ⟨e | a, s'⟩
    · rfl
    · rfl
  rw [hask]
  rcases answer.run s with ⟨e | a, s'⟩
  · rfl
  · rfl

/-- A build that ends with a graph has found the root of its crate. -/
theorem exists_root_of_run_build {σ : Type} {source : AnalysisSource (StateM σ)} {size : ℕ}
    {workers : Option Int} {crate : String} {s : σ} {graph : Documentation}
    (h : ((Graph.build source size workers crate).run s).1.1 = .ok graph) :
    ∃ id, ((source.resolveRoot crate).run s).1 = .ok id := by
  rw [Graph.build, building, run_ask_bind] at h
  rcases hroot : (source.resolveRoot crate).run s with ⟨e | id, s'⟩
  · rw [hroot] at h
    cases h
  · exact ⟨id, rfl⟩

/-- The root is looked up first, so a build may as well begin where that look-up ends, if the root
is found there again. -/
theorem run_build_eq_of_definition {σ : Type} {source : AnalysisSource (StateM σ)} {size : ℕ}
    {workers : Option Int} {crate : String} {s s' : σ} {id : DefId} {root : Definition}
    (hid : (source.resolveRoot crate).run s = (.ok id, s))
    (hroot : (source.definition id).run s = (.ok root, s'))
    (hid' : (source.resolveRoot crate).run s' = (.ok id, s'))
    (hroot' : (source.definition id).run s' = (.ok root, s')) :
    (Graph.build source size workers crate).run s =
      (Graph.build source size workers crate).run s' := by
  rw [Graph.build, building, run_ask_bind, run_ask_bind, hid, hid']
  dsimp only
  rw [run_ask_bind, run_ask_bind, hroot, hroot']

end Graph

end CrateDoc
