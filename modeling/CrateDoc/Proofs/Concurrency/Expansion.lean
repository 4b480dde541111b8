import CrateDoc.Graph
import CrateDoc.Proofs.Concurrency.Work

/-!
# Builds that read one source in two ways

The steps of a build are the same over every source: a source that keeps a cache, one that threads
share, one without a state. `Agrees` says that steps over one source have the result of the same
steps over a plain one, up to the spelling of ids, in whatever sense the first can be said to end
(`Assurance`). It is put together along the steps (`Agrees.bind`, `agrees_mapM`), so the two
readings of one definition are followed side by side. All that a source has to do for it is to
answer as the plain one does (`Faithful`).

* `Faithful.agrees_expand`: the expansion of a definition by a thread does not depend on what the
  other threads do.
* `build_toSource`: a build whose source remembers definitions has the result of one whose source
  does not.
-/

namespace CrateDoc

/-- What it means in a monad that a computation ends as desired. -/
structure Assurance (m : Type → Type) [Monad m] where
  Ends : ∀ {α : Type}, (α → Prop) → m α → Prop
  pure : ∀ {α : Type} {desired : α → Prop} {a : α}, desired a → Ends desired (pure a)
  bind : ∀ {α β : Type} {desired : α → Prop} {desired' : β → Prop} {x : m α} {f : α → m β},
    Ends desired x → (∀ a, desired a → Ends desired' (f a)) → Ends desired' (x >>= f)

/-- An error with its id in normal form. -/
def GraphError.key : GraphError → GraphError
  | .analysis e => .analysis e.key
  | .duplicateDefinition id => .duplicateDefinition id.key
  | e => e

/-- A source answers as a plain one does, up to the spelling of ids. -/
structure AnalysisSource.Faithful {m : Type → Type} [Monad m] (assurance : Assurance m)
    (source : AnalysisSource m) (plain : AnalysisSource Id) : Prop where
  resolveRoot : ∀ crate : String, assurance.Ends (fun r ↦
    inKeys AnalysisError.key (fun id : DefId ↦ id) r =
      inKeys AnalysisError.key (fun id : DefId ↦ id) (plain.resolveRoot crate))
    (source.resolveRoot crate)
  definition : ∀ {id id' : DefId}, id.key = id'.key → assurance.Ends (fun r ↦
    inKeys AnalysisError.key Definition.key r =
      inKeys AnalysisError.key Definition.key (plain.definition id'))
    (source.definition id)
  childrenOf : ∀ {id id' : DefId}, id.key = id'.key → assurance.Ends (fun r ↦
    inKeys AnalysisError.key (List.map DefId.key) r =
      inKeys AnalysisError.key (List.map DefId.key) (plain.childrenOf id'))
    (source.childrenOf id)

/-- Answering as a plain source does is answering as every other one that gives the same answers. -/
theorem AnalysisSource.Faithful.congr {m : Type → Type} [Monad m] {assurance : Assurance m}
    {source : AnalysisSource m} {plain other : AnalysisSource Id}
    (h : source.Faithful assurance plain)
    (hroot : ∀ crate, plain.resolveRoot crate = other.resolveRoot crate)
    (hdefinition : ∀ id, inKeys AnalysisError.key Definition.key (plain.definition id) =
      inKeys AnalysisError.key Definition.key (other.definition id))
    (hchildren : ∀ id, inKeys AnalysisError.key (List.map DefId.key) (plain.childrenOf id) =
      inKeys AnalysisError.key (List.map DefId.key) (other.childrenOf id)) :
    source.Faithful assurance other where
  resolveRoot crate := hroot crate ▸ h.resolveRoot crate
  definition {_ id'} hid := hdefinition id' ▸ h.definition hid
  childrenOf {_ id'} hid := hchildren id' ▸ h.childrenOf hid

namespace Graph

open AnalysisSource

/-- A node with its id in normal form. -/
def Node.key (node : Node) : Node := (node.1.key, node.2)

/-- The ids that were met, in normal form. -/
def Met.key (met : Met) : Met := ⟨met.definitions.map DefId.key, met.documents⟩

/-- A node and what its expansion gave, with their ids in normal form. -/
def expansionKey (expansion : Node × Except GraphError (List Node)) :
    Node × Except GraphError (List Node) :=
  (Node.key expansion.1, inKeys GraphError.key (List.map Node.key) expansion.2)

section

variable {m : Type → Type} [Monad m] {α β γ δ : Type}

/-- The result of a build step over a source without a state. -/
def outcome (step : Building Id α) (logs : List LogRecord) : Except GraphError α :=
  (step.run.run logs).1

/-- Whatever was reported before, some steps have the result of others over a plain source, as far
as `f` sees it. -/
def Agrees (assurance : Assurance m) (f : α → γ) (x : Building m α) (y : Building Id α) : Prop :=
  ∀ logs logs', assurance.Ends (fun r ↦
    inKeys GraphError.key f r.1 = inKeys GraphError.key f (outcome y logs')) (x.run.run logs)

variable {assurance : Assurance m} {f : α → γ}

/-! ### Steps in general -/

theorem agrees_pure {a b : α} (h : f a = f b) :
    Agrees assurance f (pure a) (pure b) :=
  fun _ _ ↦ assurance.pure (congrArg Except.ok h)

theorem agrees_report (r r' : LogRecord) :
    Agrees assurance (fun _ : Unit ↦ ()) (report r) (report r') :=
  fun _ _ ↦ assurance.pure rfl

/-- What is asked of the source is the same if the answers are. -/
theorem agrees_ask {answer : m (Except AnalysisError α)} {answer' : Except AnalysisError α}
    (h : assurance.Ends (fun r ↦ inKeys AnalysisError.key f r = inKeys AnalysisError.key f answer')
      answer) :
    Agrees assurance f (ask answer) (ask (m := Id) answer') := by
  intro logs logs'
  refine assurance.bind h fun r hr ↦ ?_
  rcases answer' with e' | a'
  · obtain ⟨e, rfl, he⟩ := inKeys_eq_error_iff.1 hr
    exact assurance.pure (congrArg (fun e ↦ Except.error (GraphError.analysis e)) he)
  · obtain ⟨a, rfl, ha⟩ := inKeys_eq_ok_iff.1 hr
    exact assurance.pure (congrArg Except.ok ha)

/-- Steps that agree may be followed by steps that agree. -/
theorem Agrees.bind {g : β → δ} {x : Building m α} {y : Building Id α} {k : α → Building m β}
    {l : α → Building Id β} (h : Agrees assurance f x y)
    (hk : ∀ a b, f a = f b → Agrees assurance g (k a) (l b)) :
    Agrees assurance g (x >>= k) (y >>= l) := by
  intro logs logs'
  rw [outcome, ExceptT.run_bind, StateT.run_bind, ExceptT.run_bind, StateT.run_bind]
  refine assurance.bind (h logs logs') fun r hr ↦ ?_
  obtain ⟨r, logs₁⟩ := r
  rcases hy : y.run.run logs' with ⟨r', logs₁'⟩
  rw [outcome, hy] at hr
  rcases r' with e' | b
  · obtain ⟨e, rfl, he⟩ := inKeys_eq_error_iff.1 hr
    exact assurance.pure (congrArg Except.error he)
  · obtain ⟨a, rfl, ha⟩ := inKeys_eq_ok_iff.1 hr
    exact hk a b ha logs₁ logs₁'

/-- What would follow an error plays no part. -/
theorem agrees_throw_bind (e : GraphError) (k : β → Building m α) (l : β → Building Id α) :
    Agrees assurance f (throw e >>= k) (throw e >>= l) := by
  intro logs logs'
  rw [ExceptT.run_bind, StateT.run_bind]
  have hthrow : assurance.Ends (· = (.error e, logs)) ((throw e : Building m β).run.run logs) :=
    assurance.pure rfl
  refine assurance.bind hthrow fun r hr ↦ ?_
  subst hr
  exact assurance.pure rfl

/-- Steps for the items of two lists that are alike agree if they agree for items that are. -/
theorem agrees_mapM [LawfulMonad m] {f : β → γ} {key : α → δ} {x : α → Building m β}
    {y : α → Building Id β} {items items' : List α} (hitems : items.map key = items'.map key)
    (h : ∀ item item', key item = key item' → Agrees assurance f (x item) (y item')) :
    Agrees assurance (fun results : List β ↦ results.map f) (items.mapM x) (items'.mapM y) := by
  induction items generalizing items' with
  | nil =>
    obtain rfl : items' = [] := List.map_eq_nil_iff.1 hitems.symm
    exact agrees_pure rfl
  | cons item items ih =>
    obtain ⟨item', items', rfl, hitem, hrest⟩ := List.map_eq_cons_iff.1 hitems.symm
    rw [List.mapM_cons, List.mapM_cons]
    refine (h item item' hitem.symm).bind fun a b hab ↦ ?_
    refine (ih hrest.symm).bind fun as bs hmap ↦ agrees_pure ?_
    rw [List.map_cons, List.map_cons, hab, hmap]

/-- Results that need no source agree if they are the same. -/
theorem agrees_liftM {x y : Except GraphError α}
    (h : inKeys GraphError.key f x = inKeys GraphError.key f y) :
    Agrees assurance f (liftM x) (liftM y) := by
  intro logs logs'
  rcases x with e | a
  · exact assurance.pure h
  · exact assurance.pure h

end

/-! ### Definitions and documents -/

/-- Definitions that differ in the spelling of their ids only. -/
theorem key_eq_iff {c d : Definition} : c.key = d.key ↔
    c.id.key = d.id.key ∧ c.kind = d.kind ∧ c.qualifiedName = d.qualifiedName ∧ c.name = d.name ∧
      c.docs = d.docs ∧ c.parent = d.parent := by
  rcases c with ⟨id, kind, qualifiedName, name, docs, parent⟩
  rcases d with ⟨id', kind', qualifiedName', name', docs', parent'⟩
  simp [Definition.key]

theorem documentFor_congr {c d : Definition} (h : c.key = d.key) (type : String) :
    documentFor c type = documentFor d type := by
  obtain ⟨-, -, hqualified, hname, hdocs, -⟩ := key_eq_iff.1 h
  rw [documentFor, documentFor, hqualified, hname, hdocs]

theorem rootDocument_congr {c d : Definition} (h : c.key = d.key) (crate : String) :
    rootDocument crate c = rootDocument crate d := by
  obtain ⟨-, -, -, -, hdocs, -⟩ := key_eq_iff.1 h
  rw [rootDocument, rootDocument, hdocs]

/-- Ids are compared by their normal forms. -/
theorem beq_congr {a a' b b' : DefId} (ha : a.key = a'.key) (hb : b.key = b'.key) :
    (a == b) = (a' == b') := by
  rw [Bool.eq_iff_iff, DefId.beq_iff_key_eq, DefId.beq_iff_key_eq, ha, hb]

theorem contains_congr {ids ids' : List DefId} {a a' : DefId}
    (hids : ids.map DefId.key = ids'.map DefId.key) (ha : a.key = a'.key) :
    ids.contains a = ids'.contains a' := by
  rw [Bool.eq_iff_iff, DefId.contains_iff_key_mem, DefId.contains_iff_key_mem, hids, ha]

/-- Results in two parts are the same if the first parts are, and the second parts after them. -/
theorem inKeys_bind {ε α β γ δ : Type} {key : ε → ε} {f : α → γ} {g : β → δ} {x y : Except ε α}
    {k l : α → Except ε β} (h : inKeys key f x = inKeys key f y)
    (hk : ∀ a b, f a = f b → inKeys key g (k a) = inKeys key g (l b)) :
    inKeys key g (x >>= k) = inKeys key g (y >>= l) := by
  rcases y with e' | b
  · obtain ⟨e, rfl, he⟩ := inKeys_eq_error_iff.1 h
    exact congrArg Except.error he
  · obtain ⟨a, rfl, ha⟩ := inKeys_eq_ok_iff.1 h
    exact hk a b ha

/-- Work that goes on with one result agrees if what follows does. -/
theorem inKeys_bind_self {ε α β δ : Type} {key : ε → ε} {g : β → δ} {x : Except ε α}
    {k l : α → Except ε β} (hk : ∀ a, inKeys key g (k a) = inKeys key g (l a)) :
    inKeys key g (x >>= k) = inKeys key g (x >>= l) := by
  rcases x with e | a
  · rfl
  · exact hk a

/-- Results that agree do so after a change that keeps to keys. -/
theorem inKeys_map {ε α β γ δ : Type} {key : ε → ε} {f : α → γ} {g : β → δ} {x y : Except ε α}
    {k l : α → β} (h : inKeys key f x = inKeys key f y)
    (hk : ∀ a b, f a = f b → g (k a) = g (l b)) :
    inKeys key g (x.map k) = inKeys key g (y.map l) := by
  rcases y with e' | b
  · obtain ⟨e, rfl, he⟩ := inKeys_eq_error_iff.1 h
    exact congrArg Except.error he
  · obtain ⟨a, rfl, ha⟩ := inKeys_eq_ok_iff.1 h
    exact congrArg Except.ok (hk a b ha)

/-- What attaching children gives, with ids in normal form. -/
def attachedKey (attached : Met × Document) : Met × Document := (attached.1.key, attached.2)

/-- What attaching the children of a level gives, with ids in normal form. -/
def levelKey (level : Met × List Document × List Node) : Met × List Document × List Node :=
  (level.1.key, level.2.1, level.2.2.map Node.key)

/-- Attaching children does not depend on how ids are spelled. -/
theorem attach_congr (top : Bool) {met met' : Met} (document : Document) {nodes nodes' : List Node}
    (hmet : met.key = met'.key) (hnodes : nodes.map Node.key = nodes'.map Node.key) :
    inKeys GraphError.key attachedKey (attach top met document nodes) =
      inKeys GraphError.key attachedKey (attach top met' document nodes') := by
  induction nodes generalizing met met' document nodes' with
  | nil =>
    obtain rfl : nodes' = [] := List.map_eq_nil_iff.1 hnodes.symm
    simp only [attach, inKeys_ok, attachedKey, hmet]
  | cons node nodes ih =>
    obtain ⟨node', nodes', rfl, hnode, hrest⟩ := List.map_eq_cons_iff.1 hnodes.symm
    obtain ⟨child, childDocument⟩ := node
    obtain ⟨child', childDocument'⟩ := node'
    obtain ⟨hchild, rfl⟩ := Prod.mk.injEq .. ▸ hnode
    obtain ⟨hid, hkind, -⟩ := key_eq_iff.1 hchild
    obtain ⟨hdefinitions, hdocuments⟩ := Met.mk.injEq .. ▸ hmet
    rw [attach, attach, contains_congr hdefinitions hid.symm, hdocuments, ← hkind]
    split_ifs
    · exact congrArg (fun id ↦ Except.error (GraphError.duplicateDefinition id)) hid.symm
    · rfl
    · have hnext : (⟨child.id :: met.definitions, childDocument'.id :: met'.documents⟩ : Met).key =
          (⟨child'.id :: met'.definitions, childDocument'.id :: met'.documents⟩ : Met).key := by
        simp only [Met.key, List.map_cons, hdefinitions, hid]
      dsimp only
      rcases child'.kind.relationName? top with - | relation
      · exact ih document hnext hrest.symm
      · exact inKeys_bind_self fun _ ↦ ih _ hnext hrest.symm

theorem attachAll_congr (root : DefId) {met met' : Met}
    {expansions expansions' : List (Node × Except GraphError (List Node))}
    (hmet : met.key = met'.key)
    (hexpansions : expansions.map expansionKey = expansions'.map expansionKey) :
    inKeys GraphError.key levelKey (attachAll root met expansions) =
      inKeys GraphError.key levelKey (attachAll root met' expansions') := by
  induction expansions generalizing met met' expansions' with
  | nil =>
    obtain rfl : expansions' = [] := List.map_eq_nil_iff.1 hexpansions.symm
    simp only [attachAll, inKeys_ok, levelKey, hmet]
  | cons expansion expansions ih =>
    obtain ⟨expansion', expansions', rfl, hexpansion, hrest⟩ :=
      List.map_eq_cons_iff.1 hexpansions.symm
    obtain ⟨⟨parent, document⟩, children⟩ := expansion
    obtain ⟨⟨parent', document'⟩, children'⟩ := expansion'
    obtain ⟨hnode, hchildren⟩ := Prod.mk.injEq .. ▸ hexpansion
    obtain ⟨hparent, rfl⟩ := Prod.mk.injEq .. ▸ hnode
    obtain ⟨hid, -⟩ := key_eq_iff.1 hparent
    rw [attachAll, attachAll, beq_congr hid.symm rfl]
    -- the same three steps on both sides, and keys are kept by each
    refine inKeys_bind hchildren.symm fun nodes nodes' hnodes ↦ ?_
    refine inKeys_bind (attach_congr _ _ hmet hnodes) fun attached attached' hattached ↦ ?_
    obtain ⟨hmet₁, hdocument⟩ := Prod.mk.injEq .. ▸ hattached
    refine inKeys_bind (ih hmet₁ hrest.symm) fun level level' hlevel ↦ ?_
    obtain ⟨hmet₂, hlevel⟩ := Prod.mk.injEq .. ▸ hlevel
    obtain ⟨hdocuments, hbelow⟩ := Prod.mk.injEq .. ▸ hlevel
    exact congrArg Except.ok (by
      simp only [levelKey, List.map_append, hmet₂, hdocument, hdocuments, hbelow, hnodes])

/-! ### Expansions -/

section

variable {m : Type → Type} [Monad m] {assurance : Assurance m}
  {source : AnalysisSource m} {plain : AnalysisSource Id} (h : source.Faithful assurance plain)
  (root : DefId)

include h

/-- To look a definition up is to look it up without a cache. -/
theorem agrees_definition {id id' : DefId} (hid : id.key = id'.key) :
    Agrees assurance Definition.key (ask (source.definition id)) (ask (plain.definition id')) :=
  agrees_ask (h.definition hid)

/-- The references to parents agree. -/
theorem agrees_parentReference {child child' parent parent' : Definition}
    (hchild : child.key = child'.key) (hparent : parent.key = parent'.key) :
    Agrees assurance (fun reference : Option Reference ↦ reference)
      (parentReference source root child parent) (parentReference plain root child' parent') := by
  obtain ⟨hid, -⟩ := key_eq_iff.1 hparent
  obtain ⟨-, -, -, -, -, hnamed⟩ := key_eq_iff.1 hchild
  have howner : (child.parent.getD parent.id).key = (child'.parent.getD parent'.id).key := by
    rw [hnamed]
    rcases child'.parent with - | p
    · exact hid
    · rfl
  have hreference : ∀ owner owner' : Definition, owner.key = owner'.key →
      Agrees assurance (fun reference : Option Reference ↦ reference)
        (pure (owner.kind.documentType?.map fun type ↦ ⟨type, owner.qualifiedName⟩))
        (pure (owner'.kind.documentType?.map fun type ↦ ⟨type, owner'.qualifiedName⟩)) := by
    intro owner owner' hkey
    obtain ⟨-, hkind, hname, -⟩ := key_eq_iff.1 hkey
    exact agrees_pure (by rw [hkind, hname])
  rw [parentReference, parentReference]
  dsimp only
  rw [beq_congr howner rfl, beq_congr howner hid]
  split_ifs
  · exact agrees_pure rfl
  · exact (agrees_pure hparent).bind hreference
  · exact (agrees_definition h howner).bind hreference

/-- A child is the same with the cache and without it. -/
theorem agrees_expandChild {parent parent' : Definition} (hparent : parent.key = parent'.key)
    {id id' : DefId} (hid : id.key = id'.key) :
    Agrees assurance (Option.map Node.key) (expandChild source root parent id)
      (expandChild plain root parent' id') := by
  rw [expandChild, expandChild]
  refine (agrees_definition h hid).bind fun child child' hchild ↦ ?_
  obtain ⟨-, hkind, -⟩ := key_eq_iff.1 hchild
  -- a node agrees if its definition does, for the document is the same on both sides
  have hnode : ∀ document : Document, Agrees assurance (Option.map Node.key)
      (pure (some (child, document))) (pure (some (child', document))) := fun document ↦
    agrees_pure (by rw [Option.map_some, Option.map_some, Node.key, Node.key, hchild])
  rw [hkind]
  rcases child'.kind.documentType? with - | type
  · exact (agrees_report _ _).bind fun _ _ _ ↦ agrees_pure rfl
  · dsimp only
    rw [documentFor_congr hchild]
    refine (agrees_liftM (f := fun document ↦ document) rfl).bind fun document _ hdocument ↦ ?_
    cases hdocument
    split_ifs
    · refine (agrees_parentReference h root hchild hparent).bind fun reference reference' heq ↦ ?_
      obtain rfl : reference = reference' := heq
      rcases reference with - | reference
      · exact hnode _
      · exact hnode _
    · exact hnode _

variable [LawfulMonad m]

/-- The expansion of a definition gives the same nodes, or fails for the same id, however its own id
is spelled. -/
theorem agrees_expand {parent parent' : Definition} (hparent : parent.key = parent'.key) :
    Agrees assurance (List.map Node.key) (expand source root parent)
      (expand plain root parent') := by
  obtain ⟨hid, -⟩ := key_eq_iff.1 hparent
  rw [expand, expand]
  refine (agrees_ask (h.childrenOf hid)).bind fun ids ids' hids ↦ ?_
  refine (agrees_mapM hids fun _ _ hid ↦ agrees_expandChild h root hparent hid).bind
    fun children children' hchildren ↦ agrees_pure ?_
  have hfilter : ∀ nodes : List (Option Node),
      (nodes.filterMap id).map Node.key = (nodes.map (Option.map Node.key)).filterMap id := by
    intro nodes
    rw [List.map_filterMap, List.filterMap_map]
    rfl
  rw [hfilter, hfilter, hchildren]

/-! ### Whole builds -/

/-- Whatever the order of its steps is, the expansion of a level ends as it does without a cache. -/
theorem ends_expandAll {nodes nodes' : List Node}
    (hnodes : nodes.map Node.key = nodes'.map Node.key)
    (logs logs' : List LogRecord) :
    assurance.Ends (fun r ↦ r.1.map expansionKey =
        ((expandAll plain root nodes').run logs').1.map expansionKey)
      ((expandAll source root nodes).run logs) := by
  induction nodes generalizing nodes' logs logs' with
  | nil =>
    obtain rfl : nodes' = [] := List.map_eq_nil_iff.1 hnodes.symm
    exact assurance.pure rfl
  | cons node nodes ih =>
    obtain ⟨node', nodes', rfl, hnode, hrest⟩ := List.map_eq_cons_iff.1 hnodes.symm
    have hparent : node.1.key = node'.1.key := (congrArg Prod.fst hnode).symm
    rw [expandAll, expandAll, StateT.run_bind, StateT.run_bind]
    refine assurance.bind (agrees_expand h root hparent logs logs') fun r hr ↦ ?_
    rw [StateT.run_bind]
    refine assurance.bind (ih hrest.symm r.2 ((expand plain root node'.1).run.run logs').2)
      fun rest hrest ↦ ?_
    refine assurance.pure ?_
    show expansionKey (node, r.1) :: rest.1.map expansionKey = _
    rw [hrest, expansionKey, hr, ← hnode]
    rfl

theorem agrees_expandAll {nodes nodes' : List Node}
    (hnodes : nodes.map Node.key = nodes'.map Node.key) :
    Agrees assurance (List.map expansionKey) (liftM (expandAll source root nodes))
      (liftM (expandAll plain root nodes')) := by
  intro logs logs'
  have hrun : ∀ {n : Type → Type} [Monad n] [LawfulMonad n] (x : StateT (List LogRecord) n
      (List (Node × Except GraphError (List Node)))) (logs : List LogRecord),
      (liftM x : Building n _).run.run logs = x.run logs >>= fun r ↦ pure (.ok r.1, r.2) := by
    intro n _ _ x logs
    rfl
  rw [outcome, hrun, hrun]
  refine assurance.bind (ends_expandAll h root hnodes logs logs') fun r hr ↦ assurance.pure ?_
  exact congrArg Except.ok hr

theorem agrees_levels (fuel : ℕ) {met met' : Met} {nodes nodes' : List Node}
    (hmet : met.key = met'.key) (hnodes : nodes.map Node.key = nodes'.map Node.key) :
    Agrees assurance (fun documents : List Document ↦ documents) (levels source root fuel met nodes)
      (levels plain root fuel met' nodes') := by
  induction fuel generalizing met met' nodes nodes' with
  | zero => exact agrees_pure rfl
  | succ fuel ih =>
    rcases nodes with - | ⟨node, nodes⟩
    · obtain rfl : nodes' = [] := List.map_eq_nil_iff.1 hnodes.symm
      exact agrees_pure rfl
    · obtain ⟨node', nodes', rfl, -⟩ := List.map_eq_cons_iff.1 hnodes.symm
      rw [levels, levels]
      refine (agrees_expandAll h root hnodes).bind fun expansions expansions' hexpansions ↦ ?_
      refine (agrees_liftM (attachAll_congr root hmet hexpansions)).bind
        fun level level' hlevel ↦ ?_
      obtain ⟨hmet₁, hlevel⟩ := Prod.mk.injEq .. ▸ hlevel
      obtain ⟨hdocuments, hbelow⟩ := Prod.mk.injEq .. ▸ hlevel
      refine (ih hmet₁ hbelow).bind fun rest rest' hrest ↦ agrees_pure ?_
      exact congrArg₂ _ hdocuments hrest

/-- A build gives the same documents, or fails for the same id. -/
theorem agrees_building (size : ℕ) (workers : Option Int) (crate : String) :
    Agrees assurance (fun documentation : Documentation ↦ documentation)
      (building source size workers crate) (building plain size workers crate) := by
  rw [building, building]
  refine (agrees_ask (h.resolveRoot crate)).bind fun id id' hid ↦ ?_
  obtain rfl : id = id' := hid
  refine (agrees_definition h rfl).bind fun root root' hroot ↦ ?_
  refine (agrees_report _ _).bind fun _ _ _ ↦ ?_
  have hlevels : Agrees assurance (fun documents : List Document ↦ documents)
      (levels source id (size + 1) ⟨[id], [crate]⟩ [(root, rootDocument crate root)])
      (levels plain id (size + 1) ⟨[id], [crate]⟩ [(root', rootDocument crate root')]) := by
    refine agrees_levels h id (size + 1) rfl ?_
    rw [rootDocument_congr hroot, List.map_cons, List.map_cons, Node.key, Node.key, hroot]
  dsimp only
  split_ifs
  · exact agrees_throw_bind _ _ _
  · refine hlevels.bind fun documents documents' heq ↦ ?_
    obtain rfl : documents = documents' := heq
    rw [rootDocument_congr hroot]
    exact (agrees_report _ _).bind fun _ _ _ ↦ agrees_pure rfl

end

end Graph

/-! ### The source of snapshots, shared and alone -/

/-- Work ends as desired whatever other threads write. -/
def Work.assurance (source : SnapshotSource) : Assurance Work where
  Ends := Work.Ends source
  pure h := h
  bind h hf := h.bind hf

namespace SnapshotSource

variable (source : SnapshotSource)

/-- A source that is shared by workers answers as it does without a cache. -/
theorem faithful_shared : source.shared.Faithful (Work.assurance source) source.uncached where
  resolveRoot _ := rfl
  definition h := (Work.ends_definition source _).mono fun _ hr ↦
    hr.trans (definition_congr source h)
  childrenOf h := childrenOf_congr source h

/-- The same records, with a coherent cache. -/
def Serves (other : SnapshotSource) : Prop :=
  ∃ cache, source.Coherent cache ∧ other = { source with cache := cache }

/-- Work that has the source for itself ends as desired and leaves the cache coherent. -/
def assurance : Assurance (StateM SnapshotSource) where
  Ends desired x :=
    ∀ other, source.Serves other → desired (x.run other).1 ∧ source.Serves (x.run other).2
  pure h _ hother := ⟨h, hother⟩
  bind h hf other hother := hf _ (h other hother).1 _ (h other hother).2

theorem faithful_toSource : toSource.Faithful source.assurance source.uncached where
  resolveRoot crate := by
    rintro _ ⟨cache, hcache, rfl⟩
    rw [resolveRoot_toSource, run_resolveRoot]
    exact ⟨rfl, cache, hcache, rfl⟩
  definition {id id'} h := by
    rintro _ ⟨cache, hcache, rfl⟩
    rw [definition_toSource, run_definition]
    obtain ⟨hresult, hcache'⟩ := (Work.ends_definition source id).run hcache
    exact ⟨hresult.trans (definition_congr source h), _, hcache', rfl⟩
  childrenOf {id id'} h := by
    rintro _ ⟨cache, hcache, rfl⟩
    rw [childrenOf_toSource, run_childrenOf]
    exact ⟨childrenOf_congr source h, cache, hcache, rfl⟩

/-- A build that remembers definitions has the result of a build over a plain source, if the source
answers as that one does. -/
theorem build_of_faithful {plain : AnalysisSource Id}
    (h : toSource.Faithful source.assurance plain) (hcache : source.Coherent source.cache)
    (size : ℕ) (workers : Option Int) (crate : String) :
    ((Graph.build toSource size workers crate).run source).1.1.mapError GraphError.key =
      (Graph.build plain size workers crate).1.mapError GraphError.key := by
  have hbuild := (Graph.agrees_building h size workers crate [] []
    source ⟨source.cache, hcache, rfl⟩).1
  rwa [inKeys_fun_self, inKeys_fun_self] at hbuild

/-- A build that remembers definitions has the result of a build that does not. -/
theorem build_toSource (hcache : source.Coherent source.cache) (size : ℕ) (workers : Option Int)
    (crate : String) :
    ((Graph.build toSource size workers crate).run source).1.1.mapError GraphError.key =
      (Graph.build source.uncached size workers crate).1.mapError GraphError.key :=
  source.build_of_faithful source.faithful_toSource hcache size workers crate

/-- A graph of a source that remembers definitions is one of the source that does not. -/
theorem build_uncached_of_build_toSource (hcache : source.Coherent source.cache) {size : ℕ}
    {workers : Option Int} {crate : String} {graph : Documentation}
    (h : ((Graph.build toSource size workers crate).run source).1.1 = .ok graph) :
    (Graph.build source.uncached size workers crate).1 = .ok graph := by
  have hkeys := source.build_toSource hcache size workers crate
  rw [h] at hkeys
  rcases hplain : (Graph.build source.uncached size workers crate).1 with e | graph'
  · rw [hplain] at hkeys
    cases hkeys
  · rw [hplain] at hkeys
    cases hkeys
    rfl

end SnapshotSource

end CrateDoc
