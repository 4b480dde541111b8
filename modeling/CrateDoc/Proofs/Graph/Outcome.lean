import CrateDoc.Proofs.Document
import CrateDoc.Proofs.Graph.Steps

/-!
# What a build gives

The level loop, told without its state. `met` is the record of ids that the loop keeps after some
definitions were enumerated; with it every part of the loop gives the faults of the walk and,
behind them, the documents:

* `attach_eq` for the children of one document, `attachAll_eq` for a level;
* `gives_levels` for as many levels as the loop is allowed;
* `build_of_root` for the whole build, once the root is there.

A relation to many documents never meets one to a single document, since the only relation of that
kind is the one from a module to its parent (`Document.OnlyParentSingular`).
-/

namespace CrateDoc

/-- The one relation that may lead to a single document is that to the parent. -/
def Document.OnlyParentSingular (d : Document) : Prop :=
  ∀ relation reference, Entries.get? relation d.relationships = some (.toOne reference) →
    relation = Graph.parentRelation

namespace Graph

/-! ### Documents of children -/

/-- What a document says of its definition, its relations apart. -/
structure Describes (d : Definition) (document : Document) : Prop where
  type : d.kind.documentType? = some document.type
  id : document.id = d.qualifiedName
  attributes : ∃ plain, plainSummary d.docs.toList = .ok plain ∧
    document.attributes = [("name", d.name), ("docs", d.docs),
      ("summary", String.ofList (summary d.docs.toList)), ("plainSummary", String.ofList plain)]

/-- What a document says of a definition whose text may have no plain summary. -/
structure Outlines (d : Definition) (document : Document) : Prop where
  type : d.kind.documentType? = some document.type
  id : document.id = d.qualifiedName
  attributes : document.attributes = (draft d document.type).attributes

/-- A document that outlines a definition describes it, if its text has a plain summary. -/
theorem Outlines.describes {d : Definition} {document : Document} (h : Outlines d document)
    (hplain : d.HasPlainSummary) : Describes d document := by
  obtain ⟨plain, hplain⟩ := hplain
  refine ⟨h.type, h.id, plain, hplain, ?_⟩
  rw [h.attributes, draft, hplain]
  rfl

theorem Describes.outlines {d : Definition} {document : Document} (h : Describes d document) :
    Outlines d document := by
  obtain ⟨plain, hplain, hattributes⟩ := h.attributes
  refine ⟨h.type, h.id, ?_⟩
  rw [hattributes, draft, hplain]
  rfl

/-- Documents that outline definitions describe them, once all of these have plain summaries. -/
theorem forall₂_describes {ds : List Definition} {documents : List Document}
    (h : List.Forall₂ Outlines ds documents) (hplain : ∀ d ∈ ds, d.HasPlainSummary) :
    List.Forall₂ Describes ds documents :=
  ((List.forall₂_and_left _ _).2 ⟨hplain, h⟩).imp fun _ _ hd ↦ hd.2.describes hd.1

/-- Two documents that differ in their relations only say the same. -/
theorem Outlines.congr {d : Definition} {document document' : Document}
    (h : Outlines d document) (htype : document'.type = document.type)
    (hid : document'.id = document.id) (hattr : document'.attributes = document.attributes) :
    Outlines d document' :=
  ⟨htype ▸ h.type, hid.trans h.id, hattr.trans h.attributes⟩

theorem onlyParentSingular_of_nil {d : Document} (h : d.relationships = []) :
    d.OnlyParentSingular := by
  intro relation reference hget
  rw [h] at hget
  cases hget

section

variable {source : AnalysisSource Id} {root : DefId}

/-- The document of a child outlines it, and has no relation but that to a parent. -/
theorem childDocument_spec (parent : Definition) {child : Definition} {type : String}
    (htype : child.kind.documentType? = some type) :
    Outlines child (childDocument source root parent child type) ∧
      (childDocument source root parent child type).OnlyParentSingular := by
  have hplain : Outlines child (draft child type) := ⟨htype, rfl, rfl⟩
  have hnone : (draft child type).OnlyParentSingular := onlyParentSingular_of_nil rfl
  rw [childDocument]
  split_ifs
  · rcases parentOf? source root parent child with - | reference
    · exact ⟨hplain, hnone⟩
    · refine ⟨hplain.congr rfl rfl rfl, fun relation target hget ↦ ?_⟩
      by_contra hne
      change Entries.get? relation [(parentRelation, Relation.toOne reference)] = _ at hget
      rw [Entries.get?, if_neg (by simpa using Ne.symm hne)] at hget
      cases hget
  · exact ⟨hplain, hnone⟩

/-- A node below a definition holds the document of a child. -/
theorem exists_childDocument_of_mem_nodesBelow {parent : Definition} {node : Node}
    (h : node ∈ nodesBelow source root parent) :
    ∃ type, node.1.kind.documentType? = some type ∧
      node.2 = childDocument source root parent node.1 type := by
  rw [nodesBelow] at h
  rcases hids : source.childrenOf parent.id with e | ids
  · rw [hids] at h
    cases h
  · rw [hids] at h
    obtain ⟨id, -, hnode⟩ := List.mem_filterMap.1 h
    rw [nodeOf?] at hnode
    rcases hchild : source.definition id with e | child
    · rw [hchild] at hnode
      cases hnode
    · rw [hchild] at hnode
      obtain ⟨type, htype, rfl⟩ := Option.map_eq_some_iff.1 hnode
      exact ⟨type, htype, rfl⟩

/-- The nodes below a definition outline their definitions, and point at one parent at most. -/
theorem nodesBelow_spec {parent : Definition} {node : Node}
    (h : node ∈ nodesBelow source root parent) :
    Outlines node.1 node.2 ∧ node.2.OnlyParentSingular := by
  obtain ⟨type, htype, hdocument⟩ := exists_childDocument_of_mem_nodesBelow h
  rw [hdocument]
  exact childDocument_spec parent htype

/-- What `nodesBelow_spec` says of the nodes of a whole level. -/
theorem spec_of_mem_flatMap_nodesBelow {nodes : List Node} {node : Node}
    (h : node ∈ nodes.flatMap fun parent ↦ nodesBelow source root parent.1) :
    Outlines node.1 node.2 ∧ node.2.OnlyParentSingular := by
  obtain ⟨parent, -, hbelow⟩ := List.mem_flatMap.1 h
  exact nodesBelow_spec hbelow

end

theorem onlyParentSingular_rootDocument (crate : String) (d : Definition) :
    ∀ node ∈ [(d, rootDocument crate d)], node.2.OnlyParentSingular := by
  intro node hnode
  rw [List.mem_singleton.1 hnode]
  exact onlyParentSingular_of_nil rfl

/-! ### Attaching children -/

/-- No kind of children is listed in the relation to the parent. -/
theorem relationName?_ne_parent {kind : DefKind} {top : Bool} {relation : String}
    (h : kind.relationName? top = some relation) : relation ≠ parentRelation := by
  rintro rfl
  revert h
  cases kind <;> cases top <;> decide

/-- Adding to a relation to many documents succeeds, and changes no more than that relation. -/
theorem addRelationship_of_ne_parent {d : Document} (hd : d.OnlyParentSingular) {relation : String}
    (hrel : relation ≠ parentRelation) (target : Reference) :
    ∃ relationships, d.addRelationship relation target =
        (.ok (), { d with relationships := relationships }) ∧
      { d with relationships := relationships }.OnlyParentSingular := by
  have hput : ∀ targets, { d with
        relationships :=
          Entries.put relation (.toMany targets) d.relationships }.OnlyParentSingular := by
    intro targets other reference hget
    by_cases h : relation = other
    · subst h
      rw [Entries.get?_put_self] at hget
      cases hget
    · rw [Entries.get?_put_of_ne _ _ (by simpa using h)] at hget
      exact hd other reference hget
  rcases hget : Entries.get? relation d.relationships with - | target' | targets
  · exact ⟨_, Document.addRelationship_of_none hget target, hput [target]⟩
  · exact absurd (hd relation target' hget) hrel
  · by_cases hmem : target ∈ targets
    · exact ⟨d.relationships, Document.addRelationship_of_mem hget hmem, hd⟩
    · refine ⟨Entries.put relation (.toMany (targets ++ [target])) d.relationships, ?_, hput _⟩
      simp only [Document.addRelationship, Document.setDefault, hget, if_neg hmem,
        Document.withRelation]

/-- A document with one more child. -/
def addChild (top : Bool) (document : Document) (child : Node) : Document :=
  match child.1.kind.relationName? top with
  | some relation => (document.addRelationship relation child.2.reference).2
  | none => document

/-- Attaching a child changes the relations of a document only, and never fails. -/
theorem addChild_spec (top : Bool) {document : Document} (hd : document.OnlyParentSingular)
    (child : Node) :
    ∃ relationships, addChild top document child =
      { document with relationships := relationships } ∧
      (addChild top document child).OnlyParentSingular ∧
      ∀ relation, child.1.kind.relationName? top = some relation →
        document.addRelationship relation child.2.reference =
          (.ok (), addChild top document child) := by
  rcases hrel : child.1.kind.relationName? top with - | relation
  · simp only [addChild, hrel]
    refine ⟨document.relationships, rfl, hd, fun relation h ↦ ?_⟩
    cases h
  · obtain ⟨relationships, hadd, hd'⟩ :=
      addRelationship_of_ne_parent hd (relationName?_ne_parent hrel) child.2.reference
    simp only [addChild, hrel, hadd]
    refine ⟨relationships, rfl, hd', fun relation' h ↦ ?_⟩
    cases h
    exact hadd

/-- The ids that are recorded after some definitions were enumerated. -/
def met (root : DefId) (crate : String) (earlier : List Definition) : Met where
  definitions := (earlier.map (·.id)).reverse ++ [root]
  documents := (earlier.map (·.qualifiedName)).reverse ++ [crate]

/-- One more definition is one more id and one more name. -/
theorem met_concat (root : DefId) (crate : String) (earlier : List Definition) (c : Definition) :
    met root crate (earlier ++ [c]) =
      ⟨c.id :: (met root crate earlier).definitions,
        c.qualifiedName :: (met root crate earlier).documents⟩ := by
  simp [met]

/-- An id was met if it is that of the root or of an earlier definition. -/
theorem contains_met_definitions (root : DefId) (crate : String) (earlier : List Definition)
    (id : DefId) : (met root crate earlier).definitions.contains id =
      (root :: earlier.map (·.id)).contains id := by
  rw [Bool.eq_iff_iff, DefId.contains_iff_key_mem, DefId.contains_iff_key_mem]
  simp only [met, List.map_append, List.map_reverse, List.mem_append, List.mem_reverse,
    List.map_cons, List.map_nil, List.mem_cons, List.not_mem_nil, or_false]
  exact or_comm

/-- A name was met if it is that of the crate or of an earlier definition. -/
theorem mem_met_documents {root : DefId} {crate : String} {earlier : List Definition}
    {name : String} : name ∈ (met root crate earlier).documents ↔
      name ∈ crate :: earlier.map (·.qualifiedName) := by
  simp only [met, List.mem_append, List.mem_reverse, List.mem_cons, List.not_mem_nil, or_false]
  exact or_comm

/-- Attaching children gives their clashes, and otherwise the document with all of them. -/
theorem attach_eq (root : DefId) (crate : String) (top : Bool) {document : Document}
    {nodes : List Node} (earlier : List Definition) (hd : document.OnlyParentSingular)
    (hnodes : ∀ node ∈ nodes, node.2.id = node.1.qualifiedName) :
    attach top (met root crate earlier) document nodes =
      firstFault (clashes root crate earlier (nodes.map Prod.fst))
        (met root crate (earlier ++ nodes.map Prod.fst), nodes.foldl (addChild top) document) := by
  induction nodes generalizing earlier document with
  | nil => simp [attach, clashes]
  | cons node nodes ih =>
    obtain ⟨child, childDocument⟩ := node
    have hid : childDocument.id = child.qualifiedName := hnodes _ List.mem_cons_self
    simp only [attach, clashes, clash, contains_met_definitions, hid, mem_met_documents,
      List.map_cons, List.foldl_cons]
    split_ifs
    · rfl
    · rfl
    -- The relation to the child is none to a single document, so adding to it succeeds.
    · obtain ⟨-, -, hd', hadd⟩ := addChild_spec top hd (child, childDocument)
      have hrest := ih (earlier ++ [child]) hd' fun node h ↦
        hnodes node (List.mem_cons_of_mem _ h)
      rw [← met_concat, List.append_cons earlier child (nodes.map Prod.fst), List.nil_append,
        ← hrest]
      rcases hrel : child.kind.relationName? top with - | relation
      · simp only [addChild, hrel]
        rfl
      · simp only [hadd relation hrel]
        rfl

section

variable (source : AnalysisSource Id) (root : DefId) (crate : String)

/-- The finished document of a node: all its children are attached. -/
def finished (node : Node) : Document :=
  (nodesBelow source root node.1).foldl (addChild (node.1.id == root)) node.2

/-- The finished documents of the first `n` levels from some nodes on. -/
def finishedRounds : ℕ → List Node → List Document
  | 0, _ => []
  | n + 1, nodes =>
    nodes.map (finished source root) ++
      finishedRounds n (nodes.flatMap fun node ↦ nodesBelow source root node.1)

variable {source root crate}

/-- Attaching children changes the relations of a document only. -/
theorem foldl_addChild_spec (top : Bool) {document : Document} (nodes : List Node)
    (hd : document.OnlyParentSingular) :
    ∃ relationships,
      nodes.foldl (addChild top) document = { document with relationships := relationships } := by
  induction nodes generalizing document with
  | nil => exact ⟨document.relationships, rfl⟩
  | cons node nodes ih =>
    obtain ⟨relationships, hadd, hd', -⟩ := addChild_spec top hd node
    obtain ⟨relationships', h⟩ := ih hd'
    refine ⟨relationships', ?_⟩
    rw [List.foldl_cons, h, hadd]

/-- A document still outlines its definition when its children are attached. -/
theorem Outlines.finished {node : Node} (h : Outlines node.1 node.2)
    (hd : node.2.OnlyParentSingular) : Outlines node.1 (finished source root node) := by
  obtain ⟨relationships, hrel⟩ := foldl_addChild_spec (node.1.id == root)
    (nodesBelow source root node.1) hd
  rw [Graph.finished, hrel]
  exact h.congr rfl rfl rfl

variable (root) in
/-- The definitions of the next level are the children that are shown. -/
theorem map_fst_flatMap_nodesBelow (nodes : List Node) :
    (nodes.flatMap fun node ↦ nodesBelow source root node.1).map Prod.fst =
      (nodes.map Prod.fst).flatMap source.shownChildren := by
  simp only [List.map_flatMap, List.flatMap_map, map_fst_nodesBelow]

/-- What holds of the first nodes of a walk and goes on to the nodes below carries what it says of a
finished node to all finished documents. -/
theorem forall₂_finishedRounds {P : Node → Prop} {R : Definition → Document → Prop}
    (hbelow : ∀ node, P node → ∀ below ∈ nodesBelow source root node.1, P below)
    (hfinished : ∀ node, P node → R node.1 (finished source root node)) (n : ℕ) {nodes : List Node}
    (h : ∀ node ∈ nodes, P node) :
    List.Forall₂ R (source.rounds n (nodes.map Prod.fst)) (finishedRounds source root n nodes) := by
  induction n generalizing nodes with
  | zero => exact List.Forall₂.nil
  | succ n ih =>
    rw [AnalysisSource.rounds_succ, finishedRounds, ← map_fst_flatMap_nodesBelow root]
    refine List.rel_append ?_ (ih fun below hmem ↦ ?_)
    · rw [List.forall₂_map_left_iff, List.forall₂_map_right_iff, List.forall₂_same]
      exact fun node hnode ↦ hfinished node (h node hnode)
    · obtain ⟨node, hnode, hmem⟩ := List.mem_flatMap.1 hmem
      exact hbelow node (h node hnode) below hmem

variable (source root) in
/-- The finished documents of a walk outline the definitions that it meets, in its order. -/
theorem forall₂_outlines_finishedRounds (n : ℕ) {nodes : List Node}
    (h : ∀ node ∈ nodes, Outlines node.1 node.2 ∧ node.2.OnlyParentSingular) :
    List.Forall₂ Outlines (source.rounds n (nodes.map Prod.fst))
      (finishedRounds source root n nodes) :=
  forall₂_finishedRounds (fun _ _ _ ↦ nodesBelow_spec) (fun _ hnode ↦ hnode.1.finished hnode.2) n h

/-- What the look-ups of a level give. -/
theorem run_expandAll (nodes : List Node) (logs : List LogRecord) :
    ((expandAll source root nodes).run logs).1 =
      nodes.map fun node ↦
        (node, firstFault (expansionFaults source root node.1)
          (nodesBelow source root node.1)) := by
  induction nodes generalizing logs with
  | nil => rfl
  | cons node nodes ih =>
    have hexpand := gives_expand source root node.1 logs
    rw [expandAll, StateT.run_bind]
    rcases hrun : (expand source root node.1).run.run logs with ⟨children, logs'⟩
    rw [hrun] at hexpand
    simp only at hexpand
    rw [hexpand, List.map_cons, ← ih logs']
    rfl

variable (source root crate) in
/-- Attaching the children of a level gives the faults of the level, and otherwise its finished
documents and the nodes of the next level. -/
theorem attachAll_eq (earlier : List Definition) {nodes : List Node}
    (h : ∀ node ∈ nodes, node.2.OnlyParentSingular) :
    attachAll root (met root crate earlier) (nodes.map fun node ↦
        (node, firstFault (expansionFaults source root node.1) (nodesBelow source root node.1))) =
      firstFault (faults source root crate earlier (nodes.map Prod.fst))
        (met root crate (earlier ++ (nodes.map Prod.fst).flatMap source.shownChildren),
          nodes.map (finished source root),
          nodes.flatMap fun node ↦ nodesBelow source root node.1) := by
  induction nodes generalizing earlier with
  | nil => simp [attachAll, faults]
  | cons node nodes ih =>
    have hattach := attach_eq root crate (node.1.id == root) earlier
      (h node List.mem_cons_self)
      fun below (hbelow : below ∈ nodesBelow source root node.1) ↦ (nodesBelow_spec hbelow).1.id
    rw [map_fst_nodesBelow] at hattach
    have hrest := ih (earlier ++ source.shownChildren node.1)
      fun node hnode ↦ h node (List.mem_cons_of_mem _ hnode)
    rw [List.map_cons, List.map_cons, faults, List.append_assoc, attachAll]
    -- the faults of a node come first: those of its expansion, then its clashes
    refine firstFault_bind ?_
    rw [hattach]
    refine firstFault_bind ?_
    simp only [hrest, firstFault_bind_pure, List.flatMap_cons, List.append_assoc, List.map_cons]
    rfl

variable (source root crate) in
/-- The level loop gives the faults of as many rounds as it is allowed, and otherwise their
finished documents. -/
theorem gives_levels (fuel : ℕ) (earlier : List Definition) {nodes : List Node}
    (h : ∀ node ∈ nodes, node.2.OnlyParentSingular) :
    Gives (levels source root fuel (met root crate earlier) nodes)
      (faults source root crate earlier (source.rounds fuel (nodes.map Prod.fst)))
      (finishedRounds source root fuel nodes) := by
  induction fuel generalizing earlier nodes with
  | zero => exact gives_pure []
  | succ fuel ih =>
    cases nodes with
    | nil =>
      have hlevel : ∀ k, source.level k [] = [] := fun k ↦
        AnalysisSource.level_eq_nil_of_le (n := 0) rfl (Nat.zero_le k)
      have hrounds : source.rounds (fuel + 1) [] = [] := by
        simp [AnalysisSource.rounds, hlevel]
      have hfinished : ∀ n, finishedRounds source root n [] = [] := by
        intro n
        induction n with
        | zero => rfl
        | succ n ihn => exact ihn
      rw [List.map_nil, hrounds, hfinished]
      exact gives_pure []
    | cons node nodes =>
      rw [levels, AnalysisSource.rounds_succ, faults_append, finishedRounds]
      -- to expand a level has no faults of its own: those of its nodes show when they are attached
      have hexpand : Gives (liftM (expandAll source root (node :: nodes))) [] ((node :: nodes).map
          fun node ↦ (node, firstFault (expansionFaults source root node.1)
            (nodesBelow source root node.1))) :=
        fun logs ↦ congrArg Except.ok (run_expandAll (node :: nodes) logs)
      refine hexpand.bind_of_nil ?_
      refine (gives_liftM (attachAll_eq source root crate earlier h)).bind fun _ ↦ ?_
      rw [← map_fst_flatMap_nodesBelow root]
      exact (ih _ fun below hbelow ↦ (spec_of_mem_flatMap_nodesBelow hbelow).2).bind_pure _

/-! ### The whole build -/

variable {size : ℕ} {workers : Option Int}

/-- A build ends as the building of it gives. -/
theorem Gives.build_eq {xs : List GraphError} {graph : Documentation}
    (h : Gives (building source size workers crate) xs graph) :
    (Graph.build source size workers crate).1 = firstFault xs graph :=
  h []

/-- Without a root there is no graph. -/
theorem build_of_unresolved {e : AnalysisError} (h : source.resolveRoot crate = .error e) :
    (Graph.build source size workers crate).1 = .error (.analysis e) :=
  (fails_ask h).bind []

theorem build_of_rootless {e : AnalysisError} (hroot : source.resolveRoot crate = .ok root)
    (h : source.definition root = .error e) :
    (Graph.build source size workers crate).1 = .error (.analysis e) := by
  have hfails : Fails (building source size workers crate) (.analysis e) := by
    rw [building]
    refine (gives_ask_of_ok hroot).bind_fails ?_
    exact (fails_ask h).bind
  exact hfails []

/-- Less workers than one are refused when the root was found. -/
theorem build_of_noWorkers {d : Definition} (hroot : source.resolveRoot crate = .ok root)
    (hd : source.definition root = .ok d) (h : workers.any (· < 1) = true) :
    (Graph.build source size workers crate).1 = .error .noWorkers := by
  have hfails : Fails (building source size workers crate) .noWorkers := by
    rw [building]
    refine (gives_ask_of_ok hroot).bind_fails ?_
    refine (gives_ask_of_ok hd).bind_fails ?_
    refine (gives_report _).bind_fails ?_
    simp only [h, if_true]
    exact (fails_throw .noWorkers).bind
  exact hfails []

/-- With a root, a build gives the faults of the walk, and otherwise the finished documents. -/
theorem build_of_root {d : Definition} (hroot : source.resolveRoot crate = .ok root)
    (hd : source.definition root = .ok d) (h : workers.any (· < 1) = false) :
    (Graph.build source size workers crate).1 =
      firstFault (faults source root crate [] (source.rounds (size + 1) [d]))
        ⟨finished source root (d, rootDocument crate d),
          finishedRounds source root size (nodesBelow source root d)⟩ := by
  have hlevels := gives_levels source root crate (size + 1) []
    (onlyParentSingular_rootDocument crate d)
  refine Gives.build_eq ?_
  rw [building]
  refine (gives_ask_of_ok hroot).bind_of_nil ?_
  refine (gives_ask_of_ok hd).bind_of_nil ?_
  refine (gives_report _).bind_of_nil ?_
  simp only [h, Bool.false_eq_true, if_false]
  rw [← List.append_nil (faults source root crate [] _)]
  refine hlevels.bind fun _ ↦ ?_
  refine (gives_report _).bind_of_nil ?_
  simp only [finishedRounds, List.map_cons, List.map_nil, List.singleton_append, List.flatMap_cons,
    List.flatMap_nil, List.append_nil]
  exact gives_pure _

end

end Graph

end CrateDoc
