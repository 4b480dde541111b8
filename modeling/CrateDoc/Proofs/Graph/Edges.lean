import CrateDoc.Proofs.Graph.Attached
import CrateDoc.Proofs.Graph.Termination

/-!
# The relations of a graph

`PointsAtChildren` says what the document of one definition points at, in terms of the source alone:
for each kind of which there are children, these children in their order, and perhaps a parent. It
holds of every finished document of a walk that meets nothing twice
(`forall₂_pointsAtChildren_finishedRounds`).

What the documents point at together is then what the walk has enumerated, so no two relations lead
to one document. `build_showsExactEdges` puts both together: in every graph that a build gives, each
document but the crate's is referred to once, by a document that the crate's leads to.
-/

namespace CrateDoc

/-- The root of a crate is found under its own id. -/
def AnalysisSource.FindsRoot (source : AnalysisSource Id) (crate : String) : Prop :=
  ∀ id root, source.resolveRoot crate = .ok id → source.definition id = .ok root →
    (root.id == id) = true

/-- The children of a definition that are of some kind with documents, in the order of the
source. -/
def AnalysisSource.childrenOfKind (source : AnalysisSource Id) (kind : DefKind) (d : Definition) :
    List Definition :=
  (source.shownChildren d).filter (·.kind = kind)

namespace Documentation

/-- The references of all relations to many documents. -/
def entries (graph : Documentation) : List Reference := graph.documents.flatMap (·.entries)

/-- A relation of one document to many documents leads to another document. -/
def Refers (graph : Documentation) (document other : Document) : Prop :=
  document ∈ graph.documents ∧ other ∈ graph.documents ∧ other.reference ∈ document.entries

/-- If nothing is referred to twice, then no two documents refer to the same one. -/
theorem Refers.unique {graph : Documentation} (hnodup : graph.entries.Nodup)
    {document other other' : Document} (h : graph.Refers other document)
    (h' : graph.Refers other' document) : other = other' := by
  by_contra hne
  have hsymm : Std.Symm fun a b : Document ↦ List.Disjoint a.entries b.entries :=
    ⟨fun _ _ h ↦ List.disjoint_left.2 fun _ ha hb ↦ List.disjoint_left.1 h hb ha⟩
  have hdisjoint : List.Disjoint other.entries other'.entries :=
    (List.nodup_flatMap.1 hnodup).2.forall h.1 h'.1 hne
  exact List.disjoint_left.1 hdisjoint h.2.2 h'.2.2

end Documentation

namespace Graph

/-- What the document of a definition points at: for each kind, its children of that kind, and
perhaps its parent. -/
structure PointsAtChildren (source : AnalysisSource Id) (top : Bool) (d : Definition)
    (document : Document) : Prop where
  /-- No relation is there twice. -/
  keys : (document.relationships.map Prod.fst).Nodup
  /-- There is a relation to many documents for each kind of which there are children, and it lists
  these children in their order. -/
  toMany_iff : ∀ relation targets, (relation, .toMany targets) ∈ document.relationships ↔
    ∃ kind singular plural, kind.shownAs? = some (singular, plural) ∧
      relation = (if top then plural else "child_" ++ plural) ∧
      targets = (source.childrenOfKind kind d).map (⟨singular, ·.qualifiedName⟩) ∧ targets ≠ []
  /-- No relation lists a child twice. -/
  nodup : ∀ relation targets, (relation, .toMany targets) ∈ document.relationships → targets.Nodup
  /-- All relations together list each child once. -/
  entries : document.entries.Perm ((source.shownChildren d).map referenceTo)
  /-- Only modules below the root have a relation to one document, that to their parent. -/
  toOne : ∀ relation target, (relation, .toOne target) ∈ document.relationships →
    relation = "parent" ∧ top = false ∧ d.kind = .module

/-- The relations of a graph are those between the definitions that it shows. -/
structure HasExactEdges (source : AnalysisSource Id) (root : Definition) (depth : ℕ)
    (graph : Documentation) : Prop where
  /-- The levels below the root hold all that is reached through kinds with documents. -/
  shown : ∀ d, d ∈ source.below depth root ↔ source.Shown root d
  /-- The document of the crate points at the children of the root. -/
  data : PointsAtChildren source true root graph.data
  /-- Every other document describes one of them. -/
  described : List.Forall₂ Describes (source.below depth root) graph.included
  /-- It points at the children of what it describes. -/
  included : List.Forall₂ (PointsAtChildren source false) (source.below depth root) graph.included
  /-- Every other document stands in exactly one place of exactly one relation. -/
  once : ∀ document ∈ graph.included, graph.entries.count document.reference = 1
  /-- So exactly one document refers to it. -/
  referrer : ∀ document ∈ graph.included, ∃! other, graph.Refers other document
  /-- From the document of the crate the relations lead to it. -/
  reached : ∀ document ∈ graph.included, Relation.TransGen graph.Refers graph.data document

/-- A graph has exactly the relations between what it shows of a crate. -/
def ShowsExactEdges (source : AnalysisSource Id) (crate : String) (graph : Documentation) : Prop :=
  ∃ id root depth, source.resolveRoot crate = .ok id ∧ source.definition id = .ok root ∧
    HasExactEdges source root depth graph

variable {source : AnalysisSource Id} {crate : String} {id : DefId} {root : Definition}

/-! ### The relations of one document -/

/-- The name of the relation for a kind. -/
theorem relationName?_of_shownAs? {kind : DefKind} {singular plural : String}
    (h : kind.shownAs? = some (singular, plural)) (top : Bool) :
    kind.relationName? top = some (if top then plural else "child_" ++ plural) := by
  rw [DefKind.relationName?, h]
  rfl

/-- The children of a kind are those that the relation of the kind is for. -/
theorem listed_shownChildren {top : Bool} {kind : DefKind} {singular plural : String}
    (h : kind.shownAs? = some (singular, plural)) (d : Definition) :
    listed top (if top then plural else "child_" ++ plural) (source.shownChildren d) =
      (source.childrenOfKind kind d).map (⟨singular, ·.qualifiedName⟩) := by
  have hname := relationName?_of_shownAs? h top
  have hfilter : ∀ c : Definition, decide (c.kind.relationName? top =
      some (if top then plural else "child_" ++ plural)) = decide (c.kind = kind) := by
    intro c
    rw [decide_eq_decide]
    constructor
    · exact fun hc ↦ DefKind.relationName?_injective hc hname
    · rintro rfl
      exact hname
  rw [listed, AnalysisSource.childrenOfKind, funext hfilter]
  refine List.map_congr_left fun c hc ↦ ?_
  have hkind : c.kind = kind := by simpa using (List.mem_filter.1 hc).2
  rw [referenceTo, hkind, DefKind.documentType?, h]
  rfl

/-- Before its children are attached, a document has at most a relation to the parent of a module
below the root. -/
def HasParentOnly (top : Bool) (d : Definition) (document : Document) : Prop :=
  document.relationships = [] ∨ top = false ∧ d.kind = .module ∧
    ∃ target, document.relationships = [(parentRelation, .toOne target)]

/-- A document to which all children are attached points at them, by kinds. -/
theorem Attached.pointsAtChildren {top : Bool} {start document : Document} {d : Definition}
    (h : Attached top start (source.shownChildren d) document)
    (hnodup : ((source.shownChildren d).map referenceTo).Nodup)
    (hstart : HasParentOnly top d start) : PointsAtChildren source top d document := by
  have hget : ∀ relation value, (relation, value) ∈ document.relationships ↔
      Entries.get? relation document.relationships = some value := fun _ _ ↦
    Entries.mem_iff_get?_eq_some h.keys
  -- Under the name of the parent there is at most what the document began with.
  have hparent : ∀ value, Entries.get? parentRelation document.relationships = some value →
      top = false ∧ d.kind = .module ∧ ∃ target, value = .toOne target := by
    intro value hvalue
    rw [h.parent] at hvalue
    rcases hstart with hstart | ⟨htop, hmodule, target, hstart⟩
    · rw [hstart] at hvalue
      cases hvalue
    · rw [hstart] at hvalue
      cases hvalue
      exact ⟨htop, hmodule, target, rfl⟩
  -- Under every other name there are the children that the relation is for.
  have hlisted : ∀ relation targets, (relation, .toMany targets) ∈ document.relationships ↔
      relation ≠ parentRelation ∧ targets = listed top relation (source.shownChildren d) ∧
        targets ≠ [] := by
    intro relation targets
    rw [hget]
    by_cases hrel : relation = parentRelation
    · subst hrel
      refine ⟨fun hfound ↦ ?_, fun hne ↦ absurd rfl hne.1⟩
      obtain ⟨-, -, target, htarget⟩ := hparent _ hfound
      cases htarget
    · rw [h.children relation hrel, Relation.toMany?_eq_some_iff, Relation.toMany.injEq]
      constructor
      · rintro ⟨rfl, hne⟩
        exact ⟨hrel, rfl, hne⟩
      · rintro ⟨-, rfl, hne⟩
        exact ⟨rfl, hne⟩
  refine ⟨h.keys, fun relation targets ↦ ?_, fun relation targets hmem ↦ ?_, h.entries,
    fun relation target hmem ↦ ?_⟩
  · rw [hlisted]
    constructor
    · rintro ⟨-, rfl, hne⟩
      obtain ⟨c, hc⟩ := List.exists_mem_of_ne_nil _ fun hnil ↦ hne (List.map_eq_nil_iff.2 hnil)
      have hrel : c.kind.relationName? top = some relation := by
        simpa using (List.mem_filter.1 hc).2
      obtain ⟨⟨singular, plural⟩, hshown, -⟩ := Option.map_eq_some_iff.1 hrel
      rw [relationName?_of_shownAs? hshown, Option.some.injEq] at hrel
      subst hrel
      exact ⟨c.kind, singular, plural, hshown, rfl, listed_shownChildren hshown d, hne⟩
    · rintro ⟨kind, singular, plural, hshown, rfl, rfl, hne⟩
      exact ⟨relationName?_ne_parent (relationName?_of_shownAs? hshown top),
        (listed_shownChildren hshown d).symm, hne⟩
  · obtain ⟨-, rfl, -⟩ := (hlisted relation targets).1 hmem
    exact hnodup.sublist ((List.filter_sublist ..).map referenceTo)
  · rw [hget] at hmem
    by_cases hrel : relation = parentRelation
    · subst hrel
      obtain ⟨htop, hmodule, -⟩ := hparent _ hmem
      exact ⟨rfl, htop, hmodule⟩
    · rw [h.children relation hrel, Relation.toMany?_eq_some_iff] at hmem
      cases hmem.1

/-! ### The relations of a walk -/

theorem hasParentOnly_childDocument {parent child : Definition} (type : String)
    (hid : (child.id == id) = false) :
    HasParentOnly (child.id == id) child (childDocument source id parent child type) := by
  rw [childDocument]
  split_ifs with hmodule
  · rcases parentOf? source id parent child with - | target
    · exact .inl rfl
    · exact .inr ⟨hid, hmodule, target, rfl⟩
  · exact .inl rfl

theorem hasParentOnly_of_mem_nodesBelow {parent : Definition} {node : Node}
    (h : node ∈ nodesBelow source id parent) (hid : (node.1.id == id) = false) :
    HasParentOnly (node.1.id == id) node.1 node.2 := by
  obtain ⟨type, -, hdocument⟩ := exists_childDocument_of_mem_nodesBelow h
  rw [hdocument]
  exact hasParentOnly_childDocument type hid

theorem Distinct.nodup_references {cs : List Definition} (h : Distinct id crate cs) :
    (cs.map referenceTo).Nodup := by
  refine List.Nodup.of_map Reference.id ?_
  rw [List.map_map]
  exact (List.nodup_cons.1 h.names).2

theorem Distinct.id_beq_eq_false {cs : List Definition} (h : Distinct id crate cs) {c : Definition}
    (hc : c ∈ cs) : (c.id == id) = false :=
  DefId.beq_eq_false_iff.2 fun heq ↦
    (List.nodup_cons.1 h.ids).1 (List.mem_map.2 ⟨c, hc, heq⟩)

/-- The finished document of a node points at the children of its definition. -/
theorem finished_pointsAtChildren {node : Node}
    (hstart : HasParentOnly (node.1.id == id) node.1 node.2)
    (hdistinct : Distinct id crate (source.shownChildren node.1)) :
    PointsAtChildren source (node.1.id == id) node.1 (finished source id node) := by
  have hnodup := hdistinct.nodup_references
  have hnil : Attached (node.1.id == id) node.2 [] node.2 :=
    attached_nil _ (hstart.imp_right fun h ↦ h.2.2)
  have hall := attached_foldl_addChild hnil
    (fun child (hchild : child ∈ nodesBelow source id node.1) ↦ (nodesBelow_spec hchild).1)
    (by rwa [List.nil_append, map_fst_nodesBelow])
  rw [List.nil_append, map_fst_nodesBelow] at hall
  exact hall.pointsAtChildren hnodup hstart

/-- The finished documents of a walk that enumerates nothing twice point at the children of its
definitions. -/
theorem forall₂_pointsAtChildren_finishedRounds (n : ℕ) {nodes : List Node}
    (hnodes : ∀ node ∈ nodes, HasParentOnly (node.1.id == id) node.1 node.2)
    (hdistinct : Distinct id crate
      ((source.rounds n (nodes.map Prod.fst)).flatMap source.shownChildren)) :
    List.Forall₂ (fun d document ↦ PointsAtChildren source (d.id == id) d document)
      (source.rounds n (nodes.map Prod.fst)) (finishedRounds source id n nodes) := by
  induction n generalizing nodes with
  | zero => exact List.Forall₂.nil
  | succ n ih =>
    rw [AnalysisSource.rounds_succ, List.flatMap_append] at hdistinct
    rw [AnalysisSource.rounds_succ, finishedRounds]
    have hhere := hdistinct.sublist (List.sublist_append_left _ _)
    refine List.rel_append ?_ ?_
    · rw [List.forall₂_map_left_iff, List.forall₂_map_right_iff, List.forall₂_same]
      intro node hnode
      have hchildren : Distinct id crate (source.shownChildren node.1) :=
        hhere.sublist (List.sublist_flatten_of_mem
          (List.mem_map.2 ⟨node.1, List.mem_map.2 ⟨node, hnode, rfl⟩, rfl⟩))
      exact finished_pointsAtChildren (hnodes node hnode) hchildren
    -- The walk goes on below the nodes; what it meets there is not the root, which it has met.
    · rw [← map_fst_flatMap_nodesBelow id] at hhere hdistinct ⊢
      refine ih (fun node hnode ↦ ?_) (hdistinct.sublist (List.sublist_append_right _ _))
      obtain ⟨parent, -, hbelow⟩ := List.mem_flatMap.1 hnode
      exact hasParentOnly_of_mem_nodesBelow hbelow
        (hhere.id_beq_eq_false (List.mem_map.2 ⟨node, hnode, rfl⟩))

/-! ### The relations of a whole graph -/

/-- Documents are referred to as the definitions that they describe. -/
theorem map_reference_of_describes {ds : List Definition} {documents : List Document}
    (h : List.Forall₂ Describes ds documents) :
    documents.map (·.reference) = ds.map referenceTo := by
  induction h with
  | nil => rfl
  | cons hd _ ih => rw [List.map_cons, List.map_cons, hd.reference, ih]

/-- What documents point at together is what their definitions enumerate together. -/
theorem flatMap_entries_perm {ds : List Definition} {documents : List Document}
    (h : List.Forall₂ (PointsAtChildren source false) ds documents) :
    (documents.flatMap (·.entries)).Perm ((ds.flatMap source.shownChildren).map referenceTo) := by
  induction h with
  | nil => exact List.Perm.refl []
  | cons hd _ ih =>
    rw [List.flatMap_cons, List.flatMap_cons, List.map_append]
    exact hd.entries.append ih

section

variable {depth : ℕ} {graph : Documentation}
  (hshown : ∀ d, d ∈ source.below depth root ↔ source.Shown root d)
  (hdata : PointsAtChildren source true root graph.data)
  (hdescribed : List.Forall₂ Describes (source.below depth root) graph.included)
  (hincluded : List.Forall₂ (PointsAtChildren source false) (source.below depth root)
    graph.included)
include hdata hdescribed hincluded

/-- If the levels below the root hold the children of all that they hold, then the graph points at
each of its documents once, except for that of the crate. -/
theorem entries_perm_included (hclosed : source.below depth root =
    source.shownChildren root ++ (source.below depth root).flatMap source.shownChildren) :
    graph.entries.Perm (graph.included.map (·.reference)) := by
  rw [Documentation.entries, Documentation.documents, List.flatMap_cons,
    map_reference_of_describes hdescribed, hclosed, List.map_append]
  exact hdata.entries.append (flatMap_entries_perm hincluded)

include hshown

/-- From the document of the crate the relations lead to a document for each definition that is
reached, and it points at the children of the definition. -/
theorem exists_document_of_reached {d : Definition} (h : source.Reached root d) :
    ∃ document ∈ graph.documents, Relation.ReflTransGen graph.Refers graph.data document ∧
      document.entries.Perm ((source.shownChildren d).map referenceTo) := by
  -- The induction is on the chain from the root; the parent's document has an entry for the child.
  induction h with
  | refl => exact ⟨graph.data, List.mem_cons_self, .refl, hdata.entries⟩
  | @tail p c hp hchild ih =>
    obtain ⟨parent, hparent, hpath, hentries⟩ := ih
    obtain ⟨k, hk, rfl⟩ := List.mem_iff_getElem.1 ((hshown c).2 (.tail' hp hchild))
    have hlen : k < graph.included.length := by rwa [← hdescribed.length_eq]
    have hdescribes : Describes (source.below depth root)[k] graph.included[k] :=
      hdescribed.get hk hlen
    have hmem : graph.included[k] ∈ graph.documents :=
      List.mem_cons_of_mem _ (List.getElem_mem hlen)
    have hrefers : graph.Refers parent graph.included[k] := by
      refine ⟨hparent, hmem, hentries.mem_iff.2 ?_⟩
      rw [hdescribes.reference]
      exact List.mem_map_of_mem (AnalysisSource.mem_shownChildren_iff.2 hchild)
    exact ⟨_, hmem, hpath.tail hrefers, (hincluded.get hk hlen).entries⟩

/-- A document that the relations lead to refers to each included one. -/
theorem exists_referrer {document : Document} (h : document ∈ graph.included) :
    ∃ other, graph.Refers other document ∧
      Relation.ReflTransGen graph.Refers graph.data other := by
  obtain ⟨k, hk, rfl⟩ := List.mem_iff_getElem.1 h
  have hlen : k < (source.below depth root).length := by rwa [hdescribed.length_eq]
  have hdescribes : Describes (source.below depth root)[k] graph.included[k] :=
    hdescribed.get hlen hk
  obtain ⟨p, hp, hchild⟩ := AnalysisSource.shown_iff_exists_reached.1
    ((hshown _).1 (List.getElem_mem hlen))
  obtain ⟨parent, hparent, hpath, hentries⟩ :=
    exists_document_of_reached hshown hdata hdescribed hincluded hp
  refine ⟨parent, ⟨hparent, List.mem_cons_of_mem _ h, hentries.mem_iff.2 ?_⟩, hpath⟩
  rw [hdescribes.reference]
  exact List.mem_map_of_mem (AnalysisSource.mem_shownChildren_iff.2 hchild)

/-- A graph whose documents point at the children of distinct definitions has exactly their
relations. -/
theorem hasExactEdges_of_pointsAtChildren (hdistinct : Distinct id crate (source.below depth root))
    (hclosed : source.below depth root =
      source.shownChildren root ++ (source.below depth root).flatMap source.shownChildren) :
    HasExactEdges source root depth graph := by
  have hentries := entries_perm_included hdata hdescribed hincluded hclosed
  have hnodup : graph.entries.Nodup := by
    rw [hentries.nodup_iff, map_reference_of_describes hdescribed]
    exact hdistinct.nodup_references
  exact {
    shown := hshown
    data := hdata
    described := hdescribed
    included := hincluded
    once := fun document hmem ↦
      List.count_eq_one_of_mem hnodup (hentries.mem_iff.2 (List.mem_map_of_mem hmem))
    referrer := fun document hmem ↦ by
      obtain ⟨other, hrefers, -⟩ := exists_referrer hshown hdata hdescribed hincluded hmem
      exact ⟨other, hrefers, fun other' hrefers' ↦ hrefers'.unique hnodup hrefers⟩
    reached := fun document hmem ↦ by
      obtain ⟨other, hrefers, hpath⟩ := exists_referrer hshown hdata hdescribed hincluded hmem
      exact .tail' hpath hrefers }

end

/-! ### The relations of a built graph -/

/-- The rounds from the nodes below a root on are the levels below it. -/
theorem rounds_nodesBelow (n : ℕ) :
    source.rounds n ((nodesBelow source id root).map Prod.fst) = source.below n root := by
  rw [map_fst_nodesBelow, ← List.flatMap_singleton source.shownChildren root,
    AnalysisSource.rounds_flatMap_shownChildren, AnalysisSource.flatMap_shownChildren_rounds]

/-- The included documents of a walk that enumerates nothing twice point at the children of the
definitions below its root. -/
theorem forall₂_pointsAtChildren_below {n : ℕ}
    (hdistinct : Distinct id crate (source.below n root))
    (hchildren : Distinct id crate ((source.below n root).flatMap source.shownChildren))
    (hroot : ∀ c ∈ source.shownChildren root, (c.id == id) = false) :
    List.Forall₂ (PointsAtChildren source false) (source.below n root)
      (finishedRounds source id n (nodesBelow source id root)) := by
  have hnodes : ∀ node ∈ nodesBelow source id root,
      HasParentOnly (node.1.id == id) node.1 node.2 := by
    intro node hnode
    refine hasParentOnly_of_mem_nodesBelow hnode (hroot node.1 ?_)
    rw [← @map_fst_nodesBelow source id root]
    exact List.mem_map_of_mem hnode
  have hpoints := forall₂_pointsAtChildren_finishedRounds n hnodes
    (by rwa [rounds_nodesBelow])
  rw [rounds_nodesBelow] at hpoints
  have hbelow := (List.forall₂_and_left _ _).2
    ⟨fun d hd ↦ hdistinct.id_beq_eq_false hd, hpoints⟩
  refine hbelow.imp fun d document h ↦ ?_
  rw [← h.1]
  exact h.2

/-- The graph of a walk that meets no fault has exactly the relations of the walk. -/
theorem hasExactEdges_of_faults_eq_nil {n : ℕ} (htop : (root.id == id) = true)
    (hfaults : faults source id crate [] (source.rounds (n + 1) [root]) = [])
    (hlevel : source.level (n + 1) [root] = []) :
    HasExactEdges source root n ⟨finished source id (root, rootDocument crate root),
      finishedRounds source id n (nodesBelow source id root)⟩ := by
  have hbelow : source.below (n + 1) root = source.below n root := by
    rw [AnalysisSource.below_succ, hlevel, List.append_nil]
  have hdistinct := (faults_rounds_eq_nil_iff.1 hfaults).2
  have hplain := hasPlainSummary_of_mem_below hfaults
  -- one level deeper there is nothing new, so what is below the root is closed under children
  have hclosed : source.below n root =
      source.shownChildren root ++ (source.below n root).flatMap source.shownChildren := by
    rw [← List.flatMap_cons, ← AnalysisSource.rounds_singleton,
      AnalysisSource.flatMap_shownChildren_rounds, hbelow]
  have hshown : ∀ d, d ∈ source.below n root ↔ source.Shown root d := by
    rw [← hbelow]
    exact fun d ↦ AnalysisSource.mem_below_iff_shown hlevel
  rw [hbelow] at hdistinct hplain
  have hparts := hdistinct
  rw [hclosed] at hparts
  have hchildren : Distinct id crate (source.shownChildren root) :=
    hparts.sublist (List.sublist_append_left _ _)
  have hdata : PointsAtChildren source true root
      (finished source id (root, rootDocument crate root)) := by
    have hfinished : PointsAtChildren source (root.id == id) root
        (finished source id (root, rootDocument crate root)) :=
      @finished_pointsAtChildren _ _ _ (root, rootDocument crate root) (.inl rfl) hchildren
    rwa [htop] at hfinished
  have houtlined := forall₂_outlines_finishedRounds source id n
    fun node (hnode : node ∈ nodesBelow source id root) ↦ nodesBelow_spec hnode
  rw [rounds_nodesBelow] at houtlined
  have hdescribed := forall₂_describes houtlined hplain
  have hincluded := forall₂_pointsAtChildren_below hdistinct
    (hparts.sublist (List.sublist_append_right _ _)) fun c hc ↦ hchildren.id_beq_eq_false hc
  exact hasExactEdges_of_pointsAtChildren hshown hdata hdescribed hincluded hdistinct hclosed

/-- A build that ends with a graph has given it exactly the relations of what it shows. -/
theorem Runs.showsExactEdges {workers : Option Int} {graph : Documentation}
    (hfinds : source.FindsRoot crate) (h : Runs source workers crate (.ok graph)) :
    ShowsExactEdges source crate graph := by
  obtain ⟨id, root, n, hid, hroot, hfaults, hlevel, rfl⟩ := exists_rounds_of_runs h
  exact ⟨id, root, n, hid, hroot,
    hasExactEdges_of_faults_eq_nil (hfinds id root hid hroot) hfaults hlevel⟩

/-- **A built graph has exactly the relations between what it shows.** This holds of a build that is
not bounded, if the root of the crate is found under its own id, and so of every build from a finite
source. -/
theorem build_showsExactEdges :
    (∀ (source : AnalysisSource Id) (workers : Option Int) (crate : String)
        (graph : Documentation), source.FindsRoot crate → Runs source workers crate (.ok graph) →
      ShowsExactEdges source crate graph) ∧
    ∀ (source : AnalysisSource Id) (size : ℕ) (workers : Option Int) (crate : String)
        (graph : Documentation), source.Finite size →
      (Graph.build source size workers crate).1 = .ok graph →
      ShowsExactEdges source crate graph := by
  refine ⟨fun _ _ _ _ hfinds h ↦ h.showsExactEdges hfinds,
    fun source size workers crate graph hfin h ↦ ?_⟩
  have hrun : Runs source workers crate (Graph.build source size workers crate).1 :=
    runs_build hfin
  rw [h] at hrun
  exact hrun.showsExactEdges fun _ _ _ hroot ↦ hfin.id_beq hroot

/-- The crate refers to its module and its function, and the module to its struct. -/
theorem build_sampleSource_showsExactEdges :
    ∃ graph, sampleSource.toSource.FindsRoot "c" ∧
      Runs sampleSource.toSource none "c" (.ok graph) ∧ sampleSource.toSource.Finite 6 ∧
      (Graph.build sampleSource.toSource 6 none "c").1 = .ok graph ∧
      graph.documents.map (·.relationships) =
        [[("modules", .toMany [⟨"module", "c::m"⟩]), ("functions", .toMany [⟨"function", "c::f"⟩])],
          [("child_structs", .toMany [⟨"struct", "c::m::S"⟩])], [], []] ∧
      ShowsExactEdges sampleSource.toSource "c" graph := by
  have hfinds : sampleSource.toSource.FindsRoot "c" := fun _ _ _ hroot ↦
    finite_sampleSource.id_beq hroot
  have hrun : Runs sampleSource.toSource none "c"
      (Graph.build sampleSource.toSource 6 none "c").1 := runs_build finite_sampleSource
  exact ⟨_, hfinds, hrun, finite_sampleSource, rfl, rfl,
    build_showsExactEdges.1 _ none "c" _ hfinds hrun⟩

end Graph

end CrateDoc
