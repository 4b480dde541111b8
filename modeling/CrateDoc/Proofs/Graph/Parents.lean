import CrateDoc.Proofs.Graph.Edges
import CrateDoc.Proofs.Graph.ParentLinks

/-!
# The parents of modules

A module's relation to its parent is made when the module is expanded, from the parent that its
definition names; the relation from the parent to the module is added when the parent's children are
attached. `ParentsMirrorChildren` says that the two agree: the parent that a module names is the
document that lists it, except that the document of the crate is not named.

Attaching children leaves the relation to the parent (`get?_parent_finished`), so each document of a
walk keeps what it said of the definition that enumerates it (`forall₂_namesParent_below`). In a
source that follows parents, this definition is the parent (`parentOf?_of_child`).
-/

namespace CrateDoc

/-- The references that a relation holds. -/
def Relation.targets : Relation → List Reference
  | .toOne target => [target]
  | .toMany targets => targets

/-- No reference of a graph leads out of it, and relations to parents are relations to children that
are read backwards. -/
structure Documentation.ParentsMirrorChildren (graph : Documentation) : Prop where
  /-- Every reference of every relation has the type and the id of an included document. -/
  closed : ∀ document ∈ graph.documents, ∀ relation value,
    (relation, value) ∈ document.relationships → ∀ reference ∈ value.targets,
      ∃ other ∈ graph.included, other.type = reference.type ∧ other.id = reference.id
  /-- One document lists a module. The module names it as its parent, unless it is the crate's. -/
  modules : ∀ document ∈ graph.included, document.type = "module" → ∃ owner,
    (∀ other, graph.Refers other document ↔ other = owner) ∧
      ∀ value, ("parent", value) ∈ document.relationships ↔
        owner ≠ graph.data ∧ value = .toOne owner.reference
  /-- Only modules name a parent. -/
  others : ∀ document ∈ graph.documents, document.type ≠ "module" →
    ∀ value, ("parent", value) ∉ document.relationships

namespace Graph

variable {source : AnalysisSource Id} {id : DefId} {root : Definition}

theorem documentType?_eq_module_iff {kind : DefKind} :
    kind.documentType? = some "module" ↔ kind = .module := by
  cases kind <;> decide

theorem documentType?_ne_crate (kind : DefKind) : kind.documentType? ≠ some crateType := by
  cases kind <;> decide

/-! ### The relation to the parent in a walk -/

theorem get?_parent_addChild (top : Bool) (document : Document) (child : Node) :
    Entries.get? parentRelation (addChild top document child).relationships =
      Entries.get? parentRelation document.relationships := by
  rw [addChild]
  rcases hrel : child.1.kind.relationName? top with - | relation
  · rfl
  · have hput : ∀ value, Entries.get? parentRelation
        (Entries.put relation value document.relationships) =
          Entries.get? parentRelation document.relationships := fun value ↦
      Entries.get?_put_of_ne _ _ (by simpa using relationName?_ne_parent hrel)
    rcases hget : Entries.get? relation document.relationships with - | target | targets
    · dsimp only
      rw [Document.addRelationship_of_none hget]
      exact hput _
    · dsimp only
      rw [Document.addRelationship_of_toOne hget]
    · simp only [Document.addRelationship, Document.setDefault, hget]
      split_ifs
      · rfl
      · exact hput _

/-- A document keeps its relation to the parent when its children are attached. -/
theorem get?_parent_finished (node : Node) :
    Entries.get? parentRelation (finished source id node).relationships =
      Entries.get? parentRelation node.2.relationships := by
  rw [finished]
  generalize node.2 = document
  induction nodesBelow source id node.1 generalizing document with
  | nil => rfl
  | cons child nodes ih => rw [List.foldl_cons, ih, get?_parent_addChild]

theorem get?_parent_childDocument (parent child : Definition) (type : String) :
    Entries.get? parentRelation (childDocument source id parent child type).relationships =
      if child.kind = .module then (parentOf? source id parent child).map .toOne else none := by
  rw [childDocument]
  split_ifs with hmodule
  · rcases parentOf? source id parent child with - | reference
    · rfl
    · rfl
  · rfl

/-- What the document of a definition says of the parent of a module: what it has from the
definition that enumerates it. -/
def NamesParent (source : AnalysisSource Id) (id : DefId) (root d : Definition)
    (document : Document) : Prop :=
  ∃ parent, source.Reached root parent ∧ source.Child parent d ∧
    Entries.get? parentRelation document.relationships =
      if d.kind = .module then (parentOf? source id parent d).map .toOne else none

/-- All documents below the root of a walk name their parents. -/
theorem forall₂_namesParent_below (n : ℕ) :
    List.Forall₂ (NamesParent source id root) (source.below n root)
      (finishedRounds source id n (nodesBelow source id root)) := by
  have hbelow : ∀ {parent : Definition}, source.Reached root parent →
      ∀ node ∈ nodesBelow source id parent, NamesParent source id root node.1 node.2 := by
    intro parent hparent node hnode
    have hchild : source.Child parent node.1 := by
      rw [← AnalysisSource.mem_shownChildren_iff, ← @map_fst_nodesBelow source id parent]
      exact List.mem_map_of_mem hnode
    obtain ⟨type, -, hdocument⟩ := exists_childDocument_of_mem_nodesBelow hnode
    refine ⟨parent, hparent, hchild, ?_⟩
    rw [hdocument, get?_parent_childDocument]
  rw [← @rounds_nodesBelow source id root]
  refine forall₂_finishedRounds (P := fun node ↦ NamesParent source id root node.1 node.2)
    (fun node ⟨parent, hparent, hchild, _⟩ ↦ hbelow (hparent.tail hchild)) (fun node hnode ↦ ?_) n
    (hbelow .refl)
  obtain ⟨parent, hparent, hchild, hget⟩ := hnode
  exact ⟨parent, hparent, hchild, (get?_parent_finished node).trans hget⟩

/-- The parent that a child of the walk refers to is the definition that lists it. -/
theorem parentOf?_of_child (h : source.FollowsParents) (hroot : source.definition id = .ok root)
    {parent child : Definition} (hparent : source.Reached root parent)
    (hchild : source.Child parent child) :
    parentOf? source id parent child =
      if parent.id == id then none
      else parent.kind.documentType?.map (⟨·, parent.qualifiedName⟩) := by
  obtain ⟨p, hp, hbeq⟩ := h.parent_of_child hroot hparent hchild
  have hsame : (p == id) = (parent.id == id) := by
    rw [Bool.eq_iff_iff]
    exact ⟨fun hid ↦ PartialEquivBEq.trans (PartialEquivBEq.symm hbeq) hid,
      fun hid ↦ PartialEquivBEq.trans hbeq hid⟩
  simp only [parentOf?, hp, Option.getD_some, hsame, hbeq, if_true]

/-! ### The documents of a graph -/

section

variable {depth : ℕ} {graph : Documentation}

/-- There is an included document for everything that is shown, and what holds of the levels and the
included documents holds of the two. -/
theorem HasExactEdges.exists_included_of_forall₂ (h : HasExactEdges source root depth graph)
    {R : Definition → Document → Prop}
    (hall : List.Forall₂ R (source.below depth root) graph.included) {d : Definition}
    (hd : source.Shown root d) : ∃ document ∈ graph.included, Describes d document ∧
      PointsAtChildren source false d document ∧ R d document := by
  obtain ⟨k, hk, rfl⟩ := List.mem_iff_getElem.1 ((h.shown d).2 hd)
  have hlen : k < graph.included.length := by rwa [← h.described.length_eq]
  exact ⟨_, List.getElem_mem hlen, h.described.get hk hlen, h.included.get hk hlen,
    hall.get hk hlen⟩

/-- There is an included document for everything that is shown. -/
theorem HasExactEdges.exists_included (h : HasExactEdges source root depth graph) {d : Definition}
    (hd : source.Shown root d) : ∃ document ∈ graph.included, Describes d document ∧
      PointsAtChildren source false d document := by
  obtain ⟨document, hdocument, hdescribes, hpoints, -⟩ :=
    h.exists_included_of_forall₂ h.included hd
  exact ⟨document, hdocument, hdescribes, hpoints⟩

/-- An included document is that of something that is shown. -/
theorem HasExactEdges.exists_shown (h : HasExactEdges source root depth graph)
    {R : Definition → Document → Prop}
    (hall : List.Forall₂ R (source.below depth root) graph.included) {document : Document}
    (hdocument : document ∈ graph.included) : ∃ d, source.Shown root d ∧ Describes d document ∧
      PointsAtChildren source false d document ∧ R d document := by
  obtain ⟨k, hk, rfl⟩ := List.mem_iff_getElem.1 hdocument
  have hlen : k < (source.below depth root).length := by rwa [h.described.length_eq]
  exact ⟨_, (h.shown _).1 (List.getElem_mem hlen), h.described.get hlen hk,
    h.included.get hlen hk, hall.get hlen hk⟩

/-- The document of a definition refers to those of its children. -/
theorem PointsAtChildren.refers {top : Bool} {parent child : Definition} {owner document : Document}
    (h : PointsAtChildren source top parent owner) (howner : owner ∈ graph.documents)
    (hchild : source.Child parent child) (hdocument : document ∈ graph.included)
    (hdescribes : Describes child document) : graph.Refers owner document := by
  refine ⟨howner, List.mem_cons_of_mem _ hdocument, h.entries.mem_iff.2 ?_⟩
  rw [hdescribes.reference]
  exact List.mem_map_of_mem (AnalysisSource.mem_shownChildren_iff.2 hchild)

/-- Relations to many documents lead to included ones. -/
theorem HasExactEdges.exists_of_mem_entries (h : HasExactEdges source root depth graph)
    {document : Document} (hdocument : document ∈ graph.documents) {reference : Reference}
    (href : reference ∈ document.entries) :
    ∃ other ∈ graph.included, other.reference = reference := by
  obtain ⟨d, hd, hentries⟩ : ∃ d, source.Reached root d ∧
      document.entries.Perm ((source.shownChildren d).map referenceTo) := by
    rcases List.mem_cons.1 hdocument with rfl | hdocument
    · exact ⟨root, .refl, h.data.entries⟩
    · obtain ⟨d, hd, -, hpoints, -⟩ := h.exists_shown h.described hdocument
      exact ⟨d, hd.to_reflTransGen, hpoints.entries⟩
  obtain ⟨c, hc, rfl⟩ := List.mem_map.1 (hentries.mem_iff.1 href)
  obtain ⟨other, hother, hdescribes, -⟩ :=
    h.exists_included (.tail' hd (AnalysisSource.mem_shownChildren_iff.1 hc))
  exact ⟨other, hother, hdescribes.reference⟩

/-- In a source that follows parents, an included document is listed by that of its parent. It names
the parent if it is a module and the parent is not the crate. -/
theorem HasExactEdges.exists_owner (h : HasExactEdges source root depth graph)
    (hfollows : source.FollowsParents) (hroot : source.definition id = .ok root)
    (hids : ∀ d, source.Shown root d → (d.id == id) = false)
    (hnames : List.Forall₂ (NamesParent source id root) (source.below depth root) graph.included)
    (htype : graph.data.type = crateType) {document : Document}
    (hdocument : document ∈ graph.included) :
    ∃ owner, graph.Refers owner document ∧ (owner = graph.data ∨ owner ∈ graph.included) ∧
      Entries.get? parentRelation document.relationships =
        if document.type = "module" ∧ owner ≠ graph.data then some (.toOne owner.reference)
        else none := by
  obtain ⟨d, -, hdescribes, -, parent, hparent, hchild, hget⟩ := h.exists_shown hnames hdocument
  rw [parentOf?_of_child hfollows hroot hparent hchild] at hget
  have hmodule : d.kind = .module ↔ document.type = "module" := by
    rw [← documentType?_eq_module_iff, hdescribes.type, Option.some.injEq]
  rcases Relation.reflTransGen_iff_eq_or_transGen.1 hparent with rfl | hparent
  · refine ⟨graph.data, h.data.refers List.mem_cons_self hchild hdocument hdescribes, .inl rfl, ?_⟩
    simpa [hfollows.id_beq hroot] using hget
  · obtain ⟨owner, howner, hownerDescribes, hpoints⟩ := h.exists_included hparent
    -- The document of the crate is of a type of its own.
    have hne : owner ≠ graph.data := by
      rintro rfl
      exact documentType?_ne_crate parent.kind (htype ▸ hownerDescribes.type)
    have href : parent.kind.documentType?.map (⟨·, parent.qualifiedName⟩) =
        some owner.reference := by
      rw [hownerDescribes.type, ← hownerDescribes.id]
      rfl
    refine ⟨owner, hpoints.refers (List.mem_cons_of_mem _ howner) hchild hdocument hdescribes,
      .inr howner, ?_⟩
    simpa [hids parent hparent, href, hne, hmodule] using hget

/-- In a source that follows parents, relations to parents are relations to children that are read
backwards. -/
theorem HasExactEdges.parentsMirrorChildren (h : HasExactEdges source root depth graph)
    (hfollows : source.FollowsParents) (hroot : source.definition id = .ok root)
    (hids : ∀ d, source.Shown root d → (d.id == id) = false)
    (hnames : List.Forall₂ (NamesParent source id root) (source.below depth root) graph.included)
    (htype : graph.data.type = crateType)
    (hdata : Entries.get? parentRelation graph.data.relationships = none) :
    graph.ParentsMirrorChildren := by
  have howner := fun {document} ↦
    @HasExactEdges.exists_owner _ _ _ _ _ h hfollows hroot hids hnames htype document
  have hget : ∀ document ∈ graph.documents, ∀ relation value,
      (relation, value) ∈ document.relationships ↔
        Entries.get? relation document.relationships = some value := by
    intro document hdocument relation value
    refine Entries.mem_iff_get?_eq_some ?_
    rcases List.mem_cons.1 hdocument with rfl | hdocument
    · exact h.data.keys
    · obtain ⟨_, -, -, hpoints, -⟩ := h.exists_shown h.described hdocument
      exact hpoints.keys
  refine ⟨fun document hdocument relation value hmem reference href ↦ ?_,
    fun document hdocument hmodule ↦ ?_, fun document hdocument hmodule value hmem ↦ ?_⟩
  · suffices hother : ∃ other ∈ graph.included, other.reference = reference by
      obtain ⟨other, hother, rfl⟩ := hother
      exact ⟨other, hother, rfl, rfl⟩
    -- a single reference leads to a parent, and lists of references to children
    rcases value with target | targets
    · obtain rfl := List.mem_singleton.1 href
      rcases List.mem_cons.1 hdocument with rfl | hdocument
      · cases (h.data.toOne _ _ hmem).2.1
      · obtain ⟨_, -, -, hpoints, -⟩ := h.exists_shown h.described hdocument
        obtain ⟨rfl, -, -⟩ := hpoints.toOne _ _ hmem
        obtain ⟨owner, -, hmemOwner, hparent⟩ := howner hdocument
        rw [hget document (List.mem_cons_of_mem _ hdocument)] at hmem
        rw [← parentRelation, hparent, Option.ite_none_right_eq_some] at hmem
        obtain ⟨⟨-, hne⟩, hsame⟩ := hmem
        cases hsame
        exact ⟨owner, hmemOwner.resolve_left hne, rfl⟩
    · exact h.exists_of_mem_entries hdocument (List.mem_flatMap.2 ⟨_, hmem, href⟩)
  · obtain ⟨owner, hrefers, -, hparent⟩ := howner hdocument
    refine ⟨owner, fun other ↦ ⟨fun hother ↦ ?_, fun heq ↦ heq ▸ hrefers⟩, fun value ↦ ?_⟩
    · exact (h.referrer document hdocument).unique hother hrefers
    · rw [hget document (List.mem_cons_of_mem _ hdocument), ← parentRelation, hparent,
        Option.ite_none_right_eq_some, Option.some.injEq, eq_comm (a := value)]
      simp only [hmodule, true_and]
  · rw [hget document hdocument] at hmem
    rcases List.mem_cons.1 hdocument with rfl | hdocument
    · cases hdata.symm.trans hmem
    · obtain ⟨owner, -, -, hparent⟩ := howner hdocument
      rw [← parentRelation, hparent, if_neg fun h ↦ hmodule h.1] at hmem
      cases hmem

end

end Graph

namespace InMemorySource

open CrateDoc.Graph

/-- **Parents and children agree in every graph of definitions in memory**, with explicit roots or
without: every reference leads to an included document, and a module names as its parent the one
document that lists it, unless that is the crate's. -/
theorem build_parentsMirrorChildren {definitions : List Definition}
    {roots : Option (Entries String DefId)} {source : InMemorySource}
    (h : ofDefinitions definitions roots = .ok source) {workers : Option Int} {crate : String}
    {graph : Documentation}
    (hbuild : (Graph.build source.toSource source.definitions.length workers crate).1 =
      .ok graph) : graph.ParentsMirrorChildren := by
  have hfin := finite_toSource h []
  have hrun : Runs source.toSource workers crate
      (Graph.build source.toSource source.definitions.length workers crate).1 := runs_build hfin
  rw [hbuild] at hrun
  obtain ⟨id, root, n, -, hroot, hfaults, hlevel, rfl⟩ := exists_rounds_of_runs hrun
  obtain ⟨-, hdistinct⟩ := faults_rounds_eq_nil_iff.1 hfaults
  have hedges := hasExactEdges_of_faults_eq_nil (hfin.id_beq hroot) hfaults hlevel
  have hids : ∀ d, source.toSource.Shown root d → (d.id == id) = false := fun d hd ↦
    hdistinct.id_beq_eq_false ((AnalysisSource.mem_below_iff_shown hlevel).2 hd)
  refine hedges.parentsMirrorChildren (followsParents h) hroot hids
    (forall₂_namesParent_below n) ?_ ?_
  · obtain ⟨relationships, hdata⟩ := finished_rootDocument source.toSource id crate root
    rw [hdata]
    rfl
  · rw [get?_parent_finished]
    rfl

/-- Modules inside each other, the inner ones first. -/
def nestedDefinitions : List Definition :=
  [⟨.int 4, .module, "c::m::n::o", "o", "", some (.int 3)⟩,
    ⟨.int 3, .module, "c::m::n", "n", "", some (.int 2)⟩,
    ⟨.int 2, .module, "c::m", "m", "", some (.int 1)⟩, ⟨.int 1, .module, "c", "c", "", none⟩]

/-- The graph of a module that is made a root, although it has a parent: the module below it names
no parent, and the one below that does. -/
theorem build_nestedDefinitions_parentsMirrorChildren :
    ∃ source graph, ofDefinitions nestedDefinitions (some [("m", .int 2)]) = .ok source ∧
      (Graph.build source.toSource source.definitions.length none "m").1 = .ok graph ∧
      graph.included.map (·.relationships) =
        [[("child_modules", .toMany [⟨"module", "c::m::n::o"⟩])],
          [("parent", .toOne ⟨"module", "c::m::n"⟩)]] ∧
      graph.ParentsMirrorChildren := by
  have h : ofDefinitions nestedDefinitions (some [("m", .int 2)]) = .ok _ := rfl
  exact ⟨_, _, h, rfl, rfl, @build_parentsMirrorChildren _ _ _ h none "m" _ rfl⟩

end InMemorySource

end CrateDoc
