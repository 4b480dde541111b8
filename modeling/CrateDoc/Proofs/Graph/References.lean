import CrateDoc.Proofs.Graph.Parents

/-!
# When the references to parents resolve

A source may say two things about where a module stands: which definition lists it, and which one it
names as its parent. Relations to children are made of the first and relations to parents of the
second, and a build does not compare them. `HasExactEdges.referencesResolve_iff` says what that
comes to: references to children always lead to included documents, and those to parents do, and are
answered by a relation back, exactly if the source itself is of one mind
(`AnalysisSource.ParentsListModules`).
-/

namespace CrateDoc

/-- Every reference of a graph leads to an included document, and the document that a module names
as its parent lists the module. -/
structure Documentation.ReferencesResolve (graph : Documentation) : Prop where
  /-- Every reference of every relation has the type and the id of an included document. -/
  closed : ∀ document ∈ graph.documents, ∀ relation ∈ document.relationships,
    ∀ target ∈ relation.2.targets, ∃ other ∈ graph.included, other.reference = target
  /-- What a module names as its parent has it among its child modules. -/
  listed : ∀ document ∈ graph.included, ∀ relation ∈ document.relationships,
    relation.1 = "parent" → ∀ target ∈ relation.2.targets,
      ∃ owner ∈ graph.included, owner.reference = target ∧
        ∃ children ∈ owner.relationships, children.1 = "child_modules" ∧
          document.reference ∈ children.2.targets

instance (graph : Documentation) : Decidable graph.ReferencesResolve :=
  decidable_of_iff
    ((∀ document ∈ graph.documents, ∀ relation ∈ document.relationships,
      ∀ target ∈ relation.2.targets, ∃ other ∈ graph.included, other.reference = target) ∧
    ∀ document ∈ graph.included,
      ∀ relation ∈ document.relationships.filter fun r : String × Relation ↦ r.1 == "parent",
      ∀ target ∈ relation.2.targets, ∃ owner ∈ graph.included, owner.reference = target ∧
        ∃ children ∈ owner.relationships, children.1 = "child_modules" ∧
          document.reference ∈ children.2.targets)
    ⟨fun h ↦ ⟨h.1, fun document hdocument relation hmem hname ↦
        h.2 document hdocument relation (List.mem_filter.2 ⟨hmem, beq_iff_eq.2 hname⟩)⟩,
      fun h ↦ ⟨h.closed, fun document hdocument relation hmem ↦
        h.listed document hdocument relation (List.mem_filter.1 hmem).1
          (beq_iff_eq.1 (List.mem_filter.1 hmem).2)⟩⟩

/-- Parents list the modules that name them: where a module names another parent than the root and
the definition that lists it, that parent has no document, or the same one as the definition that
lists the module. -/
def AnalysisSource.ParentsListModules (source : AnalysisSource Id) (id : DefId)
    (root : Definition) : Prop :=
  ∀ d c p owner, source.Reached root d → source.Child d c → c.kind = .module →
    c.parent = some p → (p == id) = false → (p == d.id) = false →
    source.definition p = .ok owner → owner.kind ∉ DefKind.dropped →
      (d.id == id) = false ∧ Graph.referenceTo owner = Graph.referenceTo d

namespace Graph

variable {source : AnalysisSource Id} {id : DefId} {root : Definition}

/-! ### The parent that a module refers to -/

theorem map_documentType?_eq_some_iff {d : Definition} {target : Reference} :
    d.kind.documentType?.map (⟨·, d.qualifiedName⟩) = some target ↔
      d.kind ∉ DefKind.dropped ∧ referenceTo d = target := by
  have hkind : d.kind ∉ DefKind.dropped ↔ d.kind.documentType?.isSome := by
    cases d.kind
    all_goals decide
  rw [hkind, referenceTo]
  rcases d.kind.documentType? with - | type
  · simp
  · simp

/-- The parent that a child refers to is the definition that lists it, if parents list modules. -/
theorem eq_referenceTo_of_parentOf? (h : source.ParentsListModules id root)
    {parent child : Definition} (hparent : source.Reached root parent)
    (hchild : source.Child parent child) (hmodule : child.kind = .module) {target : Reference}
    (htarget : parentOf? source id parent child = some target) :
    (parent.id == id) = false ∧ referenceTo parent = target := by
  simp only [parentOf?] at htarget
  rcases hp : child.parent with - | p
  · rw [hp, Option.getD_none, beq_self_eq_true, if_pos rfl, Option.ite_none_left_eq_some] at htarget
    obtain ⟨hid, htarget⟩ := htarget
    exact ⟨Bool.eq_false_iff.2 hid, (map_documentType?_eq_some_iff.1 htarget).2⟩
  · rw [hp, Option.getD_some, Option.ite_none_left_eq_some] at htarget
    obtain ⟨hid, htarget⟩ := htarget
    split_ifs at htarget with hbeq
    · refine ⟨Bool.eq_false_iff.2 fun hroot ↦ hid (PartialEquivBEq.trans hbeq hroot), ?_⟩
      exact (map_documentType?_eq_some_iff.1 htarget).2
    · rcases howner : source.definition p with e | owner
      · rw [howner] at htarget
        cases htarget
      · rw [howner] at htarget
        obtain ⟨hkind, rfl⟩ := map_documentType?_eq_some_iff.1 htarget
        obtain ⟨hroot, hsame⟩ := h parent child p owner hparent hchild hmodule hp
          (Bool.eq_false_iff.2 hid) (Bool.eq_false_iff.2 hbeq) howner hkind
        exact ⟨hroot, hsame.symm⟩

/-- A child refers to the parent that it names, if that is neither the root nor the definition that
lists it and has a document. -/
theorem parentOf?_of_parent {parent child owner : Definition} {p : DefId}
    (hp : child.parent = some p) (hid : (p == id) = false) (hparent : (p == parent.id) = false)
    (howner : source.definition p = .ok owner) (hkind : owner.kind ∉ DefKind.dropped) :
    parentOf? source id parent child = some (referenceTo owner) := by
  simp only [parentOf?, hp, Option.getD_some, hid, hparent, howner, Bool.false_eq_true, if_false]
  exact map_documentType?_eq_some_iff.2 ⟨hkind, rfl⟩

/-! ### The references of a graph -/

section

variable {depth : ℕ} {graph : Documentation}

/-- The document of a module is among the child modules of the definition that lists it. -/
theorem PointsAtChildren.exists_child_modules {parent child : Definition} {owner : Document}
    (h : PointsAtChildren source false parent owner) (hchild : source.Child parent child)
    (hmodule : child.kind = .module) :
    ∃ children ∈ owner.relationships, children.1 = "child_modules" ∧
      referenceTo child ∈ children.2.targets := by
  have hmem : (⟨"module", child.qualifiedName⟩ : Reference) ∈
      (source.childrenOfKind .module parent).map (⟨"module", ·.qualifiedName⟩) := by
    refine List.mem_map.2 ⟨child, List.mem_filter.2 ⟨?_, decide_eq_true hmodule⟩, rfl⟩
    exact AnalysisSource.mem_shownChildren_iff.2 hchild
  have htarget : referenceTo child = ⟨"module", child.qualifiedName⟩ := by
    rw [referenceTo, hmodule]
    rfl
  refine ⟨_, (h.toMany_iff _ _).2 ⟨.module, "module", "modules", rfl, rfl, rfl, ?_⟩, rfl, ?_⟩
  · exact List.ne_nil_of_mem hmem
  · rwa [htarget]

variable (h : HasExactEdges source root depth graph) (hroot : (root.id == id) = true)
  (hids : ∀ d, source.Shown root d → (d.id == id) = false)
  (hnames : List.Forall₂ (NamesParent source id root) (source.below depth root) graph.included)

include h hroot hnames in
/-- If parents list modules, the document that a module names as its parent lists the module. -/
theorem HasExactEdges.exists_parent (hlist : source.ParentsListModules id root)
    {document : Document} (hdocument : document ∈ graph.included) {target : Reference}
    (hmem : ("parent", .toOne target) ∈ document.relationships) :
    ∃ owner ∈ graph.included, owner.reference = target ∧
      ∃ children ∈ owner.relationships, children.1 = "child_modules" ∧
        document.reference ∈ children.2.targets := by
  obtain ⟨d, -, hdescribes, hpoints, parent, hparent, hchild, hget⟩ :=
    h.exists_shown hnames hdocument
  have hparentOf := hget.symm.trans ((Entries.mem_iff_get?_eq_some hpoints.keys).1 hmem)
  rw [Option.ite_none_right_eq_some, Option.map_eq_some_iff] at hparentOf
  obtain ⟨hmodule, _, htarget, ⟨⟩⟩ := hparentOf
  obtain ⟨hid, rfl⟩ := eq_referenceTo_of_parentOf? hlist hparent hchild hmodule htarget
  -- The root has no document of its own, so this is another definition.
  rcases Relation.reflTransGen_iff_eq_or_transGen.1 hparent with rfl | hparent
  · rw [hroot] at hid
    cases hid
  · obtain ⟨owner, howner, hownerDescribes, hownerPoints⟩ := h.exists_included hparent
    refine ⟨owner, howner, hownerDescribes.reference, ?_⟩
    rw [hdescribes.reference]
    exact hownerPoints.exists_child_modules hchild hmodule

include h in
/-- A document that has a reference to a module among its own is the one of the definition that
lists the module. -/
theorem HasExactEdges.reference_eq_of_entries (htype : graph.data.type = crateType)
    {parent child : Definition} (hparent : source.Reached root parent)
    (hchild : source.Child parent child) {document other : Document}
    (hdocument : document ∈ graph.included) (hdescribes : Describes child document)
    (hother : other ∈ graph.included) (hentries : document.reference ∈ other.entries) :
    source.Shown root parent ∧ other.reference = referenceTo parent := by
  have hrefers : graph.Refers other document :=
    ⟨List.mem_cons_of_mem _ hother, List.mem_cons_of_mem _ hdocument, hentries⟩
  rcases Relation.reflTransGen_iff_eq_or_transGen.1 hparent with rfl | hparent
  · have hdata := h.data.refers List.mem_cons_self hchild hdocument hdescribes
    obtain rfl := (h.referrer document hdocument).unique hrefers hdata
    -- The document of the crate is of a type of its own.
    obtain ⟨d, -, hd, -⟩ := h.exists_shown h.described hother
    exact absurd (htype ▸ hd.type) (documentType?_ne_crate d.kind)
  · obtain ⟨owner, howner, hownerDescribes, hpoints⟩ := h.exists_included hparent
    have hlists := hpoints.refers (List.mem_cons_of_mem _ howner) hchild hdocument hdescribes
    obtain rfl := (h.referrer document hdocument).unique hrefers hlists
    exact ⟨hparent, hownerDescribes.reference⟩

include h hroot hids hnames in
/-- The references of a graph resolve exactly if the parents of its modules list them. -/
theorem HasExactEdges.referencesResolve_iff (honce : source.EnumeratesOnce root)
    (htype : graph.data.type = crateType) :
    graph.ReferencesResolve ↔ source.ParentsListModules id root := by
  constructor
  · intro hresolve d c p owner hd hchild hmodule hp hid hlists howner hkind
    obtain ⟨document, hdocument, hdescribes, hpoints, parent, hparent, hchild', hget⟩ :=
      h.exists_included_of_forall₂ hnames (.tail' hd hchild)
    obtain ⟨k, hk⟩ := hchild
    obtain ⟨k', hk'⟩ := hchild'
    obtain ⟨rfl, -⟩ := honce d parent k k' c c hd hparent hk hk' (beq_self_eq_true c.id)
    rw [if_pos hmodule, parentOf?_of_parent hp hid hlists howner hkind] at hget
    obtain ⟨other, hother, hreference, ⟨_, value⟩, hmem, rfl, htarget⟩ :=
      hresolve.listed document hdocument _
        ((Entries.mem_iff_get?_eq_some hpoints.keys).2 hget) rfl _
        List.mem_cons_self
    have hentries : document.reference ∈ other.entries := by
      rcases value with target | targets
      -- A relation to one document leads to a parent.
      · obtain ⟨_, -, -, hpoints, -⟩ := h.exists_shown h.described hother
        exact absurd (hpoints.toOne _ _ hmem).1 (by decide)
      · exact List.mem_flatMap.2 ⟨_, hmem, htarget⟩
    obtain ⟨hshown, hsame⟩ :=
      h.reference_eq_of_entries htype hd ⟨k, hk⟩ hdocument hdescribes hother hentries
    exact ⟨hids d hshown, hreference.symm.trans hsame⟩
  · intro hlist
    refine ⟨fun document hdocument relation hmem target htarget ↦ ?_,
      fun document hdocument relation hmem hname target htarget ↦ ?_⟩
    · rcases relation with ⟨name, _ | targets⟩
      · obtain rfl := List.mem_singleton.1 htarget
        rcases List.mem_cons.1 hdocument with rfl | hdocument
        · cases (h.data.toOne _ _ hmem).2.1
        · obtain ⟨_, -, -, hpoints, -⟩ := h.exists_shown h.described hdocument
          obtain ⟨rfl, -, -⟩ := hpoints.toOne _ _ hmem
          obtain ⟨owner, howner, hsame, -⟩ := h.exists_parent hroot hnames hlist hdocument hmem
          exact ⟨owner, howner, hsame⟩
      · exact h.exists_of_mem_entries hdocument (List.mem_flatMap.2 ⟨_, hmem, htarget⟩)
    · rcases relation with ⟨_, _ | targets⟩
      · obtain rfl : _ = "parent" := hname
        obtain rfl := List.mem_singleton.1 htarget
        exact h.exists_parent hroot hnames hlist hdocument hmem
      -- Relations to many documents have other names.
      · obtain ⟨_, -, -, hpoints, -⟩ := h.exists_shown h.described hdocument
        obtain ⟨_, _, _, hshown, hother, -⟩ := (hpoints.toMany_iff _ _).1 hmem
        exact absurd (hother.symm.trans hname)
          (relationName?_ne_parent (relationName?_of_shownAs? hshown false))

end

/-- In a graph of a finite source the references to children resolve, and all references do exactly
if the parents of modules list them. -/
theorem build_referencesResolve_iff {size : ℕ} (hfin : source.Finite size) {workers : Option Int}
    {crate : String} {graph : Documentation}
    (hbuild : (Graph.build source size workers crate).1 = .ok graph) :
    ∃ id root, source.resolveRoot crate = .ok id ∧ source.definition id = .ok root ∧
      (∀ document ∈ graph.documents, ∀ reference ∈ document.entries,
        ∃ other ∈ graph.included, other.reference = reference) ∧
      (graph.ReferencesResolve ↔ source.ParentsListModules id root) := by
  have hrun : Runs source workers crate (Graph.build source size workers crate).1 := runs_build hfin
  rw [hbuild] at hrun
  obtain ⟨id, root, n, hid, hroot, hfaults, hlevel, rfl⟩ := exists_rounds_of_runs hrun
  obtain ⟨-, hdistinct⟩ := faults_rounds_eq_nil_iff.1 hfaults
  have hedges := hasExactEdges_of_faults_eq_nil (hfin.id_beq hroot) hfaults hlevel
  have hids : ∀ d, source.Shown root d → (d.id == id) = false := fun d hd ↦
    hdistinct.id_beq_eq_false ((AnalysisSource.mem_below_iff_shown hlevel).2 hd)
  -- the ids of what was reached are distinct, so nothing is listed twice
  have honce : source.EnumeratesOnce root := fun d d' k k' c c' hd hd' ↦
    enumerates_once_of_distinct hdistinct ((AnalysisSource.mem_rounds_iff_reached hlevel).2 hd)
      ((AnalysisSource.mem_rounds_iff_reached hlevel).2 hd')
  refine ⟨id, root, hid, hroot, fun document hdocument reference ↦
    hedges.exists_of_mem_entries hdocument,
    hedges.referencesResolve_iff (hfin.id_beq hroot) hids (forall₂_namesParent_below n) honce ?_⟩
  obtain ⟨relationships, hdata⟩ := finished_rootDocument source id crate root
  rw [hdata]
  rfl

end Graph

end CrateDoc
