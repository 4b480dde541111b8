import CrateDoc.Proofs.Graph.Outcome

/-!
# The relations of a finished document

A document is finished by attaching its children one after the other. `Attached` says what it points
at after some of them: each relation lists the children of its kind in their order, the relation to
a parent is the one that the document began with, and there are no others.

`Attached.addChild` is the step for one more child and `attached_foldl_addChild` the run over all of
them. The step needs that the child's reference is new, since a reference is never added twice.
-/

namespace CrateDoc

/-! ### Names of relations -/

namespace DefKind

/-- A relation to children leads to those of one kind only. -/
theorem relationName?_injective {kind other : DefKind} {top : Bool} {relation : String}
    (h : kind.relationName? top = some relation) (h' : other.relationName? top = some relation) :
    kind = other := by
  have hfind : ∀ k : DefKind, k.isRetained = true →
      all.find? (fun k' ↦ k'.relationName? top == k.relationName? top) = some k := by
    intro k
    cases k <;> cases top <;> decide
  have hretained : ∀ {k : DefKind}, k.relationName? top = some relation → k.isRetained = true := by
    intro k hk
    obtain ⟨shown, hshown, -⟩ := Option.map_eq_some_iff.1 hk
    rw [isRetained, hshown]
    rfl
  have hkind := hfind kind (hretained h)
  rw [h, ← h', hfind other (hretained h')] at hkind
  exact (Option.some.inj hkind).symm

end DefKind

namespace Graph

/-- The reference to the document of a definition. -/
def referenceTo (d : Definition) : Reference :=
  ⟨d.kind.documentType?.getD "", d.qualifiedName⟩

theorem Outlines.reference {d : Definition} {document : Document} (h : Outlines d document) :
    document.reference = referenceTo d := by
  rw [Document.reference, referenceTo, h.type, h.id]
  rfl

theorem Describes.reference {d : Definition} {document : Document} (h : Describes d document) :
    document.reference = referenceTo d :=
  h.outlines.reference

/-- The references to those of some definitions that a relation is for. -/
def listed (top : Bool) (relation : String) (cs : List Definition) : List Reference :=
  (cs.filter fun c ↦ c.kind.relationName? top = some relation).map referenceTo

/-! ### Attaching one child after the other -/

/-- What a document points at once the documents of some children are attached to it. -/
structure Attached (top : Bool) (start : Document) (cs : List Definition) (document : Document) :
    Prop where
  keys : (document.relationships.map Prod.fst).Nodup
  parent : Entries.get? parentRelation document.relationships =
    Entries.get? parentRelation start.relationships
  children : ∀ relation, relation ≠ parentRelation →
    Entries.get? relation document.relationships = Relation.toMany? (listed top relation cs)
  entries : document.entries.Perm (cs.map referenceTo)

/-- Nothing is attached to a document that has no relations, or one to its parent only. -/
theorem attached_nil (top : Bool) {start : Document}
    (h : start.relationships = [] ∨
      ∃ target, start.relationships = [(parentRelation, .toOne target)]) :
    Attached top start [] start := by
  rcases h with h | ⟨target, h⟩
  · refine ⟨?_, rfl, fun relation hrel ↦ ?_, ?_⟩
    · rw [h]
      exact List.nodup_nil
    · rw [h]
      rfl
    · rw [Document.entries, h]
      exact List.Perm.refl []
  · refine ⟨?_, rfl, fun relation hrel ↦ ?_, ?_⟩
    · rw [h]
      exact List.nodup_singleton _
    · rw [h, Entries.get?, if_neg (by simpa using Ne.symm hrel)]
      rfl
    · rw [Document.entries, h]
      exact List.Perm.refl []

/-- One more child, of a kind that has documents, adds one reference to one relation. -/
theorem Attached.addChild {top : Bool} {start document : Document} {cs : List Definition}
    (h : Attached top start cs document) {child : Node} (hchild : Outlines child.1 child.2)
    (hnew : referenceTo child.1 ∉ cs.map referenceTo) :
    Attached top start (cs ++ [child.1]) (addChild top document child) := by
  obtain ⟨relation, hrel⟩ : ∃ relation, child.1.kind.relationName? top = some relation := by
    obtain ⟨shown, hshown, -⟩ := Option.map_eq_some_iff.1 hchild.type
    exact ⟨_, by rw [DefKind.relationName?, hshown, Option.map_some]⟩
  have hparent := relationName?_ne_parent hrel
  have hget := h.children relation hparent
  have hmem : referenceTo child.1 ∉ listed top relation cs := fun hmem ↦
    hnew (((List.filter_sublist ..).map referenceTo).subset hmem)
  have hadd : Graph.addChild top document child =
      document.withTargets relation (listed top relation cs ++ [referenceTo child.1]) := by
    simp only [Graph.addChild, hrel, hchild.reference,
      Document.addRelationship_of_not_mem hget hmem]
  -- Only the relation of the child's own kind becomes longer.
  have hlisted : ∀ other, listed top other (cs ++ [child.1]) =
      listed top other cs ++ if relation = other then [referenceTo child.1] else [] := by
    intro other
    simp only [listed, List.filter_append, List.map_append, List.filter_cons, List.filter_nil, hrel,
      Option.some.injEq, decide_eq_true_eq]
    split_ifs <;> rfl
  rw [hadd]
  refine ⟨Entries.nodup_keys_put h.keys, ?_, fun other hother ↦ ?_, ?_⟩
  · rw [← h.parent]
    exact Entries.get?_put_of_ne _ _ (by simpa using hparent)
  · rw [hlisted other]
    by_cases heq : relation = other
    · subst heq
      rw [if_pos rfl, Relation.toMany?_append_singleton]
      exact Entries.get?_put_self _ _ _
    · rw [if_neg heq, List.append_nil, ← h.children other hother]
      exact Entries.get?_put_of_ne _ _ (by simpa using heq)
  · rw [List.map_append]
    exact (Document.entries_withTargets_perm hget).trans (h.entries.append_right _)

/-- Attaching children with different documents attaches all of them, in their order. -/
theorem attached_foldl_addChild {top : Bool} {start document : Document} {cs : List Definition}
    {nodes : List Node} (h : Attached top start cs document)
    (hnodes : ∀ node ∈ nodes, Outlines node.1 node.2)
    (hnodup : ((cs ++ nodes.map Prod.fst).map referenceTo).Nodup) :
    Attached top start (cs ++ nodes.map Prod.fst) (nodes.foldl (addChild top) document) := by
  induction nodes generalizing cs document with
  | nil => simpa using h
  | cons node nodes ih =>
    rw [List.map_cons, List.append_cons] at hnodup ⊢
    rw [List.foldl_cons]
    have hnew : referenceTo node.1 ∉ cs.map referenceTo := by
      have hsub := hnodup.sublist ((List.sublist_append_left _ _).map referenceTo)
      rw [List.map_append, List.map_singleton, ← List.concat_eq_append, List.nodup_concat] at hsub
      exact hsub.1
    exact ih (h.addChild (hnodes node List.mem_cons_self) hnew)
      (fun n hn ↦ hnodes n (List.mem_cons_of_mem _ hn)) hnodup

end Graph

end CrateDoc
