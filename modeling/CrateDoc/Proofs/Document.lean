import CrateDoc.Document
import CrateDoc.Proofs.Entries
import Mathlib.Data.List.Perm.Basic

/-!
# The relations of a document

What a document points at: `Document.entries` are the references of all its relations to many
documents together.

`Document.addRelationship_of_not_mem` says what it means to add a reference that is new to a
relation: it comes last among the references of that relation, every other relation stays as it is,
and the document has one entry more.
-/

namespace CrateDoc

/-- The references that a relation to many documents holds. -/
def Relation.entries : Relation → List Reference
  | .toOne _ => []
  | .toMany targets => targets

/-- The relation to many documents that holds some references, if there are any. -/
def Relation.toMany? : List Reference → Option Relation
  | [] => none
  | target :: targets => some (.toMany (target :: targets))

theorem Relation.toMany?_eq_some_iff {targets : List Reference} {relation : Relation} :
    toMany? targets = some relation ↔ relation = .toMany targets ∧ targets ≠ [] := by
  cases targets with
  | nil => simp [toMany?]
  | cons target targets => simp [toMany?, eq_comm]

theorem Relation.toMany?_append_singleton (targets : List Reference) (target : Reference) :
    toMany? (targets ++ [target]) = some (.toMany (targets ++ [target])) :=
  toMany?_eq_some_iff.2 ⟨rfl, by simp⟩

namespace Document

/-- No attribute and no relation is there twice. -/
structure HasDistinctKeys (d : Document) : Prop where
  attributes : (d.attributes.map Prod.fst).Nodup
  relationships : (d.relationships.map Prod.fst).Nodup

/-- The references of all relations to many documents. -/
def entries (d : Document) : List Reference := d.relationships.flatMap (·.2.entries)

/-- A document whose relation has new references. -/
def withTargets (d : Document) (relation : String) (targets : List Reference) : Document :=
  d.withRelation relation (.toMany targets)

variable {d : Document} {relation : String} {targets : List Reference} {target : Reference}

/-! ### Adding to a relation -/

/-- A document that is given a relation keeps its name. -/
theorem id_setDefault (d : Document) (relation : String) (value : Relation) :
    (d.setDefault relation value).2.id = d.id := by
  rw [setDefault]
  split <;> rfl

/-- A document that is given a reference keeps its name, whether it was refused or not. -/
theorem id_addRelationship (d : Document) (relation : String) (target : Reference) :
    (d.addRelationship relation target).2.id = d.id := by
  have hid := d.id_setDefault relation (.toMany [])
  rw [addRelationship.eq_def]
  dsimp only
  split
  · exact hid
  · split_ifs <;> exact hid

theorem id_addSingularRelationship (d : Document) (relation : String) (target : Reference) :
    (d.addSingularRelationship relation target).id = d.id :=
  d.id_setDefault relation (.toOne target)

/-- The first reference of a relation makes the relation. -/
theorem addRelationship_of_none (h : Entries.get? relation d.relationships = none)
    (target : Reference) : d.addRelationship relation target =
      (.ok (), d.withRelation relation (.toMany [target])) := by
  have hput : (d.withRelation relation (.toMany [])).withRelation relation (.toMany [target]) =
      d.withRelation relation (.toMany [target]) := by
    simp only [withRelation, Entries.put_put]
  simp only [addRelationship, setDefault, h, List.not_mem_nil, if_false, List.nil_append, hput]

/-- A relation to one document is refused another one, and the document stays as it is. -/
theorem addRelationship_of_toOne {single : Reference}
    (h : Entries.get? relation d.relationships = some (.toOne single)) (target : Reference) :
    d.addRelationship relation target = (.error ⟨relation, d.id⟩, d) := by
  simp only [addRelationship, setDefault, h]

/-- A reference that is there already is not added again. -/
theorem addRelationship_of_mem
    (h : Entries.get? relation d.relationships = some (.toMany targets)) (hmem : target ∈ targets) :
    d.addRelationship relation target = (.ok (), d) := by
  simp only [addRelationship, setDefault, h, if_pos hmem]

/-- A relation that is there is not set again. -/
theorem addSingularRelationship_of_some {existing : Relation}
    (h : Entries.get? relation d.relationships = some existing) (target : Reference) :
    d.addSingularRelationship relation target = d := by
  rw [addSingularRelationship, setDefault, h]

theorem addSingularRelationship_of_none (h : Entries.get? relation d.relationships = none)
    (target : Reference) : d.addSingularRelationship relation target =
      d.withRelation relation (.toOne target) := by
  rw [addSingularRelationship, setDefault, h]

/-- A reference that is new to a relation is added behind the others. -/
theorem addRelationship_of_not_mem
    (hrel : Entries.get? relation d.relationships = Relation.toMany? targets)
    (hnew : target ∉ targets) :
    d.addRelationship relation target =
      (.ok (), d.withTargets relation (targets ++ [target])) := by
  cases targets with
  | nil => exact addRelationship_of_none hrel target
  | cons first rest =>
    have hsome : Entries.get? relation d.relationships = some (.toMany (first :: rest)) := hrel
    simp only [addRelationship, setDefault, hsome, if_neg hnew, withTargets]

/-- A document has one entry more when a relation has one reference more. -/
theorem entries_withTargets_perm
    (hrel : Entries.get? relation d.relationships = Relation.toMany? targets) :
    (d.withTargets relation (targets ++ [target])).entries.Perm (d.entries ++ [target]) := by
  have hperm := Entries.flatMap_put_perm Relation.entries relation
    (.toMany (targets ++ [target])) d.relationships
  have hfound : (Entries.get? relation d.relationships).elim [] Relation.entries = targets := by
    rw [hrel]
    cases targets <;> rfl
  rw [hfound] at hperm
  -- The references that were there stand on both sides.
  refine (List.perm_append_right_iff targets).1 (hperm.trans ?_)
  rw [List.append_assoc]
  exact List.perm_append_comm.append_left d.entries

end Document

end CrateDoc
