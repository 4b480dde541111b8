import CrateDoc.Proofs.Document
import Mathlib.Data.List.Induction

/-!
# Relations under any sequence of calls

A document gets its relations by calls of two kinds (`Call`): one adds a reference to a relation to
many documents, the other sets a relation to one document. A call may be refused and then leaves the
document as it is (`Call.after`).

What a call does, whatever the document is, is said by `Call.Contained`: when it is refused, and
that it leaves every other relation alone. What calls leave of a document without relations can be
read off the calls (`FormedBy`): a relation is formed by the calls that name it, and by no others
(`formed?`). `formedBy_afterAll` carries this from call to call, and `calls_form_relations` puts
both together.
-/

namespace CrateDoc.Document

/-- A call that adds to the relations of a document. -/
inductive Call
  | toMany (relation : String) (target : Reference)
  | toOne (relation : String) (target : Reference)
deriving DecidableEq

namespace Call

/-- The relation that a call names. -/
def relation : Call → String
  | toMany relation _ | toOne relation _ => relation

/-- Whether a call is refused, and what it makes of the document in either case. -/
def apply (d : Document) : Call → Except SingularRelation Unit × Document
  | toMany relation target => d.addRelationship relation target
  | toOne relation target => (.ok (), d.addSingularRelationship relation target)

/-- The document after a call, also after one that is refused. -/
def after (d : Document) (call : Call) : Document := (call.apply d).2

/-- The document after calls, from the first to the last. -/
def afterAll (d : Document) (calls : List Call) : Document := calls.foldl after d

/-- The reference that a call adds to a relation to many documents, if it does. -/
def added? (relation : String) : Call → Option Reference
  | toMany name target => if name = relation then some target else none
  | toOne _ _ => none

/-- The relation that calls form. The first call that names it fixes its shape: it leads to the one
document that this call gives, or to the distinct documents that calls add to it, in the order in
which each is first added. -/
def formed? (relation : String) (calls : List Call) : Option Relation :=
  match calls.find? (·.relation == relation) with
  | none => none
  | some (toOne _ target) => some (.toOne target)
  | some (toMany _ _) => some (.toMany (calls.filterMap (added? relation)).eraseDups)

/-- What one call does to a document, whatever its relations are. -/
structure Contained (d : Document) (call : Call) : Prop where
  /-- A call is refused exactly if it adds to a relation that leads to one document. -/
  refused_iff : ∀ e, (call.apply d).1 = .error e ↔ ∃ relation target single,
    call = .toMany relation target ∧
      Entries.get? relation d.relationships = some (.toOne single) ∧ e = ⟨relation, d.id⟩
  /-- A call that is refused leaves the document as it is. -/
  of_refused : ∀ e, (call.apply d).1 = .error e → call.after d = d
  /-- A relation that is there is not set again. -/
  of_toOne : ∀ relation target, call = .toOne relation target →
    Entries.has relation d.relationships = true → call.after d = d
  /-- No other relation changes. -/
  other : ∀ relation, relation ≠ call.relation →
    Entries.get? relation (call.after d).relationships = Entries.get? relation d.relationships

/-- The document that calls leave of one without relations. -/
structure FormedBy (calls : List Call) (before after : Document) : Prop where
  type_eq : after.type = before.type
  id_eq : after.id = before.id
  attributes_eq : after.attributes = before.attributes
  /-- The relations stand in the order of their first use. -/
  names : after.relationships.map Prod.fst = (calls.map relation).eraseDups
  get?_eq : ∀ relation, Entries.get? relation after.relationships = formed? relation calls

/-! ### One call -/

/-- What a call makes of the relation that it names. -/
def joined (call : Call) : Option Relation → Relation
  | none => match call with
    | toMany _ target => .toMany [target]
    | toOne _ target => .toOne target
  | some (.toOne single) => .toOne single
  | some (.toMany targets) => match call with
    | toMany _ target => .toMany (if target ∈ targets then targets else targets ++ [target])
    | toOne _ _ => .toMany targets

/-- The relations after a call that puts what it makes of the relation that it names. -/
def relationsAfter (call : Call) (relationships : Entries String Relation) :
    Entries String Relation :=
  Entries.put call.relation (call.joined (Entries.get? call.relation relationships)) relationships

variable {d : Document} {call : Call} {calls : List Call}

/-- A call puts the relation that it names, or leaves the document as it is, because that relation
is already what the call makes of it. -/
theorem after_cases (d : Document) (call : Call) :
    call.after d = { d with relationships := call.relationsAfter d.relationships } ∨
      call.after d = d ∧ Entries.get? call.relation d.relationships =
        some (call.joined (Entries.get? call.relation d.relationships)) := by
  cases call with
  | toMany relation target =>
    rw [after, apply, relationsAfter, Call.relation]
    rcases hfound : Entries.get? relation d.relationships with - | single | targets
    · exact .inl (by rw [addRelationship_of_none hfound]; rfl)
    · exact .inr ⟨by rw [addRelationship_of_toOne hfound], rfl⟩
    · by_cases hmem : target ∈ targets
      · refine .inr ⟨by rw [addRelationship_of_mem hfound hmem], ?_⟩
        rw [joined, if_pos hmem]
      · refine .inl ?_
        simp only [addRelationship, setDefault, hfound, if_neg hmem, withRelation, joined]
  | toOne relation target =>
    rw [after, apply, relationsAfter, Call.relation]
    rcases hfound : Entries.get? relation d.relationships with - | single | targets
    · exact .inl (addSingularRelationship_of_none hfound target)
    · exact .inr ⟨addSingularRelationship_of_some hfound target, rfl⟩
    · exact .inr ⟨addSingularRelationship_of_some hfound target, rfl⟩

/-- A call changes the relation that it names, and no other. -/
theorem get?_after (relation : String) :
    Entries.get? relation (call.after d).relationships =
      if call.relation = relation then some (call.joined (Entries.get? relation d.relationships))
      else Entries.get? relation d.relationships := by
  rcases after_cases d call with hafter | ⟨hafter, hjoined⟩
  · rw [hafter]
    split_ifs with hname
    · rw [← hname]
      exact Entries.get?_put_self _ _ _
    · exact Entries.get?_put_of_ne _ _ (beq_eq_false_iff_ne.2 hname)
  · rw [hafter]
    split_ifs with hname
    · exact hname ▸ hjoined
    · rfl

/-- The relation that a call names comes last, if it is new. -/
theorem names_after (d : Document) (call : Call) :
    (call.after d).relationships.map Prod.fst =
      if Entries.has call.relation d.relationships then d.relationships.map Prod.fst
      else d.relationships.map Prod.fst ++ [call.relation] := by
  rcases after_cases d call with hafter | ⟨hafter, hjoined⟩
  · rw [hafter]
    split_ifs with hhas
    · exact Entries.map_fst_put_of_has _ hhas
    · show (call.relationsAfter d.relationships).map Prod.fst = _
      rw [relationsAfter, Entries.put_of_has_eq_false _ (Bool.eq_false_iff.2 hhas), List.map_append,
        List.map_singleton]
  · have hhas : Entries.has call.relation d.relationships = true := by
      rw [Entries.has, hjoined]
      rfl
    rw [hafter, if_pos hhas]

/-- A call is refused if it adds to a relation that leads to one document, and only then. -/
theorem apply_eq_error_iff {e : SingularRelation} :
    (call.apply d).1 = .error e ↔ ∃ relation target single, call = .toMany relation target ∧
      Entries.get? relation d.relationships = some (.toOne single) ∧ e = ⟨relation, d.id⟩ := by
  cases call with
  | toMany relation target =>
    rw [apply, addRelationship, setDefault]
    rcases hfound : Entries.get? relation d.relationships with - | single | targets
    · simp [hfound]
    · simp [hfound, eq_comm]
    · by_cases hmem : target ∈ targets <;> simp [hfound, hmem]
  | toOne relation target => simp [apply]

/-- A call is contained, whatever the document is. -/
theorem contained (d : Document) (call : Call) : call.Contained d where
  refused_iff _ := apply_eq_error_iff
  of_refused e h := by
    obtain ⟨relation, target, single, rfl, hfound, -⟩ := apply_eq_error_iff.1 h
    rw [after, apply, addRelationship_of_toOne hfound]
  of_toOne := by
    rintro relation target rfl hhas
    obtain ⟨existing, hfound⟩ := Option.isSome_iff_exists.1 hhas
    exact addSingularRelationship_of_some hfound target
  other relation hne := by rw [get?_after, if_neg hne.symm]

/-! ### Many calls -/

/-- One more member of a list is one more distinct member, if it is new. -/
theorem eraseDups_concat {α : Type} [DecidableEq α] (xs : List α) (x : α) :
    (xs ++ [x]).eraseDups = if x ∈ xs then xs.eraseDups else xs.eraseDups ++ [x] := by
  rw [List.eraseDups_append]
  split_ifs with h
  · simp [List.removeAll, h]
  · simp [List.removeAll, h, List.eraseDups_cons]

theorem added?_eq_none {relation : String} (h : call.relation ≠ relation) :
    added? relation call = none := by
  cases call with
  | toMany name target => exact if_neg h
  | toOne name target => rfl

/-- What the last call makes of a relation that the others have formed is formed by all. -/
theorem formed?_concat (relation : String) (calls : List Call) (call : Call) :
    formed? relation (calls ++ [call]) =
      if call.relation = relation then some (call.joined (formed? relation calls))
      else formed? relation calls := by
  rw [formed?, formed?, List.find?_append, List.filterMap_append]
  by_cases hname : call.relation = relation
  · have hlast : [call].find? (·.relation == relation) = some call := by simp [hname]
    rw [if_pos hname, hlast]
    rcases hfirst : calls.find? (·.relation == relation) with - | ⟨name, first⟩ | ⟨name, first⟩
    -- The call is the first one that names the relation.
    · have hnone : calls.filterMap (added? relation) = [] := by
        rw [List.filterMap_eq_nil_iff]
        intro other hother
        have hne := List.find?_eq_none.1 hfirst other hother
        exact added?_eq_none (by simpa using hne)
      rw [hfirst, hnone]
      cases call with
      | toMany name target =>
        obtain rfl : name = relation := hname
        simp [joined, added?, List.eraseDups_cons]
      | toOne name target => rfl
    · rw [hfirst]
      cases call with
      | toMany name' target =>
        obtain rfl : name' = relation := hname
        simp [joined, added?, eraseDups_concat, List.mem_eraseDups]
      | toOne name' target => simp [joined, added?, List.filterMap_cons]
    · rw [hfirst]
      rfl
  · have hlast : [call].find? (·.relation == relation) = none := by simpa using hname
    rw [if_neg hname, hlast, Option.or_none, List.filterMap_cons_none (added?_eq_none hname),
      List.filterMap_nil, List.append_nil]

/-- A call changes nothing but relations. -/
theorem exists_after_eq (d : Document) (call : Call) :
    ∃ relationships, call.after d = { d with relationships := relationships } := by
  rcases after_cases d call with hafter | ⟨hafter, -⟩
  · exact ⟨_, hafter⟩
  · exact ⟨d.relationships, hafter⟩

/-- From call to call the relations of a document stay what the calls have formed. -/
theorem FormedBy.concat {before between : Document} (h : FormedBy calls before between)
    (call : Call) : FormedBy (calls ++ [call]) before (call.after between) := by
  obtain ⟨relationships, hafter⟩ := exists_after_eq between call
  have hhas : Entries.has call.relation between.relationships = true ↔
      call.relation ∈ calls.map Call.relation := by
    rw [Entries.has_eq_true_iff, h.names, List.mem_eraseDups]
  constructor
  case type_eq => rw [hafter, h.type_eq]
  case id_eq => rw [hafter, h.id_eq]
  case attributes_eq => rw [hafter, h.attributes_eq]
  case names =>
    rw [names_after, List.map_append, List.map_singleton, eraseDups_concat, h.names]
    by_cases hmem : call.relation ∈ calls.map Call.relation
    · rw [if_pos hmem, if_pos (hhas.2 hmem)]
    · rw [if_neg hmem, if_neg (mt hhas.1 hmem)]
  case get?_eq =>
    intro relation
    rw [get?_after, formed?_concat, h.get?_eq]

/-- What calls leave of a document without relations can be read off the calls. -/
theorem formedBy_afterAll (h : d.relationships = []) (calls : List Call) :
    FormedBy calls d (afterAll d calls) := by
  induction calls using List.reverseRecOn with
  | nil =>
    exact ⟨rfl, rfl, rfl, by rw [afterAll, List.foldl_nil, h]; rfl, fun relation ↦ by
      rw [afterAll, List.foldl_nil, h]
      rfl⟩
  | append_singleton calls call ih =>
    rw [afterAll, List.foldl_append]
    exact ih.concat call

/-- **The relations of a document are formed by the calls that name them.** After any calls a
document that had no relations has those that are named, in the order of their first use; the first
call that names a relation fixes whether it leads to one document or to many, which then are the
distinct ones that are added to it in their order. A call is refused exactly if it adds to a
relation that leads to one document; it never changes another relation than the one that it
names. -/
theorem calls_form_relations (h : d.relationships = []) (calls : List Call) :
    FormedBy calls d (afterAll d calls) ∧
      ∀ (between : Document) (call : Call), call.Contained between :=
  ⟨formedBy_afterAll h calls, contained⟩

/-- A document without relations. -/
def sampleDocument : Document := ⟨"module", "c::m", [("docs", "")], []⟩

/-- A document that the others point at. -/
def sampleTarget (name : String) : Reference := ⟨"struct", "c::m::" ++ name⟩

/-- Calls that are refused or change nothing among others that do. -/
def sampleCalls : List Call :=
  [.toMany "child_structs" (sampleTarget "A"), .toOne "parent" ⟨"module", "c::n"⟩,
    .toMany "parent" (sampleTarget "A"), .toMany "child_structs" (sampleTarget "A"),
    .toOne "child_structs" (sampleTarget "B"), .toMany "child_enums" (sampleTarget "E"),
    .toOne "parent" ⟨"module", "c::o"⟩, .toMany "child_structs" (sampleTarget "B")]

theorem sampleCalls_form_relations :
    sampleDocument.relationships = [] ∧
      FormedBy sampleCalls sampleDocument (afterAll sampleDocument sampleCalls) ∧
      (afterAll sampleDocument sampleCalls).relationships =
        [("child_structs", .toMany [sampleTarget "A", sampleTarget "B"]),
          ("parent", .toOne ⟨"module", "c::n"⟩), ("child_enums", .toMany [sampleTarget "E"])] :=
  ⟨rfl, (calls_form_relations rfl sampleCalls).1, by decide⟩

end Call

end CrateDoc.Document
