import CrateDoc.Rust.Node
import Mathlib.Data.List.Basic

/-!
# How the nodes of a text lie in it

`Spread nodes s` says that a text `s` is made of the texts of some nodes, one after the other, with
nothing but white space before, between and behind them. A parser that promises this of every text
that it accepts, a byte order mark apart, lays its nodes out (`LaysOut`).

`laysOut_nodes?`: the parser of this library does. Each step of it splits the text where the node
ends, so nothing needs to be known of the grammar.
-/

namespace CrateDoc.Rust

/-- What a parser promises of a single node: it is no punctuation, and an empty statement is a
semicolon. -/
structure Node.IsSound (node : Node) : Prop where
  isNamed : node.isNamed = true
  type_ne : node.type ≠ ";"
  empty : node.type = "empty_statement" → node.text = [';']

/-- The nodes follow each other in a text, with white space before, between and behind them. -/
inductive Spread : List Node → List Char → Prop
  | nil {gap : List Char} (hgap : ∀ c ∈ gap, isSpace c = true) : Spread [] gap
  | cons {gap rest : List Char} {node : Node} {nodes : List Node}
      (hgap : ∀ c ∈ gap, isSpace c = true) (hnode : node.IsSound) (hrest : Spread nodes rest) :
      Spread (node :: nodes) (gap ++ (node.text ++ rest))

/-- The nodes that a parser gives of a text are spread over the text, behind its byte order mark. -/
def LaysOut (parser : List Char → Option (List Node)) : Prop :=
  ∀ source nodes, parser source = some nodes → Spread nodes (withoutMark source)

/-- White space may stand before the first node. -/
theorem Spread.space {nodes : List Node} {s : List Char} {c : Char} (hc : isSpace c = true)
    (h : Spread nodes s) : Spread nodes (c :: s) := by
  cases h with
  | nil hgap => exact .nil (List.forall_mem_cons.2 ⟨hc, hgap⟩)
  | cons hgap hnode hrest =>
    rw [← List.cons_append]
    exact .cons (List.forall_mem_cons.2 ⟨hc, hgap⟩) hnode hrest

/-! ### The types that are read -/

/-- A node that has a name and is no empty statement. -/
structure NodeInfo.IsSolid (info : NodeInfo) : Prop where
  isNamed : info.isNamed = true
  type_notMem : info.type ∉ [";", "empty_statement"]

theorem isSolid_of_type {type : String} {namedChildren : List String} {name? : Option (List Char)}
    (h : type ∉ [";", "empty_statement"]) :
    NodeInfo.IsSolid { type := type, namedChildren := namedChildren, name? := name? } := ⟨rfl, h⟩

theorem isSolid_of_afterMacro? {s rest : List Char} {info : NodeInfo}
    (h : afterMacro? s = some (info, rest)) : info.IsSolid := by
  obtain ⟨behind, -, h⟩ := Option.bind_eq_some_iff.1 h
  split at h
  · split_ifs at h
    cases h
    exact isSolid_of_type (by decide)
  · cases h
  · cases h
    exact isSolid_of_type (by decide)

theorem itemType_notMem (s : List Char) : itemType s ∉ [";", "empty_statement"] := by
  have hall : ∀ entry ∈ itemBeginnings, entry.2 ∉ [";", "empty_statement"] := by
    simp [itemBeginnings]
  rw [itemType]
  split
  · next beginning type hfound => exact hall _ (List.mem_of_find?_eq_some hfound)
  · decide

/-- A declaration is no semicolon. -/
theorem isSolid_of_afterItem? {s rest : List Char} {info : NodeInfo}
    (h : afterItem? s = some (info, rest)) : info.IsSolid := by
  rw [afterItem?] at h
  split at h
  · cases h
    exact isSolid_of_type (by decide)
  split at h
  · cases h
    refine isSolid_of_type ?_
    rw [attributeType]
    split_ifs <;> decide
  split at h
  · cases h
    exact isSolid_of_type (by decide)
  split at h
  · cases h
    exact isSolid_of_type (itemType_notMem s)
  · exact isSolid_of_afterMacro? h

theorem isSolid_statementInfo (s : List Char) : (statementInfo s).IsSolid := by
  rw [statementInfo]
  split_ifs <;> exact isSolid_of_type (by decide)

theorem commentType_notMem (s : List Char) : commentType s ∉ [";", "empty_statement"] := by
  rw [commentType.eq_def]
  split <;> decide

/-- A node is a semicolon, one character long, or something else. -/
theorem cases_of_afterNode? {s rest : List Char} {info : NodeInfo}
    (h : afterNode? s = some (info, rest)) :
    info.IsSolid ∨ info = { type := "empty_statement" } ∧ s = ';' :: rest := by
  unfold afterNode? at h
  split at h
  · cases h
    exact .inl (isSolid_of_type (commentType_notMem _))
  · cases h
    exact .inr ⟨rfl, rfl⟩
  · split at h
    · next found hfound =>
      cases h
      exact .inl (isSolid_of_afterItem? hfound)
    · obtain ⟨behind, -, h⟩ := Option.map_eq_some_iff.1 h
      cases h
      exact .inl (isSolid_statementInfo _)

theorem NodeInfo.IsSolid.isSound {info : NodeInfo} (h : info.IsSolid) (text : List Char) :
    Node.IsSound ⟨info, text⟩ where
  isNamed := h.isNamed
  type_ne htype := h.type_notMem (by simp [show info.type = ";" from htype])
  empty htype := absurd (by simp [show info.type = "empty_statement" from htype]) h.type_notMem

/-! ### The layout -/

/-- The nodes that are read from a text are spread over it. -/
theorem spread_nodesFrom? {s : List Char} {nodes : List Node} (h : nodesFrom? s = some nodes) :
    Spread nodes s := by
  fun_induction nodesFrom? s generalizing nodes with
  | case1 =>
    cases h
    exact .nil nofun
  | case2 c cs hc ih => exact (ih h).space hc
  | case3 c cs hc ih =>
    obtain ⟨⟨info, rest⟩, hnode, h⟩ := Option.bind_eq_some_iff.1 h
    obtain ⟨more, hmore, h⟩ := Option.bind_eq_some_iff.1 h
    cases h
    have hsound : Node.IsSound ⟨info, c :: cs.take (cs.length - rest.length)⟩ := by
      rcases cases_of_afterNode? hnode with hsolid | ⟨rfl, hsemicolon⟩
      · exact hsolid.isSound _
      · obtain ⟨rfl, rfl⟩ := List.cons.inj hsemicolon
        exact ⟨rfl, by simp, fun _ ↦ by simp⟩
    have hspread := @Spread.cons [] _ _ _ nofun hsound (ih _ hmore)
    simpa using hspread

/-- **The nodes of a text are spread over it**: nothing of a text is outside of them but white space
and a byte order mark at its start. -/
theorem laysOut_nodes? : LaysOut nodes? := by
  intro source nodes h
  rw [nodes?] at h
  split_ifs at h
  exact spread_nodesFrom? h

end CrateDoc.Rust
