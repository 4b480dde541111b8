import CrateDoc.Doctest.Parsed
import CrateDoc.Proofs.Rust.Nodes
import Mathlib.Data.List.TakeWhile

/-!
# What parsing keeps of a snippet

A structured snippet is compared with its source slice by slice. A `Slice` is a part of the source
that stands for one node, or for a macro call and the semicolon that ends it; `Slice.Faithful` says
how little of it may be lost. `Structured.Holds` says that a snippet consists of what is kept of
some slices, and that these make up a text.

`Reading.Upholds.step` is the step of the loop over the nodes and `Reading.Upholds.foldlM` its run:
with each node one slice is added, or a semicolon joins the last one. `Parsed.parse_keeps_source`
puts this together with the layout of the nodes, for every parser that lays its nodes out.
-/

namespace CrateDoc.Doctest

open CrateDoc.Rust CrateDoc.Text

/-- The characters of a text that are no white space. -/
def visible (s : List Char) : List Char := s.filter (!isSpace ·)

/-- A part of a source and what a snippet keeps of it. -/
structure Slice where
  /-- White space in front of the slice. -/
  gap : List Char
  text : List Char
  /-- The nodes that the slice is made of. -/
  nodes : List Node
  /-- What is kept of the text. -/
  kept : List Char

/-- A slice is kept as it is, up to the newlines at the end of a comment and the white space between
a macro call and the semicolon that ends it. -/
inductive Slice.Faithful : Slice → Prop
  | whole (gap : List Char) (node : Node) : Faithful ⟨gap, node.text, [node], node.text⟩
  | comment (gap kept newlines : List Char) {node : Node} (htype : node.type ∈ commentTypes)
      (htext : node.text = kept ++ newlines) (hnewlines : ∀ c ∈ newlines, c = '\n') :
      Faithful ⟨gap, node.text, [node], kept⟩
  | endedMacro (gap between : List Char) {call semicolon : Node}
      (hcall : call.type = "macro_invocation") (hsemicolon : semicolon.type = "empty_statement")
      (hbetween : ∀ c ∈ between, isSpace c = true) :
      Faithful ⟨gap, call.text ++ (between ++ [';']), [call, semicolon], call.text ++ [';']⟩

/-- A slice that is an attribute of the crate. -/
def Slice.isAttribute (slice : Slice) : Bool := slice.nodes.any (·.type = "inner_attribute_item")

/-- A node that is no declaration, no comment and no attribute of the crate. -/
structure IsStray (node : Node) : Prop where
  type_ne : node.type ≠ "inner_attribute_item"
  type_notMem : node.type ∉ commentTypes
  isItem : isItem node = false

/-- A snippet consists of what is kept of some slices, which make up a text. -/
structure Structured.Holds (s : Structured) (text : List Char) (nodes : List Node)
    (slices : List Slice) : Prop where
  /-- The slices follow each other in the text. -/
  text_eq : text = slices.flatMap fun slice ↦ slice.gap ++ slice.text
  /-- Between them is white space only. -/
  gaps : ∀ slice ∈ slices, ∀ c ∈ slice.gap, isSpace c = true
  /-- They stand for the nodes, in their order. -/
  nodes_eq : nodes = slices.flatMap (·.nodes)
  /-- Hardly anything of them is lost. -/
  faithful : ∀ slice ∈ slices, slice.Faithful
  /-- The attributes of the crate are kept in their order. -/
  crateAttributes : s.crateAttributes =
    (slices.filter (·.isAttribute)).map fun slice ↦ String.ofList slice.kept
  /-- All the others are kept in their order as items. -/
  items : s.items = (slices.filter (!·.isAttribute)).map fun slice ↦ String.ofList slice.kept
  /-- An external crate is reported when one of the nodes declares it. -/
  externCrate : s.hasExternCrate = true ↔ ∃ node ∈ nodes, node.type = "extern_crate_declaration"
  /-- An entry point is reported when one of the nodes is a function of that name. -/
  entryPoint : s.hasEntryPoint = true ↔
    ∃ node ∈ nodes, node.type = "function_item" ∧ node.name? = some "main".toList

/-- What parsing may make of a source: all of it is kept in order, behind a byte order mark and up
to white space; or it stays as it is, if the parser finds an error or something that is no
declaration. -/
def Parsed.Keeps (parser : List Char → Option (List Node)) (source : String) : Parsed → Prop
  | .verbatim text => text = source ∧
      ∀ nodes, parser source.toList = some nodes → ∃ node ∈ nodes, IsStray node
  | .structured s => ∃ nodes slices body tail, parser source.toList = some nodes ∧
      (∀ node ∈ nodes, ¬ IsStray node) ∧
      withoutMark source.toList = body ++ tail ∧ (∀ c ∈ tail, isSpace c = true) ∧
      s.Holds body nodes slices ∧
      (slices.flatMap fun slice ↦ visible slice.kept) = visible (withoutMark source.toList)

/-! ### Slices -/

theorem visible_append (s t : List Char) : visible (s ++ t) = visible s ++ visible t :=
  List.filter_append ..

theorem visible_eq_nil {s : List Char} (h : ∀ c ∈ s, isSpace c = true) : visible s = [] :=
  List.filter_eq_nil_iff.2 fun c hc ↦ by simp [h c hc]

/-- What is lost of a slice is white space. -/
theorem Slice.Faithful.visible_kept {slice : Slice} (h : slice.Faithful) :
    visible slice.kept = visible slice.text := by
  cases h with
  | whole gap node => rfl
  | comment gap kept newlines htype htext hnewlines =>
    have hnil : visible newlines = [] := visible_eq_nil fun c hc ↦ by
      rw [hnewlines c hc]
      rfl
    rw [htext, visible_append, hnil, List.append_nil]
  | endedMacro gap between hcall hsemicolon hbetween =>
    simp only [visible_append, visible_eq_nil hbetween, List.nil_append]

/-- All that is visible in a text is kept. -/
theorem Structured.Holds.visible_eq {s : Structured} {text : List Char} {nodes : List Node}
    {slices : List Slice} (h : s.Holds text nodes slices) :
    (slices.flatMap fun slice ↦ visible slice.kept) = visible text := by
  rw [h.text_eq, visible, List.filter_flatMap]
  refine List.flatMap_congr fun slice hslice ↦ ?_
  change _ = visible (slice.gap ++ slice.text)
  rw [visible_append, visible_eq_nil (h.gaps slice hslice), List.nil_append,
    (h.faithful slice hslice).visible_kept]

/-! ### One more node -/

/-- What a node adds to a snippet, unless it ends a macro call: something of it is kept, in a place
that depends on its type. -/
structure Structured.Adds (s s' : Structured) (node : Node) (kept : List Char) : Prop where
  faithful : ∀ gap, Slice.Faithful ⟨gap, node.text, [node], kept⟩
  macroCall : node.type = "macro_invocation" → kept = node.text
  crateAttributes : s'.crateAttributes = s.crateAttributes ++
    if node.type = "inner_attribute_item" then [String.ofList kept] else []
  items : s'.items = s.items ++
    if node.type = "inner_attribute_item" then [] else [String.ofList kept]
  externCrate : s'.hasExternCrate =
    (s.hasExternCrate || decide (node.type = "extern_crate_declaration"))
  entryPoint : s'.hasEntryPoint = (s.hasEntryPoint || isEntryPoint node)

/-- A function starts the program if its name does. -/
theorem isEntryPoint_iff {node : Node} : isEntryPoint node = true ↔
    node.type = "function_item" ∧ node.name? = some "main".toList := by
  have hname : nameOfFunction node = entryPoint ↔ node.name? = some "main".toList := by
    rw [nameOfFunction, entryPoint, ← String.toList_inj, String.toList_ofList]
    rcases node.name? with - | name
    · simp
    · simp
  rw [isEntryPoint, Bool.and_eq_true, beq_iff_eq, beq_iff_eq, hname]

/-- A sound node that can end a macro call is an empty statement, which is a semicolon. -/
theorem type_of_isSemicolon {node : Node} (hsound : node.IsSound)
    (h : Reading.isSemicolon node = true) :
    node.type = "empty_statement" ∧ node.text = [';'] := by
  rw [Reading.isSemicolon, Bool.or_eq_true, beq_iff_eq, beq_iff_eq] at h
  have htype := h.resolve_left hsound.type_ne
  exact ⟨htype, hsound.empty htype⟩

/-- A step ends a macro call, or adds a node. -/
theorem Reading.step_cases {r r' : Reading} {node : Node} (hsound : node.IsSound)
    (h : r.step node = some r') :
    (r.openMacro = true ∧ (node.type = "empty_statement" ∧ node.text = [';']) ∧
        r' = { found := { r.found with items := endMacro r.found.items } }) ∨
      r'.openMacro = decide (node.type = "macro_invocation") ∧
        ∃ kept, r.found.Adds r'.found node kept := by
  rw [step] at h
  -- Crate attributes and comments have places of their own; all other nodes that remain are items.
  split_ifs at h with hend hnamed hattribute hcomment hitem
  · rw [Bool.and_eq_true] at hend
    cases h
    exact .inl ⟨hend.1, type_of_isSemicolon hsound hend.2, rfl⟩
  · simp [hsound.isNamed] at hnamed
  · cases h
    refine .inr ⟨rfl, node.text, fun gap ↦ .whole gap node, fun _ ↦ rfl, ?_, ?_, ?_, ?_⟩
    · rw [if_pos hattribute]
    · rw [if_pos hattribute, List.append_nil]
    · simp [hattribute]
    · simp [isEntryPoint, hattribute]
  · cases h
    have hne : node.type ∉ ["macro_invocation", "extern_crate_declaration", "function_item"] := by
      rcases List.mem_pair.1 hcomment with htype | htype <;> simp [htype]
    simp only [List.mem_cons, List.not_mem_nil, or_false, not_or] at hne
    refine .inr ⟨rfl, dropTrailing (· == '\n') node.text, fun gap ↦ ?_,
      fun hmacro ↦ absurd hmacro hne.1, ?_, ?_, ?_, ?_⟩
    · refine .comment gap _ (takeTrailing (· == '\n') node.text) hcomment
        (dropTrailing_append_takeTrailing _ _).symm fun c hc ↦ ?_
      rw [takeTrailing, List.mem_reverse] at hc
      simpa using List.mem_takeWhile_imp hc
    · rw [if_neg hattribute, List.append_nil]
    · rw [if_neg hattribute]
    · simp [hne.2.1]
    · simp [isEntryPoint, hne.2.2]
  · cases h
    refine .inr ⟨rfl, node.text, fun gap ↦ .whole gap node, fun _ ↦ rfl, ?_, ?_, rfl, rfl⟩
    · rw [if_neg hattribute, List.append_nil]
    · rw [if_neg hattribute]

/-- A step fails only at something that is no declaration. -/
theorem Reading.step_eq_none_iff {r : Reading} {node : Node} (hsound : node.IsSound) :
    r.step node = none ↔ IsStray node := by
  rw [step]
  split_ifs with hend hnamed hattribute hcomment hitem
  · -- A semicolon is a declaration.
    rw [Bool.and_eq_true] at hend
    have htype := (type_of_isSemicolon hsound hend.2).1
    refine iff_of_false nofun fun hstray ↦ ?_
    have hitem := hstray.isItem
    simp [CrateDoc.Doctest.isItem, itemTypes, htype] at hitem
  · simp [hsound.isNamed] at hnamed
  · exact iff_of_false nofun fun hstray ↦ hstray.type_ne hattribute
  · exact iff_of_false nofun fun hstray ↦ hstray.type_notMem hcomment
  · exact iff_of_true rfl ⟨hattribute, hcomment, by simpa using hitem⟩
  · exact iff_of_false nofun fun hstray ↦ hitem (by simp [hstray.isItem])

/-- Behind the slices of a text comes that of one more node. -/
theorem Structured.Holds.append {s s' : Structured} {text gap kept : List Char} {nodes : List Node}
    {slices : List Slice} {node : Node} (h : s.Holds text nodes slices)
    (hgap : ∀ c ∈ gap, isSpace c = true) (hadds : s.Adds s' node kept) :
    s'.Holds (text ++ (gap ++ node.text)) (nodes ++ [node])
      (slices ++ [⟨gap, node.text, [node], kept⟩]) where
  text_eq := by simp [h.text_eq]
  gaps := by simpa [or_imp, forall_and] using ⟨h.gaps, hgap⟩
  nodes_eq := by simp [← h.nodes_eq]
  faithful := by
    simpa [or_imp, forall_and] using ⟨h.faithful, hadds.faithful gap⟩
  crateAttributes := by
    rw [hadds.crateAttributes, h.crateAttributes, List.filter_append, List.map_append]
    by_cases htype : node.type = "inner_attribute_item" <;> simp [Slice.isAttribute, htype]
  items := by
    rw [hadds.items, h.items, List.filter_append, List.map_append]
    by_cases htype : node.type = "inner_attribute_item" <;> simp [Slice.isAttribute, htype]
  externCrate := by
    simp [hadds.externCrate, h.externCrate, or_and_right, exists_or]
  entryPoint := by
    simp [hadds.entryPoint, h.entryPoint, isEntryPoint_iff, or_and_right, exists_or]

theorem endMacro_append_singleton (items : List String) (call : String) :
    endMacro (items ++ [call]) = items ++ [call ++ ";"] := by
  induction items with
  | nil => rfl
  | cons item items ih =>
    rcases items with - | ⟨next, items⟩
    · rfl
    · exact congrArg (item :: ·) ih

/-- A semicolon joins the slice of the macro call that it ends. -/
theorem Structured.Holds.joinSemicolon {s : Structured} {text gap between : List Char}
    {nodes : List Node} {before : List Slice} {call semicolon : Node}
    (hcall : call.type = "macro_invocation") (hsemicolon : semicolon.type = "empty_statement")
    (h : s.Holds text nodes (before ++ [⟨gap, call.text, [call], call.text⟩]))
    (hbetween : ∀ c ∈ between, isSpace c = true) :
    Structured.Holds { s with items := endMacro s.items } (text ++ (between ++ [';']))
      (nodes ++ [semicolon])
      (before ++ [⟨gap, call.text ++ (between ++ [';']), [call, semicolon], call.text ++ [';']⟩])
    where
  text_eq := by simp [h.text_eq]
  gaps := by
    have hgaps := h.gaps
    simp only [List.forall_mem_append, List.forall_mem_singleton] at hgaps ⊢
    exact hgaps
  nodes_eq := by simp [h.nodes_eq]
  faithful := by
    have hfaithful := h.faithful
    simp only [List.forall_mem_append, List.forall_mem_singleton] at hfaithful ⊢
    exact ⟨hfaithful.1, .endedMacro gap between hcall hsemicolon hbetween⟩
  crateAttributes := by
    rw [h.crateAttributes]
    simp [Slice.isAttribute, hcall, hsemicolon]
  items := by
    -- the call is the last item, and the semicolon is written behind it
    have hitems : s.items = (before.filter (!·.isAttribute)).map (fun slice ↦
        String.ofList slice.kept) ++ [String.ofList call.text] := by
      rw [h.items]
      simp [Slice.isAttribute, hcall]
    rw [hitems, endMacro_append_singleton]
    simp [Slice.isAttribute, hcall, hsemicolon, String.ofList_append]
  externCrate := by simp [h.externCrate, hsemicolon]
  entryPoint := by simp [h.entryPoint, hsemicolon]

/-! ### All nodes -/

/-- How far the nodes are read, and what is known then: what was found holds the nodes, and a macro
call that may be ended is the last slice. -/
structure Reading.Upholds (r : Reading) (text : List Char) (nodes : List Node)
    (slices : List Slice) : Prop where
  holds : r.found.Holds text nodes slices
  openMacro : r.openMacro = true → ∃ before gap call, call.type = "macro_invocation" ∧
    slices = before ++ [⟨gap, call.text, [call], call.text⟩]

/-- With one more node one slice is added, or a semicolon joins the last one. -/
theorem Reading.Upholds.step {r r' : Reading} {text gap : List Char} {nodes : List Node}
    {slices : List Slice} {node : Node} (h : r.Upholds text nodes slices)
    (hgap : ∀ c ∈ gap, isSpace c = true) (hsound : node.IsSound) (hstep : r.step node = some r') :
    ∃ slices', r'.Upholds (text ++ (gap ++ node.text)) (nodes ++ [node]) slices' := by
  rcases Reading.step_cases hsound hstep with ⟨hopen, ⟨htype, htext⟩, rfl⟩ | ⟨hopen, kept, hadds⟩
  · obtain ⟨before, gap', call, hcall, rfl⟩ := h.openMacro hopen
    rw [htext]
    exact ⟨_, h.holds.joinSemicolon hcall htype hgap, nofun⟩
  · refine ⟨_, h.holds.append hgap hadds, fun hopen' ↦ ?_⟩
    rw [hopen, decide_eq_true_iff] at hopen'
    rw [hadds.macroCall hopen']
    exact ⟨slices, gap, node, hopen', rfl⟩

/-- A semicolon ends the macro call before it, but no other node. -/
example : Parsed.ofNodes? [⟨{ type := "macro_invocation" }, "m!()".toList⟩,
    ⟨{ type := "empty_statement" }, [';']⟩, ⟨{ type := "empty_statement" }, [';']⟩] =
      some { items := ["m!();", ";"] } := by decide +kernel

/-- Nodes that are spread over a text add slices of it, up to the white space at its end. -/
theorem Reading.Upholds.foldlM {r r' : Reading} {text rest : List Char} {nodes more : List Node}
    {slices : List Slice} (h : r.Upholds text nodes slices) (hspread : Spread more rest)
    (hfold : more.foldlM Reading.step r = some r') :
    ∃ slices' body tail, text ++ rest = body ++ tail ∧ (∀ c ∈ tail, isSpace c = true) ∧
      r'.Upholds body (nodes ++ more) slices' := by
  induction hspread generalizing r text nodes slices with
  | @nil gap hgap =>
    cases hfold
    exact ⟨slices, text, gap, rfl, hgap, by rwa [List.append_nil]⟩
  | @cons gap rest node more hgap hsound _ ih =>
    obtain ⟨r₁, hstep, hfold⟩ := Option.bind_eq_some_iff.1 hfold
    obtain ⟨slices₁, h₁⟩ := h.step hgap hsound hstep
    obtain ⟨slices', body, tail, htext, htail, h'⟩ := ih h₁ hfold
    refine ⟨slices', body, tail, ?_, htail, ?_⟩
    · rw [← htext]
      simp only [List.append_assoc]
    · rwa [List.append_assoc, List.singleton_append] at h'

/-- Before any node is read nothing is held. -/
theorem Reading.upholds_nil : Reading.Upholds {} [] [] [] where
  holds := by constructor <;> simp
  openMacro := nofun

/-- The nodes of a snippet are read unless one of them is no declaration. -/
theorem Reading.foldlM_step_eq_none_iff {r : Reading} {nodes : List Node} {text : List Char}
    (hspread : Spread nodes text) :
    nodes.foldlM Reading.step r = none ↔ ∃ node ∈ nodes, IsStray node := by
  induction hspread generalizing r with
  | nil => simp
  | @cons gap rest node nodes hgap hsound _ ih =>
    rw [List.foldlM_cons]
    rcases hstep : r.step node with - | r'
    · have hstray := (Reading.step_eq_none_iff hsound).1 hstep
      simp [hstray]
    · have hstray : ¬ IsStray node := fun hstray ↦ by
        rw [(Reading.step_eq_none_iff hsound).2 hstray] at hstep
        cases hstep
      have hrest := ih (r := r')
      simp [hstray, hrest]

namespace Parsed

/-- With a parser that lays its nodes out, parsing keeps the source. -/
theorem keeps_ofParser {parser : List Char → Option (List Node)} (hparser : LaysOut parser)
    (source : String) : Keeps parser source (ofParser parser source) := by
  rw [ofParser]
  rcases hnodes : parser source.toList with - | nodes
  · refine ⟨rfl, fun nodes h ↦ ?_⟩
    rw [hnodes] at h
    cases h
  rw [Option.bind_some, ofNodes?]
  rcases hfold : nodes.foldlM Reading.step {} with - | r
  · refine ⟨rfl, fun nodes' h ↦ ?_⟩
    rw [hnodes] at h
    cases h
    exact (Reading.foldlM_step_eq_none_iff (hparser _ _ hnodes)).1 hfold
  · obtain ⟨slices, body, tail, htext, htail, h⟩ :=
      Reading.upholds_nil.foldlM (hparser _ _ hnodes) hfold
    have hdeclarations : ∀ node ∈ nodes, ¬ IsStray node := fun node hmem hstray ↦ by
      rw [(Reading.foldlM_step_eq_none_iff (hparser _ _ hnodes)).2 ⟨node, hmem, hstray⟩] at hfold
      cases hfold
    refine ⟨nodes, slices, body, tail, hnodes, hdeclarations, htext, htail, h.holds, ?_⟩
    rw [h.holds.visible_eq, ← List.nil_append (withoutMark _), htext, visible_append,
      visible_eq_nil htail, List.append_nil]

/-- **Parsing a snippet loses and invents nothing.** This holds with every parser that lays its
nodes out, and so with the parser of this library. -/
theorem parse_keeps_source :
    (∀ parser, LaysOut parser → ∀ source, Keeps parser source (ofParser parser source)) ∧
      ∀ source, Keeps nodes? source (ofSource source) :=
  ⟨fun _ hparser ↦ keeps_ofParser hparser, keeps_ofParser laysOut_nodes?⟩

/-- A snippet with something of each kind. -/
def sampleSnippet : String :=
  "#![a]\n/// doc\nm! \x7b\x7d ;\nextern crate c;\n\nfn main() \x7b\x7d\n"

/-- The comment loses its newline; the macro call keeps its semicolon and the space before it. -/
theorem parse_sampleSnippet_keeps_source :
    LaysOut nodes? ∧ Keeps nodes? sampleSnippet (ofParser nodes? sampleSnippet) ∧
      ofParser nodes? sampleSnippet = .structured {
        items := ["/// doc", "m! \x7b\x7d ;", "extern crate c;", "fn main() \x7b\x7d"]
        crateAttributes := ["#![a]"]
        hasExternCrate := true
        hasEntryPoint := true } :=
  ⟨laysOut_nodes?, parse_keeps_source.1 nodes? laysOut_nodes? _, by decide +kernel⟩

end Parsed

end CrateDoc.Doctest
