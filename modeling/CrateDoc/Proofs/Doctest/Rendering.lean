import CrateDoc.Doctest.Program
import CrateDoc.Proofs.Doctest.Parsing

/-!
# Programs as plain texts

What the program of a snippet is, without any template: `IsProgram` puts the texts of the snippet
one behind the other, and says by the nodes of the source which lines are there.

The built-in templates render exactly that (`Parsed.isProgram_render`), and so do the files in which
they are written, once these are read as templates (`Parsed.render_written`). Both hold of all texts
alike, so nothing in a snippet is ever taken for a part of a template; `preprocess_isProgram` puts
them together.
-/

namespace CrateDoc

open CrateDoc.Text

namespace Template

/-! ### Templates in files -/

theorem renderParts_cons (scope : Scope) (part : Part) (parts : List Part) :
    renderParts scope (part :: parts) = part.render scope ++ renderParts scope parts := by
  rw [renderParts]

/-- A text of a template is rendered as it is. -/
theorem render_text (scope : Scope) (s : String) : (Part.text s).render scope = s := by
  rw [Part.render]

/-- A part without text does not show in a loop. -/
theorem render_loop_text_empty (scope : Scope) (item source : String) (body : List Part) :
    (Part.loop item source (.text "" :: body)).render scope =
      (Part.loop item source body).render scope := by
  simp only [Part.render, renderParts_cons, String.empty_append]

/-- The template of a text is read from the pieces of its lines. -/
theorem ofText_join {lines : List String} {pieces : List Piece}
    (h : piecesFrom ((unifyNewlines (lines.flatMap String.toList)).length + 1) true []
      (unifyNewlines (lines.flatMap String.toList)) = pieces) :
    ofText (String.join lines) = (partsOf (pieces.length + 1) pieces).1 := by
  rw [ofText, String.toList_join]
  simp only [h]

end Template

namespace Doctest

open CrateDoc.Rust

/-- Texts, each with a newline behind it. -/
def onLines (texts : List String) : String := String.join (texts.map (· ++ "\n"))

namespace Templates

open Template

/-- The lines of the file of a program around declarations. -/
def structuredLines : List String := [
  "\x7b% for attribute in crate_attributes %\x7d\n",
  "\x7b\x7b attribute \x7d\x7d\n",
  "\x7b% endfor %\x7d\n",
  "#[test]\n",
  "fn \x7b\x7b test_name \x7d\x7d() \x7b\n",
  "\x7b% if extern_crate %\x7d\n",
  "    extern crate \x7b\x7b extern_crate \x7d\x7d;\n",
  "\x7b% endif %\x7d\n",
  "\x7b% for item in items %\x7d\n",
  "\x7b\x7b item \x7d\x7d\n",
  "\x7b% endfor %\x7d\n",
  "\x7b% if entry_point %\x7d\n",
  "    \x7b\x7b entry_point \x7d\x7d();\n",
  "\x7b% endif %\x7d\n",
  "\x7d\n"]

/-- The lines of the file of a program around a text. -/
def verbatimLines : List String := [
  "#[test] fn \x7b\x7b test_name \x7d\x7d() \x7b\n",
  "\x7b\x7b source \x7d\x7d\n",
  "\x7d\n"]

/-- The files of these lines, by their names. -/
def files : Entries String String :=
  [("doctest.rs.j2", String.join structuredLines), ("verbatim.rs.j2", String.join verbatimLines)]

/-- The templates that are read from these files. -/
def written : Templates := withFiles files

/-- A file of the name of the structured template takes its place. -/
theorem structured_withFiles {files : Entries String String} {file : String}
    (h : Entries.get? "doctest.rs.j2" files = some file) :
    (withFiles files).structured = Template.ofText file := by
  simp only [withFiles, h, Option.map_some, Option.getD_some]

theorem verbatim_withFiles {files : Entries String String} {file : String}
    (h : Entries.get? "verbatim.rs.j2" files = some file) :
    (withFiles files).verbatim = Template.ofText file := by
  simp only [withFiles, h, Option.map_some, Option.getD_some]

/-- The written structured template is read as its parts. -/
theorem ofText_structuredLines : Template.ofText (String.join structuredLines) =
    [.text "", .loop "attribute" "crate_attributes" [.text "", .value "attribute", .text "\n"],
      .text "#[test]\nfn ", .value "test_name", .text "() \x7b\n",
      .condition "extern_crate"
        [.text "    extern crate ", .value "extern_crate", .text ";\n"] [],
      .text "", .loop "item" "items" [.text "", .value "item", .text "\n"], .text "",
      .condition "entry_point" [.text "    ", .value "entry_point", .text "();\n"] [],
      .text "\x7d\n"] := by
  have h := @Template.ofText_join structuredLines [.text [],
    .block ["for".toList, "attribute".toList, "in".toList, "crate_attributes".toList], .text [],
    .output ["attribute".toList], .text "\n".toList, .block ["endfor".toList],
    .text "#[test]\nfn ".toList, .output ["test_name".toList], .text "() \x7b\n".toList,
    .block ["if".toList, "extern_crate".toList], .text "    extern crate ".toList,
    .output ["extern_crate".toList], .text ";\n".toList, .block ["endif".toList], .text [],
    .block ["for".toList, "item".toList, "in".toList, "items".toList], .text [],
    .output ["item".toList], .text "\n".toList, .block ["endfor".toList], .text [],
    .block ["if".toList, "entry_point".toList], .text "    ".toList,
    .output ["entry_point".toList], .text "();\n".toList, .block ["endif".toList],
    .text "\x7d\n".toList] (by decide +kernel)
  rw [h]
  simp [partsOf]

/-- The written verbatim template is the one built in. -/
theorem ofText_verbatimLines : Template.ofText (String.join verbatimLines) =
    builtIn.verbatim := by
  have h := @Template.ofText_join verbatimLines [.text "#[test] fn ".toList,
    .output ["test_name".toList], .text "() \x7b\n".toList, .output ["source".toList],
    .text "\n\x7d\n".toList] (by decide +kernel)
  rw [h]
  simp [partsOf, builtIn]

/-! ### What the built-in templates render -/

/-- A loop over texts puts each on a line of its own. -/
theorem render_loop {scope : Template.Scope} {source : String} {texts : List String}
    (h : Entries.get? source scope = some (.texts texts)) (name : String) :
    (Template.Part.loop name source [.value name, .text "\n"]).render scope = onLines texts := by
  have hitem : ∀ s : String, Entries.get? name ((name, Template.Value.text s) :: scope) =
      some (.text s) := fun s ↦ by simp [Entries.get?]
  simp only [Template.Part.render, h, Option.map_some, Option.getD_some, Template.Value.items,
    Template.renderParts, hitem, Template.Value.print, String.append_empty]
  rfl

/-- A condition on a text that may be missing shows the text, if it is there. -/
theorem render_condition {scope : Template.Scope} {name text : String} {p : Prop} [Decidable p]
    (htext : text ≠ "")
    (h : Entries.get? name scope = some (if p then .text text else .none))
    (before behind : String) :
    (Template.Part.condition name [.text before, .value name, .text behind] []).render scope =
      if p then before ++ text ++ behind else "" := by
  simp only [Template.Part.render, Template.renderParts, h, Option.map_some, Option.getD_some]
  split_ifs with hp hholds hholds
  · simp [Template.Value.print, String.append_assoc]
  · simp [Template.Value.holds, htext] at hholds
  · simp [Template.Value.holds] at hholds
  · rfl

variable {scope : Template.Scope} {name : String}

/-- The verbatim template puts a source between the lines of one test. -/
theorem render_verbatim {source : String}
    (hname : Entries.get? "test_name" scope = some (.text name))
    (hsource : Entries.get? "source" scope = some (.text source)) :
    builtIn.verbatim.render scope =
      "#[test] fn " ++ name ++ "() \x7b\n" ++ source ++ "\n\x7d\n" := by
  simp only [builtIn, Template.render, Template.renderParts, Template.Part.render, hname, hsource,
    Template.Value.print, String.append_empty, String.append_assoc]

/-- The structured template writes the attributes, the test and what it declares, in this order. -/
theorem render_structured {attributes items : List String} {crate entry : String} {p q : Prop}
    [Decidable p] [Decidable q] (hcrate : crate ≠ "") (hentry : entry ≠ "")
    (hname : Entries.get? "test_name" scope = some (.text name))
    (hattributes : Entries.get? "crate_attributes" scope = some (.texts attributes))
    (hdeclared : Entries.get? "extern_crate" scope = some (if p then .text crate else .none))
    (hitems : Entries.get? "items" scope = some (.texts items))
    (hpoint : Entries.get? "entry_point" scope = some (if q then .text entry else .none)) :
    builtIn.structured.render scope =
      onLines attributes ++ "#[test]\nfn " ++ name ++ "() \x7b\n" ++
        (if p then "    extern crate " ++ crate ++ ";\n" else "") ++ onLines items ++
        (if q then "    " ++ entry ++ "();\n" else "") ++ "\x7d\n" := by
  simp only [builtIn, Template.render, Template.renderParts_cons, render_loop hattributes,
    render_loop hitems, render_condition hcrate hdeclared, render_condition hentry hpoint]
  simp only [Template.Part.render, Template.renderParts, hname, Template.Value.print,
    String.append_assoc, String.append_empty]

end Templates

/-! ### Programs -/

/-- The line that declares the crate under test, if no node declares a crate and the crate is not
the standard one. -/
def crateLine (nodes : List Node) (crate : String) : String :=
  if (∀ node ∈ nodes, node.type ≠ "extern_crate_declaration") ∧ crate ≠ "std" then
    "    extern crate " ++ crate ++ ";\n"
  else ""

/-- The line that calls the entry point, if a node is a function of that name. -/
def callLine (nodes : List Node) : String :=
  if ∃ node ∈ nodes, node.type = "function_item" ∧ node.name? = some "main".toList then
    "    main();\n"
  else ""

/-- The program of a source, put together from its texts. -/
inductive IsProgram (parser : List Char → Option (List Node)) (source crate : String) :
    String → Prop
  | verbatim (h : Parsed.ofParser parser source = .verbatim source) :
      IsProgram parser source crate ("#[test] fn a_doc_test() \x7b\n" ++ source ++ "\n\x7d\n")
  | structured {s : Structured} {nodes : List Node}
      (h : Parsed.ofParser parser source = .structured s)
      (hnodes : parser source.toList = some nodes) :
      IsProgram parser source crate
        (onLines s.crateAttributes ++ "#[test]\nfn a_doc_test() \x7b\n" ++
          crateLine nodes crate ++ onLines s.items ++ callLine nodes ++ "\x7d\n")

namespace Parsed

/-- The lines of a structured program, as far as they depend on what was found. -/
def programOf (s : Structured) (crate : String) : String :=
  onLines s.crateAttributes ++ "#[test]\nfn a_doc_test() \x7b\n" ++
    (if s.hasExternCrate = false ∧ crate ≠ "std" then "    extern crate " ++ crate ++ ";\n"
      else "") ++
    onLines s.items ++ (if s.hasEntryPoint = true then "    main();\n" else "") ++ "\x7d\n"

/-- A verbatim test is rendered around its source. -/
theorem render_builtIn_verbatim (source crate : String) :
    (verbatim source).render .builtIn crate =
      "#[test] fn a_doc_test() \x7b\n" ++ source ++ "\n\x7d\n" := by
  rw [render, Templates.render_verbatim rfl rfl]
  rfl

/-- A structured test is rendered as its program. -/
theorem render_builtIn_structured (s : Structured) {crate : String} (hcrate : crate ≠ "") :
    (structured s).render .builtIn crate = programOf s crate := by
  have hhead : onLines s.crateAttributes ++ "#[test]\nfn " ++ testFunction ++ "() \x7b\n" =
      onLines s.crateAttributes ++ "#[test]\nfn a_doc_test() \x7b\n" := by
    rw [String.append_assoc, String.append_assoc]
    rfl
  have hcall : "    " ++ entryPoint ++ "();\n" = "    main();\n" := rfl
  rw [render, Templates.render_structured hcrate (by decide) rfl rfl rfl rfl rfl, hhead, hcall,
    programOf]
  simp only [Bool.and_eq_true, Bool.not_eq_true', bne_iff_ne, standardCrate]

/-- The files of the built-in templates render what the templates do. -/
theorem render_written (parsed : Parsed) (crate : String) :
    parsed.render .written crate = parsed.render .builtIn crate := by
  have hverbatim : Templates.written.verbatim = Templates.builtIn.verbatim := by
    rw [Templates.written, Templates.verbatim_withFiles rfl, Templates.ofText_verbatimLines]
  have hstructured : ∀ scope, Templates.written.structured.render scope =
      Templates.builtIn.structured.render scope := by
    intro scope
    rw [Templates.written, Templates.structured_withFiles rfl, Templates.ofText_structuredLines]
    simp only [Templates.builtIn, Template.render, Template.renderParts_cons, Template.render_text,
      Template.render_loop_text_empty, String.empty_append]
  cases parsed with
  | verbatim text => rw [render, render, hverbatim]
  | structured s => rw [render, render, hstructured]

/-- What is found in a source is read off the nodes that the parser gives. -/
theorem programOf_eq {parser : List Char → Option (List Node)} (hparser : LaysOut parser)
    {source : String} {s : Structured} (h : ofParser parser source = .structured s)
    (crate : String) : ∃ nodes, parser source.toList = some nodes ∧
      programOf s crate = onLines s.crateAttributes ++ "#[test]\nfn a_doc_test() \x7b\n" ++
        crateLine nodes crate ++ onLines s.items ++ callLine nodes ++ "\x7d\n" := by
  have hkeeps := keeps_ofParser hparser source
  rw [h] at hkeeps
  obtain ⟨nodes, slices, body, tail, hnodes, -, -, -, hholds, -⟩ := hkeeps
  have hdeclared : s.hasExternCrate = false ↔
      ∀ node ∈ nodes, node.type ≠ "extern_crate_declaration" := by
    rw [← Bool.not_eq_true, hholds.externCrate]
    simp only [not_exists, not_and, ne_eq]
  refine ⟨nodes, hnodes, ?_⟩
  simp only [programOf, crateLine, callLine, hdeclared, hholds.entryPoint]

/-- With a parser that lays its nodes out, the built-in templates render the program of a source. -/
theorem isProgram_render {parser : List Char → Option (List Node)} (hparser : LaysOut parser)
    (source : String) {crate : String} (hcrate : crate ≠ "") :
    IsProgram parser source crate ((ofParser parser source).render .builtIn crate) := by
  rcases h : ofParser parser source with s | text
  · obtain ⟨nodes, hnodes, hprogram⟩ := programOf_eq hparser h crate
    rw [render_builtIn_structured s hcrate, hprogram]
    exact .structured h hnodes
  · have hkeeps := keeps_ofParser hparser source
    rw [h] at hkeeps
    obtain ⟨rfl, -⟩ := hkeeps
    rw [render_builtIn_verbatim]
    exact .verbatim h

end Parsed

/-- **A program is its plain text.** The program of a source is put together from the texts that
parsing finds in it, whatever these texts are, both by the built-in templates and by the files in
which they are written. -/
theorem preprocess_isProgram :
    (∀ source crate, crate ≠ "" → IsProgram nodes? source crate (preprocess source crate)) ∧
      ∀ parser, LaysOut parser → ∀ source crate, crate ≠ "" →
        IsProgram parser source crate ((Parsed.ofParser parser source).render .builtIn crate) ∧
          IsProgram parser source crate
            ((Parsed.ofParser parser source).render .written crate) := by
  refine ⟨fun source _ ↦ Parsed.isProgram_render laysOut_nodes? source,
    fun parser hparser source crate hcrate ↦ ?_⟩
  rw [Parsed.render_written]
  have hprogram := Parsed.isProgram_render hparser source hcrate
  exact ⟨hprogram, hprogram⟩

/-- A snippet that looks like a template. -/
def templateSnippet : String :=
  "// \x7b\x7b items \x7d\x7d\nm!(\x7b% if %\x7d);\nfn main() \x7b\x7d"

/-- The marks of templates are copied like any other text. -/
theorem preprocess_templateSnippet_isProgram :
    LaysOut nodes? ∧ "c" ≠ "" ∧
      preprocess templateSnippet "c" = "#[test]\nfn a_doc_test() \x7b\n    extern crate c;\n" ++
        templateSnippet ++ "\n    main();\n\x7d\n" ∧
      IsProgram nodes? templateSnippet "c" (preprocess templateSnippet "c") ∧
      IsProgram nodes? templateSnippet "c"
        ((Parsed.ofParser nodes? templateSnippet).render .written "c") :=
  ⟨laysOut_nodes?, by decide, by decide +kernel, preprocess_isProgram.1 _ _ (by decide),
    (preprocess_isProgram.2 nodes? laysOut_nodes? _ _ (by decide)).2⟩

end Doctest

end CrateDoc
