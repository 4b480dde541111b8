import CrateDoc.Doctest.Parsed
import CrateDoc.Doctest.Snippet
import CrateDoc.Template.Reader
import CrateDoc.Log

/-!
# Test programs

A snippet becomes a program with one test function. A snippet that is a list of declarations
keeps them in order inside that function, after a declaration of the crate under test and before
a call of its entry point; any other snippet becomes the body of the function as it stands.

The layout of the programs is given by templates, which a directory of templates may replace.
-/

namespace CrateDoc.Doctest

/-- The name of the test function of a program. -/
def testFunction : String := "a_doc_test"

/-- The crate that every program has already. -/
def standardCrate : String := "std"

/-- The templates of the files that are generated. -/
structure Templates where
  /-- A program around declarations. -/
  structured : Template
  /-- A program around a text. -/
  verbatim : Template
  /-- The file that gathers the programs of a suite. -/
  aggregator : Template

namespace Templates

/-- The templates that come with the library. -/
def builtIn : Templates where
  structured :=
    [.loop "attribute" "crate_attributes" [.value "attribute", .text "\n"],
      .text "#[test]\nfn ", .value "test_name", .text "() \x7b\n",
      .condition "extern_crate"
        [.text "    extern crate ", .value "extern_crate", .text ";\n"] [],
      .loop "item" "items" [.value "item", .text "\n"],
      .condition "entry_point" [.text "    ", .value "entry_point", .text "();\n"] [],
      .text "\x7d\n"]
  verbatim :=
    [.text "#[test] fn ", .value "test_name", .text "() \x7b\n", .value "source",
      .text "\n\x7d\n"]
  aggregator :=
    [.text "extern crate ", .value "crate_name", .text ";\n",
      .loop "module" "modules" [.text "mod ", .value "module", .text ";\n"],
      .text "fn main() \x7b\x7d\n"]

/-- The built-in templates, each replaced by the file of its name if there is one. -/
def withFiles (files : Entries String String) : Templates :=
  let pick (name : String) (fallback : Template) : Template :=
    ((Entries.get? name files).map Template.ofText).getD fallback
  { structured := pick "doctest.rs.j2" builtIn.structured
    verbatim := pick "verbatim.rs.j2" builtIn.verbatim
    aggregator := pick "main.rs.j2" builtIn.aggregator }

end Templates

/-- The text of the program for a parsed snippet of a crate. The crate under test is declared
unless the snippet declares a crate of its own or the crate is the standard one. -/
def Parsed.render (templates : Templates) (crate : String) : Parsed → String
  | .verbatim text =>
    templates.verbatim.render [("test_name", .text testFunction), ("source", .text text)]
  | .structured s =>
    templates.structured.render
      [("test_name", .text testFunction),
        ("crate_attributes", .texts s.crateAttributes),
        ("extern_crate",
          if !s.hasExternCrate && crate != standardCrate then .text crate else .none),
        ("items", .texts s.items),
        ("entry_point", if s.hasEntryPoint then .text entryPoint else .none)]

/-- A test program, and whether it was made from declarations. -/
structure Program where
  name : String
  source : String
  structured : Bool := true
deriving DecidableEq

/-- The test program of a single source. -/
def preprocess (source crate : String) : String :=
  (Parsed.ofSource source).render .builtIn crate

namespace Program

/-- The name of the log of this activity. -/
def logName : String := "doctest.synthesizer"

/-- The program of a snippet, for a crate or else for the crate of its document, and what is
logged about it. -/
def ofSnippet (snippet : Snippet) (crate? : Option String := none) : Program × List LogRecord :=
  let parsed := Parsed.ofSource snippet.source
  let crate := match crate? with
    | some crate => if crate.isEmpty then snippet.crateName else crate
    | none => snippet.crateName
  let structured := match parsed with
    | .structured _ => true
    | .verbatim _ => false
  (⟨snippet.name, parsed.render .builtIn crate, structured⟩,
    if structured then []
    else [⟨.debug, logName,
      "Snippet " ++ snippet.name ++ " is not a list of items; wrapping verbatim"⟩])

end Program

end CrateDoc.Doctest
