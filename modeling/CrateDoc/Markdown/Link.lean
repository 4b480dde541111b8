import CrateDoc.Markdown.Block

/-!
# Links

The text of a link stands in brackets. Its destination follows in parentheses, or is defined
elsewhere in the text under a name, which follows in brackets or is the text itself. Only where a
link ends is read: nothing shows its destination.
-/

namespace CrateDoc.Markdown

open CrateDoc.Text

/-- Reads text up to the bracket that closes it: the text, and what is behind the bracket.
`depth` counts the brackets that are open inside. -/
def bracketed? (depth : Nat) : List Char → Option (List Char × List Char)
  | [] => none
  | ']' :: rest =>
    match depth with
    | 0 => some ([], rest)
    | depth + 1 => (bracketed? depth rest).map fun (text, behind) => (']' :: text, behind)
  | c :: rest =>
    (bracketed? (if c = '[' then depth + 1 else depth) rest).map fun (text, behind) =>
      (c :: text, behind)

/-! ### Destinations -/

/-- Reads a destination in angle brackets, the title behind it, and the closing parenthesis. -/
def angledEnd? (s : List Char) : Option (List Char) :=
  match s with
  | '<' :: rest =>
    let inside := rest.takeWhile fun c => c ≠ '<' && c ≠ '>'
    match rest.drop inside.length with
    | '>' :: behind =>
      let close? : List Char → Option (List Char)
        | ')' :: rest => some rest
        | _ => none
      let behind := behind.dropWhile isBlank
      let titled (quote : Char) (body : List Char) : Option (List Char) :=
        (cutAt? [quote] body).bind fun (_, rest) => close? (rest.dropWhile isBlank)
      match behind with
      | '\x22' :: body => titled '\x22' body
      | '\x27' :: body => titled '\x27' body
      | _ => close? behind
    | _ => none
  | _ => none

/-- A kind of quote that was met in a destination, and whether it was met again. -/
structure TitleQuote where
  quote : Char
  closed : Bool := false

/-- The state of looking for the end of a destination. -/
structure Destination where
  /-- How many parentheses are open. -/
  open_ : Nat := 1
  /-- How many were open before the first quote and still are, should the quote begin no title. -/
  openBefore : Nat := 1
  first : Option TitleQuote := none
  second : Option TitleQuote := none
  /-- The last character that was no space. -/
  last : Option Char := none
  /-- Where the destination ends if the first quote begins no title. -/
  fallback : Option (List Char) := none

namespace Destination

/-- Whether a title has just been closed. -/
def justClosed (d : Destination) : Bool :=
  let closes (quote : Option TitleQuote) : Bool :=
    (quote.map fun q => q.closed && d.last == some q.quote).getD false
  closes d.first || closes d.second

/-- Takes in a quote. -/
def onQuote (d : Destination) (c : Char) : Destination :=
  match d.first, d.second with
  | none, _ => { d with openBefore := d.open_, open_ := 1, first := some ⟨c, false⟩ }
  | some q, none =>
    if c = q.quote then { d with first := some ⟨c, true⟩ } else { d with second := some ⟨c, false⟩ }
  | some q, some _ =>
    if c = q.quote then { d with first := some ⟨c, true⟩ } else { d with second := some ⟨c, true⟩ }

/-- Takes in one character, the text behind which is given. -/
def step (d : Destination) (c : Char) (rest : List Char) : Destination :=
  if c = '(' then
    if d.first.isNone then { d with open_ := d.open_ + 1 }
    else { d with openBefore := d.openBefore - 1 }
  else if c = ')' then
    if d.justClosed then { d with open_ := 0 }
    else if d.first.isNone then { d with open_ := d.open_ - 1 }
    else if d.openBefore = 0 then d
    else { d with
      openBefore := d.openBefore - 1
      fallback := if d.openBefore = 1 then some rest else d.fallback }
  else if c = '\x22' || c = '\x27' then d.onQuote c
  else d

/-- Looks for the parenthesis that closes a destination: the text behind it. -/
def end? (d : Destination) : List Char → Option (List Char)
  | [] =>
    if d.openBefore = 0 then some (d.fallback.getD (d.last.toList)) else none
  | c :: rest =>
    let d := d.step c rest
    if d.open_ = 0 then some rest
    else end? { d with last := if c = ' ' then d.last else some c } rest

end Destination

/-- Reads a destination in parentheses: the text behind it. -/
def destinationEnd? (s : List Char) : Option (List Char) :=
  match s with
  | '(' :: rest =>
    let body := rest.dropWhile isBlank
    (angledEnd? body).or (Destination.end? {} body)
  | _ => none

/-- Reads the name of a reference behind the text of a link. An empty name stands for the text
itself. -/
def referenceBehind? (text s : List Char) : Option (List Char × List Char) :=
  let s := match s with
    | c :: rest => if isBlank c then rest else s
    | [] => []
  match s with
  | '[' :: rest =>
    (cutAt? [']'] rest).map fun (name, behind) =>
      (lowerCase (if name.isEmpty then text else name), behind)
  | _ => none

/-- A name with every run of white space as one space. -/
def collapseBlanks : List Char → List Char
  | [] => []
  | c :: rest =>
    if isBlank c then
      if (rest.head?.map isBlank).getD false then collapseBlanks rest
      else ' ' :: collapseBlanks rest
    else c :: collapseBlanks rest

/-- Whether a name is defined. -/
def References.defines (references : References) (name : List Char) : Bool :=
  references.contains (collapseBlanks name)

end CrateDoc.Markdown
