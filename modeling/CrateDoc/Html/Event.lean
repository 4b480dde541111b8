import CrateDoc.Html.Markup
import CrateDoc.Html.Reference

/-!
# A page as events

A page is read as a sequence of events: elements that open and close, and the text between them
with its character references replaced. Comments and declarations leave no event. The content of
`script` and `style` is text up to their end tag, whatever it looks like. A page of which some part
cannot be read (`PageError`) has no events at all.
-/

namespace CrateDoc.Html

open CrateDoc.Text

/-- What a reader of a page meets, in order. -/
inductive Event
  | opened (tag : String)
  | closed (tag : String)
  | text (content : List Char)
  deriving DecidableEq, Repr

namespace Event

/-- Elements whose content is not markup. -/
def isRawElement (tag : List Char) : Bool := tag = "script".toList || tag = "style".toList

/-- The content of an element that is not markup, and the text behind its end tag. -/
def rawContent? (tag : List Char) : List Char → Option (List Char × List Char) :=
  upToMark? fun s => match s with
    | '<' :: '/' :: rest =>
      let name := rest.dropWhile isBlank
      if startsWithWord tag name then looseMark? ['>'] (name.drop tag.length) else none
    | _ => none

/-- Text in which a `<` begins nothing: it reaches to the next `>`, or else to the next `<`. The
text given is behind the first `<`. -/
def strayMarkup (s : List Char) : List Char × List Char :=
  match cutAt? ['>'] s with
  | some (inside, rest) => ('<' :: inside ++ ['>'], rest)
  | none =>
    if s.contains '<' then ('<' :: s.takeWhile (· ≠ '<'), s.dropWhile (· ≠ '<')) else (['<'], s)

/-- Reads the markup at the start of a text that begins with `<`: its events, and the text
behind it. -/
def ofMarkup (s : List Char) : Except PageError (List Event × List Char) :=
  let stray (_ : Unit) : Except PageError (List Event × List Char) := do
    let (content, rest) := strayMarkup (s.drop 1)
    return ([.text (← unescape content)], rest)
  let silent : Option (List Char × List Char) → Except PageError (List Event × List Char)
    | some (_, rest) => .ok ([], rest)
    | none => stray ()
  match s with
  | '<' :: '/' :: rest =>
    match Closing.read rest with
    | .tag name behind => .ok ([.closed (String.ofList name)], behind)
    | .empty behind | .stray behind => .ok ([], behind)
    | .unfinished => stray ()
  | '<' :: '!' :: '-' :: '-' :: rest => silent (comment? rest)
  | '<' :: '?' :: rest => silent (cutAt? ['>'] rest)
  | '<' :: '!' :: rest => do silent (← declaration? rest)
  | '<' :: c :: rest =>
    if isAsciiLetter c then do
      match ← Opening.read .page ('<' :: c :: rest) with
      | .unfinished => stray ()
      | .stray content behind => return ([.text content], behind)
      | .tag name _ true behind =>
        return ([.opened (String.ofList name), .closed (String.ofList name)], behind)
      | .tag name _ false behind =>
        if isRawElement name then
          match rawContent? name behind with
          | some (content, rest) => return ([.opened (String.ofList name), .text content,
              .closed (String.ofList name)], rest)
          | none => return ([.opened (String.ofList name)], [])
        else return ([.opened (String.ofList name)], behind)
    else .ok ([.text ['<']], c :: rest)
  | _ => .ok ([.text s], [])

/-- The event of text between markup, if there is any text. -/
def ofContent (content : List Char) : Except PageError (List Event) :=
  if content.isEmpty then .ok [] else (unescape content).map fun text => [.text text]

/-- Reads events; `fuel` bounds the number of pieces of markup. -/
def ofTextWithin : Nat → List Char → Except PageError (List Event)
  | 0, _ => .ok []
  | fuel + 1, s => do
    let here ← ofContent (s.takeWhile (· ≠ '<'))
    let rest := s.dropWhile (· ≠ '<')
    if rest.isEmpty then return here
    else
      let (events, behind) ← ofMarkup rest
      return here ++ events ++ (← ofTextWithin fuel behind)

/-- The events of a page. -/
def ofText (page : List Char) : Except PageError (List Event) := ofTextWithin (page.length + 1) page

end Event

end CrateDoc.Html
