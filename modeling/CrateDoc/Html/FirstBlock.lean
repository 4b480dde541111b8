import CrateDoc.Html.Event
import CrateDoc.Text.Blank

/-!
# The text of the first block

What a page says up to the end of its first paragraph or heading, as plain text: code is set in
backticks, a forced line break counts as a space, and so does a newline, except in preformatted
text, where newlines are kept and code has no backticks.

The collector is a fold over events (`Collector.step`), so that it can be compared with a
description of the same text by the structure of the page.
-/

namespace CrateDoc.Html

open CrateDoc.Text

/-- Elements whose end ends the first block. -/
def endsBlock (tag : String) : Bool := ["p", "h1", "h2", "h3", "h4", "h5", "h6"].contains tag

/-- What has been collected so far. -/
structure Collector where
  /-- The text up to now. -/
  text : List Char := []
  /-- How many elements of preformatted text are open. -/
  preformatted : Nat := 0
  /-- Whether the first block has ended. -/
  done : Bool := false

namespace Collector

/-- Adds text. -/
def add (c : Collector) (more : List Char) : Collector := { c with text := c.text ++ more }

/-- Adds a backtick outside preformatted text. -/
def mark (c : Collector) : Collector := if c.preformatted = 0 then c.add ['\x60'] else c

/-- Takes in one event. -/
def step (c : Collector) (event : Event) : Collector :=
  if c.done then c
  else match event with
    | .opened tag =>
      if tag = "pre" then { c with preformatted := c.preformatted + 1 }
      else if tag = "code" then c.mark
      else if tag = "br" then c.add [' ']
      else c
    | .closed tag =>
      if tag = "pre" then { c with preformatted := c.preformatted - 1 }
      else if tag = "code" then c.mark
      else { c with done := endsBlock tag }
    | .text content =>
      c.add (if c.preformatted = 0 then exchange '\n' ' ' content else content)

/-- Nothing is collected after the end of the first block. -/
theorem foldl_step_of_done {c : Collector} (h : c.done = true) (events : List Event) :
    events.foldl step c = c := by
  induction events with
  | nil => rfl
  | cons event events ih => simpa [step, h] using ih

end Collector

/-- The text of the first block of a page, given as events. -/
def firstBlock (events : List Event) : List Char :=
  strip (events.foldl Collector.step {}).text

end CrateDoc.Html
