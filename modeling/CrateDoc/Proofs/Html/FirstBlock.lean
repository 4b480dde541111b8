import CrateDoc.Html.FirstBlock
import CrateDoc.Proofs.Text.Blank

/-!
# The text of the first block, by the structure of the page

Events that are properly nested (`Nested`) are those of the beginning of a page (`Beginning`): parts
in which every element is closed (`Passage`), with elements between them that are still open. What
such a page says can be written down by its structure (`Passage.said`, `Beginning.said`), without
counting what is open: code outside preformatted text is enclosed in backticks, a line break is a
space, and newlines are kept in preformatted text only.

`firstBlock_of_nested` says that this is what is collected from events that are properly nested up
to the end of the first block. What follows has no part in it (`firstBlock_upToBlockEnd`).
-/

namespace CrateDoc.Html

open CrateDoc.Text

/-- Whether an event is the end of a paragraph or heading. -/
def Event.isBlockEnd : Event → Bool
  | .closed tag => endsBlock tag
  | _ => false

/-- The events before the first end of a paragraph or heading, or all of them if there is none. -/
def upToBlockEnd (events : List Event) : List Event := events.takeWhile (!·.isBlockEnd)

/-- Properly nested events, and the elements that they leave open, innermost first. An end tag ends
the innermost element that is open. Except for code and preformatted text, an element may have no
end, as a line break has none. -/
inductive Nested : List Event → List String → Prop
  | nil : Nested [] []
  | text {events : List Event} {opens : List String} (h : Nested events opens)
      (content : List Char) : Nested (events ++ [.text content]) opens
  | opened {events : List Event} {opens : List String} (h : Nested events opens) (tag : String) :
      Nested (events ++ [.opened tag]) (tag :: opens)
  | lone {events : List Event} {opens : List String} {tag : String} (h : Nested events opens)
      (hpre : tag ≠ "pre") (hcode : tag ≠ "code") : Nested (events ++ [.opened tag]) opens
  | closed {events : List Event} {opens : List String} {tag : String}
      (h : Nested events (tag :: opens)) : Nested (events ++ [.closed tag]) opens

/-! ### The structure of a page -/

/-- A part of a page in which every element is closed or has no end. -/
inductive Passage
  | empty
  | text (before : Passage) (content : List Char)
  | lone (before : Passage) (tag : String) (hpre : tag ≠ "pre") (hcode : tag ≠ "code")
  | element (before : Passage) (tag : String) (inside : Passage)

/-- The space that stands for a line break. -/
def lineBreak (tag : String) : List Char := if tag = "br" then [' '] else []

/-- What an element says, given what is said inside; `pre` says whether it stands in preformatted
text. -/
def enclosed (pre : Bool) (tag : String) (inner : List Char) : List Char :=
  if tag = "code" ∧ pre = false then '\x60' :: inner ++ ['\x60'] else lineBreak tag ++ inner

namespace Passage

/-- The events of a passage. -/
def events : Passage → List Event
  | empty => []
  | text before content => before.events ++ [.text content]
  | lone before tag _ _ => before.events ++ [.opened tag]
  | element before tag inside => before.events ++ .opened tag :: (inside.events ++ [.closed tag])

/-- What a passage says; `pre` says whether it stands in preformatted text. -/
def said (pre : Bool) : Passage → List Char
  | empty => []
  | text before content => before.said pre ++ if pre then content else exchange '\n' ' ' content
  | lone before tag _ _ => before.said pre ++ lineBreak tag
  | element before tag inside =>
    before.said pre ++ enclosed pre tag (inside.said (pre || tag == "pre"))

/-- The data of a passage that stands in preformatted text. -/
def preformatted (pre : Bool) : Passage → List Char
  | empty => []
  | text before content => before.preformatted pre ++ if pre then content else []
  | lone before _ _ _ => before.preformatted pre
  | element before tag inside =>
    before.preformatted pre ++ inside.preformatted (pre || tag == "pre")

end Passage

/-- The beginning of a page: a passage, or another beginning, an element that opens behind it and is
still open, and a passage in that element. -/
inductive Beginning
  | whole (passage : Passage)
  | inside (outer : Beginning) (tag : String) (passage : Passage)

namespace Beginning

/-- The elements that are still open, innermost first. -/
def opens : Beginning → List String
  | whole _ => []
  | inside outer tag _ => tag :: outer.opens

/-- The events of the beginning of a page. -/
def events : Beginning → List Event
  | whole passage => passage.events
  | inside outer tag passage => outer.events ++ .opened tag :: passage.events

/-- Whether preformatted text is open. -/
def inPreformatted (page : Beginning) : Bool := page.opens.contains "pre"

/-- What the beginning of a page says. -/
def said : Beginning → List Char
  | whole passage => passage.said false
  | inside outer tag passage =>
    outer.said ++ lineBreak tag ++ passage.said (inside outer tag passage).inPreformatted

/-- The data that stands in preformatted text. -/
def preformatted : Beginning → List Char
  | whole passage => passage.preformatted false
  | inside outer tag passage =>
    outer.preformatted ++ passage.preformatted (inside outer tag passage).inPreformatted

/-- The beginning with another passage at its end. -/
def mapLast (f : Passage → Passage) : Beginning → Beginning
  | whole passage => whole (f passage)
  | inside outer tag passage => inside outer tag (f passage)

@[simp] theorem opens_mapLast (f : Passage → Passage) (page : Beginning) :
    (page.mapLast f).opens = page.opens := by
  cases page with
  | whole passage => rfl
  | inside outer tag passage => rfl

/-- A change of the last passage adds its events at the end of the page. -/
theorem events_mapLast {f : Passage → Passage} {more : List Event}
    (hf : ∀ passage, (f passage).events = passage.events ++ more) (page : Beginning) :
    (page.mapLast f).events = page.events ++ more := by
  cases page with
  | whole passage => exact hf passage
  | inside outer tag passage => simp [mapLast, events, hf]

end Beginning

/-- Properly nested events are those of the beginning of a page. -/
theorem Nested.exists_beginning {events : List Event} {opens : List String}
    (h : Nested events opens) : ∃ page : Beginning, page.events = events ∧ page.opens = opens := by
  induction h with
  | nil => exact ⟨.whole .empty, rfl, rfl⟩
  | text _ content ih =>
    obtain ⟨page, rfl, rfl⟩ := ih
    exact ⟨page.mapLast (.text · content), page.events_mapLast fun _ ↦ rfl, page.opens_mapLast _⟩
  | opened _ tag ih =>
    obtain ⟨page, rfl, rfl⟩ := ih
    exact ⟨.inside page tag .empty, rfl, rfl⟩
  | @lone _ _ tag _ hpre hcode ih =>
    obtain ⟨page, rfl, rfl⟩ := ih
    exact ⟨page.mapLast (.lone · tag hpre hcode), page.events_mapLast fun _ ↦ rfl,
      page.opens_mapLast _⟩
  | @closed _ _ tag _ ih =>
    obtain ⟨page, rfl, hopens⟩ := ih
    cases page with
    | whole passage => cases hopens
    | inside outer tag' passage =>
      -- the closed tag is the one opened last, whose passage becomes an element
      obtain ⟨rfl, rfl⟩ := List.cons.inj hopens
      refine ⟨outer.mapLast (.element · tag' passage), ?_, outer.opens_mapLast _⟩
      rw [outer.events_mapLast fun _ ↦ rfl, Beginning.events]
      simp

/-! ### Collecting -/

namespace Collector

variable {c : Collector}

/-- Whether preformatted text is open. -/
def inPreformatted (c : Collector) : Bool := c.preformatted != 0

@[simp] theorem add_nil (c : Collector) : c.add [] = c := by simp [add]

@[simp] theorem add_add (c : Collector) (s t : List Char) : (c.add s).add t = c.add (s ++ t) := by
  simp [add]

@[simp] theorem inPreformatted_add (c : Collector) (s : List Char) :
    (c.add s).inPreformatted = c.inPreformatted := rfl

theorem done_add_eq_false (hdone : c.done = false) (s : List Char) : (c.add s).done = false := hdone

/-- A text is added, outside of preformatted text without its newlines. -/
theorem step_text (hdone : c.done = false) (content : List Char) :
    c.step (.text content) =
      c.add (if c.inPreformatted then content else exchange '\n' ' ' content) := by
  by_cases hpre : c.preformatted = 0
  · simp [step, hdone, inPreformatted, hpre]
  · simp [step, hdone, inPreformatted, hpre]

/-- An element that is neither code nor preformatted text adds a space if it is a line break. -/
theorem step_opened_of_ne {tag : String} (hdone : c.done = false) (hpre : tag ≠ "pre")
    (hcode : tag ≠ "code") : c.step (.opened tag) = c.add (lineBreak tag) := by
  by_cases hbr : tag = "br"
  · simp [step, hdone, hbr, lineBreak]
  · simp [step, hdone, hpre, hcode, hbr, lineBreak]

/-- The end of an element that ends no block and is neither code nor preformatted text changes
nothing. -/
theorem step_closed_of_ne {tag : String} (hdone : c.done = false) (hpre : tag ≠ "pre")
    (hcode : tag ≠ "code") (hend : endsBlock tag = false) : c.step (.closed tag) = c := by
  rw [step, if_neg (by simp [hdone])]
  simp [hpre, hcode, hend, ← hdone]

/-- Code adds a backtick at either end, except in preformatted text. -/
theorem step_code (hdone : c.done = false) (event : Event)
    (hevent : event = .opened "code" ∨ event = .closed "code") :
    c.step event = c.add (if c.inPreformatted then [] else ['\x60']) := by
  have hstep : c.step event = c.mark := by
    rcases hevent with rfl | rfl
    · simp [step, hdone]
    · simp [step, hdone]
  rw [hstep, mark]
  by_cases hpre : c.preformatted = 0
  · simp [inPreformatted, hpre]
  · simp [inPreformatted, hpre]

theorem step_opened_pre (hdone : c.done = false) :
    c.step (.opened "pre") = { c with preformatted := c.preformatted + 1 } := by
  simp [step, hdone]

theorem step_closed_pre (hdone : c.done = false) :
    c.step (.closed "pre") = { c with preformatted := c.preformatted - 1 } := by
  simp [step, hdone]

/-- What an element says is what is said inside it and what its tags add. -/
theorem foldl_step_element {tag : String} {inside : List Event} (said : Bool → List Char)
    (hinside : ∀ c : Collector, c.done = false →
      inside.foldl step c = c.add (said c.inPreformatted))
    (hdone : c.done = false) (hend : endsBlock tag = false) :
    (.opened tag :: (inside ++ [.closed tag])).foldl step c =
      c.add (enclosed c.inPreformatted tag (said (c.inPreformatted || tag == "pre"))) := by
  have hadd := done_add_eq_false hdone
  rw [List.foldl_cons, List.foldl_append, List.foldl_cons, List.foldl_nil]
  by_cases hpre : tag = "pre"
  · subst hpre
    have hopened : (c.step (.opened "pre")).done = false := by rw [step_opened_pre hdone, hdone]
    rw [hinside _ hopened, step_closed_pre (done_add_eq_false hopened _), step_opened_pre hdone]
    simp [enclosed, lineBreak, add, inPreformatted]
  by_cases hcode : tag = "code"
  · subst hcode
    rw [step_code hdone _ (.inl rfl), hinside _ (hadd _), add_add,
      step_code (hadd _) _ (.inr rfl)]
    cases hinner : c.inPreformatted with
    | false => simp [hinner, enclosed]
    | true => simp [hinner, enclosed, lineBreak]
  · have htag : (tag == "pre") = false := beq_eq_false_iff_ne.2 hpre
    rw [step_opened_of_ne hdone hpre hcode, hinside _ (hadd _), add_add,
      step_closed_of_ne (hadd _) hpre hcode hend]
    simp [enclosed, hcode, htag]

end Collector

/-- What is collected from a passage is what it says. -/
theorem Passage.foldl_step_events (passage : Passage)
    (hend : ∀ event ∈ passage.events, event.isBlockEnd = false) (c : Collector)
    (hdone : c.done = false) :
    passage.events.foldl Collector.step c = c.add (passage.said c.inPreformatted) := by
  induction passage generalizing c with
  | empty => simp [events, said]
  | text before content ih =>
    have hbefore := fun event hevent ↦ hend event (List.mem_append_left _ hevent)
    rw [events, List.foldl_append, ih hbefore c hdone, List.foldl_cons, List.foldl_nil,
      Collector.step_text (Collector.done_add_eq_false hdone _), Collector.add_add]
    rfl
  | lone before tag hpre hcode ih =>
    have hbefore := fun event hevent ↦ hend event (List.mem_append_left _ hevent)
    rw [events, List.foldl_append, ih hbefore c hdone, List.foldl_cons, List.foldl_nil,
      Collector.step_opened_of_ne (Collector.done_add_eq_false hdone _) hpre hcode]
    simp [said]
  | element before tag inside ihbefore ihinside =>
    have hbefore := fun event hevent ↦ hend event (List.mem_append_left _ hevent)
    have hinside : ∀ event ∈ inside.events, event.isBlockEnd = false := fun event hevent ↦
      hend event (by simp [events, hevent])
    have hclosed : endsBlock tag = false := hend (.closed tag) (by simp [events])
    rw [events, List.foldl_append, ihbefore hbefore c hdone,
      Collector.foldl_step_element (inside.said ·) (ihinside hinside)
        (Collector.done_add_eq_false hdone _) hclosed]
    simp [said]

/-- What is collected from the beginning of a page in which no code is left open. -/
theorem Beginning.foldl_step_events (page : Beginning)
    (hend : ∀ event ∈ page.events, event.isBlockEnd = false) (hcode : "code" ∉ page.opens) :
    page.events.foldl Collector.step {} = ⟨page.said, page.opens.count "pre", false⟩ := by
  induction page with
  | whole passage =>
    rw [events, passage.foldl_step_events hend {} rfl]
    rfl
  | inside outer tag passage ih =>
    obtain ⟨htag, houter⟩ := not_or.1 (mt List.mem_cons.2 hcode)
    have hbefore := fun event hevent ↦ hend event (List.mem_append_left _ hevent)
    have hpassage : ∀ event ∈ passage.events, event.isBlockEnd = false := fun event hevent ↦
      hend event (by simp [events, hevent])
    rw [events, List.foldl_append, ih hbefore houter, List.foldl_cons]
    -- an opened tag matters only if it begins a preformatted text
    by_cases hpre : tag = "pre"
    · subst hpre
      rw [Collector.step_opened_pre rfl, passage.foldl_step_events hpassage _ rfl]
      simp [said, opens, inPreformatted, Collector.add, Collector.inPreformatted, lineBreak]
    · rw [Collector.step_opened_of_ne rfl hpre (Ne.symm htag),
        passage.foldl_step_events hpassage _ rfl]
      have hcount : (outer.opens.count "pre" != 0) = outer.opens.contains "pre" := by
        rw [Bool.eq_iff_iff]
        simp [List.count_eq_zero]
      have hcontains : ((tag :: outer.opens).contains "pre") = outer.opens.contains "pre" := by
        simp [Ne.symm hpre]
      rw [said, inPreformatted, opens, hcontains, List.count_cons_of_ne hpre, ← hcount]
      simp [Collector.add, Collector.inPreformatted]

/-! ### The first block -/

/-- The end of a block ends collecting. -/
theorem Collector.step_of_isBlockEnd {event : Event} (hend : event.isBlockEnd = true)
    (c : Collector) : (c.step event).done = true ∧ (c.step event).text = c.text := by
  cases event with
  | opened tag => cases hend
  | text content => cases hend
  | closed tag =>
    have hpre : tag ≠ "pre" := by
      rintro rfl
      exact absurd hend (by decide)
    have hcode : tag ≠ "code" := by
      rintro rfl
      exact absurd hend (by decide)
    have hblock : endsBlock tag = true := hend
    cases hdone : c.done with
    | true => simp [step, hdone]
    | false => simp [step, hdone, hpre, hcode, hblock]

/-- Behind the end of a block nothing is added. -/
theorem Collector.text_foldl_dropWhile (c : Collector) (events : List Event) :
    ((events.dropWhile (!·.isBlockEnd)).foldl step c).text = c.text := by
  have hhead := List.head?_dropWhile_not (!·.isBlockEnd) events
  rcases hdrop : events.dropWhile (!·.isBlockEnd) with - | ⟨event, rest⟩
  · rw [hdrop, List.foldl_nil]
  · rw [hdrop] at hhead
    obtain ⟨hdone, htext⟩ := step_of_isBlockEnd (by simpa using hhead) c
    rw [hdrop, List.foldl_cons, foldl_step_of_done hdone, htext]

/-- What follows the end of the first block has no part in what is collected. -/
theorem firstBlock_upToBlockEnd (events : List Event) :
    firstBlock (upToBlockEnd events) = firstBlock events := by
  have hevents : events = upToBlockEnd events ++ events.dropWhile (!·.isBlockEnd) :=
    List.takeWhile_append_dropWhile.symm
  rw [firstBlock, firstBlock]
  conv_rhs => rw [hevents, List.foldl_append, Collector.text_foldl_dropWhile]

/-- A text without its newlines has none. -/
theorem count_newline_exchange (s : List Char) : (exchange '\n' ' ' s).count '\n' = 0 := by
  refine List.count_eq_zero.2 fun h ↦ ?_
  obtain ⟨c, -, hc⟩ := List.mem_map.1 h
  split_ifs at hc with hnewline
  · cases hc
  · exact hnewline hc

theorem count_newline_lineBreak (tag : String) : (lineBreak tag).count '\n' = 0 := by
  rw [lineBreak]
  split_ifs
  · rfl
  · rfl

/-- What encloses a text adds no newline. -/
theorem count_newline_enclosed (pre : Bool) (tag : String) (inner : List Char) :
    (enclosed pre tag inner).count '\n' = inner.count '\n' := by
  rw [enclosed]
  split_ifs
  · simp
  · rw [List.count_append, count_newline_lineBreak, Nat.zero_add]

/-- The newlines that are said are those of preformatted text. -/
theorem Passage.count_newline_said (pre : Bool) (passage : Passage) :
    (passage.said pre).count '\n' = (passage.preformatted pre).count '\n' := by
  induction passage generalizing pre with
  | empty => rfl
  | text before content ih =>
    cases pre with
    | true => simp [said, preformatted, ih]
    | false => simp [said, preformatted, ih, count_newline_exchange]
  | lone before tag _ _ ih => simp [said, preformatted, ih, count_newline_lineBreak]
  | element before tag inside ihbefore ihinside =>
    simp [said, preformatted, ihbefore, count_newline_enclosed, ihinside]

/-- What a page says has the newlines of its preformatted text only. -/
theorem Beginning.count_newline_said (page : Beginning) :
    page.said.count '\n' = page.preformatted.count '\n' := by
  induction page with
  | whole passage => exact passage.count_newline_said false
  | inside outer tag passage ih =>
    simp [said, preformatted, ih, count_newline_lineBreak, Passage.count_newline_said]

/-- From events that begin like a page in which no code is left open, what it says is collected. -/
theorem firstBlock_eq_strip_said {events : List Event} {page : Beginning}
    (hpage : page.events = upToBlockEnd events) (hcode : "code" ∉ page.opens) :
    firstBlock events = strip page.said := by
  have hend : ∀ event ∈ page.events, event.isBlockEnd = false := by
    intro event hevent
    rw [hpage] at hevent
    simpa using List.mem_takeWhile_imp hevent
  rw [← firstBlock_upToBlockEnd, ← hpage, firstBlock, page.foldl_step_events hend hcode]

/-- What is collected from events that begin like a page. -/
structure IsSaidBy (page : Beginning) (events : List Event) : Prop where
  /-- It is what the page says, without the white space at the ends. -/
  firstBlock_eq : firstBlock events = strip page.said
  /-- Its newlines come from preformatted text. -/
  count_newline_le : (firstBlock events).count '\n' ≤ page.preformatted.count '\n'
  /-- What follows the end of the first block has no part in it. -/
  firstBlock_eq_of_upToBlockEnd : ∀ others, upToBlockEnd others = upToBlockEnd events →
    firstBlock others = firstBlock events

/-- **The text of the first block is what the page says up to its end.** Let events be properly
nested up to the first end of a paragraph or heading, or altogether if there is none, and let no
code be open there. They begin like a page, and what is collected is what this says, whichever
events follow. -/
theorem firstBlock_of_nested {events : List Event} {opens : List String}
    (h : Nested (upToBlockEnd events) opens) (hcode : "code" ∉ opens) :
    ∃ page : Beginning, page.events = upToBlockEnd events ∧ page.opens = opens ∧
      IsSaidBy page events := by
  obtain ⟨page, hpage, rfl⟩ := h.exists_beginning
  have hfirst := firstBlock_eq_strip_said hpage hcode
  refine ⟨page, hpage, rfl, hfirst, ?_, fun others hothers ↦ ?_⟩
  · rw [hfirst, ← page.count_newline_said]
    exact (strip_isInfix page.said).sublist.count_le '\n'
  · rw [← firstBlock_upToBlockEnd, hothers, firstBlock_upToBlockEnd]

/-- A page with code and a line break in its first paragraph, inside a division that is still open,
and preformatted text before it. -/
def sampleEvents : List Event :=
  [.opened "div", .opened "pre", .opened "code", .text "x\ny".toList, .closed "code",
    .closed "pre", .opened "p", .text "a\nb ".toList, .opened "code", .text "c".toList,
    .closed "code", .opened "br", .text "d".toList, .closed "p", .text "e".toList, .closed "pre"]

example : firstBlock sampleEvents = "x\nya b \x60c\x60 d".toList := by decide

theorem firstBlock_sampleEvents :
    Nested (upToBlockEnd sampleEvents) ["p", "div"] ∧ "code" ∉ ["p", "div"] ∧
      ∃ page : Beginning, page.events = upToBlockEnd sampleEvents ∧ page.opens = ["p", "div"] ∧
        IsSaidBy page sampleEvents := by
  have hpre := ((((Nested.nil.opened "div").opened "pre").opened "code").text "x\ny".toList)
  have hcode := ((hpre.closed.closed.opened "p").text "a\nb ".toList).opened "code"
  have hnested : Nested (upToBlockEnd sampleEvents) ["p", "div"] :=
    (((hcode.text "c".toList).closed).lone (by decide) (by decide)).text "d".toList
  exact ⟨hnested, by decide, firstBlock_of_nested hnested (by decide)⟩

end CrateDoc.Html
