import CrateDoc.Text.LineReader
import CrateDoc.Proofs.Text.Lines
import CrateDoc.Proofs.Text.Utf8

/-!
# Lines read while bytes come in are the lines of all bytes

What a reader still gives is known from what it keeps and the bytes that follow (`remaining`). A
piece that is fed takes the lines it completes off the beginning of that (`remaining_append`), so a
run over any pieces gives what was there to give at its start (`run_eq_remaining`): the lines of the
text that all bytes stand for together (`run_eq_newlineEndedLines`).
-/

namespace CrateDoc.Text.LineReader

/-- The lines that a reader still gives when some bytes follow. -/
def remaining (r : LineReader) (more : List UInt8) : List (List Char) :=
  newlineEndedLines
    (r.begun ++ unifyNewlines (held r.holdsReturn ++ Utf8.decodeLossy (r.undecoded ++ more)))

/-- No line end is cut where a carriage return is held back. -/
theorem unifyNewlines_append_held (text more : List Char) :
    unifyNewlines (text ++ more) =
      unifyNewlines (if text.getLast? == some '\r' then text.dropLast else text) ++
        unifyNewlines (held (text.getLast? == some '\r') ++ more) := by
  by_cases hlast : text.getLast? = some '\r'
  · obtain ⟨kept, rfl⟩ := List.getLast?_eq_some_iff.1 hlast
    have hcut : unifyNewlines (kept ++ '\r' :: more) =
        unifyNewlines kept ++ unifyNewlines ('\r' :: more) :=
      unifyNewlines_append fun _ ↦ by simp
    simpa [hlast, held] using hcut
  · have hcut : unifyNewlines (text ++ more) = unifyNewlines text ++ unifyNewlines more :=
      unifyNewlines_append fun h ↦ absurd h hlast
    simpa [hlast, held] using hcut

/-- Feeding a piece takes the lines that it completes off what is still to be given. -/
theorem remaining_append (r : LineReader) (piece more : List UInt8) :
    r.remaining (piece ++ more) = (r.feed piece).1 ++ (r.feed piece).2.remaining more := by
  simp only [remaining, feed]
  rw [← List.append_assoc r.undecoded, Utf8.decodeLossy_append, ← List.append_assoc (held _),
    unifyNewlines_append_held, ← List.append_assoc r.begun, newlineEndedLines_append]

/-- A run gives what there is to give, in whatever pieces it comes. -/
theorem run_eq_remaining (r : LineReader) (pieces : List (List UInt8)) :
    r.run pieces = r.remaining pieces.flatten := by
  induction pieces generalizing r with
  | nil => rw [run, finish, remaining, List.flatten_nil, List.append_nil]
  | cons piece pieces ih => rw [run, ih, List.flatten_cons, remaining_append]

theorem run_eq_newlineEndedLines (pieces : List (List UInt8)) :
    run {} pieces = newlineEndedLines (unifyNewlines (Utf8.decodeLossy pieces.flatten)) :=
  run_eq_remaining {} pieces

end CrateDoc.Text.LineReader
