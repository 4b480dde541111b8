import CrateDoc.Child
import CrateDoc.Proofs.Text.LineReader

/-!
# Both ways of running a child capture one text

A streamed run decodes standard error piece by piece and hands it on in lines
(`Streamed.HandsOn`), a captured run decodes it at the end. However the bytes come in, they end up
with the same text, and the lines of the streamed run are the lines of that text
(`streamedBy_agrees_captured`).
-/

namespace CrateDoc.Child

open CrateDoc.Text

/-- The lines that a streamed run hands on, to a listener or else to standard error, and keeps. -/
structure Streamed.HandsOn (s : Streamed) (call : Call) (lines : List (List Char)) : Prop where
  stderr_eq : s.response.stderr = String.ofList lines.flatten
  lines_eq : call.lineSink = true → s.response.lines = lines.map String.ofList
  echoed_eq : call.lineSink = false → s.echoed = String.ofList lines.flatten

/-- However the bytes of standard error come in, a streamed run hands on the lines of the text that
they stand for together. -/
theorem streamedBy_eq_ok {host : Host} {call : Call} {exit : Exit} (arrival : Arrival)
    (h : host call = .ok exit) :
    ∃ streamed, streamedBy arrival host call = .ok streamed ∧
      streamed.response.returnCode = exit.returnCode ∧
        streamed.HandsOn call (newlineEndedLines (decodeOutput exit.stderr)) := by
  have hlines : LineReader.run {} (arrival.pieces exit.stderr) =
      newlineEndedLines (decodeOutput exit.stderr) := by
    rw [LineReader.run_eq_newlineEndedLines, arrival.flatten_pieces, decodeOutput]
  rw [streamedBy, h, ← hlines]
  exact ⟨_, rfl, rfl, rfl, fun hsink ↦ if_pos hsink, fun hsink ↦ if_neg (by simp [hsink])⟩

/-- **A streamed run and a captured run have one outcome.** Where a program cannot be run, both fail
for the same reason. Otherwise both return the same text of standard error, whatever bytes the child
has written and in whatever pieces they came in: the decoded bytes, in which no carriage return is
left. The streamed run hands that text on in lines, each with one newline at its end but perhaps the
last. -/
theorem streamedBy_agrees_captured (arrival : Arrival) (host : Host) (call : Call) :
    (∀ e, host call = .error e →
      streamedBy arrival host call = .error e ∧ captured host call = .error e) ∧
      ∀ exit, host call = .ok exit → ∃ streamed captured,
        streamedBy arrival host call = .ok streamed ∧ Child.captured host call = .ok captured ∧
          streamed.response.returnCode = captured.returnCode ∧
          streamed.response.stderr = captured.stderr ∧
          captured.stderr = String.ofList (unifyNewlines (Utf8.decodeLossy exit.stderr)) ∧
          '\r' ∉ captured.stderr.toList ∧
          ∃ lines, streamed.HandsOn call lines ∧ AreNewlineEnded lines := by
  refine ⟨fun e h ↦ ?_, fun exit h ↦ ?_⟩
  · rw [streamedBy, captured, h]
    exact ⟨rfl, rfl⟩
  · -- what is read line by line amounts to what is read at once
    obtain ⟨streamed, hstreamed, hcode, hlines⟩ := streamedBy_eq_ok arrival h
    have hcaptured : captured host call = .ok
        { returnCode := exit.returnCode
          stdout := String.ofList (decodeOutput exit.stdout)
          stderr := String.ofList (decodeOutput exit.stderr) } := by
      rw [captured, h]
      rfl
    refine ⟨streamed, _, hstreamed, hcaptured, hcode, ?_, rfl, ?_, _, hlines,
      areNewlineEnded_newlineEndedLines _⟩
    · rw [hlines.stderr_eq, flatten_newlineEndedLines]
    · rw [String.toList_ofList]
      exact return_not_mem_unifyNewlines _

/-! ### A child whose output comes in byte by byte -/

/-- Writes a line end and a character of more than one byte, and stops with an ill-formed one. -/
def sampleExit : Exit where
  stderr := [0x61, 0x0d, 0x0a, 0x0d, 0xe2, 0x82, 0xac, 0x0d, 0xe2, 0x82]

/-- Line ends and characters that come in two pieces are those that come in one. -/
theorem streamedBy_sampleExit_agrees_captured :
    ∃ streamed captured, streamedBy (.byBlocks 1) (fun _ ↦ .ok sampleExit) { args := [] } =
      .ok streamed ∧
      Child.captured (fun _ ↦ .ok sampleExit) { args := [] } = .ok captured ∧
        streamed.response.stderr = captured.stderr ∧ captured.stderr = "a\n\n€\n\ufffd" := by
  obtain ⟨-, hok⟩ :=
    streamedBy_agrees_captured (.byBlocks 1) (fun _ ↦ .ok sampleExit) { args := [] }
  obtain ⟨streamed, captured, hstreamed, hcaptured, -, hsame, htext, -⟩ := hok sampleExit rfl
  exact ⟨streamed, captured, hstreamed, hcaptured, hsame, htext.trans (by decide +kernel)⟩

end CrateDoc.Child
