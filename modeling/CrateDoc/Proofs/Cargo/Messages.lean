import CrateDoc.Cargo.Command
import CrateDoc.Proofs.Cargo.Artifacts
import CrateDoc.Proofs.Json.Controls
import CrateDoc.Proofs.Session
import CrateDoc.Proofs.Text.Lines
import Mathlib.Data.List.ReduceOption

/-!
# Messages of a build, line by line

Cargo writes each message on a line of its own: it escapes the control characters below the space
and leaves all others as they are, so that no message holds a newline. The output is taken apart at
more characters than the newline, though. Three of them are no control characters below the space:
`U+0085`, `U+2028` and `U+2029` (`IsMessage.isLine_iff`).

* `ofOutput_joinWith`: lines without line ends are used one after the other.
* `isMessage_write`: a value that is written without white space is a message.
* `artifacts_of_messages`: messages in which none of the three characters stands are used one after
  the other, and none of them is said to be no JSON.
* `not_ofOutput_of_messages`: a message in which one of them stands is torn apart.
-/

namespace CrateDoc.Cargo.Artifact

open Json (Value)
open Text

/-! ### Lines -/

/-- The artifacts of all lines, or what is wrong with the first line that cannot be used. -/
def outcome : List Artifact × Option Error → Except Error (List Artifact)
  | (artifacts, none) => .ok artifacts
  | (_, some e) => .error e

theorem ofOutput_eq_outcome (output : String) :
    ofOutput output = outcome (ofLines (lines output.toList)) := by
  rw [ofOutput]
  rcases ofLines (lines output.toList) with ⟨artifacts, - | e⟩
  · rfl
  · rfl

/-- Lines are used one after the other. -/
theorem outcome_ofLines (ls : List (List Char)) :
    outcome (ofLines ls) = (ls.mapM ofLine).map List.reduceOption := by
  induction ls with
  | nil => rfl
  | cons l ls ih =>
    rw [List.mapM_cons, ofLines]
    rcases ofLine l with e | artifact
    · rfl
    · rcases hrest : ofLines ls with ⟨artifacts, failure⟩
      rw [hrest] at ih
      rcases hfound : ls.mapM ofLine with e | found
      · rw [hfound] at ih
        rcases failure with - | e'
        · cases ih
        · exact ih
      · rw [hfound] at ih
        rcases failure with - | e'
        · obtain rfl : artifacts = found.reduceOption := Except.ok.inj ih
          rcases artifact with - | artifact
          · rfl
          · rfl
        · cases ih

/-- An output of lines without line ends is used line by line. -/
theorem ofOutput_joinWith {ls : List (List Char)} (hls : ∀ l ∈ ls, IsLine l) :
    ofOutput (String.ofList (joinWith ['\n'] ls)) = (ls.mapM ofLine).map List.reduceOption := by
  rw [ofOutput_eq_outcome, String.toList_ofList]
  rcases List.eq_nil_or_concat' ls with rfl | ⟨before, last, rfl⟩
  · rfl
  · have hlast : IsLine last := hls last (by simp)
    rw [lines_joinWith_newline (fun l hl ↦ hls l (by simp [hl])), outcome_ofLines]
    by_cases hempty : last = []
    -- An empty last line is not seen, but it would report nothing.
    · subst hempty
      rw [List.mapM_append, List.mapM_append]
      show ((before.mapM ofLine >>= fun found ↦ .ok (found ++ [])).map _) =
        ((before.mapM ofLine >>= fun found ↦ .ok (found ++ [none])).map _)
      rcases before.mapM ofLine with e | found
      · rfl
      · show Except.ok (found ++ []).reduceOption = Except.ok (found ++ [none]).reduceOption
        rw [List.reduceOption_append, List.reduceOption_append]
        rfl
    · rw [lines_of_isLine hlast hempty]

/-! ### Messages -/

/-- A message as cargo writes it: a JSON text without white space around it, in which no control
character below the space stands. -/
structure IsMessage (text : List Char) (message : Value) : Prop where
  reads : Value.read .tolerant text = .ok message
  bare : strip text = text
  escaped : ∀ c ∈ text, 0x20 ≤ c.toNat

/-- The line ends that may stand in a message. -/
def strayLineEnds : List Char := ['\u0085', '\u2028', '\u2029']

variable {text : List Char} {message : Value}

/-- A message is one line if none of the three line ends stands in it. -/
theorem IsMessage.isLine_iff (h : IsMessage text message) :
    IsLine text ↔ ∀ c ∈ text, c ∉ strayLineEnds := by
  refine forall₂_congr fun c hc ↦ ?_
  have hescaped := h.escaped c hc
  have hmem : c ∈ strayLineEnds ↔ c.toNat = 0x85 ∨ c.toNat = 0x2028 ∨ c.toNat = 0x2029 := by
    simp only [strayLineEnds, List.mem_cons, List.not_mem_nil, or_false, ← Char.toNat_inj]
    rfl
  rw [hmem, isLineEnd]
  simp only [Bool.or_eq_false_iff, Bool.and_eq_false_iff, decide_eq_false_iff_not,
    beq_eq_false_iff_ne]
  omega

/-! ### Written values -/

theorem exists_write_eq_concat {n : ℕ} (h : message.Nested n) (level : ℕ) :
    ∃ mark ∈ ['\x22', ']', '}'], ∃ s, Json.write ⟨none⟩ level message = s ++ [mark] := by
  cases h with
  | text n s => exact ⟨'\x22', by decide, _, by rw [Json.write, Json.writeText]⟩
  | @list n items h =>
    rcases items with - | ⟨item, items⟩
    · exact ⟨']', by decide, ['['], rfl⟩
    · exact ⟨']', by decide, _, by rw [Json.write]⟩
  | @object n fields hkeys h =>
    rcases fields with - | ⟨⟨key, value⟩, fields⟩
    · exact ⟨'}', by decide, ['{'], rfl⟩
    · exact ⟨'}', by decide, _, by rw [Json.write]⟩

theorem strip_eq_self {first last : Char} {s t : List Char} (hfirst : isBlank first = false)
    (hlast : isBlank last = false) (h : first :: s = t ++ [last]) :
    strip (first :: s) = first :: s := by
  rw [strip, stripLeft, List.dropWhile_cons_of_neg (by simp [hfirst]), h, stripRight, dropTrailing,
    List.reverse_append, List.reverse_singleton, List.singleton_append,
    List.dropWhile_cons_of_neg (by simp [hlast]), List.reverse_cons, List.reverse_reverse]

/-- A value that is written without white space is a message. -/
theorem isMessage_write {n : ℕ} (h : message.Nested n) :
    IsMessage (Json.write ⟨none⟩ 0 message) message := by
  refine ⟨h.read_write (fun _ hdepth ↦ by cases hdepth) _, ?_, Json.forall_mem_write h 0⟩
  obtain ⟨first, hfirst, s, hs⟩ := h.exists_write_eq_cons ⟨none⟩ 0
  obtain ⟨last, hlast, t, ht⟩ := exists_write_eq_concat h 0
  have hopening : ∀ mark ∈ Json.openings, isBlank mark = false := by simp [Json.openings, isBlank]
  have hclosing : ∀ mark ∈ ['\x22', ']', '}'], isBlank mark = false := by simp [isBlank]
  rw [hs]
  exact strip_eq_self (hopening first hfirst) (hclosing last hlast) (hs.symm.trans ht)

/-! ### One line for each message -/

/-- A message that stands on a line alone gives what it reports. -/
theorem IsMessage.ofLine (h : IsMessage text message) : ofLine text = ofMessage message :=
  ofLine_of_read (h.bare.symm ▸ h.reads)

/-- What is wrong with a message is never that it is no JSON. -/
theorem eq_filenames_of_ofMessage {e : Error} (h : ofMessage message = .error e) :
    e = .filenames := by
  by_cases hmisread : MisreadMessage message
  · rcases hmisread.ofMessage with hnames | ⟨a, hmade⟩
    · cases hnames.symm.trans h
      rfl
    · cases hmade.symm.trans h
  by_cases hreports : ∃ a, Reports message a
  · obtain ⟨a, hreports⟩ := hreports
    cases hreports.ofMessage.symm.trans h
  · cases (ofMessage_eq_none (not_exists.1 hreports) hmisread).symm.trans h

/-- The artifacts that messages report, one after the other. -/
def ofMessages (messages : List Value) : Except Error (List Artifact) :=
  (messages.mapM ofMessage).map List.reduceOption

/-- Messages on lines of their own give what the messages report. -/
theorem mapM_ofLine_of_messages {messages : List (List Char × Value)}
    (h : ∀ m ∈ messages, IsMessage m.1 m.2) :
    (messages.map Prod.fst).mapM ofLine = (messages.map Prod.snd).mapM ofMessage := by
  induction messages with
  | nil => rfl
  | cons m messages ih =>
    rw [List.map_cons, List.map_cons, List.mapM_cons, List.mapM_cons,
      (h m List.mem_cons_self).ofLine, ih fun m hm ↦ h m (List.mem_cons_of_mem _ hm)]

/-- An output of messages without stray line ends is used message by message. -/
theorem ofOutput_of_messages {messages : List (List Char × Value)}
    (h : ∀ m ∈ messages, IsMessage m.1 m.2)
    (hends : ∀ m ∈ messages, ∀ c ∈ m.1, c ∉ strayLineEnds) :
    ofOutput (String.ofList (joinWith ['\n'] (messages.map Prod.fst))) =
      ofMessages (messages.map Prod.snd) := by
  have hlines : ∀ l ∈ messages.map Prod.fst, IsLine l := by
    intro l hl
    obtain ⟨m, hm, rfl⟩ := List.mem_map.1 hl
    exact (h m hm).isLine_iff.2 (hends m hm)
  rw [ofOutput_joinWith hlines, mapM_ofLine_of_messages h, ofMessages]

/-- What is wrong with messages is never that one of them is no JSON. -/
theorem eq_filenames_of_ofMessages {messages : List Value} {e : Error}
    (h : ofMessages messages = .error e) : e = .filenames := by
  have hfound : messages.mapM ofMessage = .error e := by
    rw [ofMessages] at h
    rcases hfound : messages.mapM ofMessage with e' | found
    · rw [hfound] at h
      cases h
      rfl
    · rw [hfound] at h
      cases h
  obtain ⟨message, -, hmessage⟩ := exists_mem_of_mapM_eq_error hfound
  exact eq_filenames_of_ofMessage hmessage

/-! ### Builds -/

/-- The call of a build. -/
def buildCall (cargo : String) (manifest : Path) : Child.Call where
  args := [cargo, "build", "--manifest-path", manifest.toString, "--message-format", "json"]

/-- What the artifacts of a build are, by the answer to its call. -/
def ofAnswer : Except Child.Error Child.Response → Except Failure (List Artifact)
  | .error e => .error (.child e)
  | .ok response =>
    if response.ok then (ofOutput response.stdout).mapError .cargo
    else .error (.cargo (.notBuilt response.returnCode response.stderr))

open CrateDoc.Action in
/-- A build asks once for what it needs, and makes something of the answer. -/
theorem runs_artifacts {surroundings : Surroundings} {cargo : String} {manifest : Path}
    {before after : Session} {result : Except Failure (List Artifact)}
    (h : Runs (artifacts cargo manifest) surroundings before result after) :
    result = ofAnswer (surroundings.runner (buildCall cargo manifest)) := by
  rcases h.of_start_bind with ⟨e, hanswer, rfl, -⟩ | ⟨response, hanswer, h⟩
  · rw [buildCall, hanswer, ofAnswer]
  · rw [buildCall, hanswer, ofAnswer]
    dsimp only at h
    rcases hok : response.ok with - | -
    · rw [hok] at h
      exact h.of_throw_bind.1
    · rw [hok] at h
      rcases h.of_ofExcept_bind with ⟨e, houtput, rfl, -⟩ | ⟨found, houtput, h⟩
      · rw [houtput]
        rfl
      · rw [houtput]
        exact (runs_pure_iff.1 h.of_log_bind).1

/-- A build that ends well and writes messages without stray line ends gives exactly the artifacts
that its messages report, and is never blamed for something that is no JSON. -/
theorem artifacts_of_messages {surroundings : Surroundings} {cargo : String} {manifest : Path}
    {response : Child.Response} {messages : List (List Char × Value)}
    (hrun : surroundings.runner (buildCall cargo manifest) = .ok response)
    (hok : response.ok = true)
    (hstdout : response.stdout = String.ofList (joinWith ['\n'] (messages.map Prod.fst)))
    (h : ∀ m ∈ messages, IsMessage m.1 m.2)
    (hends : ∀ m ∈ messages, ∀ c ∈ m.1, c ∉ strayLineEnds) (before : Session) :
    ∃ after, Action.Runs (artifacts cargo manifest) surroundings before
        ((ofMessages (messages.map Prod.snd)).mapError .cargo) after ∧
      ∀ e, ofMessages (messages.map Prod.snd) = .error e → e = .filenames := by
  obtain ⟨result, after, hruns⟩ := Action.exists_runs (artifacts cargo manifest) surroundings before
  have hresult : result = (ofMessages (messages.map Prod.snd)).mapError .cargo := by
    rw [runs_artifacts hruns, hrun, ofAnswer, if_pos hok, hstdout, ofOutput_of_messages h hends]
  rw [hresult] at hruns
  exact ⟨after, hruns, fun e ↦ eq_filenames_of_ofMessages⟩

/-! ### Messages of which one quotes a line separator -/

/-- A message of the compiler. -/
def sampleMessage (text : String) : Value :=
  .object [("reason", .text "compiler-message"), ("message", .text text)]

/-- A message that a library was built. -/
def sampleLibrary (name : String) (filenames : List String) : Value :=
  .object [("reason", .text "compiler-artifact"),
    ("target", .object [("name", .text name), ("kind", .list [.text "lib"])]),
    ("filenames", .list (filenames.map .text))]

theorem nested_sampleMessage (text : String) : (sampleMessage text).Nested 1 := by
  have hkeys : ["reason", "message"].Nodup := by decide
  refine .object hkeys fun field hfield ↦ ?_
  simp only [List.mem_cons, List.not_mem_nil, or_false] at hfield
  rcases hfield with rfl | rfl
  · exact .text 0 _
  · exact .text 0 _

theorem nested_texts (n : ℕ) (texts : List String) :
    (Value.list (texts.map .text)).Nested (n + 1) := by
  refine .list fun v hv ↦ ?_
  obtain ⟨text, -, rfl⟩ := List.mem_map.1 hv
  exact .text n text

theorem nested_sampleLibrary (name : String) (filenames : List String) :
    (sampleLibrary name filenames).Nested 3 := by
  have hkeys : ["reason", "target", "filenames"].Nodup := by decide
  have htarget : ["name", "kind"].Nodup := by decide
  refine .object hkeys fun field hfield ↦ ?_
  simp only [List.mem_cons, List.not_mem_nil, or_false] at hfield
  rcases hfield with rfl | rfl | rfl
  · exact .text 2 _
  · refine .object htarget fun field hfield ↦ ?_
    simp only [List.mem_cons, List.not_mem_nil, or_false] at hfield
    rcases hfield with rfl | rfl
    · exact .text 1 _
    · exact nested_texts 0 ["lib"]
  · exact nested_texts 1 filenames

/-- What a build of two libraries reports, with some words of the compiler before. -/
def sampleReport (text : String) : List Value :=
  [sampleMessage text, sampleLibrary "my-dep" ["/t/libmy_dep.rmeta", "/t/libmy_dep.rlib"],
    sampleLibrary "other" ["/t/libother.so"]]

/-- Its messages as cargo writes them. -/
def sampleMessages (text : String) : List (List Char × Value) :=
  (sampleReport text).map fun message ↦ (Json.write ⟨none⟩ 0 message, message)

theorem isMessage_sampleMessages (text : String) :
    ∀ m ∈ sampleMessages text, IsMessage m.1 m.2 := by
  intro m hm
  obtain ⟨message, hmessage, rfl⟩ := List.mem_map.1 hm
  simp only [sampleReport, List.mem_cons, List.not_mem_nil, or_false] at hmessage
  rcases hmessage with rfl | rfl | rfl
  · exact isMessage_write (nested_sampleMessage text)
  · exact isMessage_write (nested_sampleLibrary _ _)
  · exact isMessage_write (nested_sampleLibrary _ _)

/-- Surroundings in which every program ends well and writes these messages. -/
def writing (text : String) : Surroundings where
  directory := ⟨.single, []⟩
  scratch := ⟨.single, ["t"]⟩
  time := ""
  runner := fun _ ↦ .ok
    { stdout := String.ofList (joinWith ['\n'] ((sampleMessages text).map Prod.fst)) }

/-- Messages without stray line ends are used one by one, and give what two of the three report. -/
theorem artifacts_of_sampleMessages :
    (∀ m ∈ sampleMessages "a b", ∀ c ∈ m.1, c ∉ strayLineEnds) ∧
      ∃ after, Action.Runs (artifacts "cargo" ⟨.single, ["Cargo.toml"]⟩) (writing "a b")
        { tree := {} } (.ok [⟨"my_dep", ⟨.single, ["t", "libmy_dep.rlib"]⟩⟩,
          ⟨"other", ⟨.single, ["t", "libother.so"]⟩⟩]) after := by
  -- as a Boolean the check goes through the texts without nesting, however long they are
  have hall : ((sampleMessages "a b").all fun m ↦ m.1.all (· ∉ strayLineEnds)) = true := by
    decide +kernel
  have hends : ∀ m ∈ sampleMessages "a b", ∀ c ∈ m.1, c ∉ strayLineEnds := by
    simpa only [List.all_eq_true, decide_eq_true_eq] using hall
  have hfound : ofMessages ((sampleMessages "a b").map Prod.snd) =
      .ok [⟨"my_dep", ⟨.single, ["t", "libmy_dep.rlib"]⟩⟩,
        ⟨"other", ⟨.single, ["t", "libother.so"]⟩⟩] := eq_ok_of_toOption (by decide +kernel)
  have hrun : (writing "a b").runner (buildCall "cargo" ⟨.single, ["Cargo.toml"]⟩) = .ok _ := rfl
  obtain ⟨after, hruns, -⟩ :=
    artifacts_of_messages hrun rfl rfl (isMessage_sampleMessages _) hends { tree := {} }
  rw [hfound] at hruns
  exact ⟨hends, after, hruns⟩

/-- A message in which a line separator stands is torn apart. -/
theorem not_ofOutput_of_messages :
    ¬ ∀ messages : List (List Char × Value), (∀ m ∈ messages, IsMessage m.1 m.2) →
      ofOutput (String.ofList (joinWith ['\n'] (messages.map Prod.fst))) =
        ofMessages (messages.map Prod.snd) := by
  intro h
  have htorn : (ofOutput (String.ofList (joinWith ['\n']
      ((sampleMessages "a\u2028b").map Prod.fst)))).isOk = false := by
    decide +kernel
  have hwhole : (ofMessages ((sampleMessages "a\u2028b").map Prod.snd)).isOk = true := by
    decide +kernel
  have hsame := congrArg Except.isOk (h _ (isMessage_sampleMessages "a\u2028b"))
  exact Bool.false_ne_true (htorn.symm.trans (hsame.trans hwhole))

end CrateDoc.Cargo.Artifact
