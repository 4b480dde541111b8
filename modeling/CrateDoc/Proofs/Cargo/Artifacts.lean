import CrateDoc.Cargo.Artifact
import CrateDoc.Proofs.Cargo.TargetChoice
import Mathlib.Data.Int.Notation

/-!
# The artifacts that lines report

A line is blank, or holds a message, or is stray, for it is no JSON. A message reports an artifact
if it announces a target that has a name and lists a file (`Reports`). So lines tell what a run over
them should be (`Course`): the artifacts that their messages report, in order, up to the first stray
line, which ends the run.

What is missing in a message or of another type makes no difference, with one exception
(`MisreadMessage`): file names are gone through before it is known that they are a list, so `true`
and numbers stop the run, and the characters of a text and the keys of an object are taken for
files. A number that is too long to be read stops the run as well.

* `fileToLink?_filterMap_eq_some_iff`: the file that is chosen among the items of a list.
* `ofMessage_eq_none`: nothing is made of a message that reports nothing and is not misread.
* `course_iff_sound`: lines run the course that they tell exactly if none of them is misread before
  the first stray line.
* `not_course`: a message with a number for its file names stops a run.
-/

namespace CrateDoc.Cargo.Artifact

open Json (Value)

variable {message : Value} {fields target : List (String × Value)} {a : Artifact}

/-! ### Messages -/

/-- A message announces a compiled target, unless that is a build script. -/
structure Announces (fields target : List (String × Value)) : Prop where
  isArtifact : Entries.get? "reason" fields = some (.text "compiler-artifact")
  hasTarget : Entries.get? "target" fields = some (.object target)
  noScript : ∀ kinds, Entries.get? "kind" target = some (.list kinds) → .text "custom-build" ∉ kinds

/-- A file that programs are linked with, by its name. -/
def IsLinked (file : String) : Prop := linkedSuffix.toList <:+ file.toList

/-- The file to link among the items of a list: the first text that names a file that programs are
linked with, or else the first text. -/
inductive LinkedIn (items : List Value) (file : String) : Prop
  | linked {before after : List Value} (hitems : items = before ++ .text file :: after)
      (hfile : IsLinked file) (hbefore : ∀ other, .text other ∈ before → ¬ IsLinked other)
  | first {before after : List Value} (hitems : items = before ++ .text file :: after)
      (hnone : ∀ other, .text other ∈ items → ¬ IsLinked other)
      (hbefore : ∀ other, .text other ∉ before)

/-- A message reports an artifact: it announces a target with a name and lists a file. -/
inductive Reports : Value → Artifact → Prop
  | intro {fields target : List (String × Value)} {name file : String} {items : List Value}
      (hannounces : Announces fields target)
      (hname : Entries.get? "name" target = some (.text name))
      (hitems : Entries.get? "filenames" fields = some (.list items))
      (hfile : LinkedIn items file) :
      Reports (.object fields) ⟨crateNameOf name, Path.ofString file⟩

/-- File names that cannot be gone through: `true` and the numbers other than zero. -/
inductive Atomic : Value → Prop
  | yes : Atomic (.bool true)
  | int {n : ℤ} (hn : n ≠ 0) : Atomic (.int n)
  | float {x : Binary64} (hx : x.isZero = false) : Atomic (.float x)

/-- File names that are gone through and are no list: texts and objects that are not empty. -/
inductive Divisible : Value → Prop
  | text {s : String} (hs : s ≠ "") : Divisible (.text s)
  | object {field : String × Value} {fields : List (String × Value)} :
      Divisible (.object (field :: fields))

/-- A message that announces a target is misread if its file names cannot be gone through, or if the
target has a name and the file names are gone through and are no list. -/
inductive MisreadMessage : Value → Prop
  | atomic {fields target : List (String × Value)} {names : Value}
      (hannounces : Announces fields target)
      (hnames : Entries.get? "filenames" fields = some names) (hatomic : Atomic names) :
      MisreadMessage (.object fields)
  | divisible {fields target : List (String × Value)} {names : Value} {name : String}
      (hannounces : Announces fields target)
      (hname : Entries.get? "name" target = some (.text name))
      (hnames : Entries.get? "filenames" fields = some names) (hdivisible : Divisible names) :
      MisreadMessage (.object fields)

/-- A target is no build script unless one of its kinds says so. -/
theorem isBuildScript_eq_false_iff :
    isBuildScript (.object target) = false ↔
      ∀ kinds, Entries.get? "kind" target = some (.list kinds) → .text "custom-build" ∉ kinds := by
  rw [isBuildScript, Value.field?]
  split
  · rename_i kinds hkinds
    simp [hkinds, Value.text?_eq_some_iff]
  · rename_i hkinds
    simp only [true_iff]
    intro kinds hkind
    exact absurd hkind (hkinds kinds)

/-- Before a text there are only texts of a kind. -/
theorem exists_text_split_iff {items : List Value} {file : String} {p : String → Prop} :
    (∃ before after, items.filterMap Value.text? = before ++ file :: after ∧ ∀ s ∈ before, p s) ↔
      ∃ before after, items = before ++ .text file :: after ∧ ∀ s, .text s ∈ before → p s := by
  rw [exists_filterMap_split_iff]
  simp only [Value.text?_eq_some_iff]
  constructor
  · rintro ⟨before, _, after, hitems, rfl, hbefore⟩
    exact ⟨before, after, hitems, fun s hs ↦ hbefore _ hs s rfl⟩
  · rintro ⟨before, after, hitems, hbefore⟩
    exact ⟨before, _, after, hitems, rfl, fun v hv s hs ↦ hbefore s (hs ▸ hv)⟩

/-- The file to link is the first library among the names, and else the first name. -/
theorem fileToLink?_eq_some_iff {names : List String} {file : String} :
    fileToLink? names = some file ↔
      (IsLinked file ∧ ∃ before after, names = before ++ file :: after ∧
        ∀ s ∈ before, ¬ IsLinked s) ∨
      ((∀ s ∈ names, ¬ IsLinked s) ∧ ∃ before after, names = before ++ file :: after ∧
        ∀ s ∈ before, False) := by
  have hhead : names.head? = some file ↔
      ∃ before after, names = before ++ file :: after ∧ ∀ s ∈ before, False := by
    simp [List.head?_eq_some_iff, ← List.eq_nil_iff_forall_not_mem]
  rw [fileToLink?, Option.or_eq_some_iff, hhead]
  simp only [List.find?_eq_some_iff_append, List.find?_eq_none, Bool.not_eq_true', IsLinked,
    ← Bool.not_eq_true, List.isSuffixOf_iff_suffix]

theorem fileToLink?_filterMap_eq_some_iff {items : List Value} {file : String} :
    fileToLink? (items.filterMap Value.text?) = some file ↔ LinkedIn items file := by
  have hnone : (∀ s ∈ items.filterMap Value.text?, ¬ IsLinked s) ↔
      ∀ s, .text s ∈ items → ¬ IsLinked s := by
    simp [Value.text?_eq_some_iff]
  rw [fileToLink?_eq_some_iff, exists_text_split_iff, exists_text_split_iff, hnone]
  constructor
  · rintro (⟨hfile, before, after, hitems, hbefore⟩ | ⟨hnone, before, after, hitems, hbefore⟩)
    · exact .linked hitems hfile hbefore
    · exact .first hitems hnone hbefore
  · rintro (⟨hitems, hfile, hbefore⟩ | ⟨hitems, hnone, hbefore⟩)
    · exact .inl ⟨hfile, _, _, hitems, hbefore⟩
    · exact .inr ⟨hnone, _, _, hitems, hbefore⟩

/-- What cannot be gone through holds no file names. -/
theorem Atomic.fileNames_eq {names : Value} (h : Atomic names) :
    fileNames names = .error .filenames := by
  cases h with
  | yes => rfl
  | int hn => simp [fileNames]
  | float hx => simp [fileNames, hx]

/-- What can be gone through and is not empty holds some. -/
theorem Divisible.exists_fileNames_eq {names : Value} (h : Divisible names) :
    ∃ file files, fileNames names = .ok (file :: files) := by
  cases h with
  | @text s hs =>
    rcases htext : s.toList with - | ⟨c, cs⟩
    · exact absurd (String.toList_inj.1 htext) hs
    · refine ⟨String.ofList [c], cs.map fun c ↦ String.ofList [c], ?_⟩
      rw [fileNames, htext, List.map_cons]
  | @object field fields => exact ⟨field.1, fields.map (·.1), rfl⟩

/-- Whatever else is no list holds no file names. -/
theorem fileNames_eq_nil {names : Value} (hatomic : ¬ Atomic names) (hdivisible : ¬ Divisible names)
    (hlist : ∀ items, names ≠ .list items) : fileNames names = .ok [] := by
  cases names with
  | null => rfl
  | bool b =>
    cases b with
    | true => exact absurd .yes hatomic
    | false => rfl
  | int n =>
    have hn : n = 0 := by_contra fun hn ↦ hatomic (.int hn)
    rw [hn, fileNames]
  | float x =>
    have hx : x.isZero = true := by_contra fun hx ↦ hatomic (.float (eq_false_of_ne_true hx))
    rw [fileNames, if_pos hx]
  | text s =>
    have hs : s = "" := by_contra fun hs ↦ hdivisible (.text hs)
    rw [hs]
    rfl
  | list items => exact absurd rfl (hlist items)
  | object fields =>
    rcases fields with - | ⟨field, fields⟩
    · rfl
    · exact absurd .object hdivisible

/-- Only what cannot be gone through is refused. -/
theorem exists_fileNames_eq {names : Value} (hatomic : ¬ Atomic names) :
    ∃ files, fileNames names = .ok files := by
  by_cases hdivisible : Divisible names
  · obtain ⟨file, files, hfiles⟩ := hdivisible.exists_fileNames_eq
    exact ⟨file :: files, hfiles⟩
  by_cases hlist : ∃ items, names = .list items
  · obtain ⟨items, rfl⟩ := hlist
    exact ⟨items.filterMap Value.text?, rfl⟩
  · exact ⟨[], fileNames_eq_nil hatomic hdivisible (not_exists.1 hlist)⟩

/-- The artifact of a target and its file names. -/
def ofNames (target : List (String × Value)) (names : List String) : Option Artifact := do
  let name ← (Entries.get? "name" target).bind Value.text?
  let file ← fileToLink? names
  some ⟨crateNameOf name, Path.ofString file⟩

/-- A target with a name gives an artifact if one of its files can be linked. -/
theorem ofNames_of_name {name : String} (hname : Entries.get? "name" target = some (.text name))
    (names : List String) :
    ofNames target names =
      (fileToLink? names).map fun file ↦ ⟨crateNameOf name, Path.ofString file⟩ := by
  rw [ofNames, hname]
  rcases fileToLink? names with - | file
  · rfl
  · rfl

/-- A target without a name gives none. -/
theorem ofNames_eq_none (h : ∀ name, Entries.get? "name" target ≠ some (.text name))
    (names : List String) : ofNames target names = none := by
  have hname : (Entries.get? "name" target).bind Value.text? = none := by
    rw [Option.eq_none_iff_forall_ne_some]
    intro name hname
    obtain ⟨v, hv, htext⟩ := Option.bind_eq_some_iff.1 hname
    exact h name (Value.text?_eq_some_iff.1 htext ▸ hv)
  rw [ofNames, hname]
  rfl

theorem ofNames_nil (target : List (String × Value)) : ofNames target [] = none := by
  rw [ofNames]
  rcases (Entries.get? "name" target).bind Value.text? with - | name
  · rfl
  · rfl

/-- What a message announces depends on nothing but its file names. -/
theorem Announces.ofMessage (h : Announces fields target) :
    ofMessage (.object fields) =
      (fileNames ((Entries.get? "filenames" fields).getD .null)).map (ofNames target) := by
  have hscript := isBuildScript_eq_false_iff.2 h.noScript
  rw [Artifact.ofMessage]
  simp only [Value.field?, h.isArtifact, h.hasTarget, hscript]
  rfl

/-- Nothing is made of a message that does not announce a target. -/
theorem ofMessage_of_not_announces
    (h : ∀ fields target, message = .object fields → ¬ Announces fields target) :
    ofMessage message = .ok none := by
  rw [ofMessage]
  split
  · rfl
  rename_i hreason
  split
  · rename_i target htarget
    cases message with
    | object fields =>
      rw [not_ne_iff, Option.bind_eq_some_iff] at hreason
      obtain ⟨reason, hfound, hreason⟩ := hreason
      rw [Value.text?_eq_some_iff] at hreason
      subst hreason
      have hscript : isBuildScript (.object target) = true := by
        rw [← Bool.not_eq_false, isBuildScript_eq_false_iff]
        intro hkind
        exact h fields target rfl ⟨hfound, htarget, hkind⟩
      rw [if_pos hscript]
    | _ => cases htarget
  · rfl

/-- A message that reports an artifact gives it. -/
theorem Reports.ofMessage (h : Reports message a) : ofMessage message = .ok (some a) := by
  obtain ⟨hannounces, hname, hitems, hfile⟩ := h
  rw [hannounces.ofMessage, hitems, Option.getD_some, fileNames, Except.map, ofNames_of_name hname,
    fileToLink?_filterMap_eq_some_iff.2 hfile, Option.map_some]

/-- A message that is misread stops the run or makes up an artifact. -/
theorem MisreadMessage.ofMessage (h : MisreadMessage message) :
    ofMessage message = .error .filenames ∨ ∃ a, ofMessage message = .ok (some a) := by
  cases h with
  | atomic hannounces hnames hatomic =>
    left
    rw [hannounces.ofMessage, hnames, Option.getD_some, hatomic.fileNames_eq]
    rfl
  | divisible hannounces hname hnames hdivisible =>
    right
    obtain ⟨first, files, hfiles⟩ := hdivisible.exists_fileNames_eq
    rw [hannounces.ofMessage, hnames, Option.getD_some, hfiles, Except.map, ofNames_of_name hname,
      fileToLink?, List.head?_cons, Option.or_some, Option.map_some]
    exact ⟨_, rfl⟩

/-- A message is misread only if its file names are no list. -/
theorem MisreadMessage.not_reports (h : MisreadMessage message) : ¬ Reports message a := by
  rintro ⟨-, -, hitems, -⟩
  rcases h with ⟨-, hnames, hatomic⟩ | ⟨-, -, hnames, hdivisible⟩
  · cases hitems.symm.trans hnames
    cases hatomic
  · cases hitems.symm.trans hnames
    cases hdivisible

/-- No artifact is made of file names that are no list, unless they are misread. -/
theorem Announces.ofNames_eq_none {names : Value} (hannounces : Announces fields target)
    (hfound : Entries.get? "filenames" fields = some names)
    (hreports : ∀ a, ¬ Reports (.object fields) a) (hmisread : ¬ MisreadMessage (.object fields)) :
    ∃ files, fileNames names = .ok files ∧ ofNames target files = none := by
  have hatomic : ¬ Atomic names := fun h ↦ hmisread (.atomic hannounces hfound h)
  by_cases hname : ∃ name, Entries.get? "name" target = some (.text name)
  · obtain ⟨name, hname⟩ := hname
    have hdivisible : ¬ Divisible names := fun h ↦ hmisread (.divisible hannounces hname hfound h)
    by_cases hlist : ∃ items, names = .list items
    · obtain ⟨items, rfl⟩ := hlist
      refine ⟨items.filterMap Value.text?, rfl, ?_⟩
      rw [ofNames_of_name hname, Option.map_eq_none_iff, Option.eq_none_iff_forall_ne_some]
      intro file hfile
      have hlinked := fileToLink?_filterMap_eq_some_iff.1 hfile
      exact hreports _ ⟨hannounces, hname, hfound, hlinked⟩
    · exact ⟨[], fileNames_eq_nil hatomic hdivisible (not_exists.1 hlist), ofNames_nil target⟩
  · obtain ⟨files, hfiles⟩ := exists_fileNames_eq hatomic
    exact ⟨files, hfiles, Artifact.ofNames_eq_none (not_exists.1 hname) files⟩

/-- Nothing is made of a message that reports nothing and is not misread. -/
theorem ofMessage_eq_none (hreports : ∀ a, ¬ Reports message a)
    (hmisread : ¬ MisreadMessage message) : ofMessage message = .ok none := by
  by_cases hannounces : ∃ fields target, message = .object fields ∧ Announces fields target
  · obtain ⟨fields, target, rfl, hannounces⟩ := hannounces
    rw [hannounces.ofMessage]
    rcases hfound : Entries.get? "filenames" fields with - | names
    · rw [Option.getD_none, fileNames, Except.map, ofNames_nil]
    · obtain ⟨files, hfiles, hnone⟩ := hannounces.ofNames_eq_none hfound hreports hmisread
      rw [Option.getD_some, hfiles, Except.map, hnone]
  · refine ofMessage_of_not_announces fun fields target hmessage h ↦ ?_
    exact hannounces ⟨fields, target, hmessage, h⟩

/-! ### Lines -/

/-- What a line tells by its message: an artifact or none, or that it is no JSON. -/
inductive Tells (line : List Char) : Except Json.ReadError (Option Artifact) → Prop
  | blank (hline : Text.strip line = []) : Tells line (.ok none)
  | report {message : Value} {a : Artifact}
      (hread : Value.read .tolerant (Text.strip line) = .ok message)
      (hreports : Reports message a) : Tells line (.ok (some a))
  | other {message : Value} (hread : Value.read .tolerant (Text.strip line) = .ok message)
      (hreports : ∀ a, ¬ Reports message a) : Tells line (.ok none)
  | stray {fault : Json.ReadError} (hline : Text.strip line ≠ [])
      (hread : Value.read .tolerant (Text.strip line) = .error fault)
      (hfault : ∀ digits, fault.complaint ≠ .tooManyDigits digits) : Tells line (.error fault)

/-- A line that is no JSON. -/
def Stray (line : List Char) : Prop := ∃ fault, Tells line (.error fault)

/-- A line is misread if its message is, or if a number in it is too long to be read. -/
inductive Misread (line : List Char) : Prop
  | message {message : Value} (hread : Value.read .tolerant (Text.strip line) = .ok message)
      (hmessage : MisreadMessage message)
  | number {fault : Json.ReadError} {digits : ℕ}
      (hread : Value.read .tolerant (Text.strip line) = .error fault)
      (hfault : fault.complaint = .tooManyDigits digits)

/-- The course of a run as its lines tell it: the artifacts that are reported up to the first line
that is no JSON, which ends the run. -/
inductive Course : List (List Char) → List Artifact → Option Error → Prop
  | nil : Course [] [] none
  | cons {line : List Char} {lines : List (List Char)} {found : Option Artifact}
      {artifacts : List Artifact} {failure : Option Error} (hline : Tells line (.ok found))
      (hlines : Course lines artifacts failure) :
      Course (line :: lines) (found.toList ++ artifacts) failure
  | stray {line : List Char} {lines : List (List Char)} {fault : Json.ReadError}
      (hline : Tells line (.error fault)) : Course (line :: lines) [] (some (.badMessage fault))

/-- No line is misread before the first one that is no JSON. -/
def Sound (lines : List (List Char)) : Prop :=
  ∀ before line after, lines = before ++ line :: after → (∀ l ∈ before, ¬ Stray l) → ¬ Misread line

variable {line : List Char} {lines : List (List Char)} {artifacts : List Artifact}
  {failure : Option Error} {told : Except Json.ReadError (Option Artifact)}

theorem ofLine_of_read (h : Value.read .tolerant (Text.strip line) = .ok message) :
    ofLine line = ofMessage message := by
  have hline : (Text.strip line).isEmpty = false := by
    rcases hstrip : Text.strip line with - | ⟨c, s⟩
    · rw [hstrip] at h
      cases h
    · rfl
  rw [ofLine]
  simp only [hline, h]
  rfl

theorem ofLine_of_blank (h : Text.strip line = []) : ofLine line = .ok none := by
  rw [ofLine, h]
  rfl

/-- A line that is not misread is used as it tells. -/
theorem Tells.ofLine (h : Tells line told) (hmisread : ¬ Misread line) :
    ofLine line = told.mapError .badMessage := by
  cases h with
  | blank hline => exact ofLine_of_blank hline
  | report hread hreports =>
    rw [ofLine_of_read hread, hreports.ofMessage]
    rfl
  | other hread hreports =>
    have hmessage := fun h ↦ hmisread (.message hread h)
    rw [ofLine_of_read hread, ofMessage_eq_none hreports hmessage]
    rfl
  | @stray fault hline hread hfault =>
    rw [Artifact.ofLine]
    simp only [List.isEmpty_eq_false_iff.2 hline, hread]
    rfl

/-- A line that is misread tells of nothing and stops the run or makes up an artifact. -/
theorem Tells.of_misread (h : Tells line told) (hmisread : Misread line) :
    told = .ok none ∧ (Artifact.ofLine line = .error .filenames ∨
      ∃ a, Artifact.ofLine line = .ok (some a)) := by
  rcases hmisread with ⟨hread, hmessage⟩ | ⟨hread, hfault⟩
  · rw [ofLine_of_read hread]
    refine ⟨?_, hmessage.ofMessage⟩
    cases h with
    | blank => rfl
    | report hread' hreports =>
      cases hread.symm.trans hread'
      exact absurd hreports hmessage.not_reports
    | other => rfl
    | stray _ hread' => cases hread.symm.trans hread'
  · cases h with
    | blank hline =>
      rw [hline] at hread
      cases hread
      cases hfault
    | report hread' => cases hread.symm.trans hread'
    | other hread' => cases hread.symm.trans hread'
    | stray _ hread' hfault' =>
      cases hread.symm.trans hread'
      exact absurd hfault (hfault' _)

/-- A line tells one thing. -/
theorem Tells.unique {told' : Except Json.ReadError (Option Artifact)} (h : Tells line told)
    (h' : Tells line told') : told = told' := by
  by_cases hmisread : Misread line
  · rw [(h.of_misread hmisread).1, (h'.of_misread hmisread).1]
  · have hsame := (h.ofLine hmisread).symm.trans (h'.ofLine hmisread)
    rcases told with fault | found <;> rcases told' with fault' | found' <;> cases hsame <;> rfl

/-- Every line tells something, unless it is misread. -/
theorem exists_tells (hmisread : ¬ Misread line) : ∃ told, Tells line told := by
  by_cases hline : Text.strip line = []
  · exact ⟨_, .blank hline⟩
  rcases hread : Value.read .tolerant (Text.strip line) with fault | message
  · exact ⟨_, .stray hline hread fun digits hfault ↦ hmisread (.number hread hfault)⟩
  · by_cases hreports : ∃ a, Reports message a
    · obtain ⟨a, hreports⟩ := hreports
      exact ⟨_, .report hread hreports⟩
    · exact ⟨_, .other hread (not_exists.1 hreports)⟩

/-! ### Runs -/

/-- Lines take one course. -/
theorem Course.unique {artifacts' : List Artifact} {failure' : Option Error}
    (h : Course lines artifacts failure) (h' : Course lines artifacts' failure') :
    artifacts = artifacts' ∧ failure = failure' := by
  induction h generalizing artifacts' with
  | nil =>
    cases h'
    exact ⟨rfl, rfl⟩
  | cons hline hlines ih =>
    cases h' with
    | cons hline' hlines' =>
      cases hline.unique hline'
      obtain ⟨rfl, rfl⟩ := ih hlines'
      exact ⟨rfl, rfl⟩
    | stray hline' => cases hline.unique hline'
  | stray hline =>
    cases h' with
    | cons hline' => cases hline.unique hline'
    | stray hline' =>
      cases hline.unique hline'
      exact ⟨rfl, rfl⟩

/-- A run ends well, or at a line that is no JSON. -/
theorem Course.failure_ne_filenames (h : Course lines artifacts failure) :
    failure ≠ some .filenames := by
  induction h with
  | nil => nofun
  | cons _ _ ih => exact ih
  | stray => nofun

/-- Lines are sound if the first one is not misread, and stray or followed by sound ones. -/
theorem sound_cons_iff :
    Sound (line :: lines) ↔ ¬ Misread line ∧ (Stray line ∨ Sound lines) := by
  constructor
  · intro h
    refine ⟨h [] line lines rfl nofun, or_iff_not_imp_left.2 fun hstray ↦ ?_⟩
    intro before l after hlines hbefore
    have hsplit : line :: lines = (line :: before) ++ l :: after := by rw [hlines, List.cons_append]
    exact h (line :: before) l after hsplit (List.forall_mem_cons.2 ⟨hstray, hbefore⟩)
  · rintro ⟨hline, hlines⟩ before l after hsplit hbefore
    rcases before with - | ⟨first, before⟩
    · obtain ⟨rfl, -⟩ := List.cons.inj hsplit
      exact hline
    · obtain ⟨rfl, hrest⟩ := List.cons.inj hsplit
      have hbefore := List.forall_mem_cons.1 hbefore
      exact (hlines.resolve_left hbefore.1) before l after hrest hbefore.2

/-- Behind a line that is used the others follow. -/
theorem ofLines_cons_of_ok {found : Option Artifact} (h : ofLine line = .ok found) :
    ofLines (line :: lines) = (found.toList ++ (ofLines lines).1, (ofLines lines).2) := by
  rw [ofLines, h]

/-- A line that cannot be used keeps the others back. -/
theorem ofLines_cons_of_error {e : Error} (h : ofLine line = .error e) :
    ofLines (line :: lines) = ([], some e) := by
  rw [ofLines, h]

/-- Lines run the course that they tell if none of them is misread. -/
theorem Sound.course (h : Sound lines) : Course lines (ofLines lines).1 (ofLines lines).2 := by
  induction lines with
  | nil => exact .nil
  | cons line lines ih =>
    obtain ⟨hline, hlines⟩ := sound_cons_iff.1 h
    obtain ⟨told, htold⟩ := exists_tells hline
    rcases told with fault | found
    · rw [ofLines_cons_of_error (htold.ofLine hline)]
      exact .stray htold
    · have hstray : ¬ Stray line := by
        rintro ⟨fault, hfault⟩
        cases htold.unique hfault
      rw [ofLines_cons_of_ok (htold.ofLine hline)]
      exact .cons htold (ih (hlines.resolve_left hstray))

/-- No artifact that is told of is lost if a run ends as it should. -/
theorem Course.length_le (h : Course lines artifacts failure)
    (hfailure : (ofLines lines).2 = failure) :
    artifacts.length ≤ (ofLines lines).1.length := by
  induction h with
  | nil => exact Nat.zero_le _
  | stray => exact Nat.zero_le _
  | @cons line lines found artifacts failure hline hlines ih =>
    by_cases hmisread : Misread line
    · obtain ⟨hnone, hstops | ⟨a, hmade⟩⟩ := hline.of_misread hmisread
      · rw [ofLines_cons_of_error hstops] at hfailure
        exact absurd hfailure.symm hlines.failure_ne_filenames
      · cases hnone
        rw [ofLines_cons_of_ok hmade] at hfailure ⊢
        exact Nat.le_succ_of_le (ih hfailure)
    · rw [ofLines_cons_of_ok (hline.ofLine hmisread)] at hfailure ⊢
      rw [List.length_append, List.length_append]
      exact Nat.add_le_add_left (ih hfailure) _

/-- Lines of which one is misread do not run the course that they tell. -/
theorem Course.sound (h : Course lines artifacts failure)
    (hrun : ofLines lines = (artifacts, failure)) : Sound lines := by
  -- the run tells where a line was misread: it stopped there, or one artifact is too many
  induction h with
  | nil =>
    intro before line after hsplit
    cases before <;> cases hsplit
  | stray hline =>
    refine sound_cons_iff.2 ⟨fun hmisread ↦ ?_, .inl ⟨_, hline⟩⟩
    cases (hline.of_misread hmisread).1
  | @cons line lines found artifacts failure hline hlines ih =>
    have hmisread : ¬ Misread line := by
      intro hmisread
      obtain ⟨hnone, hstops | ⟨a, hmade⟩⟩ := hline.of_misread hmisread
      · rw [ofLines_cons_of_error hstops] at hrun
        exact absurd (congrArg Prod.snd hrun).symm hlines.failure_ne_filenames
      · -- The artifact that is made up is one too many.
        cases hnone
        rw [ofLines_cons_of_ok hmade] at hrun
        have hlength := hlines.length_le (congrArg Prod.snd hrun)
        have hmore : (ofLines lines).1.length + 1 = artifacts.length :=
          congrArg (List.length ∘ Prod.fst) hrun
        omega
    rw [ofLines_cons_of_ok (hline.ofLine hmisread), Prod.mk.injEq,
      List.append_cancel_left_eq] at hrun
    exact sound_cons_iff.2 ⟨hmisread, .inr (ih (Prod.ext hrun.1 hrun.2))⟩

/-- Lines run exactly the course that they tell, with the artifacts of their messages and an error
at the first line that is no JSON, if and only if no line is misread before that. -/
theorem course_iff_sound (lines : List (List Char)) :
    (∀ artifacts failure, ofLines lines = (artifacts, failure) ↔ Course lines artifacts failure) ↔
      Sound lines := by
  constructor
  · intro h
    have hcourse := (h _ _).1 rfl
    exact hcourse.sound rfl
  · intro h artifacts failure
    have hcourse := h.course
    constructor
    · intro hrun
      rwa [hrun] at hcourse
    · intro htold
      obtain ⟨hartifacts, hfailure⟩ := hcourse.unique htold
      exact Prod.ext hartifacts hfailure

/-- A message whose file names are a number. -/
def numberedMessage : List Char :=
  ("\x7b\"reason\": \"compiler-artifact\", \"target\": \x7b\"name\": \"a\", " ++
    "\"kind\": [\"lib\"]\x7d, \"filenames\": 5\x7d").toList

/-- A number for file names stops a run. -/
theorem not_course :
    ¬ ∀ lines artifacts failure,
      ofLines lines = (artifacts, failure) ↔ Course lines artifacts failure := by
  intro h
  have hrun : ofLines [numberedMessage] = ([], some .filenames) := by decide +kernel
  exact absurd rfl ((h _ _ _).1 hrun).failure_ne_filenames

end CrateDoc.Cargo.Artifact
