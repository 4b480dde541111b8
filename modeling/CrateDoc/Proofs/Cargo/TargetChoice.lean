import CrateDoc.Cargo.Target
import CrateDoc.Proofs.FirstFault

/-!
# The target that is chosen

Metadata can be used if their first package lists values, each of these is an object with a name and
exactly one kind (`Offers`), and one of them is a target that can be documented (`IsTarget`). The
targets are then read in their order, without those of other kinds (`ofMetadata_eq_ok_iff`).

* `choose?_eq_some_iff`: the chosen target is the first of its kind, and is a library if there is
  one.
* `choose_iff_preferred`: what is chosen from any object of metadata, when there is a warning, and
  that whatever is wrong with the metadata is foreseen.
-/

namespace CrateDoc

/-! ### Reading values and lists -/

namespace Json.Value

theorem text?_eq_some_iff {v : Value} {s : String} : v.text? = some s ↔ v = .text s := by
  cases v <;> simp [text?]

theorem list?_eq_some_iff {v : Value} {items : List Value} :
    v.list? = some items ↔ v = .list items := by
  cases v <;> simp [list?]

/-- Only objects pass for objects. -/
theorem exists_eq_object {v : Value} (h : v.isObject = true) : ∃ fields, v = .object fields := by
  cases v with
  | object fields => exact ⟨fields, rfl⟩
  | _ => cases h

end Json.Value

/-- Before a result of a list there are only results of a kind, if there are only such before an
item that gives it. -/
theorem exists_filterMap_split_iff {α β : Type} {f : α → Option β} {xs : List α} {b : β}
    {p : β → Prop} :
    (∃ before after, xs.filterMap f = before ++ b :: after ∧ ∀ c ∈ before, p c) ↔
      ∃ before x after, xs = before ++ x :: after ∧ f x = some b ∧
        ∀ y ∈ before, ∀ c, f y = some c → p c := by
  constructor
  · rintro ⟨before, after, hsplit, hbefore⟩
    obtain ⟨front, back, rfl, rfl, hback⟩ := List.filterMap_eq_append_iff.1 hsplit
    obtain ⟨skipped, x, rest, rfl, hskipped, hx, -⟩ := List.filterMap_eq_cons_iff.1 hback
    refine ⟨front ++ skipped, x, rest, (List.append_assoc ..).symm, hx, fun y hy c hc ↦ ?_⟩
    rcases List.mem_append.1 hy with hy | hy
    · exact hbefore c (List.mem_filterMap.2 ⟨y, hy, hc⟩)
    · cases (hskipped y hy).symm.trans hc
  · rintro ⟨before, x, after, rfl, hx, hbefore⟩
    refine ⟨before.filterMap f, after.filterMap f, ?_, fun c hc ↦ ?_⟩
    · rw [List.filterMap_append, List.filterMap_cons_some hx]
    · obtain ⟨y, hy, hc⟩ := List.mem_filterMap.1 hc
      exact hbefore y hy c hc

end CrateDoc

namespace CrateDoc.Cargo.Target

open Json (Value)

variable {fields : List (String × Value)} {raw : List Value} {v : Value} {t : Target}

/-! ### Metadata that can be used -/

/-- The first package of metadata lists some values as its targets. -/
inductive Lists : Value → List Value → Prop
  | intro {fields package : List (String × Value)} {others raw : List Value}
      (hpackages : Entries.get? "packages" fields = some (.list (.object package :: others)))
      (htargets : Entries.get? "targets" package = some (.list raw)) : Lists (.object fields) raw

/-- A value describes a target: it is an object with a name and exactly one kind. -/
inductive Describes : Value → String → Value → Prop
  | intro {fields : List (String × Value)} {name : String} {kind : Value}
      (hname : Entries.get? "name" fields = some (.text name))
      (hkind : Entries.get? "kind" fields = some (.list [kind])) :
      Describes (.object fields) name kind

/-- A value describes a target that can be documented. -/
def IsTarget (v : Value) (t : Target) : Prop := Describes v t.name (.text t.kind.name)

/-- Metadata list some values as the targets of their first package, and each of these describes a
target. -/
structure Offers (metadata : Value) (raw : List Value) : Prop where
  lists : Lists metadata raw
  describes : ∀ v ∈ raw, ∃ name kind, Describes v name kind

/-- Several of the values describe targets that can be documented. -/
def Several (raw : List Value) : Prop :=
  ∃ v w, List.Sublist [v, w] raw ∧ (∃ t, IsTarget v t) ∧ ∃ t, IsTarget w t

/-- The target to document: the first of its kind, and a library if there is one. -/
structure Preferred (raw : List Value) (t : Target) : Prop where
  first : ∃ before v after, raw = before ++ v :: after ∧ IsTarget v t ∧
    ∀ w ∈ before, ∀ s, IsTarget w s → s.kind ≠ t.kind
  library : ∀ w ∈ raw, ∀ s, IsTarget w s → s.kind = .library → t.kind = .library

/-- Metadata lists one sequence of targets at most. -/
theorem Lists.unique {metadata : Value} {raw raw' : List Value} (h : Lists metadata raw)
    (h' : Lists metadata raw') : raw = raw' := by
  obtain ⟨hpackages, htargets⟩ := h
  obtain ⟨hpackages', htargets'⟩ := h'
  cases hpackages.symm.trans hpackages'
  cases htargets.symm.trans htargets'
  rfl

/-! ### Single targets -/

/-- The target that a value describes, if it can be documented. -/
def target? (v : Value) : Option Target := (ofValue v).toOption.join

/-- A kind is read from its own name only. -/
theorem ofName?_eq_some_iff {name : String} {kind : TargetKind} :
    TargetKind.ofName? name = some kind ↔ name = kind.name := by
  constructor
  · intro h
    have hname := List.find?_some h
    exact (eq_of_beq hname).symm
  · rintro rfl
    cases kind <;> decide

/-- A described target is read, or passed over where its kind is not a known one. -/
theorem ofValue_of_describes {name : String} {kind : Value} (h : Describes v name kind) :
    ofValue v = .ok ((kind.text?.bind TargetKind.ofName?).map (⟨name, ·⟩)) := by
  obtain ⟨hname, hkind⟩ := h
  simp only [ofValue, Value.field?, hname, hkind, Option.bind_some, Value.text?, Value.list?]

/-- What is read from a value is what it describes, and a value that describes no target is
refused. -/
theorem ofValue_eq_ok_iff {found : Option Target} :
    ofValue v = .ok found ↔ (∃ name kind, Describes v name kind) ∧ found = target? v := by
  constructor
  · intro h
    refine ⟨?_, by rw [target?, h]; rfl⟩
    rw [ofValue] at h
    split at h
    · rename_i name kind hname hkind
      cases v with
      | object fields =>
        obtain ⟨_, hnamed, hname⟩ := Option.bind_eq_some_iff.1 hname
        obtain ⟨_, hkinds, hkind⟩ := Option.bind_eq_some_iff.1 hkind
        rw [Value.text?_eq_some_iff.1 hname] at hnamed
        rw [Value.list?_eq_some_iff.1 hkind] at hkinds
        exact ⟨name, kind, hnamed, hkinds⟩
      | _ => cases hname
    · cases h
    · cases h
  · rintro ⟨⟨name, kind, hdescribes⟩, rfl⟩
    rw [target?, ofValue_of_describes hdescribes]
    rfl

/-- Every refusal of a target is a foreseen one. -/
theorem foreseen_of_ofValue {e : Error} (h : ofValue v = .error e) : e.foreseen = true := by
  rw [ofValue.eq_def] at h
  split at h <;> cases h <;> rfl

/-- What is read as a target is what states one. -/
theorem target?_eq_some_iff : target? v = some t ↔ IsTarget v t := by
  constructor
  · intro h
    rcases hv : ofValue v with e | found
    · rw [target?, hv] at h
      cases h
    obtain ⟨⟨name, kind, hdescribes⟩, -⟩ := ofValue_eq_ok_iff.1 hv
    rw [target?, ofValue_of_describes hdescribes] at h
    -- The kind is a text, and the name of a kind that can be documented.
    obtain ⟨k, hk, rfl⟩ := Option.map_eq_some_iff.1 h
    obtain ⟨text, htext, hname⟩ := Option.bind_eq_some_iff.1 hk
    rw [Value.text?_eq_some_iff.1 htext, ofName?_eq_some_iff.1 hname] at hdescribes
    exact hdescribes
  · intro h
    rw [target?, ofValue_of_describes h]
    show ((TargetKind.ofName? t.kind.name).map fun kind ↦ (⟨t.name, kind⟩ : Target)) = some t
    rw [ofName?_eq_some_iff.2 rfl, Option.map_some]

/-! ### All targets -/

/-- The first package lists the values that are read, or it is said what is missing. -/
theorem ofMetadata_cases (fields : List (String × Value)) :
    (∃ raw, Lists (.object fields) raw ∧
      ofMetadata (.object fields) = do return (← raw.mapM ofValue).filterMap id) ∨
    ((∀ raw, ¬ Lists (.object fields) raw) ∧
      ∃ e ∈ [Error.noPackages, .targetsNoList], ofMetadata (.object fields) = .error e) := by
  rw [ofMetadata, Value.isObject, if_neg (by decide)]
  -- three looks at the metadata, each of which can leave it without a list of targets
  dsimp only [Value.field?]
  split
  · rename_i package others hpackages
    split
    · rename_i hobject
      obtain ⟨entries, rfl⟩ := Value.exists_eq_object hobject
      simp only [pure_bind]
      split
      · rename_i raw htargets
        left
        exact ⟨raw, ⟨hpackages, htargets⟩, rfl⟩
      · rename_i htargets
        right
        refine ⟨?_, _, by decide, rfl⟩
        rintro raw ⟨hfirst, hlisted⟩
        cases hpackages.symm.trans hfirst
        exact htargets _ hlisted
    · rename_i hobject
      right
      refine ⟨?_, _, by decide, rfl⟩
      rintro raw ⟨hfirst, -⟩
      cases hpackages.symm.trans hfirst
      exact hobject rfl
  · rename_i hpackages
    right
    refine ⟨?_, _, by decide, rfl⟩
    rintro raw ⟨hfirst, -⟩
    exact hpackages _ _ hfirst

/-- Values are read one by one if each of them describes a target. -/
theorem mapM_ofValue_eq_ok_iff {found : List (Option Target)} :
    raw.mapM ofValue = .ok found ↔
      (∀ v ∈ raw, ∃ name kind, Describes v name kind) ∧ found = raw.map target? := by
  simp only [mapM_eq_ok_iff, ofValue_eq_ok_iff, List.forall₂_and_left]
  refine and_congr_right' ?_
  constructor
  · intro h
    have heq := List.forall₂_map_left_iff.2 (h.imp fun _ _ ↦ Eq.symm)
    exact (List.forall₂_eq_eq_eq ▸ heq).symm
  · rintro rfl
    exact List.forall₂_map_right_iff.2 (List.forall₂_same.2 fun _ _ ↦ rfl)

theorem ofMetadata_eq_ok_iff {targets : List Target} :
    ofMetadata (.object fields) = .ok targets ↔
      ∃ raw, Offers (.object fields) raw ∧ targets = raw.filterMap target? := by
  rcases ofMetadata_cases fields with ⟨raw, hlists, hread⟩ | ⟨hlists, e, -, hread⟩
  · rw [hread, bind_eq_ok_iff]
    constructor
    · rintro ⟨found, hfound, htargets⟩
      obtain ⟨hdescribes, rfl⟩ := mapM_ofValue_eq_ok_iff.1 hfound
      cases htargets
      exact ⟨raw, ⟨hlists, hdescribes⟩, List.filterMap_map⟩
    · rintro ⟨raw', hoffers, rfl⟩
      obtain rfl := hlists.unique hoffers.lists
      exact ⟨raw.map target?, mapM_ofValue_eq_ok_iff.2 ⟨hoffers.describes, rfl⟩,
        congrArg Except.ok List.filterMap_map⟩
  · rw [hread]
    constructor
    · intro h
      cases h
    · rintro ⟨raw, hoffers, -⟩
      exact absurd hoffers.lists (hlists raw)

/-- Whatever is wrong with an object of metadata is foreseen. -/
theorem foreseen_of_choose {metadata : Value} {e : Error} (hobject : metadata.isObject = true)
    (h : choose metadata = .error e) : e.foreseen = true := by
  obtain ⟨fields, rfl⟩ := Value.exists_eq_object hobject
  rcases bind_eq_error_iff.1 h with h | ⟨targets, -, h⟩
  · rcases ofMetadata_cases fields with ⟨raw, -, hread⟩ | ⟨-, e', he', hread⟩
    · rw [hread] at h
      rcases bind_eq_error_iff.1 h with h | ⟨found, -, h⟩
      · obtain ⟨v, -, hv⟩ := exists_mem_of_mapM_eq_error h
        exact foreseen_of_ofValue hv
      · cases h
    · cases hread.symm.trans h
      have hall : ∀ e ∈ [Error.noPackages, .targetsNoList], e.foreseen = true := by decide
      exact hall _ he'
  · split at h
    · cases h
      rfl
    · cases h

/-! ### The choice -/

/-- The found target is the first of its kind. -/
theorem find?_kind_eq_some_iff {targets : List Target} {kind : TargetKind} :
    targets.find? (·.kind = kind) = some t ↔
      t.kind = kind ∧
        ∃ before after, targets = before ++ t :: after ∧ ∀ s ∈ before, s.kind ≠ kind := by
  simp [List.find?_eq_some_iff_append]

/-- The first library is chosen, or else the first binary. -/
theorem choose?_eq_or (targets : List Target) :
    choose? targets =
      (targets.find? (·.kind = .library)).or (targets.find? (·.kind = .binary)) := by
  rcases targets with - | ⟨first, rest⟩
  · rfl
  rw [choose?]
  rcases hfind : (first :: rest).find? (·.kind = .library) with - | library
  · have hfirst : first.kind = .binary := by
      have hlibrary := List.find?_eq_none.1 hfind first List.mem_cons_self
      cases hkind : first.kind with
      | library => exact absurd (decide_eq_true hkind) hlibrary
      | binary => rfl
    have hfound : (first :: rest).find? (·.kind = .binary) = some first := by simp [hfirst]
    rw [hfind, hfound, Option.getD_none, Option.none_or]
  · rw [hfind, Option.getD_some, Option.some_or]

/-- The chosen target is the first of its kind, and is a library if there is one. -/
theorem choose?_eq_some_iff {targets : List Target} :
    choose? targets = some t ↔
      (∃ before after, targets = before ++ t :: after ∧ ∀ s ∈ before, s.kind ≠ t.kind) ∧
        ∀ s ∈ targets, s.kind = .library → t.kind = .library := by
  rw [choose?_eq_or, Option.or_eq_some_iff, find?_kind_eq_some_iff, find?_kind_eq_some_iff,
    List.find?_eq_none]
  constructor
  · rintro (⟨hkind, hfirst⟩ | ⟨hnone, hkind, hfirst⟩)
    · exact ⟨by rwa [hkind], fun _ _ _ ↦ hkind⟩
    · refine ⟨by rwa [hkind], fun s hs hlibrary ↦ ?_⟩
      exact absurd (decide_eq_true hlibrary) (hnone s hs)
  · rintro ⟨hfirst, hprefers⟩
    cases hkind : t.kind with
    | library => exact .inl ⟨rfl, by rwa [hkind] at hfirst⟩
    | binary =>
      refine .inr ⟨fun s hs hlibrary ↦ ?_, rfl, by rwa [hkind] at hfirst⟩
      cases hkind.symm.trans (hprefers s hs (of_decide_eq_true hlibrary))

/-- The targets read are those the entries state. -/
theorem mem_filterMap_target?_iff : t ∈ raw.filterMap target? ↔ ∃ v ∈ raw, IsTarget v t := by
  simp only [List.mem_filterMap, target?_eq_some_iff]

/-- A target is chosen among values as it is among the targets that they describe. -/
theorem choose?_filterMap_eq_some_iff :
    choose? (raw.filterMap target?) = some t ↔ Preferred raw t := by
  rw [choose?_eq_some_iff, exists_filterMap_split_iff]
  simp only [target?_eq_some_iff, mem_filterMap_target?_iff]
  constructor
  · rintro ⟨hfirst, hprefers⟩
    exact ⟨hfirst, fun w hw s hs ↦ hprefers s ⟨w, hw, hs⟩⟩
  · rintro ⟨hfirst, hlibrary⟩
    exact ⟨hfirst, fun s ⟨w, hw, hs⟩ ↦ hlibrary w hw s hs⟩

/-- Entries state several targets exactly if two or more are read. -/
theorem several_iff : Several raw ↔ 2 ≤ (raw.filterMap target?).length := by
  constructor
  · rintro ⟨v, w, hsublist, ⟨s, hs⟩, t, ht⟩
    have hlength := (hsublist.filterMap target?).length_le
    rwa [List.filterMap_cons_some (target?_eq_some_iff.2 hs),
      List.filterMap_cons_some (target?_eq_some_iff.2 ht)] at hlength
  · intro h
    rcases htargets : raw.filterMap target? with - | ⟨s, - | ⟨t, targets⟩⟩
    · simp [htargets] at h
    · simp [htargets] at h
    obtain ⟨before, v, rest, rfl, -, hv, hrest⟩ := List.filterMap_eq_cons_iff.1 htargets
    obtain ⟨between, w, after, rfl, -, hw, -⟩ := List.filterMap_eq_cons_iff.1 hrest
    refine ⟨v, w, ?_, ⟨s, target?_eq_some_iff.1 hv⟩, t, target?_eq_some_iff.1 hw⟩
    have hsecond : List.Sublist [w] (between ++ w :: after) := by simp
    exact (hsecond.cons_cons v).trans (List.sublist_append_right before _)

/-- A target is chosen and there is a warning or not, or the metadata cannot be used. -/
theorem choose_eq_ok_iff {log : List LogRecord} :
    choose (.object fields) = .ok (t, log) ↔
      ∃ raw, Offers (.object fields) raw ∧ Preferred raw t ∧
        (Several raw ∧ log = [choiceWarning t] ∨ ¬ Several raw ∧ log = []) := by
  -- something is preferred, so there are targets, and not one means several
  have hlog : ∀ raw : List Value, Preferred raw t →
      (log = (if (raw.filterMap target?).length = 1 then [] else [choiceWarning t]) ↔
        Several raw ∧ log = [choiceWarning t] ∨ ¬ Several raw ∧ log = []) := by
    intro raw hpreferred
    have hpos : 0 < (raw.filterMap target?).length := by
      obtain ⟨before, v, after, rfl, hv, -⟩ := hpreferred.first
      exact List.length_pos_of_mem (mem_filterMap_target?_iff.2 ⟨v, by simp, hv⟩)
    rw [several_iff]
    split_ifs with hone
    · simp [hone]
    · have htwo : 2 ≤ (raw.filterMap target?).length := by omega
      simp [htwo]
  rw [choose, bind_eq_ok_iff]
  constructor
  · rintro ⟨targets, htargets, h⟩
    obtain ⟨raw, hoffers, rfl⟩ := ofMetadata_eq_ok_iff.1 htargets
    rcases hchoose : choose? (raw.filterMap target?) with - | chosen
    · rw [hchoose] at h
      cases h
    · rw [hchoose] at h
      cases h
      have hpreferred := choose?_filterMap_eq_some_iff.1 hchoose
      exact ⟨raw, hoffers, hpreferred, (hlog raw hpreferred).1 rfl⟩
  · rintro ⟨raw, hoffers, hpreferred, h⟩
    refine ⟨raw.filterMap target?, ofMetadata_eq_ok_iff.2 ⟨raw, hoffers, rfl⟩, ?_⟩
    rw [choose?_filterMap_eq_some_iff.2 hpreferred, (hlog raw hpreferred).2 h]
    rfl

/-- A choice is made exactly if there is a target. -/
theorem exists_choose?_eq_some_iff {targets : List Target} :
    (∃ t, choose? targets = some t) ↔ ∃ t, t ∈ targets := by
  rcases targets with - | ⟨first, rest⟩
  · simp [choose?]
  · simp [choose?]

/-- From an object of metadata a target is chosen exactly if the first package lists values that all
describe targets, one of them a target that can be documented. It is the first library, or else the
first binary; there is a warning exactly if there are several. Everything else is refused with an
error that is foreseen. -/
theorem choose_iff_preferred (fields : List (String × Value)) :
    ((∃ chosen, choose (.object fields) = .ok chosen) ↔
      ∃ raw, Offers (.object fields) raw ∧ ∃ v ∈ raw, ∃ t, IsTarget v t) ∧
    (∀ t log, choose (.object fields) = .ok (t, log) ↔
      ∃ raw, Offers (.object fields) raw ∧ Preferred raw t ∧
        (Several raw ∧ log = [choiceWarning t] ∨ ¬ Several raw ∧ log = [])) ∧
    ∀ e, choose (.object fields) = .error e → e.foreseen = true := by
  refine ⟨⟨?_, ?_⟩, fun t log ↦ choose_eq_ok_iff, fun e ↦ foreseen_of_choose rfl⟩
  · rintro ⟨⟨t, log⟩, h⟩
    obtain ⟨raw, hoffers, hpreferred, -⟩ := choose_eq_ok_iff.1 h
    obtain ⟨before, v, after, rfl, hv, -⟩ := hpreferred.first
    exact ⟨_, hoffers, v, by simp, t, hv⟩
  · rintro ⟨raw, hoffers, v, hmem, t, hv⟩
    obtain ⟨chosen, hchosen⟩ :=
      exists_choose?_eq_some_iff.2 ⟨t, mem_filterMap_target?_iff.2 ⟨v, hmem, hv⟩⟩
    have hpreferred := choose?_filterMap_eq_some_iff.1 hchosen
    by_cases hseveral : Several raw
    · exact ⟨_, choose_eq_ok_iff.2 ⟨raw, hoffers, hpreferred, .inl ⟨hseveral, rfl⟩⟩⟩
    · exact ⟨_, choose_eq_ok_iff.2 ⟨raw, hoffers, hpreferred, .inr ⟨hseveral, rfl⟩⟩⟩

end CrateDoc.Cargo.Target
