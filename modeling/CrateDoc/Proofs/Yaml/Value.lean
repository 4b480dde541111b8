import CrateDoc.Yaml.Value
import Mathlib.Data.Int.Notation

/-!
# Values of documents as data

Whether two values are the same can be decided (`same_iff`), so that what is read off a given text
can be compared with what it should be. `isNothing_iff` lists the values that count as nothing.
-/

namespace CrateDoc.Yaml.Value

/-! ### Sameness -/

mutual

/-- Whether two values are the same. -/
def same : Value → Value → Bool
  | .null, .null => true
  | .bool b, .bool c => b == c
  | .int m, .int n => m == n
  | .float x, .float y => x == y
  | .text s, .text t => s == t
  | .bytes bs, .bytes cs => bs == cs
  | .time, .time => true
  | .list vs, .list ws => sameAll vs ws
  | .set vs, .set ws => sameAll vs ws
  | .mapping es, .mapping fs => sameEntries es fs
  | _, _ => false

/-- Whether values are the same one by one. -/
def sameAll : List Value → List Value → Bool
  | [], [] => true
  | v :: vs, w :: ws => same v w && sameAll vs ws
  | _, _ => false

/-- Whether entries are the same one by one. -/
def sameEntries : List (Value × Value) → List (Value × Value) → Bool
  | [], [] => true
  | (k, v) :: es, (l, w) :: fs => same k l && same v w && sameEntries es fs
  | _, _ => false

end

mutual

theorem same_iff : ∀ v w : Value, same v w = true ↔ v = w
  | .null, w | .time, w => by cases w <;> simp [same]
  | .bool _, w | .int _, w | .float _, w | .text _, w | .bytes _, w => by cases w <;> simp [same]
  | .list vs, w | .set vs, w => by cases w <;> simp [same, sameAll_iff vs]
  | .mapping es, w => by cases w <;> simp [same, sameEntries_iff es]

theorem sameAll_iff : ∀ vs ws : List Value, sameAll vs ws = true ↔ vs = ws
  | [], ws => by cases ws <;> simp [sameAll]
  | v :: vs, ws => by cases ws <;> simp [sameAll, same_iff v, sameAll_iff vs]

theorem sameEntries_iff : ∀ es fs : List (Value × Value), sameEntries es fs = true ↔ es = fs
  | [], fs => by cases fs <;> simp [sameEntries]
  | (k, v) :: es, fs => by
    cases fs <;> simp [sameEntries, Prod.ext_iff, same_iff k, same_iff v, sameEntries_iff es]

end

instance : DecidableEq Value := fun v w ↦ decidable_of_iff (same v w = true) (same_iff v w)

/-! ### Nothing -/

/-- Whether a value is a mapping. -/
def IsMapping (value : Value) : Prop := ∃ entries, value = .mapping entries

/-- Values besides the null value and mappings that count as nothing. -/
inductive IsVoid : Value → Prop
  | false : IsVoid (.bool false)
  | zero : IsVoid (.int 0)
  | floatZero (negative : Bool) (exponent : ℤ) : IsVoid (.float (.finite negative 0 exponent))
  | text : IsVoid (.text "")
  | bytes : IsVoid (.bytes [])
  | list : IsVoid (.list [])
  | set : IsVoid (.set [])

/-- Without mappings, what counts as nothing is the null value and what is void. -/
theorem isNothing_iff {value : Value} (h : ¬ value.IsMapping) :
    value.isNothing = true ↔ value = .null ∨ IsVoid value := by
  constructor
  · intro hnothing
    -- each kind of value has one that is empty; mappings alone are left to `h`
    fun_cases isNothing value with
    | case1 => exact .inl rfl
    | case2 b =>
      have hb : b = false := by simpa [isNothing] using hnothing
      exact .inr (hb ▸ .false)
    | case3 n =>
      have hn : n = 0 := by simpa [isNothing] using hnothing
      exact .inr (hn ▸ .zero)
    | case4 x =>
      rcases x with - | negative | ⟨negative, mantissa, exponent⟩
      · cases hnothing
      · cases hnothing
      · have hzero : mantissa = 0 := by simpa [isNothing, Binary64.isZero] using hnothing
        exact .inr (hzero ▸ .floatZero negative exponent)
    | case5 s =>
      have hs : s = "" := by simpa [isNothing] using hnothing
      exact .inr (hs ▸ .text)
    | case6 bytes =>
      have hbytes : bytes = [] := by simpa [isNothing] using hnothing
      exact .inr (hbytes ▸ .bytes)
    | case7 => cases hnothing
    | case8 items =>
      have hitems : items = [] := by simpa [isNothing] using hnothing
      exact .inr (hitems ▸ .list)
    | case9 members =>
      have hmembers : members = [] := by simpa [isNothing] using hnothing
      exact .inr (hmembers ▸ .set)
    | case10 entries => exact absurd ⟨entries, rfl⟩ h
  · rintro (rfl | hvoid)
    · rfl
    · cases hvoid <;> rfl

end CrateDoc.Yaml.Value
