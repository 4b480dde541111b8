/-!
# Keyed entries in order of insertion

A list of pairs read as a map. `put` replaces the value of an equal key where it stands, keeping
the key that came first, and otherwise adds the pair at the end; so the order of the keys is the
order in which each was first put.
-/

namespace CrateDoc

/-- Pairs of a key and a value, in the order in which the keys were first put. -/
abbrev Entries (κ ν : Type) := List (κ × ν)

namespace Entries

variable {κ ν : Type} [BEq κ]

/-- The value of a key. -/
def get? (key : κ) : Entries κ ν → Option ν
  | [] => none
  | (k, v) :: rest => if k == key then some v else get? key rest

/-- Whether a key is there. -/
def has (key : κ) (entries : Entries κ ν) : Bool := (get? key entries).isSome

/-- Gives a key its value, in place if the key is there and at the end if it is not. -/
def put (key : κ) (value : ν) : Entries κ ν → Entries κ ν
  | [] => [(key, value)]
  | (k, v) :: rest => if k == key then (k, value) :: rest else (k, v) :: put key value rest

/-- Puts all pairs of a list, from the first to the last. -/
def ofPairs (pairs : List (κ × ν)) : Entries κ ν :=
  pairs.foldl (fun entries pair => put pair.1 pair.2 entries) []

@[simp] theorem get?_nil (key : κ) : get? key ([] : Entries κ ν) = none := rfl

/-- What was put last under a key is what is found there. -/
theorem get?_put_self [ReflBEq κ] (key : κ) (value : ν) (entries : Entries κ ν) :
    get? key (put key value entries) = some value := by
  induction entries with
  | nil => simp [put, get?]
  | cons pair rest ih =>
    by_cases h : pair.1 == key
    · simp [put, get?, h]
    · simp [put, get?, h, ih]

/-- Putting one key leaves every other key alone. -/
theorem get?_put_of_ne [PartialEquivBEq κ] {key other : κ} (value : ν) (entries : Entries κ ν)
    (h : (key == other) = false) : get? other (put key value entries) = get? other entries := by
  induction entries with
  | nil => simp [put, get?, h]
  | cons pair rest ih =>
    by_cases hk : pair.1 == key
    · have : (pair.1 == other) = false := by
        cases ho : pair.1 == other with
        | false => rfl
        | true => exact absurd (PartialEquivBEq.trans (PartialEquivBEq.symm hk) ho) (by simp [h])
      simp [put, get?, hk, this]
    · by_cases ho : pair.1 == other
      · simp [put, get?, hk, ho]
      · simp [put, get?, hk, ho, ih]

end Entries

end CrateDoc
