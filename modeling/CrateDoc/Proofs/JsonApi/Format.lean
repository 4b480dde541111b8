import CrateDoc.Proofs.JsonApi.RoundTrip

/-!
# The format of a documentation

Which values are documentations (`JsonApi.IsDocumentation`), and how each of them would be written
(`JsonApi.normalDocumentation`), said of the values alone and part by part: references, what
relations lead to, records, and the whole.

A reader *normalizes* (`JsonApi.Normalizes`) if it takes exactly the values of a format, and what is
written of its results is the normal form of what it was given. Readers of lists, of maps and of
objects do so if the readers of their parts do, so the parts of a documentation follow one after the
other.

Main statement: `Documentation.accepts_and_normalizes`.
-/

namespace CrateDoc

open Json (Value)

namespace JsonApi

/-! ### Formats -/

/-- Objects whose fields are of a format. -/
def ObjectOf (format : List (String × Value) → Prop) : Value → Prop
  | .object fields => format fields
  | _ => False

/-- A value that is a text. -/
def IsText (v : Value) : Prop := ∃ s, v = .text s

/-- The type of a record or of a reference: what stands under `type`, or else under `type_`. -/
def typeIn (fields : List (String × Value)) : Option Value :=
  (Entries.get? "type" fields).or (Entries.get? "type_" fields)

/-- A type and an id, both texts. -/
def HasIdentity (fields : List (String × Value)) : Prop :=
  (∃ v ∈ typeIn fields, IsText v) ∧ ∃ v ∈ Entries.get? "id" fields, IsText v

/-- Objects that name a record. -/
def IsReference : Value → Prop := ObjectOf HasIdentity

/-- A list of references, or one reference. -/
def IsTarget : Value → Prop
  | .list targets => ∀ v ∈ targets, IsReference v
  | v => IsReference v

/-- Objects that say under `data` what they lead to. -/
def IsRelation : Value → Prop := ObjectOf fun fields ↦ ∃ v ∈ Entries.get? "data" fields, IsTarget v

/-- Attributes that are left out, or an object of texts. -/
def AreAttributes : Option Value → Prop
  | none => True
  | some v => ObjectOf (∀ field ∈ ·, IsText field.2) v

/-- Relationships that are left out, or `null`, or an object of relations. -/
def AreRelationships : Option Value → Prop
  | none | some .null => True
  | some v => ObjectOf (∀ field ∈ ·, IsRelation field.2) v

/-- Objects that name themselves, and may have attributes and relationships. -/
def IsRecord : Value → Prop := ObjectOf fun fields ↦
  HasIdentity fields ∧ AreAttributes (Entries.get? "attributes" fields) ∧
    AreRelationships (Entries.get? "relationships" fields)

/-- Records that are left out, or a list of records. -/
def AreRecords : Option Value → Prop
  | none => True
  | some (.list records) => ∀ v ∈ records, IsRecord v
  | some _ => False

/-- Objects with a record under `data`, and perhaps more of them under `included`. -/
def IsDocumentation : Value → Prop := ObjectOf fun fields ↦
  (∃ v ∈ Entries.get? "data" fields, IsRecord v) ∧ AreRecords (Entries.get? "included" fields)

/-! ### Normal forms -/

/-- An object of which only the fields are changed. -/
def onFields (normal : List (String × Value) → List (String × Value)) : Value → Value
  | .object fields => .object (normal fields)
  | v => v

/-- A field that is shown if there is something to show. -/
def shown (name : String) (v : Option Value) : List (String × Value) := v.toList.map (name, ·)

/-- Type and id. -/
def normalIdentity (fields : List (String × Value)) : List (String × Value) :=
  shown "type" (typeIn fields) ++ shown "id" (Entries.get? "id" fields)

/-- Type and id and nothing else. -/
def normalReference : Value → Value := onFields normalIdentity

/-- References in their order. -/
def normalTarget : Value → Value
  | .list targets => .list (targets.map normalReference)
  | v => normalReference v

/-- What a relation leads to and nothing else. -/
def normalRelation : Value → Value :=
  onFields fun fields ↦ shown "data" ((Entries.get? "data" fields).map normalTarget)

/-- Attributes as they are; none are an empty object. -/
def normalAttributes (v : Option Value) : Value := v.getD (.object [])

/-- Relations in their order, if there are any. -/
def normalRelationships : Option Value → Option Value
  | some (.object (field :: fields)) =>
    some (.object ((field :: fields).map fun (name, v) ↦ (name, normalRelation v)))
  | _ => none

/-- Type, id, attributes, relationships and nothing else. -/
def normalRecord : Value → Value := onFields fun fields ↦
  normalIdentity fields ++
    (shown "attributes" (some (normalAttributes (Entries.get? "attributes" fields))) ++
      shown "relationships" (normalRelationships (Entries.get? "relationships" fields)))

/-- Records in their order; none are an empty list. -/
def normalRecords : Option Value → Value
  | some (.list records) => .list (records.map normalRecord)
  | _ => .list []

/-- The record of the crate, the others, and nothing else. -/
def normalDocumentation : Value → Value := onFields fun fields ↦
  shown "data" ((Entries.get? "data" fields).map normalRecord) ++
    shown "included" (some (normalRecords (Entries.get? "included" fields)))

/-! ### Checks that find nothing wrong -/

namespace Checked

variable {α β : Type} {x : Checked α} {y : Checked β}

theorem map_eq_ok_iff {f : α → β} {b : β} : f <$> x = .ok b ↔ ∃ a, x = .ok a ∧ f a = b := by
  rcases x with problems | a
  · exact ⟨nofun, fun ⟨_, h, _⟩ ↦ by cases h⟩
  · show Except.ok (f a) = .ok b ↔ _
    simp

theorem exists_map_eq_ok_iff {f : α → β} : (∃ b, f <$> x = .ok b) ↔ ∃ a, x = .ok a := by
  simp only [map_eq_ok_iff]
  exact ⟨fun ⟨_, a, ha, _⟩ ↦ ⟨a, ha⟩, fun ⟨a, ha⟩ ↦ ⟨f a, a, ha, rfl⟩⟩

theorem within_eq_ok_iff {step : Step} {a : α} : within step x = .ok a ↔ x = .ok a := by
  rcases x with problems | a'
  · constructor <;> rintro ⟨⟩
  · rfl

theorem both_eq_ok_iff {a : α} {b : β} : both x y = .ok (a, b) ↔ x = .ok a ∧ y = .ok b := by
  rcases x with problems | a' <;> rcases y with problems' | b' <;> simp [both]

theorem required_eq_ok_iff {name : String} {read : Value → Checked α} {v : Option Value} {a : α} :
    required name read v = .ok a ↔ ∃ v' ∈ v, read v' = .ok a := by
  refine within_eq_ok_iff.trans ?_
  rcases v with - | v
  · exact ⟨nofun, nofun⟩
  · simp

theorem text_eq_ok_iff {v : Value} {s : String} : text v = .ok s ↔ v = .text s := by
  cases v with
  | text t => simp [text]
  | _ => exact ⟨nofun, nofun⟩

end Checked

/-! ### Readers that normalize -/

/-- A reader takes exactly the values of a format, and what is written of its results is the normal
form of these values. -/
structure Normalizes {ι α ω : Type} (read : ι → Checked α) (write : α → ω) (format : ι → Prop)
    (normal : ι → ω) : Prop where
  accepts : ∀ v, (∃ a, read v = .ok a) ↔ format v
  writes : ∀ v a, read v = .ok a → write a = normal v

section

variable {ι κ α β ω χ : Type} {read : ι → Checked α} {write : α → ω} {format : ι → Prop}
  {normal : ι → ω}

/-- The same of a part of what is given. -/
theorem Normalizes.comp (h : Normalizes read write format normal) (part : κ → ι) :
    Normalizes (fun v ↦ read (part v)) write (fun v ↦ format (part v)) (fun v ↦ normal (part v)) :=
  ⟨fun v ↦ h.accepts (part v), fun v ↦ h.writes (part v)⟩

/-- To say where problems lie does not change what a reader accepts. -/
theorem Normalizes.within (h : Normalizes read write format normal) (step : Step) :
    Normalizes (fun v ↦ Checked.within step (read v)) write format normal where
  accepts v := by simp only [Checked.within_eq_ok_iff, h.accepts]
  writes v a hread := h.writes v a (Checked.within_eq_ok_iff.1 hread)

/-- The same of what is made of the writing. -/
theorem Normalizes.image (h : Normalizes read write format normal) (f : ω → χ) :
    Normalizes read (fun a ↦ f (write a)) format (fun v ↦ f (normal v)) :=
  ⟨h.accepts, fun v a hread ↦ congrArg f (h.writes v a hread)⟩

/-- Two parts are read if each of them is, and are written one after the other. -/
theorem Normalizes.both {write : α → List ω} {normal : ι → List ω}
    (h : Normalizes read write format normal) {read' : ι → Checked β} {write' : β → List ω}
    {format' : ι → Prop} {normal' : ι → List ω} (h' : Normalizes read' write' format' normal') :
    Normalizes (fun v ↦ Checked.both (read v) (read' v)) (fun a ↦ write a.1 ++ write' a.2)
      (fun v ↦ format v ∧ format' v) (fun v ↦ normal v ++ normal' v) where
  accepts v := by
    simp only [Prod.exists, Checked.both_eq_ok_iff, exists_and_left, exists_and_right, h.accepts,
      h'.accepts]
  writes v a hread := by
    obtain ⟨ha, ha'⟩ := Checked.both_eq_ok_iff.1 hread
    rw [h.writes v _ ha, h'.writes v _ ha']

end

/-- A text is its own normal form. -/
theorem normalizes_text : Normalizes Checked.text .text IsText id where
  accepts v := by simp only [Checked.text_eq_ok_iff, IsText]
  writes v s h := (Checked.text_eq_ok_iff.1 h).symm

section

variable {α β ω : Type} {read : Value → Checked α} {write : α → Value} {format : Value → Prop}
  {normal : Value → Value}

/-- A field that has to be there is read if its value is. -/
theorem Normalizes.required (h : Normalizes read write format normal) (name : String) :
    Normalizes (Checked.required name read) (fun a ↦ some (write a)) (fun v ↦ ∃ v' ∈ v, format v')
      (Option.map normal) where
  accepts v := by
    simp only [Checked.required_eq_ok_iff, ← h.accepts]
    exact ⟨fun ⟨a, v', hv', ha⟩ ↦ ⟨v', hv', a, ha⟩, fun ⟨v', hv', a, ha⟩ ↦ ⟨a, v', hv', ha⟩⟩
  writes v a hread := by
    obtain ⟨v', rfl, ha⟩ := Checked.required_eq_ok_iff.1 hread
    rw [h.writes v' a ha, Option.map_some]

/-- A list is read if each of its items is, whatever the items are counted from. -/
theorem Normalizes.items (h : Normalizes read write format normal) (start : ℕ) :
    Normalizes (Checked.items read start) (List.map write) (∀ v ∈ ·, format v)
      (List.map normal) := by
  have hcons : ∀ start v vs, Checked.items read start (v :: vs) = (fun p ↦ p.1 :: p.2) <$>
      Checked.both (Checked.within (.item start) (read v)) (Checked.items read (start + 1) vs) :=
    fun _ _ _ ↦ rfl
  constructor
  · intro vs
    induction vs generalizing start with
    | nil => exact iff_of_true ⟨[], rfl⟩ fun _ hmem ↦ absurd hmem List.not_mem_nil
    | cons v vs ih =>
      rw [List.forall_mem_cons, ← h.accepts v, ← ih (start + 1), hcons,
        Checked.exists_map_eq_ok_iff]
      simp only [Prod.exists, Checked.both_eq_ok_iff, Checked.within_eq_ok_iff, exists_and_left,
        exists_and_right]
  · intro vs
    induction vs generalizing start with
    | nil =>
      rintro as ⟨⟩
      rfl
    | cons v vs ih =>
      intro as has
      rw [hcons] at has
      obtain ⟨⟨a, rest⟩, hboth, rfl⟩ := Checked.map_eq_ok_iff.1 has
      obtain ⟨ha, hrest⟩ := Checked.both_eq_ok_iff.1 hboth
      rw [List.map_cons, List.map_cons, h.writes v a (Checked.within_eq_ok_iff.1 ha),
        ih (start + 1) rest hrest]

/-- A map is read if each of its values is; it keeps its keys. -/
theorem Normalizes.entries (h : Normalizes read write format normal) :
    Normalizes (Checked.entries read) (List.map fun (name, a) ↦ (name, write a))
      (∀ field ∈ ·, format field.2) (List.map fun (name, v) ↦ (name, normal v)) := by
  -- one more field is read together with the others, so that both report their problems
  have hcons : ∀ name v fields, Checked.entries read ((name, v) :: fields) =
      (fun (a, as) ↦ a :: as) <$>
        Checked.both (Checked.within (.field name) ((name, ·) <$> read v))
          (Checked.entries read fields) :=
    fun _ _ _ ↦ rfl
  constructor
  · intro fields
    induction fields with
    | nil => exact iff_of_true ⟨[], rfl⟩ nofun
    | cons field fields ih =>
      obtain ⟨name, v⟩ := field
      rw [List.forall_mem_cons, ← h.accepts v, ← ih, hcons, Checked.exists_map_eq_ok_iff,
        ← Checked.exists_map_eq_ok_iff (x := read v) (f := (name, ·))]
      simp only [Prod.exists, Checked.both_eq_ok_iff, Checked.within_eq_ok_iff, exists_and_left,
        exists_and_right]
  · intro fields
    induction fields with
    | nil =>
      rintro as ⟨⟩
      rfl
    | cons field fields ih =>
      obtain ⟨name, v⟩ := field
      intro as has
      rw [hcons] at has
      obtain ⟨⟨entry, rest⟩, hboth, rfl⟩ := Checked.map_eq_ok_iff.1 has
      obtain ⟨hentry, hrest⟩ := Checked.both_eq_ok_iff.1 hboth
      obtain ⟨a, ha, rfl⟩ := Checked.map_eq_ok_iff.1 (Checked.within_eq_ok_iff.1 hentry)
      dsimp only
      rw [List.map_cons, List.map_cons, ih rest hrest, h.writes v a ha]

end

/-- Objects are read if their fields are, and nothing else is. -/
theorem Normalizes.object {α β : Type} {inner : List (String × Value) → Checked α} {make : α → β}
    {read : Value → Checked β} {write : α → List (String × Value)} {write' : β → Value}
    {format : List (String × Value) → Prop}
    {normal : List (String × Value) → List (String × Value)}
    (h : Normalizes inner write format normal)
    (hread : ∀ v, read v = match v with
      | .object fields => make <$> inner fields
      | _ => .fail .notRecord)
    (hwrite : ∀ a, write' (make a) = .object (write a)) :
    Normalizes read write' (ObjectOf format) (onFields normal) where
  accepts v := by
    rw [hread]
    cases v with
    | object fields => exact Checked.exists_map_eq_ok_iff.trans (h.accepts fields)
    | _ => exact ⟨nofun, nofun⟩
  writes v b hb := by
    rw [hread] at hb
    cases v with
    | object fields =>
      obtain ⟨a, ha, rfl⟩ := Checked.map_eq_ok_iff.1 hb
      rw [hwrite, h.writes fields a ha, onFields]
    | _ => cases hb

/-! ### References -/

theorem typeOfJson_eq_ok_iff {fields : List (String × Value)} {s : String} :
    typeOfJson fields = .ok s ↔ Checked.required "type" .text (typeIn fields) = .ok s := by
  rw [typeOfJson, typeIn]
  cases Entries.get? "type" fields with
  | some v => rfl
  | none =>
    cases Entries.get? "type_" fields with
    | none => rfl
    | some v => rw [Option.none_or, Checked.required_eq_ok_iff, Checked.required_eq_ok_iff]

theorem normalizes_type :
    Normalizes typeOfJson (fun s ↦ shown "type" (some (.text s)))
      (fun fields ↦ ∃ v ∈ typeIn fields, IsText v) (fun fields ↦ shown "type" (typeIn fields)) := by
  have htype := ((normalizes_text.required "type").comp typeIn).image (shown "type")
  simp only [Option.map_id_apply] at htype
  refine ⟨fun fields ↦ ?_, fun fields s hs ↦ htype.writes fields s (typeOfJson_eq_ok_iff.1 hs)⟩
  simp only [typeOfJson_eq_ok_iff, htype.accepts fields]

/-- A record is identified by its type and its id. -/
theorem normalizes_identity :
    Normalizes
      (fun fields ↦
        Checked.both (typeOfJson fields) (Checked.required "id" .text (Entries.get? "id" fields)))
      (fun identity ↦
        shown "type" (some (.text identity.1)) ++ shown "id" (some (.text identity.2)))
      HasIdentity normalIdentity := by
  have hid := ((normalizes_text.required "id").comp (Entries.get? "id")).image (shown "id")
  simp only [Option.map_id_apply] at hid
  exact normalizes_type.both hid

end JsonApi

open JsonApi

/-- References are accepted and written in normal form. -/
theorem Reference.normalizes :
    Normalizes Reference.ofJson Reference.toJson IsReference normalReference :=
  normalizes_identity.object (fun v ↦ by cases v <;> rfl) fun _ ↦ rfl

/-! ### Relations -/

namespace Relation

/-- What a relation leads to, as it is written. -/
def targetToJson : Relation → Value
  | .toOne target => target.toJson
  | .toMany targets => .list (targets.map Reference.toJson)

/-- No list is a single reference, so the second reading finds nothing in one. -/
theorem targetOfJson_list_eq_map (vs : List Value) (r : Relation) :
    targetOfJson (.list vs) = .ok r ↔ toMany <$> Checked.items Reference.ofJson 0 vs = .ok r := by
  have hlist : Reference.listOfJson (.list vs) = Checked.items Reference.ofJson 0 vs := rfl
  rw [targetOfJson, hlist]
  rcases Checked.items Reference.ofJson 0 vs with problems | targets
  · constructor <;> rintro ⟨⟩
  · rfl

/-- Of what is no list, the first reading finds nothing. -/
theorem targetOfJson_eq_ok_iff_of_ne_list {v : Value} (hv : ∀ vs, v ≠ .list vs) (r : Relation) :
    targetOfJson v = .ok r ↔ toOne <$> Reference.ofJson v = .ok r := by
  have hlist : Reference.listOfJson v = .fail .notList := by
    cases v with
    | list vs => exact absurd rfl (hv vs)
    | _ => rfl
  rw [targetOfJson, hlist]
  rcases Reference.ofJson v with problems | target
  · constructor <;> rintro ⟨⟩
  · rfl

theorem targetOfJson_normalizes :
    Normalizes targetOfJson targetToJson IsTarget normalTarget := by
  have hmany := (Reference.normalizes.items 0).image Value.list
  have hone : ∀ v, (∀ vs, v ≠ .list vs) →
      ((∃ r, targetOfJson v = .ok r) ↔ IsReference v) ∧
        ∀ r, targetOfJson v = .ok r → targetToJson r = normalReference v := by
    intro v hv
    simp only [targetOfJson_eq_ok_iff_of_ne_list hv]
    refine ⟨Checked.exists_map_eq_ok_iff.trans (Reference.normalizes.accepts v), fun r hr ↦ ?_⟩
    obtain ⟨target, htarget, rfl⟩ := Checked.map_eq_ok_iff.1 hr
    exact Reference.normalizes.writes v target htarget
  constructor
  · intro v
    cases v with
    | list vs =>
      simp only [targetOfJson_list_eq_map]
      exact Checked.exists_map_eq_ok_iff.trans (hmany.accepts vs)
    | _ => exact (hone _ (by simp)).1
  · intro v r hr
    cases v with
    | list vs =>
      obtain ⟨targets, htargets, rfl⟩ :=
        Checked.map_eq_ok_iff.1 ((targetOfJson_list_eq_map vs r).1 hr)
      exact hmany.writes vs targets htargets
    | _ => exact (hone _ (by simp)).2 r hr

/-- A relation shows what it leads to and nothing else. -/
theorem normalizes : Normalizes Relation.ofJson Relation.toJson IsRelation normalRelation := by
  have hdata := ((targetOfJson_normalizes.required "data").comp (Entries.get? "data")).image
    (shown "data")
  have hread : ∀ v, Relation.ofJson v = match v with
      | .object fields =>
        (fun r ↦ r) <$> Checked.required "data" targetOfJson (Entries.get? "data" fields)
      | _ => .fail .notRecord := by
    intro v
    cases v with
    | object fields => exact (id_map _).symm
    | _ => rfl
  exact hdata.object hread fun r ↦ by cases r <;> rfl

end Relation

/-! ### Records -/

namespace Document

theorem attributesOfJson_normalizes :
    Normalizes attributesOfJson
      (fun attributes ↦ .object (attributes.map fun (name, text) ↦ (name, .text text)))
      AreAttributes normalAttributes := by
  have hentries := normalizes_text.entries.image Value.object
  constructor
  · rintro (- | v)
    · exact iff_of_true ⟨[], rfl⟩ trivial
    · cases v with
      | object fields => exact hentries.accepts fields
      | _ => exact ⟨nofun, nofun⟩
  · rintro (- | v) attributes h
    · cases h
      rfl
    · cases v with
      | object fields =>
        refine (hentries.writes fields attributes h).trans ?_
        rw [normalAttributes, Option.getD_some]
        exact congrArg Value.object (List.map_id fields)
      | _ => cases h

/-- Relations that are written, if there are any. -/
def relationshipsToJson (relationships : Entries String Relation) : Option Value :=
  if relationships.isEmpty then none
  else some (.object (relationships.map fun (name, relation) ↦ (name, relation.toJson)))

theorem relationshipsOfJson_normalizes :
    Normalizes relationshipsOfJson relationshipsToJson AreRelationships normalRelationships := by
  have hentries := Relation.normalizes.entries
  constructor
  · rintro (- | v)
    · exact iff_of_true ⟨[], rfl⟩ trivial
    · cases v with
      | null => exact iff_of_true ⟨[], rfl⟩ trivial
      | object fields => exact hentries.accepts fields
      | _ => exact ⟨nofun, nofun⟩
  · rintro (- | v) relationships h
    · cases h
      rfl
    · cases v with
      | null =>
        cases h
        rfl
      | object fields =>
        have hwrite := hentries.writes fields relationships h
        rcases fields with - | ⟨field, fields⟩
        · rw [List.map_nil, List.map_eq_nil_iff] at hwrite
          rw [hwrite]
          rfl
        · rcases relationships with - | ⟨relation, relations⟩
          · cases hwrite
          · exact congrArg (fun fields ↦ some (Value.object fields)) hwrite
      | _ => cases h

theorem normalizes : Normalizes Document.ofJson Document.toJson IsRecord normalRecord := by
  have hattributes := (((attributesOfJson_normalizes.within (.field "attributes")).comp
    (Entries.get? "attributes")).image some).image (shown "attributes")
  have hrelationships := ((relationshipsOfJson_normalizes.within (.field "relationships")).comp
    (Entries.get? "relationships")).image (shown "relationships")
  refine (normalizes_identity.both (hattributes.both hrelationships)).object
    (fun v ↦ by cases v <;> rfl) fun d ↦ ?_
  obtain ⟨⟨type, id⟩, attributes, relationships⟩ := d
  rcases relationships with - | ⟨relation, relations⟩ <;> rfl

end Document

/-! ### Documentations -/

namespace Documentation

theorem includedOfJson_normalizes :
    Normalizes includedOfJson (fun included ↦ .list (included.map Document.toJson)) AreRecords
      normalRecords := by
  have hitems := (Document.normalizes.items 0).image Value.list
  constructor
  · rintro (- | v)
    · exact iff_of_true ⟨[], rfl⟩ trivial
    · cases v with
      | list records => exact hitems.accepts records
      | _ => exact ⟨nofun, nofun⟩
  · rintro (- | v) included h
    · cases h
      rfl
    · cases v with
      | list records => exact hitems.writes records included h
      | _ => cases h

theorem normalizes :
    Normalizes Documentation.ofJson Documentation.toJson IsDocumentation normalDocumentation := by
  have hdata := ((Document.normalizes.required "data").comp (Entries.get? "data")).image
    (shown "data")
  have hincluded := (((includedOfJson_normalizes.within (.field "included")).comp
    (Entries.get? "included")).image some).image (shown "included")
  exact (hdata.both hincluded).object (fun v ↦ by cases v <;> rfl) fun _ ↦ rfl

/-- **The values of the format are read and no others, and reading them leaves their normal form**:
what is written of the result is that form, which is read as the same result. -/
theorem accepts_and_normalizes (v : Value) :
    ((∃ d, Documentation.ofJson v = .ok d) ↔ IsDocumentation v) ∧
      ∀ d, Documentation.ofJson v = .ok d →
        d.toJson = normalDocumentation v ∧ Documentation.ofJson d.toJson = .ok d :=
  ⟨normalizes.accepts v, fun d hd ↦ ⟨normalizes.writes v d hd, d.ofJson_toJson⟩⟩

/-- A type under another name, fields that are not known, attributes and other records left out,
relations that are `null` or none or have more to say than what they lead to, and a list with two
references of which one has a field too many. -/
def looseDocumentation : Value :=
  .object [("meta", .null),
    ("included", .list [
      .object [("relationships", .null), ("id", .text "m"), ("type_", .text "module")],
      .object [("type", .text "struct"), ("type_", .int 3), ("id", .text "s"),
        ("attributes", .object [("docs", .text ""), ("name", .text "S")]),
        ("relationships", .object [])]]),
    ("data", .object [("id", .text "c"), ("type", .text "crate"), ("links", .list []),
      ("relationships", .object [
        ("modules", .object [("data", .list [
          .object [("id", .text "m"), ("type", .text "module"), ("meta", .bool true)],
          .object [("type_", .text "module"), ("id", .text "n")]]), ("links", .null)]),
        ("parent", .object [("data", .object [("id", .text "w"), ("type_", .text "crate")])])])])]

theorem looseDocumentation_accepts_and_normalizes :
    IsDocumentation looseDocumentation ∧
      ∃ d, Documentation.ofJson looseDocumentation = .ok d ∧
        d.toJson = .object [
          ("data", .object [("type", .text "crate"), ("id", .text "c"), ("attributes", .object []),
            ("relationships", .object [
              ("modules", .object [("data", .list [
                .object [("type", .text "module"), ("id", .text "m")],
                .object [("type", .text "module"), ("id", .text "n")]])]),
              ("parent", .object [("data",
                .object [("type", .text "crate"), ("id", .text "w")])])])]),
          ("included", .list [
            .object [("type", .text "module"), ("id", .text "m"), ("attributes", .object [])],
            .object [("type", .text "struct"), ("id", .text "s"),
              ("attributes", .object [("docs", .text ""), ("name", .text "S")])]])] := by
  have hread : ∃ d, Documentation.ofJson looseDocumentation = .ok d := ⟨_, rfl⟩
  obtain ⟨haccepts, hnormal⟩ := accepts_and_normalizes looseDocumentation
  refine ⟨haccepts.1 hread, ?_⟩
  obtain ⟨d, hd⟩ := hread
  exact ⟨d, hd, (hnormal d hd).1⟩

end Documentation

end CrateDoc
