import CrateDoc.JsonApi.Reader
import CrateDoc.Proofs.Document
import CrateDoc.Proofs.Json.RoundTrip

/-!
# Written documentations are read back

`Documentation.ofJson` gives back what `Documentation.toJson` was given, part by part: references,
relations of both shapes, records with and without relations, and the documentation.

The text of a documentation names the same value. It is read by any reader of JSON that goes seven
levels deep (`Documentation.nested_toJson`), if no record has an attribute or a relation twice; the
records that are built have none (`Document.HasDistinctKeys`).

Main statement: `Documentation.toText_toJson_roundTrip`.
-/

namespace CrateDoc

open Json (Value)
open JsonApi

/-! ### Checks that find nothing wrong -/

namespace JsonApi.Checked

variable {α β : Type}

theorem all_map_of_ok {f : β → Checked α} {g : β → α} {xs : List β}
    (h : ∀ x ∈ xs, f x = .ok (g x)) : all (xs.map f) = .ok (xs.map g) := by
  induction xs with
  | nil => rfl
  | cons x xs ih =>
    rw [List.map_cons, all, h x List.mem_cons_self, ih fun y hy ↦ h y (List.mem_cons_of_mem x hy)]
    rfl

variable {read : Value → Checked α} {write : α → Value}

/-- A list is read back if each of its items is, whatever the items are counted from. -/
theorem items_map (h : ∀ x, read (write x) = .ok x) (xs : List α) (start : ℕ) :
    items read start (xs.map write) = .ok xs := by
  have hitem : ∀ p ∈ xs.zipIdx start, within (.item p.2) (read (write p.1)) = .ok p.1 := by
    intro p _
    rw [h]
    rfl
  have hall := all_map_of_ok hitem
  rw [List.zipIdx_map_fst] at hall
  rw [items, List.zipIdx_map, List.map_map]
  exact hall

/-- A map is read back if each of its values is. -/
theorem entries_map (h : ∀ x, read (write x) = .ok x) (xs : Entries String α) :
    entries read (xs.map fun (name, x) ↦ (name, write x)) = .ok xs := by
  have hentry : ∀ entry ∈ xs,
      within (.field entry.1) ((entry.1, ·) <$> read (write entry.2)) = .ok (id entry) := by
    intro entry _
    rw [h]
    rfl
  have hall := all_map_of_ok hentry
  rw [List.map_id] at hall
  rw [entries, List.map_map]
  exact hall

end JsonApi.Checked

/-! ### Values of documentations -/

theorem Reference.ofJson_toJson (r : Reference) : Reference.ofJson r.toJson = .ok r := rfl

/-- A relation keeps its shape: a list is no single reference. -/
theorem Relation.ofJson_toJson (r : Relation) : Relation.ofJson r.toJson = .ok r := by
  cases r with
  | toOne target => rfl
  | toMany targets =>
    have hlist : Reference.listOfJson (.list (targets.map Reference.toJson)) = .ok targets :=
      Checked.items_map Reference.ofJson_toJson targets 0
    have htarget : targetOfJson (.list (targets.map Reference.toJson)) = .ok (.toMany targets) := by
      rw [targetOfJson, hlist]
      rfl
    show Checked.within (.field "data") (targetOfJson (.list (targets.map Reference.toJson))) = _
    rw [htarget]
    rfl

namespace Document

/-- A record is read from its fields. -/
theorem ofJson_object {fields : List (String × Value)} {type id : String}
    {attributes : Entries String String} {relationships : Entries String Relation}
    (htype : typeOfJson fields = .ok type)
    (hid : Checked.required "id" .text (Entries.get? "id" fields) = .ok id)
    (hattributes : attributesOfJson (Entries.get? "attributes" fields) = .ok attributes)
    (hrelationships :
      relationshipsOfJson (Entries.get? "relationships" fields) = .ok relationships) :
    Document.ofJson (.object fields) = .ok ⟨type, id, attributes, relationships⟩ := by
  rw [ofJson, htype, hid, hattributes, hrelationships]
  rfl

/-- A record without relations does not show them, and is read as one that has none. -/
theorem ofJson_toJson (d : Document) : Document.ofJson d.toJson = .ok d := by
  obtain ⟨type, id, attributes, relationships⟩ := d
  have htext : ∀ text, Checked.text (.text text) = .ok text := fun _ ↦ rfl
  have hattributes := Checked.entries_map htext attributes
  rcases relationships with - | ⟨relation, relations⟩
  · exact ofJson_object rfl rfl hattributes rfl
  · exact ofJson_object rfl rfl hattributes
      (Checked.entries_map Relation.ofJson_toJson (relation :: relations))

end Document

namespace Documentation

/-- A documentation is read from its fields. -/
theorem ofJson_object {fields : List (String × Value)} {data : Document} {included : List Document}
    (hdata : Checked.required "data" Document.ofJson (Entries.get? "data" fields) = .ok data)
    (hincluded : includedOfJson (Entries.get? "included" fields) = .ok included) :
    Documentation.ofJson (.object fields) = .ok ⟨data, included⟩ := by
  rw [ofJson, hdata, hincluded]
  rfl

theorem ofJson_toJson (d : Documentation) : Documentation.ofJson d.toJson = .ok d := by
  have hdata : Checked.required "data" Document.ofJson (some d.data.toJson) = .ok d.data := by
    rw [Checked.required, Document.ofJson_toJson]
    rfl
  exact ofJson_object hdata (Checked.items_map Document.ofJson_toJson d.included 0)

end Documentation

/-! ### Texts of documentations -/

theorem Reference.nested_toJson (r : Reference) : r.toJson.Nested 1 := by
  refine .object (by simp) fun field hfield ↦ ?_
  rcases List.mem_pair.1 hfield with rfl | rfl
  · exact .text 0 r.type
  · exact .text 0 r.id

theorem Relation.nested_toJson (r : Relation) : r.toJson.Nested 3 := by
  have hone : ∀ {v : Value}, v.Nested 2 → Value.Nested 3 (.object [("data", v)]) := by
    intro v hv
    refine .object (by simp) fun field hfield ↦ ?_
    rw [List.mem_singleton.1 hfield]
    exact hv
  cases r with
  | toOne target => exact hone (target.nested_toJson.mono (by omega))
  | toMany targets =>
    refine hone (.list fun v hv ↦ ?_)
    obtain ⟨target, -, rfl⟩ := List.mem_map.1 hv
    exact target.nested_toJson

/-- A map is one level deeper than its values. -/
theorem nested_object_map {α : Type} {write : α → Value} {entries : Entries String α} {n : ℕ}
    (hkeys : (entries.map Prod.fst).Nodup) (h : ∀ x, (write x).Nested n) :
    Value.Nested (n + 1) (.object (entries.map fun (name, x) ↦ (name, write x))) := by
  refine .object ?_ fun field hfield ↦ ?_
  · rw [List.map_map]
    exact hkeys
  · obtain ⟨entry, -, rfl⟩ := List.mem_map.1 hfield
    exact h entry.2

theorem Document.nested_toJson {d : Document} (h : d.HasDistinctKeys) : d.toJson.Nested 5 := by
  have hattributes := nested_object_map h.attributes fun text ↦ Value.Nested.text 3 text
  have hrelationships := nested_object_map h.relationships Relation.nested_toJson
  rw [toJson]
  split_ifs
  · refine .object (by simp) ?_
    simp only [List.append_nil, List.forall_mem_cons, List.not_mem_nil, false_implies, implies_true,
      and_true]
    exact ⟨.text 4 d.type, .text 4 d.id, hattributes⟩
  · refine .object (by simp) ?_
    simp only [List.cons_append, List.nil_append, List.forall_mem_cons, List.not_mem_nil,
      false_implies, implies_true, and_true]
    exact ⟨.text 4 d.type, .text 4 d.id, hattributes, hrelationships⟩

/-- A documentation is nested seven levels deep at most. -/
theorem Documentation.nested_toJson {d : Documentation}
    (h : ∀ document ∈ d.documents, document.HasDistinctKeys) : d.toJson.Nested 7 := by
  refine .object (by simp) fun field hfield ↦ ?_
  rcases List.mem_pair.1 hfield with rfl | rfl
  · exact (Document.nested_toJson (h d.data List.mem_cons_self)).mono (by omega)
  · refine .list fun v hv ↦ ?_
    obtain ⟨document, hdocument, rfl⟩ := List.mem_map.1 hv
    exact Document.nested_toJson (h document (List.mem_cons_of_mem _ hdocument))

/-- The text of a documentation names its value, however it is laid out. -/
theorem Documentation.read_toText {d : Documentation}
    (h : ∀ document ∈ d.documents, document.HasDistinctKeys) {dialect : Json.Dialect}
    (hdepth : ∀ n ∈ dialect.maxDepth, 7 ≤ n) (indent : Option ℕ) :
    Value.read dialect (d.toText indent).toList = .ok d.toJson := by
  have hread := fun layout ↦ (Documentation.nested_toJson h).read_write hdepth layout
  cases indent with
  | none => rw [toText, Value.compact, String.toList_ofList, hread]
  | some width => rw [toText, Value.indented, String.toList_ofList, hread]

/-- **A documentation is read back from its text and from its value**, and the text names that
value. -/
theorem Documentation.toText_toJson_roundTrip (d : Documentation) (indent : Option ℕ)
    (h : ∀ document ∈ d.documents, document.HasDistinctKeys) :
    Documentation.ofText (d.toText indent).toList = .ok d ∧
      Documentation.ofJson d.toJson = .ok d ∧
      ∀ dialect ∈ [Json.Dialect.interchange, Json.Dialect.tolerant],
        Value.read dialect (d.toText indent).toList = .ok d.toJson := by
  have hread : ∀ dialect ∈ [Json.Dialect.interchange, Json.Dialect.tolerant],
      Value.read dialect (d.toText indent).toList = .ok d.toJson := by
    have hdepth : ∀ dialect ∈ [Json.Dialect.interchange, Json.Dialect.tolerant],
        ∀ n ∈ dialect.maxDepth, 7 ≤ n := by decide
    exact fun dialect hdialect ↦ read_toText h (hdepth dialect hdialect) indent
  refine ⟨?_, d.ofJson_toJson, hread⟩
  rw [ofText, hread .interchange (by simp)]
  exact d.ofJson_toJson

/-- Texts that are escaped, a relation of each shape and one to no record, and a record that has
neither attributes nor relations. -/
def oddDocumentation : Documentation where
  data :=
    { type := "crate"
      id := "a\x22b\\c"
      attributes := [("docs", "tab\t, line\r\nend \x00\x1f\x7f /\u2028"),
        ("", "\x7b\x22data\x22: []\x7d")]
      relationships := [("", .toMany []),
        ("modules", .toMany [⟨"module", "\x08\u00e9"⟩, ⟨"", ""⟩])] }
  included :=
    [{ type := "module"
       id := "\x08\u00e9"
       relationships := [("parent", .toOne ⟨"crate", "a\x22b\\c"⟩)] },
      { type := "", id := "" }]

theorem oddDocumentation_roundTrip :
    (∀ document ∈ oddDocumentation.documents, document.HasDistinctKeys) ∧
      Documentation.ofText (oddDocumentation.toText (some 2)).toList = .ok oddDocumentation ∧
      Documentation.ofJson oddDocumentation.toJson = .ok oddDocumentation := by
  have hkeys : ∀ document ∈ oddDocumentation.documents, document.HasDistinctKeys := by
    intro document hdocument
    simp only [Documentation.documents, oddDocumentation, List.mem_cons, List.not_mem_nil,
      or_false] at hdocument
    rcases hdocument with rfl | rfl | rfl <;> exact ⟨by decide, by decide⟩
  obtain ⟨htext, hvalue, -⟩ := Documentation.toText_toJson_roundTrip oddDocumentation (some 2) hkeys
  exact ⟨hkeys, htext, hvalue⟩

end CrateDoc
