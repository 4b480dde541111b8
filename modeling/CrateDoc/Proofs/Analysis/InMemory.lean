import CrateDoc.Analysis.InMemory
import CrateDoc.Proofs.Entries
import CrateDoc.Proofs.FirstFault
import CrateDoc.Proofs.Graph.Faults

/-!
# Sources in memory

A source in memory keeps its definitions in tables: one by their ids, and one of the children that
were found for each id. `listed` is the same source without tables. It looks through the list of
definitions, and the children of an id are the definitions that name it as their parent.

* `exists_ofDefinitions_iff`: definitions make a source if their ids are different and every parent
  is one of them.
* `toSource_eq_listed`: the source then says what the list says.
* `exists_root_of_mem_crateNames`: without explicit roots, the crates are those of the definitions
  without parents.
* `finite_toSource`: it is a finite source of as many definitions as it was given, whatever children
  it is made to list.
-/

namespace CrateDoc.InMemorySource

variable {definitions : List Definition}

/-! ### Sources without tables -/

/-- The ids of the definitions that name a parent, in their order. -/
def childIds (definitions : List Definition) (parent : DefId) : List DefId :=
  (definitions.filter fun d ↦ d.parent.any (· == parent)).map (·.id)

/-- A list of definitions as a source. -/
def listed (definitions : List Definition) (roots : Entries String DefId) : AnalysisSource Id where
  resolveRoot name := match Entries.get? name roots with
    | some id => .ok id
    | none => .error (.crateNotFound name)
  definition id := match definitions.find? (·.id == id) with
    | some d => .ok d
    | none => .error (.unknownId id)
  childrenOf id := match definitions.find? (·.id == id) with
    | some _ => .ok (childIds definitions id)
    | none => .error (.unknownId id)

theorem mem_childIds_iff {parent id : DefId} :
    id ∈ childIds definitions parent ↔
      ∃ d ∈ definitions, d.id = id ∧ ∃ p, d.parent = some p ∧ (p == parent) = true := by
  simp only [childIds, List.mem_map, List.mem_filter, Option.any_eq_true]
  constructor
  · rintro ⟨d, ⟨hd, hp⟩, rfl⟩
    exact ⟨d, hd, rfl, hp⟩
  · rintro ⟨d, hd, rfl, hp⟩
    exact ⟨d, ⟨hd, hp⟩, rfl⟩

theorem childIds_cons (d : Definition) (parent : DefId) :
    childIds (d :: definitions) parent =
      if d.parent.any (· == parent) then d.id :: childIds definitions parent
      else childIds definitions parent := by
  rw [childIds, List.filter_cons]
  split_ifs <;> rfl

theorem childIds_of_beq {parent other : DefId} (h : (parent == other) = true) :
    childIds definitions parent = childIds definitions other := by
  have hsame : ∀ p : DefId, (p == parent) = (p == other) := fun p ↦ by
    rw [Bool.eq_iff_iff]
    exact ⟨fun hp ↦ PartialEquivBEq.trans hp h,
      fun hp ↦ PartialEquivBEq.trans hp (PartialEquivBEq.symm h)⟩
  simp only [childIds, hsame]

section Listed

variable {roots : Entries String DefId} {id : DefId} {d : Definition}

/-- What a list finds under an id is one of its definitions, and has that id. -/
theorem mem_of_definition_listed (h : (listed definitions roots).definition id = .ok d) :
    d ∈ definitions ∧ (d.id == id) = true := by
  simp only [listed] at h
  rcases hfind : definitions.find? (·.id == id) with - | d'
  · rw [hfind] at h
    cases h
  · rw [hfind] at h
    cases h
    have hbeq := List.find?_some hfind
    exact ⟨List.mem_of_find?_eq_some hfind, hbeq⟩

/-- Where ids are different, every definition is found under its id. -/
theorem definition_listed_of_mem (hids : (definitions.map (·.id.key)).Nodup)
    (hd : d ∈ definitions) (hid : (d.id == id) = true) :
    (listed definitions roots).definition id = .ok d := by
  have hfind : definitions.find? (·.id == id) = some d := by
    have hsome : (definitions.find? (·.id == id)).isSome := List.find?_isSome.2 ⟨d, hd, hid⟩
    obtain ⟨d', hd'⟩ := Option.isSome_iff_exists.1 hsome
    have hbeq := List.find?_some hd'
    have hkey : d'.id.key = d.id.key :=
      (DefId.beq_iff_key_eq.1 hbeq).trans (DefId.beq_iff_key_eq.1 hid).symm
    rw [hd', List.inj_on_of_nodup_map hids (List.mem_of_find?_eq_some hd') hd hkey]
  simp only [listed, hfind]

/-- A definition that is found has the children that name it. -/
theorem childrenOf_listed (h : (listed definitions roots).definition id = .ok d) :
    (listed definitions roots).childrenOf id = .ok (childIds definitions id) := by
  simp only [listed] at h ⊢
  rcases hfind : definitions.find? (·.id == id) with - | d'
  · rw [hfind] at h
    cases h
  · simp only [hfind]

end Listed

/-! ### The table of definitions -/

/-- Definitions are registered if their ids are new and different, and then each stands under its
own id. -/
theorem register_eq_ok_iff {table table' : Entries DefId Definition}
    (htable : (table.map (·.1.key)).Nodup) :
    register table definitions = .ok table' ↔
      (table.map (·.1.key) ++ definitions.map (·.id.key)).Nodup ∧
        table' = table ++ definitions.map fun d ↦ (d.id, d) := by
  induction definitions generalizing table with
  | nil => simp [register, htable, eq_comm]
  | cons d rest ih =>
    have hhas : Entries.has d.id table = true ↔ d.id.key ∈ table.map (·.1.key) := by
      rw [Entries.has_eq_true_iff_exists]
      simp [DefId.beq_iff_key_eq]
    rw [register, List.map_cons, List.map_cons, List.append_cons, List.append_cons table]
    split_ifs with hknown
    · refine ⟨nofun, fun h ↦ ?_⟩
      have hnodup := (List.nodup_append.1 h.1).1
      rw [← List.concat_eq_append, List.nodup_concat] at hnodup
      exact absurd (hhas.1 hknown) hnodup.1
    · have htable' : ((table ++ [(d.id, d)]).map (·.1.key)).Nodup := by
        rw [List.map_append, List.map_singleton, ← List.concat_eq_append, List.nodup_concat]
        exact ⟨fun hmem ↦ hknown (hhas.2 hmem), htable⟩
      rw [Entries.put_of_has_eq_false d (by simpa using hknown), ih htable', List.map_append,
        List.map_singleton]

/-! ### The table of children -/

/-- After linking, an id has the children that it had before and those that name it. -/
theorem get?_link {children children' : Entries DefId (List DefId)}
    (h : link children definitions = .ok children') (id : DefId) :
    Entries.get? id children' =
      (Entries.get? id children).map (· ++ childIds definitions id) := by
  induction definitions generalizing children with
  | nil =>
    cases h
    simp [childIds]
  | cons d rest ih =>
    rw [link] at h
    rw [childIds_cons]
    rcases hparent : d.parent with - | p
    · rw [hparent] at h
      exact ih h
    · rw [hparent] at h
      simp only at h
      rcases hsiblings : Entries.get? p children with - | siblings
      · rw [hsiblings] at h
        cases h
      · rw [hsiblings] at h
        rw [ih h, Option.any_some]
        rcases hp : p == id with - | -
        · rw [Entries.get?_put_of_ne _ _ hp, if_neg Bool.false_ne_true]
        · rw [Entries.get?_put_of_beq _ _ hp, ← Entries.get?_of_beq hp, hsiblings, if_pos rfl]
          simp

/-- Definitions can be linked if their parents are there. -/
theorem exists_link_iff {children : Entries DefId (List DefId)} :
    (∃ children', link children definitions = .ok children') ↔
      ∀ d ∈ definitions, ∀ p, d.parent = some p → Entries.has p children = true := by
  induction definitions generalizing children with
  | nil => simp [link]
  | cons d rest ih =>
    rw [link, List.forall_mem_cons]
    rcases hparent : d.parent with - | p
    · simpa using ih
    · simp only [Option.some.injEq, forall_eq']
      rcases hsiblings : Entries.get? p children with - | siblings
      · simp [Entries.has, hsiblings]
      · have hhas : Entries.has p children = true := by
          rw [Entries.has, hsiblings]
          rfl
        -- The parent is there already, so no new id is put.
        have hput : ∀ other, Entries.has other (Entries.put p (siblings ++ [d.id]) children) =
            Entries.has other children := by
          intro other
          rw [Entries.has_put]
          rcases hp : p == other with - | -
          · rfl
          · rw [Entries.has, Entries.get?_of_beq hp] at hhas
            rw [Bool.true_or, Entries.has, hhas]
        simp only [ih, hput, hhas, true_and]

/-! ### The source -/

section

variable {roots : Option (Entries String DefId)} {source : InMemorySource}

/-- Definitions make a source if their ids are different and every parent is one of them. -/
theorem exists_ofDefinitions_iff :
    (∃ source, ofDefinitions definitions roots = .ok source) ↔
      (definitions.map (·.id.key)).Nodup ∧ ∀ d ∈ definitions, ∀ p, d.parent = some p →
        ∃ owner ∈ definitions, (owner.id == p) = true := by
  have hregister : ∀ table, register [] definitions = .ok table ↔
      (definitions.map (·.id.key)).Nodup ∧ table = definitions.map fun d ↦ (d.id, d) := fun _ ↦
    register_eq_ok_iff (by simp)
  have hhas : ∀ p, Entries.has p ((definitions.map fun d ↦ (d.id, d)).map
      fun entry ↦ (entry.1, ([] : List DefId))) = true ↔
        ∃ owner ∈ definitions, (owner.id == p) = true := by
    intro p
    rw [Entries.has_eq_true_iff_exists]
    simp
  simp only [← hhas]
  constructor
  · rintro ⟨source, h⟩
    obtain ⟨table, htable, h⟩ := bind_eq_ok_iff.1 h
    obtain ⟨children, hchildren, -⟩ := bind_eq_ok_iff.1 h
    obtain ⟨hids, rfl⟩ := (hregister table).1 htable
    exact ⟨hids, exists_link_iff.1 ⟨children, hchildren⟩⟩
  · rintro ⟨hids, hparents⟩
    obtain ⟨children, hchildren⟩ := exists_link_iff.2 hparents
    refine ⟨_, bind_eq_ok_iff.2 ⟨_, (hregister _).2 ⟨hids, rfl⟩, bind_eq_ok_iff.2
      ⟨children, hchildren, rfl⟩⟩⟩

/-- A source that was made of definitions says what the list of them says. -/
theorem toSource_eq_listed (h : ofDefinitions definitions roots = .ok source) :
    source.definitions.length = definitions.length ∧
      source.roots = roots.getD (defaultRoots definitions) ∧
      source.toSource = listed definitions (roots.getD (defaultRoots definitions)) := by
  obtain ⟨table, htable, h⟩ := bind_eq_ok_iff.1 h
  obtain ⟨children, hchildren, h⟩ := bind_eq_ok_iff.1 h
  cases h
  obtain ⟨-, rfl⟩ := (register_eq_ok_iff (by simp)).1 htable
  refine ⟨by simp, rfl, ?_⟩
  have hdefinition : ∀ id, Entries.get? id (definitions.map fun d ↦ (d.id, d)) =
      definitions.find? (·.id == id) := by
    intro id
    rw [Entries.get?_map, Option.map_id']
  have hchildIds : ∀ id, Entries.get? id children =
      (definitions.find? (·.id == id)).map fun _ ↦ childIds definitions id := by
    intro id
    rw [get?_link hchildren id, List.nil_append, List.map_map, Function.comp_def, Entries.get?_map,
      Option.map_map]
    rfl
  -- so the two sources differ in nothing but the order of a map and a look-up
  simp only [toSource, listed, List.nil_append, hdefinition, hchildIds, Entries.get?_nil,
    Option.none_or]
  congr 1
  funext id
  rcases hfind : definitions.find? (·.id == id) with - | d
  · simp only [hfind, Option.map_none]
  · simp only [hfind, Option.map_some]

/-- Without explicit roots, the name of a crate is that of a definition without a parent, which is
found as its root. -/
theorem exists_root_of_mem_crateNames (h : ofDefinitions definitions none = .ok source)
    {name : String} (hname : name ∈ source.crateNames) :
    ∃ root ∈ definitions, root.parent = none ∧ root.qualifiedName = name ∧
      source.toSource.resolveRoot name = .ok root.id ∧
        source.toSource.definition root.id = .ok root := by
  obtain ⟨-, hroots, hsource⟩ := toSource_eq_listed h
  rw [crateNames, List.mem_mergeSort, ← Entries.has_eq_true_iff, Entries.has,
    Option.isSome_iff_exists, hroots, Option.getD_none] at hname
  obtain ⟨id, hid⟩ := hname
  obtain ⟨k, hmem, hk⟩ := Entries.exists_mem_of_get?_ofPairs hid
  obtain rfl := eq_of_beq hk
  obtain ⟨root, hroot, heq⟩ := List.mem_map.1 hmem
  cases heq
  obtain ⟨hmem, hparent⟩ := List.mem_filter.1 hroot
  refine ⟨root, hmem, Option.isNone_iff_eq_none.1 hparent, rfl, ?_, ?_⟩
  · rw [hsource]
    simp only [listed, Option.getD_none, hid]
  · rw [hsource]
    exact definition_listed_of_mem (exists_ofDefinitions_iff.1 ⟨source, h⟩).1 hmem
      (beq_self_eq_true root.id)

/-- A source that was made of definitions finds no others, and each under its own id. -/
theorem finite_toSource (h : ofDefinitions definitions roots = .ok source)
    (override : Entries DefId (List DefId)) :
    (source.toSource override).Finite source.definitions.length := by
  have hfound : ∀ {id d}, (source.toSource override).definition id = .ok d →
      d ∈ definitions ∧ (d.id == id) = true := by
    intro id d hd
    have hsame : (source.toSource override).definition = source.toSource.definition := rfl
    rw [hsame, (toSource_eq_listed h).2.2] at hd
    exact mem_of_definition_listed hd
  refine ⟨fun hd ↦ (hfound hd).2, definitions.map (·.id), ?_, fun hd ↦ ?_⟩
  · refine Nat.le_of_eq ?_
    rw [(toSource_eq_listed h).1, List.length_map]
  · rw [List.contains_iff_exists_mem_beq]
    exact ⟨_, List.mem_map.2 ⟨_, (hfound hd).1, rfl⟩, beq_self_eq_true _⟩

end

end CrateDoc.InMemorySource
