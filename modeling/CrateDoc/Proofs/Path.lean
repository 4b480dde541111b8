import CrateDoc.Path
import CrateDoc.Proofs.Text.Words
import Mathlib.Data.List.Basic

/-!
# Components of paths

A name without slashes is one component (`Path.IsComponent`); going on from a path by such a name
puts it at the end (`div_eq_of_isComponent`), and a path whose name is a component goes on from its
parent (`eq_parent_div_name`).

A path that was resolved goes down only, and is resolved to itself (`resolve_eq_self`).
-/

namespace CrateDoc.Path

/-- The name of a file in a directory. -/
structure IsComponent (name : String) : Prop where
  slash : '/' ∉ name.toList
  ne_empty : name ≠ ""
  ne_here : name ≠ "."
  ne_up : name ≠ ".."

/-- A name is the path of one part. -/
theorem ofString_of_isComponent {name : String} (h : IsComponent name) :
    ofString name = ⟨.none, [name]⟩ := by
  have hpieces : components name.toList = [name] := by
    have hslash : ∀ c ∈ name.toList, (c == '/') = false := by
      intro c hc
      rw [beq_eq_false_iff_ne]
      rintro rfl
      exact h.slash hc
    have hempty : name.toList ≠ [] := fun hnil ↦ h.ne_empty (String.toList_eq_nil_iff.1 hnil)
    have hhere : name.toList ≠ ['.'] := fun hdot ↦ h.ne_here (String.toList_inj.1 hdot)
    rw [components, Text.pieces_eq_singleton hslash]
    simp [hempty, hhere]
  have hslash := h.slash
  fun_cases ofString name with
  | case1 _ heq => simp [heq] at hslash
  | case2 _ _ heq => simp [heq] at hslash
  | case3 _ _ _ heq => simp [heq] at hslash
  | case4 => rw [hpieces]

/-- Going on by a component puts it at the end. -/
theorem div_eq_of_isComponent (path : Path) {name : String} (h : IsComponent name) :
    path / name = ⟨path.root, path.parts ++ [name]⟩ := by
  show path.join (ofString name) = _
  rw [ofString_of_isComponent h]
  rfl

/-- A name below a path is taken off by going to the parent. -/
theorem parent_div (path : Path) {name : String} (h : IsComponent name) :
    (path / name).parent = path := by
  rw [div_eq_of_isComponent path h, parent, List.dropLast_concat]

/-- A path is joined to a base before or after a name is put below it. -/
theorem join_div (base path : Path) {name : String} (h : IsComponent name) :
    base.join (path / name) = base.join path / name := by
  have hsame : (path / name).isAbsolute = path.isAbsolute := by
    rw [div_eq_of_isComponent path h]
    rfl
  rw [join, hsame, join, div_eq_of_isComponent path h]
  split_ifs
  · rw [div_eq_of_isComponent path h]
  · rw [div_eq_of_isComponent _ h, List.append_assoc]

/-- A path with a last name is its parent and that name. -/
theorem eq_parent_div_name {path : Path} (h : IsComponent path.name) :
    path = path.parent / path.name := by
  have hname := h.ne_empty
  rw [div_eq_of_isComponent path.parent h]
  rw [name] at hname ⊢
  obtain ⟨root, parts⟩ := path
  rcases List.eq_nil_or_concat' parts with rfl | ⟨init, last, rfl⟩
  · exact absurd rfl hname
  · rw [parent, List.dropLast_concat, List.getLast?_concat]
    rfl

/-! ### Resolved paths -/

/-- An absolute path is joined to nothing. -/
theorem join_eq_self {path : Path} (base : Path) (h : path.isAbsolute = true) :
    base.join path = path := if_pos h

/-- Behind components that go down only, the components of a way are taken one after the other. -/
theorem foldl_withoutUps (done parts : List String) (h : ".." ∉ parts) :
    parts.foldl (fun done part ↦ if part = ".." then done.dropLast else done ++ [part]) done =
      done ++ parts := by
  induction parts generalizing done with
  | nil => rw [List.foldl_nil, List.append_nil]
  | cons part rest ih =>
    obtain ⟨hpart, hrest⟩ := not_or.1 (mt List.mem_cons.2 h)
    rw [List.foldl_cons, if_neg (Ne.symm hpart), ih _ hrest, List.append_assoc]
    rfl

/-- What is taken goes down only. -/
theorem notMem_foldl_withoutUps {done : List String} (parts : List String) (h : ".." ∉ done) :
    ".." ∉ parts.foldl (fun done part ↦ if part = ".." then done.dropLast else done ++ [part])
      done := by
  induction parts generalizing done with
  | nil => exact h
  | cons part rest ih =>
    rw [List.foldl_cons]
    refine ih ?_
    split_ifs with hpart
    · exact fun hmem ↦ h (List.dropLast_subset _ hmem)
    · simpa [h] using Ne.symm hpart

/-- Resolving leaves no step up. -/
theorem notMem_parts_resolve (base path : Path) : ".." ∉ (base.resolve path).parts :=
  notMem_foldl_withoutUps _ (by simp)

/-- What is resolved at an absolute base is absolute. -/
theorem isAbsolute_resolve {base : Path} (path : Path) (h : base.isAbsolute = true) :
    (base.resolve path).isAbsolute = true := by
  rw [resolve, join]
  split_ifs with hpath
  · exact hpath
  · exact h

/-- A path from the root that goes down only is resolved already. -/
theorem resolve_eq_self {path : Path} (base : Path) (habsolute : path.isAbsolute = true)
    (hdown : ".." ∉ path.parts) : base.resolve path = path := by
  rw [resolve, join_eq_self base habsolute, withoutUps, foldl_withoutUps [] _ hdown]
  rfl

/-! ### Home directories -/

/-- No user is named in a path from the root. -/
theorem user?_eq_none {path : Path} (h : path.isAbsolute = true) : path.user? = none := if_pos h

end CrateDoc.Path

namespace CrateDoc.Standpoint

/-- An absolute path names no home to expand. -/
theorem expand?_eq_self {path : Path} (base : Standpoint) (h : path.isAbsolute = true) :
    base.expand? path = some path := by
  rw [expand?, Path.user?_eq_none h]

/-- A canonical path holds no step up. -/
theorem notMem_parts_canonical (base : Standpoint) (path : Path) :
    ".." ∉ (base.canonical path).parts :=
  Path.notMem_parts_resolve _ _

/-- Seen from an absolute directory, canonical paths are absolute. -/
theorem isAbsolute_canonical {base : Standpoint} (path : Path)
    (h : base.directory.isAbsolute = true) : (base.canonical path).isAbsolute = true :=
  Path.isAbsolute_resolve _ h

end CrateDoc.Standpoint
