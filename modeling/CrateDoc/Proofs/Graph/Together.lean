import CrateDoc.Proofs.FirstFault
import CrateDoc.Proofs.Graph.Provenance
import Mathlib.Data.List.Perm.Subperm

/-!
# Builds side by side

Two builds over one source, from different states. They go the same way if the states are related
and related states give the same answers to all that a build may ask (`AnalysisSource.Keeps`, over
`Assurance.alongside`): the results are the same, to the spelling of ids, and so are the reports.

The two builds may be given different bounds on the number of levels. That makes no difference if
both are at least the number of ids under which definitions are found: each level but the last one
enumerates some of them, and none is enumerated twice (`definitions_of_attachAll`).
-/

namespace CrateDoc

/-- Computations that give the same from related states, and leave related states. -/
def Assurance.alongside {σ : Type} (R : σ → σ → Prop) : Assurance (StateM σ) where
  Ends desired x := ∀ s s', R s s' →
    (x.run s).1 = (x.run s').1 ∧ desired (x.run s).1 ∧ R (x.run s).2 (x.run s').2
  pure h _ _ hs := ⟨rfl, h, hs⟩
  bind {_ _ _ _ x f} h hf s s' hs := by
    obtain ⟨heq, ha, hs⟩ := h s s' hs
    have hnext := hf _ ha _ _ hs
    show ((f (x.run s).1).run (x.run s).2).1 = ((f (x.run s').1).run (x.run s').2).1 ∧ _ ∧
      R _ ((f (x.run s').1).run (x.run s').2).2
    rw [← heq]
    exact hnext

namespace Graph

/-! ### Steps in general -/

section

variable {σ α β : Type} {R : σ → σ → Prop} {D : α → Prop} {D' : β → Prop} {Q : Definition → Prop}

/-- Two build steps come to the same from related states, with the same reports. -/
def Together (R : σ → σ → Prop) (D : α → Prop) (x y : Building (StateM σ) α) : Prop :=
  ∀ logs s s', R s s' →
    ((x.run.run logs).run s).1 = ((y.run.run logs).run s').1 ∧
      (∀ a, ((x.run.run logs).run s).1.1 = .ok a → D a) ∧
      R ((x.run.run logs).run s).2 ((y.run.run logs).run s').2

theorem Yields.together {x : Building (StateM σ) α}
    (h : Yields (Assurance.alongside R) Q D x) : Together R D x x := by
  intro logs s s' hs
  obtain ⟨heq, hstems, hs'⟩ := h logs s s' hs
  refine ⟨heq, fun a ha ↦ ?_, hs'⟩
  rw [ha] at hstems
  exact hstems

theorem together_pure {a : α} (h : D a) : Together R D (pure a) (pure a) :=
  fun _ _ _ hs ↦ ⟨rfl, fun _ ha ↦ Except.ok.inj ha ▸ h, hs⟩

/-- What a step without a state comes to is known behind it. -/
theorem Stems.self {x : Except GraphError α} (h : Stems Q D x) :
    Stems Q (fun a ↦ x = .ok a ∧ D a) x := by
  rcases x with e | a
  · exact h
  · exact ⟨rfl, h⟩

theorem Together.bind {x y : Building (StateM σ) α} {f g : α → Building (StateM σ) β}
    (h : Together R D x y) (hf : ∀ a, D a → Together R D' (f a) (g a)) :
    Together R D' (x >>= f) (y >>= g) := by
  intro logs s s' hs
  obtain ⟨heq, hD, hs'⟩ := h logs s s' hs
  rw [ExceptT.run_bind, StateT.run_bind, StateT.run_bind, ExceptT.run_bind, StateT.run_bind,
    StateT.run_bind]
  rcases hx : (x.run.run logs).run s with ⟨⟨r, logs'⟩, t⟩
  rcases hy : (y.run.run logs).run s' with ⟨⟨r', logs''⟩, t'⟩
  rw [hx, hy] at heq hs'
  rw [hx] at hD
  obtain ⟨rfl, rfl⟩ := Prod.mk.injEq .. ▸ heq
  rcases r with e | a
  · exact ⟨rfl, nofun, hs'⟩
  · exact hf a (hD a rfl) logs' t t' hs'

end

/-! ### The ids that were met -/

/-- Attaching children records their ids, which are none of those that were met. -/
theorem definitions_of_attach {top : Bool} {met met' : Met} {document document' : Document}
    {nodes : List Node} (h : attach top met document nodes = .ok (met', document')) :
    met'.definitions = (nodes.map (·.1.id)).reverse ++ met.definitions ∧
      ((met.definitions.map DefId.key).Nodup → (met'.definitions.map DefId.key).Nodup) := by
  induction nodes generalizing met document with
  | nil =>
    cases h
    exact ⟨rfl, fun h ↦ h⟩
  | cons node nodes ih =>
    obtain ⟨child, childDocument⟩ := node
    rw [attach] at h
    split_ifs at h with hmet
    obtain ⟨_, -, h⟩ := bind_eq_ok_iff.1 h
    obtain ⟨hdefinitions, hnodup⟩ := ih h
    refine ⟨?_, fun hbefore ↦ hnodup (List.nodup_cons.2 ⟨?_, hbefore⟩)⟩
    · rw [hdefinitions, List.map_cons, List.reverse_cons, List.append_assoc, List.singleton_append]
    · rwa [DefId.contains_iff_key_mem] at hmet

/-- Attaching the children of a level records the ids of the next level. -/
theorem definitions_of_attachAll {root : DefId} {met met' : Met}
    {expansions : List (Node × Except GraphError (List Node))} {documents : List Document}
    {next : List Node} (h : attachAll root met expansions = .ok (met', documents, next)) :
    met'.definitions = (next.map (·.1.id)).reverse ++ met.definitions ∧
      ((met.definitions.map DefId.key).Nodup → (met'.definitions.map DefId.key).Nodup) := by
  induction expansions generalizing met documents next with
  | nil =>
    cases h
    exact ⟨rfl, fun h ↦ h⟩
  | cons expansion expansions ih =>
    obtain ⟨⟨parent, document⟩, expansion⟩ := expansion
    rw [attachAll] at h
    obtain ⟨children, -, h⟩ := bind_eq_ok_iff.1 h
    obtain ⟨⟨met₁, document₁⟩, hattach, h⟩ := bind_eq_ok_iff.1 h
    obtain ⟨⟨met₂, documents₂, next₂⟩, hrest, h⟩ := bind_eq_ok_iff.1 h
    cases h
    obtain ⟨hdefinitions₁, hnodup₁⟩ := definitions_of_attach hattach
    obtain ⟨hdefinitions₂, hnodup₂⟩ := ih hrest
    refine ⟨?_, hnodup₂ ∘ hnodup₁⟩
    rw [hdefinitions₂, hdefinitions₁, List.map_append, List.reverse_append, List.append_assoc]

/-! ### Whole builds -/

section

variable {σ : Type} {R : σ → σ → Prop} {source : AnalysisSource (StateM σ)} {P : DefId → Prop}
  {Q : Definition → Prop} (h : source.Keeps (Assurance.alongside R) P Q) {keys : List DefId}
  (hkeys : ∀ d, Q d → d.id.key ∈ keys)

theorem levels_nil (root : DefId) (fuel : ℕ) (met : Met) :
    levels source root fuel met [] = pure [] := by
  cases fuel <;> rfl

include h hkeys in
/-- Two level loops come to the same if both are allowed a level for each id that is still to be
met. -/
theorem together_levels (root : DefId) (crate : String) {ids : List DefId}
    {fuel fuel' : ℕ} {met : Met}
    {nodes : List Node} (hids : keys ⊆ ids) (hnodes : ∀ node ∈ nodes, Node.Of Q crate node)
    (hnodup : (met.definitions.map DefId.key).Nodup) (hmet : met.definitions.map DefId.key ⊆ ids)
    (hfuel : ids.length < fuel + met.definitions.length)
    (hfuel' : ids.length < fuel' + met.definitions.length) :
    Together R (fun _ ↦ True) (levels source root fuel met nodes)
      (levels source root fuel' met nodes) := by
  have hlength : ∀ {met : Met}, (met.definitions.map DefId.key).Nodup →
      met.definitions.map DefId.key ⊆ ids → met.definitions.length ≤ ids.length := by
    intro met hnodup hmet
    simpa using (List.subperm_of_subset hnodup hmet).length_le
  induction fuel generalizing fuel' met nodes with
  | zero =>
    have := hlength hnodup hmet
    omega
  | succ fuel ih =>
    rcases fuel' with - | fuel'
    · have := hlength hnodup hmet
      omega
    rcases nodes with - | ⟨node, nodes⟩
    · exact together_pure trivial
    rw [levels, levels]
    refine (yields_expandAll h root crate hnodes).together.bind fun expansions hexpansions ↦ ?_
    refine (yields_liftM (stems_attachAll root met hexpansions).self).together.bind
      fun attached hattached ↦ ?_
    obtain ⟨met', documents, next⟩ := attached
    obtain ⟨hattach, _, hnext⟩ := hattached
    obtain ⟨hdefinitions, hnodup'⟩ := definitions_of_attachAll hattach
    have hrest : Together R (fun _ ↦ True) (levels source root fuel met' next)
        (levels source root fuel' met' next) := by
      rcases next with - | ⟨first, next⟩
      · rw [levels_nil, levels_nil]
        exact together_pure trivial
      -- The next level is not empty, so something new was met.
      · have hmore : met.definitions.length < met'.definitions.length := by
          rw [hdefinitions, List.length_append, List.length_reverse, List.length_map,
            List.length_cons]
          omega
        refine ih hnext (hnodup' hnodup) ?_ (by omega) (by omega)
        rw [hdefinitions, List.map_append, List.append_subset]
        refine ⟨fun key hkey ↦ ?_, hmet⟩
        rw [List.map_reverse, List.mem_reverse, List.map_map] at hkey
        obtain ⟨node, hnode, rfl⟩ := List.mem_map.1 hkey
        exact hids (hkeys _ (hnext node hnode).1)
    exact hrest.bind fun _ _ ↦ together_pure trivial

include h hkeys in
/-- Two builds come to the same if neither is bounded by less than the number of ids under which
something is found. -/
theorem together_building (crate : String) (workers : Option Int) {size size' : ℕ}
    (hroot : (Assurance.alongside R).Ends (fun r ↦ ∀ id, r = .ok id → P id)
      (source.resolveRoot crate))
    (hsize : keys.length ≤ size) (hsize' : keys.length ≤ size') :
    Together R (fun _ ↦ True) (building source size workers crate)
      (building source size' workers crate) := by
  rw [building, building]
  refine (yields_ask (Q := Q) hroot).together.bind fun id hid ↦ ?_
  refine (yields_ask (Q := Q) (h.definition hid)).together.bind fun root hroot ↦ ?_
  refine (yields_report (Q := Q) _).together.bind fun _ _ ↦ ?_
  have hnodes : ∀ node ∈ [(root, rootDocument crate root)], Node.Of Q crate node :=
    List.forall_mem_singleton.2 ⟨hroot, .inl rfl⟩
  have hlevels : Together R (fun _ ↦ True)
      (levels source id (size + 1) ⟨[id], [crate]⟩ [(root, rootDocument crate root)])
      (levels source id (size' + 1) ⟨[id], [crate]⟩ [(root, rootDocument crate root)]) :=
    together_levels h hkeys id crate (List.subset_cons_self id.key keys) hnodes
      (List.nodup_singleton _) (by simp) (by simp; omega) (by simp; omega)
  dsimp only
  split_ifs
  · exact (yields_noWorkers (Q := Q)).together.bind fun _ h ↦ h.elim
  · refine hlevels.bind fun documents _ ↦ (yields_report (Q := Q) _).together.bind fun _ _ ↦ ?_
    exact together_pure trivial

include h hkeys in
theorem run_build_of_related {crate : String} {workers : Option Int} {size size' : ℕ}
    (hroot : (Assurance.alongside R).Ends (fun r ↦ ∀ id, r = .ok id → P id)
      (source.resolveRoot crate))
    (hsize : keys.length ≤ size) (hsize' : keys.length ≤ size') {s s' : σ} (hs : R s s') :
    ((Graph.build source size workers crate).run s).1 =
        ((Graph.build source size' workers crate).run s').1 ∧
      R ((Graph.build source size workers crate).run s).2
        ((Graph.build source size' workers crate).run s').2 := by
  obtain ⟨heq, -, hafter⟩ :=
    together_building h hkeys crate workers hroot hsize hsize' [] s s' hs
  exact ⟨heq, hafter⟩

end

end Graph

end CrateDoc
