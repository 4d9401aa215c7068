import DocModel.Proofs.Counts
import DocModel.Proofs.Discovery.Replay

set_option autoImplicit false

/-! # Refining by documents that were seen before

A model that is refined by documents whose root objects have been folded into it keeps its classes,
its fields and everything about them but counts and coverage. Refining it by the same documents once
more adds the same counts again. -/

namespace DocModel

variable {ρ : Type}

namespace Model

/-- The second model is the first one with `n i` more objects counted by the class at position `i`
and `ns i j` more observations by its field at position `j`. Coverage is left out. -/
structure Gains (n : Nat → Nat) (ns : Nat → Nat → Nat) (before after : Model ρ) : Prop where
  name : after.name = before.name
  nsUri : after.nsUri = before.nsUri
  nsPrefix : after.nsPrefix = before.nsPrefix
  root : after.root = before.root
  classes : after.classes.map Class.clearCoverage
    = (before.classes.map Class.clearCoverage).mapIdx fun i cls => cls.gain (n i) (ns i)

/-! ## Coverage -/

namespace Class

theorem extends_clearCoverage (cls : Class ρ) : cls.Extends cls.clearCoverage := by
  refine ⟨rfl, Nat.le_refl _, Grown.map (fun field => ?_) cls.fields⟩
  exact ⟨rfl, rfl, rfl, Nat.le_refl _, Or.inl rfl⟩

end Class

end Model

/-! ## Seeds -/

namespace Discoverer

variable [Ratio ρ] (d : Discoverer) (name root : String)

/-- A run that starts from a model has everything the run had that made the model. -/
theorem extends_seed_modelOf (r : Registry ρ) : r.Extends (seed (d.modelOf name root r)) := by
  unfold Registry.Extends
  rw [classes_seed (d.nodup_classIds_modelOf name root r), clearCoverage_modelOf]
  exact Grown.map Model.Class.extends_clearCoverage r.classes

/-- The model that is left by a run from a model that has only counted. -/
theorem clearCoverage_modelOf_ticks {model : Model ρ} (h : model.classIds.Nodup)
    (ts : List Tick) :
    (d.modelOf name root ((seed model).ticks ts)).classes.map Model.Class.clearCoverage
      = (model.classes.map Model.Class.clearCoverage).map (Model.Class.ticks ts) := by
  rw [clearCoverage_modelOf]
  show ((seed model).classes.map (Model.Class.ticks ts)).map Model.Class.clearCoverage = _
  simp only [classes_seed h, List.map_map, Function.comp_def, Model.Class.clearCoverage_ticks,
    Model.Class.clearCoverage_clearCoverage]

end Discoverer

/-! ## Replaying root objects -/

namespace Discovery

/-- Root objects that can be taken one by one can be taken in any order, and repeatedly. -/
theorem again_roots {policy : Policy} {r : Registry ρ} {depth : Nat} {id : String}
    {objects : List Members}
    (h : ∀ object ∈ objects, ∃ entered, Again policy r depth (.entering id object) entered) :
    Again policy r depth (.roots id objects) () := by
  induction objects with
  | nil => exact .idle fun _ _ => .rootNil
  | cons object rest ih =>
    obtain ⟨entered, hentering⟩ := h object List.mem_cons_self
    have hrest := ih fun other hother => h other (List.mem_cons_of_mem _ hother)
    exact hentering.seq hrest fun _ _ _ _ h1 h2 => .rootCons h1 h2

end Discovery

namespace Discoverer

variable [Ratio ρ] (d : Discoverer) (name root : String)

/-- Refining by root objects that can be folded again makes the ticks of these objects, from every
model that has at least what the registry has. -/
theorem exists_ticks_refine {r : Registry ρ} {more : List Document} (hne : more ≠ [])
    (hdigest : d.digester name = .ok root)
    (hroots : Discovery.Again d.policy r 0 (.roots root (rootObjects more)) ()) :
    ∃ ts, ∀ model : Model ρ, model.name = name → r.Extends (seed model) →
      d.refine model more = .ok (d.modelOf name root ((seed model).ticks ts)) := by
  obtain ⟨ts, log, hagain⟩ := hroots
  refine ⟨ts, fun model hname hext => refine_eq_ok_iff.2 ⟨hne, ?_⟩⟩
  subst hname
  exact run_eq_ok_iff.2 ⟨root, _, hdigest, fold_eq_iff.2 (hagain (.of (seed model)) hext rfl), rfl⟩

/-- What ticks add to one model they add to the next. -/
theorem exists_gains (ts : List Tick) (first : Registry ρ) {second third : Registry ρ}
    (hsecond : second = (seed (d.modelOf name root first)).ticks ts)
    (hthird : third = (seed (d.modelOf name root second)).ticks ts) :
    ∃ n ns, (d.modelOf name root first).Gains n ns (d.modelOf name root second)
      ∧ (d.modelOf name root second).Gains n ns (d.modelOf name root third) := by
  have hnodup := fun r : Registry ρ => d.nodup_classIds_modelOf name root r
  have h12 := d.clearCoverage_modelOf_ticks name root (hnodup first) ts
  have h23 := d.clearCoverage_modelOf_ticks name root (hnodup second) ts
  rw [← hsecond] at h12
  rw [← hthird] at h23
  -- ids and names are the same in all three models, so the gains are as well
  obtain ⟨n, ns, hgains⟩ := Model.Class.exists_gains (ρ := ρ) ts
    (((d.modelOf name root first).classes.map Model.Class.clearCoverage).map Model.Class.skeleton)
  have hshape : ((d.modelOf name root second).classes.map Model.Class.clearCoverage).map
        Model.Class.skeleton
      = ((d.modelOf name root first).classes.map Model.Class.clearCoverage).map
        Model.Class.skeleton := by
    rw [h12, List.map_map]
    exact List.map_congr_left fun cls _ => cls.skeleton_ticks ts
  refine ⟨n, ns, ⟨rfl, rfl, rfl, rfl, ?_⟩, ⟨rfl, rfl, rfl, rfl, ?_⟩⟩
  · rw [h12, hgains _ rfl]
  · rw [h23, hgains _ hshape]

end Discoverer

/-- **Refining by what was seen before only counts.** Every refinement of a model by documents with
no other root objects than those it was made from succeeds. It keeps all classes and fields in
their order with their kinds, types, multiplicities and flags, and when it is done once more it adds
the same counts. -/
theorem refine_seen [Ratio ρ] (d : Discoverer) (documents more : List Document)
    (first : Model ρ)
    (h : (∃ source, d.discover source documents = .ok first)
      ∨ ∃ before, d.refine before documents = .ok first)
    (hne : more ≠ []) (hseen : ∀ object ∈ rootObjects more, object ∈ rootObjects documents) :
    ∃ (second third : Model ρ) (n : Nat → Nat) (ns : Nat → Nat → Nat),
      d.refine first more = .ok second ∧ d.refine second more = .ok third
        ∧ first.Gains n ns second ∧ second.Gains n ns third := by
  obtain ⟨name, registry, hrun⟩ : ∃ (name : String) (registry : Registry ρ),
      d.run name registry (rootObjects documents) = .ok first := by
    rcases h with ⟨source, hdiscover⟩ | ⟨before, hrefine⟩
    · exact ⟨source, _, (Discoverer.discover_eq_ok_iff.1 hdiscover).2⟩
    · exact ⟨before.name, _, (Discoverer.refine_eq_ok_iff.1 hrefine).2⟩
  obtain ⟨root, context, hdigest, hfold, rfl⟩ := Discoverer.run_eq_ok_iff.1 hrun
  have hreplays := (Discoverer.fold_eq_iff.1 hfold).replays () rfl
  obtain ⟨ts, hrefine⟩ := d.exists_ticks_refine name root hne hdigest
    (Discovery.again_roots fun object hobject => hreplays object (hseen object hobject))
  -- every refinement starts from at least what the first run has left
  have hfirst := d.extends_seed_modelOf name root context.registry
  have hsecond := (hfirst.trans (Registry.extends_ticks ts _)).trans
    (d.extends_seed_modelOf name root _)
  obtain ⟨n, ns, hgains, hgains'⟩ := d.exists_gains name root ts context.registry rfl rfl
  exact ⟨_, _, n, ns, hrefine _ rfl hfirst, hrefine _ rfl hsecond, hgains, hgains'⟩

theorem refine_seen_selfNested :
    ∃ (first second third : Model Rat) (n : Nat → Nat) (ns : Nat → Nat → Nat),
      Discoverer.discover ⟨.standard, .verbatim⟩ "A" [.object selfNested] = .ok first
        ∧ Discoverer.refine ⟨.standard, .verbatim⟩ first [.array [.object selfNested, .null]]
          = .ok second
        ∧ Discoverer.refine ⟨.standard, .verbatim⟩ second [.array [.object selfNested, .null]]
          = .ok third
        ∧ first.Gains n ns second ∧ second.Gains n ns third := by
  obtain ⟨first, hfirst, -⟩ := discover_selfNested
  have hroots : rootObjects [.array [.object selfNested, .null]]
      = rootObjects [.object selfNested] := rfl
  obtain ⟨second, third, n, ns, hgains⟩ := refine_seen ⟨.standard, .verbatim⟩
    [.object selfNested] [.array [.object selfNested, .null]] first (Or.inl ⟨"A", hfirst⟩)
    (List.cons_ne_nil _ _) (fun object hobject => hroots ▸ hobject)
  exact ⟨first, second, third, n, ns, hfirst, hgains⟩

end DocModel
