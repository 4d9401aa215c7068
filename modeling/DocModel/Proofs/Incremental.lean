import DocModel.Proofs.Counts
import DocModel.Proofs.Discovery.Likeness

set_option autoImplicit false

/-! # Documents in one go or bit by bit

A run over documents can be stopped after any of them, and a refinement of the model that it has
made by the other documents ends with the same model or with the same error. In between the classes
have got coverage, have lost it again and have been put into another registry. What this leaves is
alike to the registry that the run would have gone on with, and coverage is computed from the counts
in the end, so there is no difference to be seen. -/

namespace DocModel

variable {ρ : Type}

/-! ## Models of registries that are alike -/

namespace Discoverer

variable [Ratio ρ] (d : Discoverer) (name root : String)

theorem modelOf_eq_of_alike {r s : Registry ρ} (h : r.Alike s) :
    d.modelOf name root r = d.modelOf name root s := by
  unfold modelOf
  rw [h.classes_computeCoverage_eq]

/-- The registry that a refinement starts from is the one that the model was made from. -/
theorem alike_seed_modelOf (r : Registry ρ) : r.Alike (seed (d.modelOf name root r)) := by
  unfold Registry.Alike
  rw [classes_seed (d.nodup_classIds_modelOf name root r), clearCoverage_modelOf, List.map_map]
  exact List.map_congr_left fun cls _ => cls.clearCoverage_clearCoverage.symm

end Discoverer

/-! ## Root objects in two parts -/

namespace Discovery

theorem run_discoverRoots_append (policy : Policy) (id : String) (first second : List Members)
    (c : Context ρ) :
    (discoverRoots policy id (first ++ second)).run c
      = match (discoverRoots policy id first).run c with
        | (.ok (), c₁) => (discoverRoots policy id second).run c₁
        | (.error e, c₁) => (.error e, c₁) := by
  induction first generalizing c with
  | nil => rfl
  | cons root rest ih =>
    rw [List.cons_append, discoverRoots, discoverRoots, run_bind, run_bind]
    rcases (discard (discoverClass policy id root)).run c with ⟨_ | _, c₁⟩
    · rfl
    · exact ih c₁

end Discovery

/-! ## Runs in two parts -/

namespace Discoverer

variable [Ratio ρ] (d : Discoverer)

/-- The outcome of a run is that of folding its root objects. -/
theorem run_eq_map {name root : String} (h : d.digester name = .ok root) (r : Registry ρ)
    (roots : List Members) :
    d.run name r roots = (d.fold r root roots).1.map
      fun _ => d.modelOf name root (d.fold r root roots).2.registry := by
  simp only [run, h]
  rcases d.fold r root roots with ⟨_ | _, c⟩ <;> rfl

/-- Root objects can be folded in two runs, the second one from the model of the first one. -/
theorem run_append (name : String) (r : Registry ρ) (first second : List Members) :
    d.run name r (first ++ second)
      = d.run name r first >>= fun model => d.run model.name (seed model) second := by
  cases hdigest : d.digester name with
  | error e => simp only [run, hdigest]; rfl
  | ok root =>
    rw [d.run_eq_map hdigest, d.run_eq_map hdigest]
    simp only [fold, Discovery.run_discoverRoots_append]
    rcases hfirst : (Discovery.discoverRoots d.policy root first).run (.of r) with ⟨_ | _, c⟩
    · rfl
    · -- the first run ends at the depth at which the second one starts
      have hdepth : c.depth = 0 :=
        ((Discovery.runs_iff (.roots root first) trivial).2 hfirst).depth_eq
      have halike : c.Alike (.of (seed (d.modelOf name root c.registry))) :=
        ⟨d.alike_seed_modelOf name root c.registry, hdepth.symm⟩
      obtain ⟨houtcome, hafter⟩ := Discovery.run_alike d.policy (.roots root second) trivial halike
      show _ = d.run name (seed (d.modelOf name root c.registry)) second
      rw [d.run_eq_map hdigest, houtcome, d.modelOf_eq_of_alike name root hafter.registry]
      rfl

end Discoverer

/-! ## Documents and sources in two parts -/

theorem rootObjects_append (first second : List Document) :
    rootObjects (first ++ second) = rootObjects first ++ rootObjects second :=
  List.flatMap_append

theorem Source.roots_append (name : String) (first second : List SourceDocument) :
    (Source.mk name (first ++ second)).roots
      = (Source.mk name first).roots ++ (Source.mk name second).roots :=
  List.flatMap_append

/-- **Documents in one go or bit by bit**: a run over documents is a run over the first ones and a
refinement of its model by the others, with the same model or the same error as its result. The same
holds of refinements, and of sources that are cut in two. -/
theorem incremental_eq_batch [Ratio ρ] (d : Discoverer) :
    (∀ first second : List Document, first ≠ [] → second ≠ [] →
      (∀ name : String, (d.discover name (first ++ second) : Except Error (Model ρ))
        = d.discover name first >>= fun model => d.refine model second)
      ∧ ∀ model : Model ρ, d.refine model (first ++ second)
        = d.refine model first >>= fun model => d.refine model second)
    ∧ ∀ (name : String) (first second : List SourceDocument), first ≠ [] → second ≠ [] →
      (d.discoverSource ⟨name, first ++ second⟩ : Except Error (Model ρ))
        = d.discoverSource ⟨name, first⟩ >>= (fun model => d.refineSource model ⟨name, second⟩)
      ∧ ∀ model : Model ρ, d.refineSource model ⟨name, first ++ second⟩
        = d.refineSource model ⟨name, first⟩
          >>= fun model => d.refineSource model ⟨name, second⟩ := by
  refine ⟨fun first second hfirst hsecond => ⟨fun name => ?_, fun model => ?_⟩,
    fun name first second hfirst hsecond => ⟨?_, fun model => ?_⟩⟩
  · simp [Discoverer.discover, Discoverer.refine, hfirst, hsecond, rootObjects_append,
      Discoverer.run_append]
  · simp [Discoverer.refine, hfirst, hsecond, rootObjects_append,
      Discoverer.run_append]
  · simp [Discoverer.discoverSource, Discoverer.refineSource, Source.isEmpty, hfirst, hsecond,
      Source.roots_append, Discoverer.run_append]
  · simp [Discoverer.refineSource, Source.isEmpty, hfirst, hsecond, Source.roots_append,
      Discoverer.run_append]

/-- The second document refines the class of a model that has got coverage and lost it again. -/
theorem incremental_eq_batch_selfNested :
    (∃ model : Model Rat,
      Discoverer.discover ⟨.standard, .verbatim⟩ "A" [.object selfNested] = .ok model
        ∧ Discoverer.discover ⟨.standard, .verbatim⟩ "A" [.object selfNested, .object selfNested]
          = Discoverer.refine ⟨.standard, .verbatim⟩ model [.object selfNested])
    ∧ (Discoverer.discoverSource ⟨.standard, .verbatim⟩
          ⟨"A", [⟨none, .object selfNested⟩, ⟨some selfNested, .null⟩]⟩ : Except Error (Model Rat))
        = Discoverer.discoverSource ⟨.standard, .verbatim⟩ ⟨"A", [⟨none, .object selfNested⟩]⟩
          >>= fun model => Discoverer.refineSource ⟨.standard, .verbatim⟩ model
            ⟨"A", [⟨some selfNested, .null⟩]⟩ := by
  have hcut := incremental_eq_batch (ρ := Rat) ⟨.standard, .verbatim⟩
  constructor
  · obtain ⟨model, hmodel, -⟩ := discover_selfNested
    have hbatch := (hcut.1 [.object selfNested] [.object selfNested] (List.cons_ne_nil _ _)
      (List.cons_ne_nil _ _)).1 "A"
    rw [hmodel] at hbatch
    exact ⟨model, hmodel, hbatch⟩
  · exact (hcut.2 "A" [⟨none, .object selfNested⟩] [⟨some selfNested, .null⟩]
      (List.cons_ne_nil _ _) (List.cons_ne_nil _ _)).1

end DocModel
