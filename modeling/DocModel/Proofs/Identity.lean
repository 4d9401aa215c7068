import DocModel.Proofs.Incremental

set_option autoImplicit false

/-! # Identities of models

A model has a name, a namespace and a root class. A discoverer makes all but the name of the name,
and a refinement makes them anew: it keeps the name, and it keeps the rest exactly if its own bases
and digester give the same. Objects are folded into the class that it takes for the root class,
whatever the root class was before. -/

namespace DocModel

variable {ρ : Type}

/-- The models have the same name, namespace and root class. -/
structure Model.SameIdentity (a b : Model ρ) : Prop where
  name : a.name = b.name
  nsUri : a.nsUri = b.nsUri
  nsPrefix : a.nsPrefix = b.nsPrefix
  root : a.root = b.root

namespace Discoverer

/-- The namespace and the root class of the model are those that the discoverer makes of its name. -/
structure Identifies (d : Discoverer) (model : Model ρ) : Prop where
  nsUri : model.nsUri = d.config.nsUri model.name
  nsPrefix : model.nsPrefix = d.config.nsPrefix model.name
  root : d.digester model.name = .ok model.root

/-- Models of one name that one discoverer identifies have the same identity. -/
theorem Identifies.sameIdentity {d : Discoverer} {a b : Model ρ} (ha : d.Identifies a)
    (hb : d.Identifies b) (hname : a.name = b.name) : a.SameIdentity b where
  name := hname
  nsUri := by rw [ha.nsUri, hb.nsUri, hname]
  nsPrefix := by rw [ha.nsPrefix, hb.nsPrefix, hname]
  root := by
    have hroot := ha.root
    rw [hname, hb.root] at hroot
    exact (Except.ok.inj hroot).symm

/-- A model has the identity of one that the discoverer identifies only if it identifies it too. -/
theorem Identifies.of_sameIdentity {d : Discoverer} {a b : Model ρ} (ha : d.Identifies a)
    (h : a.SameIdentity b) : d.Identifies b where
  nsUri := by rw [← h.nsUri, ha.nsUri, h.name]
  nsPrefix := by rw [← h.nsPrefix, ha.nsPrefix, h.name]
  root := by rw [← h.name, ha.root, h.root]

/-- What a run from the classes of a model makes of it. -/
structure Renews [Ratio ρ] (d : Discoverer) (before after : Model ρ) (roots : List Members) :
    Prop where
  name : after.name = before.name
  identified : d.Identifies after
  /-- The objects are handed to the new root class. -/
  folded : ∃ context : Context ρ, d.fold (seed before) after.root roots = (.ok (), context)
    ∧ after.classes = context.registry.computeCoverage.classes

variable [Ratio ρ] {d : Discoverer}

theorem renews_of_run {before after : Model ρ} {roots : List Members}
    (h : d.run before.name (seed before) roots = .ok after) : d.Renews before after roots := by
  obtain ⟨root, context, hdigest, hfold, rfl⟩ := run_eq_ok_iff.1 h
  exact ⟨rfl, ⟨rfl, rfl, hdigest⟩, context, hfold, rfl⟩

theorem Renews.sameIdentity_iff {before after : Model ρ} {roots : List Members}
    (h : d.Renews before after roots) : after.SameIdentity before ↔ d.Identifies before := by
  constructor
  · exact h.identified.of_sameIdentity
  · intro hbefore
    exact h.identified.sameIdentity hbefore h.name

/-- What a run has made of a name is identified by its discoverer. -/
theorem identifies_of_discover {name : String} {documents : List Document} {model : Model ρ}
    (h : d.discover name documents = .ok model) : d.Identifies model := by
  obtain ⟨root, context, hdigest, -, rfl⟩ := exists_runs_of_discover h
  exact ⟨rfl, rfl, hdigest⟩

end Discoverer

/-- **A refinement renews the identity of a model.** Only the name is kept in any case. The namespace
and the root class become those that the refining discoverer makes of the name, so they are kept
exactly if it would have made them itself, and the objects go to the root class that it has made. -/
theorem refinement_renews_identity [Ratio ρ] (d : Discoverer) (before after : Model ρ) :
    (∀ documents : List Document, d.refine before documents = .ok after →
      d.Renews before after (rootObjects documents)
        ∧ (after.SameIdentity before ↔ d.Identifies before))
    ∧ ∀ source : Source, d.refineSource before source = .ok after →
      d.Renews before after source.roots
        ∧ (after.SameIdentity before ↔ d.Identifies before) := by
  constructor
  · intro documents h
    have hrenews := Discoverer.renews_of_run (Discoverer.refine_eq_ok_iff.1 h).2
    exact ⟨hrenews, hrenews.sameIdentity_iff⟩
  · intro source h
    have hrenews := Discoverer.renews_of_run (Discoverer.refineSource_eq_ok_iff.1 h).2
    exact ⟨hrenews, hrenews.sameIdentity_iff⟩

/-- Other bases and other names of classes than the usual ones. -/
def shop : Discoverer := ⟨⟨"urn:shop:", "shop", none⟩, .verbatim⟩

/-- Refined by a discoverer with the usual bases and names, a model of the shop gets another
namespace and another root class, and the root class that it had is not refined. -/
theorem refine_shop :
    ∃ before after : Model Rat,
      shop.discover "orders" [.object [("sku", .string "A")]] = .ok before
        ∧ Discoverer.refine ⟨.standard, .pluralStrip⟩ before [.object [("sku", .string "B")]]
          = .ok after
        ∧ after.nsUri ≠ before.nsUri ∧ after.nsPrefix ≠ before.nsPrefix ∧ after.root ≠ before.root
        ∧ after.classes.map (fun cls => (cls.id, cls.occurrences)) = [("orders", 1), ("Order", 1)] := by
  refine ⟨_, _, Discoverer.discover_eq_ok_iff.2
      ⟨List.cons_ne_nil _ _, Discoverer.run_eq_ok_iff.2 ⟨"orders", _, rfl, rfl, rfl⟩⟩,
    Discoverer.refine_eq_ok_iff.2
      ⟨List.cons_ne_nil _ _, Discoverer.run_eq_ok_iff.2 ⟨"Order", _, rfl, rfl, rfl⟩⟩, ?_, ?_, ?_, rfl⟩
  · decide
  · decide
  · decide

theorem refinement_renews_identity_shop :
    ∃ before after : Model Rat,
      Discoverer.refine ⟨.standard, .pluralStrip⟩ before [.object [("sku", .string "B")]] = .ok after
        ∧ Discoverer.Renews ⟨.standard, .pluralStrip⟩ before after
          (rootObjects [.object [("sku", .string "B")]])
        ∧ ¬ Discoverer.Identifies ⟨.standard, .pluralStrip⟩ before := by
  obtain ⟨before, after, -, hafter, hnsUri, -⟩ := refine_shop
  obtain ⟨hrenews, hiff⟩ :=
    (refinement_renews_identity ⟨.standard, .pluralStrip⟩ before after).1 _ hafter
  exact ⟨before, after, hafter, hrenews, fun hbefore => hnsUri (hiff.2 hbefore).nsUri⟩

/-- So there are refinements that do not keep the identity of the model. -/
theorem exists_refine_not_sameIdentity :
    ¬ ∀ (d : Discoverer) (before after : Model Rat) (documents : List Document),
      d.refine before documents = .ok after → after.SameIdentity before := by
  intro hkept
  obtain ⟨before, after, -, hafter, hnsUri, -⟩ := refine_shop
  exact hnsUri (hkept _ before after _ hafter).nsUri

/-- Refined by the discoverer that has discovered it a model stays what it was. -/
theorem sameIdentity_of_refine_discovered [Ratio ρ] {d : Discoverer} {name : String}
    {first second : List Document} {before after : Model ρ}
    (hbefore : d.discover name first = .ok before) (hafter : d.refine before second = .ok after) :
    after.SameIdentity before := by
  have hrenews := Discoverer.renews_of_run (Discoverer.refine_eq_ok_iff.1 hafter).2
  exact hrenews.sameIdentity_iff.2 (Discoverer.identifies_of_discover hbefore)

end DocModel
