import DocModel.Discoverer
import DocModel.Proofs.Discovery.Tally
import DocModel.Proofs.Registry.Likeness

set_option autoImplicit false

/-! # Runs of a discoverer

A run that succeeds has folded its root objects without an error, and its model has the classes of
the registry it ended with. A refinement starts from these classes again, without coverage. Root
objects have distinct names wherever the documents have, also where an output is put into an
input. -/

namespace DocModel

variable {ρ : Type}

/-- What a result shows is found by evaluation, without the result being written down. -/
theorem exists_eq_ok_of_toOption_map {ε α β : Type} {outcome : Except ε α} {f : α → β} {shown : β}
    (h : outcome.toOption.map f = some shown) : ∃ value, outcome = .ok value ∧ f value = shown := by
  cases outcome with
  | error e => exact absurd h nofun
  | ok value => exact ⟨value, rfl, Option.some.inj h⟩

/-! ## Root objects -/

theorem Document.distinct_of_mem_items {items : List Document} (h : DistinctItems items) :
    ∀ item ∈ items, item.Distinct := by
  induction items with
  | nil => exact nofun
  | cons item rest ih =>
    intro other hother
    rcases List.mem_cons.1 hother with rfl | hrest
    · exact h.1
    · exact ih h.2 other hrest

theorem Document.rootObjects_distinct {document : Document} (h : document.Distinct) :
    ∀ object ∈ document.rootObjects, (Document.object object).Distinct := by
  intro root hroot
  cases document with
  | object object =>
    obtain rfl : root = object := by simpa [Document.rootObjects] using hroot
    exact h
  | array items =>
    obtain ⟨item, hitem, hmembers⟩ := List.mem_filterMap.1 hroot
    have hdistinct := distinct_of_mem_items h item hitem
    cases item with
    | object object =>
      obtain rfl : object = root := Option.some.inj hmembers
      exact hdistinct
    | null | bool | number | string | array => simp [Document.members?] at hmembers
  | null | bool | number | string => simp [Document.rootObjects] at hroot

theorem rootObjects_distinct {documents : List Document}
    (h : ∀ document ∈ documents, document.Distinct) :
    ∀ object ∈ rootObjects documents, (Document.object object).Distinct := by
  intro root hroot
  obtain ⟨document, hdocument, hin⟩ := List.mem_flatMap.1 hroot
  exact document.rootObjects_distinct (h document hdocument) root hin

/-! ## Root objects of sources -/

/-- Member names are distinct in the data and in the input. -/
def SourceDocument.Distinct (document : SourceDocument) : Prop :=
  document.data.Distinct ∧ ∀ input, document.input = some input → (Document.object input).Distinct

theorem Document.distinctMembers_put {name : String} {value : Document} {members : Members}
    (h : DistinctMembers members) (hvalue : value.Distinct) :
    DistinctMembers (Assoc.put name value members) := by
  induction members with
  | nil => exact ⟨hvalue, trivial⟩
  | cons entry rest ih =>
    unfold Assoc.put
    split
    · exact ⟨hvalue, h.2⟩
    · exact ⟨h.1, ih h.2⟩

theorem Source.roots_distinct {source : Source}
    (h : ∀ document ∈ source.documents, document.Distinct) :
    ∀ object ∈ source.roots, (Document.object object).Distinct := by
  intro root hroot
  obtain ⟨document, hdocument, hin⟩ := List.mem_flatMap.1 hroot
  obtain ⟨hdata, hinput⟩ := h document hdocument
  unfold rootsOf at hin
  split at hin
  · rename_i input hsome
    obtain ⟨hnodup, hmembers⟩ := hinput input hsome
    rw [List.mem_singleton.1 hin]
    exact ⟨Assoc.nodup_keys_put hnodup, Document.distinctMembers_put hmembers hdata⟩
  · exact document.data.rootObjects_distinct hdata root hin

/-! ## Coverage -/

theorem Model.Class.id_computeCoverage [Ratio ρ] (cls : Model.Class ρ) :
    cls.computeCoverage.id = cls.id := rfl

theorem Model.Class.names_computeCoverage [Ratio ρ] (cls : Model.Class ρ) :
    cls.computeCoverage.fields.map (·.name) = cls.fields.map (·.name) := by
  simp [computeCoverage, mapFields, Field.withCoverage]

theorem Registry.ids_computeCoverage [Ratio ρ] (r : Registry ρ) : r.computeCoverage.ids = r.ids :=
  ids_map _ _ Model.Class.id_computeCoverage

namespace Discoverer

variable {d : Discoverer} {registry : Registry ρ} {root : String} {roots : List Members}

/-! ## Runs that succeed -/

/-- Folding root objects follows the rules. -/
theorem fold_eq_iff {outcome : Except Error Unit} {c : Context ρ} :
    d.fold registry root roots = (outcome, c)
      ↔ Discovery.Runs d.policy (.roots root roots) (.of registry) outcome c :=
  (Discovery.runs_iff (.roots root roots) trivial).symm

theorem run_eq_ok_iff [Ratio ρ] {name : String} {model : Model ρ} :
    d.run name registry roots = .ok model ↔ ∃ root c, d.digester name = .ok root
      ∧ d.fold registry root roots = (.ok (), c) ∧ d.modelOf name root c.registry = model := by
  unfold run
  cases hdigest : d.digester name with
  | error e => simp
  | ok root =>
    rcases hfold : d.fold registry root roots with ⟨_ | _, c⟩ <;> simp [hfold]

theorem discover_eq_ok_iff [Ratio ρ] {name : String} {documents : List Document}
    {model : Model ρ} :
    d.discover name documents = .ok model
      ↔ documents ≠ [] ∧ d.run name .empty (rootObjects documents) = .ok model := by
  cases documents <;> simp [discover]

/-- A model that is discovered is what folding the root objects from nothing has left. -/
theorem exists_runs_of_discover [Ratio ρ] {name : String} {documents : List Document}
    {model : Model ρ} (h : d.discover name documents = .ok model) :
    ∃ (root : String) (context : Context ρ), d.digester name = .ok root
      ∧ Discovery.Runs d.policy (.roots root (rootObjects documents)) (.of .empty) (.ok ()) context
      ∧ d.modelOf name root context.registry = model := by
  obtain ⟨-, hrun⟩ := discover_eq_ok_iff.1 h
  obtain ⟨root, context, hdigest, hfold, hmodel⟩ := run_eq_ok_iff.1 hrun
  exact ⟨root, context, hdigest, fold_eq_iff.1 hfold, hmodel⟩

theorem refine_eq_ok_iff [Ratio ρ] {before after : Model ρ} {documents : List Document} :
    d.refine before documents = .ok after ↔ documents ≠ []
      ∧ d.run before.name (seed before) (rootObjects documents) = .ok after := by
  cases documents <;> simp [refine]

theorem discoverSource_eq_ok_iff [Ratio ρ] {source : Source} {model : Model ρ} :
    d.discoverSource source = .ok model
      ↔ source.documents ≠ [] ∧ d.run source.name .empty source.roots = .ok model := by
  rcases source with ⟨name, _ | _⟩ <;> simp [discoverSource, Source.isEmpty]

theorem refineSource_eq_ok_iff [Ratio ρ] {before after : Model ρ} {source : Source} :
    d.refineSource before source = .ok after ↔ source.documents ≠ []
      ∧ d.run before.name (seed before) source.roots = .ok after := by
  rcases source with ⟨name, _ | _⟩ <;> simp [refineSource, Source.isEmpty]

/-! ## The model of a registry -/

theorem mem_classes_modelOf [Ratio ρ] {name : String} {cls : Model.Class ρ} :
    cls ∈ (d.modelOf name root registry).classes
      ↔ ∃ stored ∈ registry.classes, stored.computeCoverage = cls := List.mem_map

theorem classIds_modelOf [Ratio ρ] {name : String} :
    (d.modelOf name root registry).classIds = registry.ids := registry.ids_computeCoverage

end Discoverer

/-! ## Seeds -/

namespace Discoverer

theorem classes_seed {model : Model ρ} (h : model.classIds.Nodup) :
    (seed model).classes = model.classes.map Model.Class.clearCoverage := by
  refine Registry.classes_ofClasses ?_
  rwa [List.map_map]

variable [Ratio ρ] (d : Discoverer) (name root : String)

theorem nodup_classIds_modelOf (r : Registry ρ) : (d.modelOf name root r).classIds.Nodup := by
  rw [classIds_modelOf]
  exact r.nodup_ids

theorem clearCoverage_modelOf (r : Registry ρ) :
    (d.modelOf name root r).classes.map Model.Class.clearCoverage
      = r.classes.map Model.Class.clearCoverage := by
  show (r.classes.map Model.Class.computeCoverage).map Model.Class.clearCoverage = _
  simp only [List.map_map, Function.comp_def, Model.Class.clearCoverage_computeCoverage]

end Discoverer

end DocModel
