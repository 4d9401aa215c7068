import DocModel.Proofs.Registry.Consistent
import DocModel.Proofs.WellFormed
import Mathlib.Algebra.Order.Field.Basic
import Mathlib.Algebra.Order.Field.Rat

set_option autoImplicit false

/-! # Models that are discovered are valid

Validation accepts every model that a discoverer returns, whether it was discovered from nothing or
refined from a model that validation accepts. -/

namespace DocModel

variable {ρ : Type}

/-! ## What validation accepts -/

namespace Model

theorem hasClass_iff {model : Model ρ} {id : String} :
    model.hasClass id = true ↔ id ∈ model.classIds := List.contains_iff_mem

theorem danglingReferences_eq_nil_iff {model : Model ρ} :
    model.danglingReferences = [] ↔ ∀ cls ∈ model.classes, cls.Closed (· ∈ model.classIds) := by
  simp only [danglingReferences, List.flatMap_eq_nil_iff, List.filterMap_eq_nil_iff,
    Option.bind_eq_none_iff, ite_eq_left_iff, reduceCtorEq, imp_false, not_not, hasClass_iff,
    Class.Closed]

theorem countViolations_eq_nil_iff {model : Model ρ} :
    model.countViolations = [] ↔ ∀ cls ∈ model.classes, cls.BoundedFields := by
  simp only [countViolations, List.flatMap_eq_nil_iff, List.filterMap_eq_nil_iff,
    ite_eq_right_iff, reduceCtorEq, imp_false, gt_iff_lt, Nat.not_lt, Class.BoundedFields]

theorem coverageViolations_eq_nil_iff [Ratio ρ] {model : Model ρ} :
    model.coverageViolations = []
      ↔ ∀ cls ∈ model.classes, ∀ field ∈ cls.fields, field.isCovered cls.occurrences = true := by
  simp only [coverageViolations, List.flatMap_eq_nil_iff, List.filterMap_eq_nil_iff,
    ite_eq_left_iff, reduceCtorEq, imp_false, not_not]

/-- Validation accepts exactly the models of consistent classes with coverage that agrees with the
counts. -/
theorem isValid_iff [Ratio ρ] {model : Model ρ} :
    model.validate.isValid = true ↔ ∀ cls ∈ model.classes, cls.Consistent (· ∈ model.classIds)
      ∧ ∀ field ∈ cls.fields, field.isCovered cls.occurrences = true := by
  simp only [Findings.isValid, validate, Bool.and_eq_true, List.isEmpty_iff,
    danglingReferences_eq_nil_iff, countViolations_eq_nil_iff, coverageViolations_eq_nil_iff]
  constructor
  · rintro ⟨⟨hclosed, hbounded⟩, hcovered⟩ cls hcls
    exact ⟨⟨hclosed cls hcls, hbounded cls hcls⟩, hcovered cls hcls⟩
  · intro h
    exact ⟨⟨fun cls hcls => (h cls hcls).1.closed, fun cls hcls => (h cls hcls).1.bounded⟩,
      fun cls hcls => (h cls hcls).2⟩

end Model

/-! ## Coverage in rationals -/

namespace Ratio

theorem share_eq_div (part whole : Nat) : (share part whole : Rat) = part / whole := by
  unfold share
  split
  · rename_i hzero
    simp [hzero, ofCount]
  · rfl

theorem share_nonneg (part whole : Nat) : 0 ≤ (share part whole : Rat) := by
  rw [share_eq_div]
  exact div_nonneg (Nat.cast_nonneg part) (Nat.cast_nonneg whole)

theorem share_le_one {part whole : Nat} (h : part ≤ whole) : (share part whole : Rat) ≤ 1 := by
  rw [share_eq_div]
  exact div_le_one_of_le₀ (Nat.cast_le.2 h) (Nat.cast_nonneg whole)

theorem agrees_self {ratio : Rat} (hnonneg : 0 ≤ ratio) (hle : ratio ≤ 1) :
    agrees ratio ratio = true := by
  simp [agrees, atMost, ofCount, below, distance, tolerance, hnonneg, hle]

end Ratio

namespace Model

/-- The coverage of every field is the share of the instances that it was observed on, which is zero
where there was no instance. -/
def Class.ExactCoverage (cls : Class Rat) : Prop :=
  ∀ field ∈ cls.fields, ∃ ratio : Rat, field.coverage = some ratio ∧ 0 ≤ ratio ∧ ratio ≤ 1
    ∧ ratio = field.occurrences / cls.occurrences

theorem Class.ExactCoverage.isCovered {cls : Class Rat} (h : cls.ExactCoverage) {field : Field Rat}
    (hfield : field ∈ cls.fields) : field.isCovered cls.occurrences = true := by
  obtain ⟨ratio, hcoverage, hnonneg, hle, hratio⟩ := h field hfield
  rw [← Ratio.share_eq_div] at hratio
  simp only [Field.isCovered, hcoverage, ← hratio]
  exact Ratio.agrees_self hnonneg hle

theorem Class.exactCoverage_computeCoverage {cls : Class Rat} (h : cls.BoundedFields) :
    cls.computeCoverage.ExactCoverage := by
  intro field hfield
  obtain ⟨old, hold, rfl⟩ := List.mem_map.1 hfield
  exact ⟨_, rfl, Ratio.share_nonneg .., Ratio.share_le_one (h old hold), Ratio.share_eq_div ..⟩

/-- References lead to classes of the model, no field was observed more often than its class, and
coverage is exact. -/
def Exact (model : Model Rat) : Prop :=
  ∀ cls ∈ model.classes, cls.Consistent (· ∈ model.classIds) ∧ cls.ExactCoverage

theorem Exact.isValid {model : Model Rat} (h : model.Exact) : model.validate.isValid = true :=
  isValid_iff.2 fun cls hcls => ⟨(h cls hcls).1, fun _ hfield => (h cls hcls).2.isCovered hfield⟩

/-! ## Classes with other coverage -/

theorem Class.Consistent.mono {known more : String → Prop} {cls : Class ρ}
    (h : cls.Consistent known) (hmore : ∀ id, known id → more id) : cls.Consistent more :=
  ⟨classInvariant_closed.mono h.closed hmore, h.bounded⟩

/-- Coverage does not matter to consistency. -/
theorem Class.Consistent.mapFields {known : String → Prop} {cls : Class ρ}
    (h : cls.Consistent known) {f : Field ρ → Field ρ}
    (hf : ∀ field, ∃ ratio, f field = field.withCoverage ratio) :
    (cls.mapFields f).Consistent known := by
  refine ⟨fun field hfield => ?_, fun field hfield => ?_⟩ <;>
    obtain ⟨old, hold, rfl⟩ := List.mem_map.1 hfield <;> obtain ⟨ratio, hratio⟩ := hf old
  · rw [hratio]
    exact h.closed old hold
  · rw [hratio]
    exact h.bounded old hold

end Model

/-! ## Consistent registries -/

namespace Registry

/-- References lead to registered classes, and no field was observed more often than its class. -/
def Consistent (r : Registry ρ) : Prop := r.Each fun known cls => cls.Consistent known

/-- The parts of consistency that hold at every point of a traversal, and the one that does not. -/
theorem consistent_iff {r : Registry ρ} :
    r.Consistent ↔ (r.Each fun known cls => cls.Closed known)
      ∧ (r.Each fun _ cls => cls.BoundedRepeats) ∧ r.Bounded := by
  constructor
  · intro h
    refine ⟨fun cls hcls => (h cls hcls).closed, fun cls hcls => ?_,
      bounded_of_counts fun cls hcls => (h cls hcls).bounded⟩
    exact List.pairwise_of_forall_mem_list fun _ _ other hother _ =>
      (h cls hcls).bounded other hother
  · rintro ⟨hclosed, hrepeats, hbounded⟩ cls hcls
    refine ⟨hclosed cls hcls, fun field hfield => ?_⟩
    rcases Model.find?_eq_some_or (hrepeats cls hcls) hfield with hfirst | hle
    · have hfound : r.field? cls.id field.name = some field := by
        rw [field?, get?_of_mem hcls]
        exact hfirst
      exact hbounded.le_of_field? hcls hfound
    · exact hle

end Registry

theorem Discovery.Runs.consistent {policy : Policy} {task : Task} {c c' : Context ρ}
    {outcome : Except Error task.Result} (h : Runs policy task c outcome c')
    (hdistinct : task.Distinct) (howed : ∀ id name, task.owed id name = 0)
    (hconsistent : c.registry.Consistent) : c'.registry.Consistent := by
  obtain ⟨hclosed, hrepeats, hbounded⟩ := Registry.consistent_iff.1 hconsistent
  refine Registry.consistent_iff.2 ⟨h.each classInvariant_closed hclosed,
    h.each classInvariant_boundedRepeats hrepeats, h.bounded hdistinct fun id name => ?_⟩
  rw [howed, Nat.add_zero]
  exact hbounded id name

/-! ## Runs of a discoverer -/

namespace Discoverer

/-- The classes of a valid model are a start that is consistent, also where ids are repeated. -/
theorem consistent_seed [Ratio ρ] {model : Model ρ} (h : model.validate.isValid = true) :
    (seed model).Consistent := by
  intro cls hcls
  obtain ⟨old, hold, rfl⟩ := List.mem_map.1 (Registry.mem_of_mem_ofClasses hcls)
  refine ((Model.isValid_iff.1 h old hold).1.mapFields fun _ => ⟨none, rfl⟩).mono fun id hid => ?_
  rw [seed, Registry.contains_ofClasses, List.map_map]
  exact hid

theorem exact_modelOf (d : Discoverer) (name root : String) {r : Registry Rat}
    (h : r.Consistent) : (d.modelOf name root r).Exact := by
  intro cls hcls
  obtain ⟨stored, hstored, rfl⟩ := mem_classes_modelOf.1 hcls
  have hconsistent := h stored hstored
  refine ⟨(hconsistent.mapFields fun _ => ⟨_, rfl⟩).mono fun id hid => ?_,
    Model.Class.exactCoverage_computeCoverage hconsistent.bounded⟩
  rw [classIds_modelOf]
  exact Registry.contains_iff_mem_ids.1 hid

/-- A run from a consistent registry ends with a valid model. -/
theorem isValid_of_run_eq_ok {d : Discoverer} {name : String} {r : Registry Rat}
    {roots : List Members} {model : Model Rat} (h : d.run name r roots = .ok model)
    (hdistinct : ∀ object ∈ roots, (Document.object object).Distinct) (hr : r.Consistent) :
    model.validate.isValid = true ∧ model.Exact := by
  obtain ⟨root, context, -, hfold, rfl⟩ := run_eq_ok_iff.1 h
  have hafter := (fold_eq_iff.1 hfold).consistent hdistinct (fun _ _ => rfl) hr
  have hexact := d.exact_modelOf name root hafter
  exact ⟨hexact.isValid, hexact⟩

end Discoverer

/-- **Validation accepts what discovery makes**: every model that is discovered from documents or
from a source, and every refinement of a model that validation accepts. The models are even exact,
without any tolerance. -/
theorem discovered_isValid (d : Discoverer) :
    (∀ (name : String) (documents : List Document) (model : Model Rat),
      (∀ document ∈ documents, document.Distinct) → d.discover name documents = .ok model →
        model.validate.isValid = true ∧ model.Exact)
    ∧ (∀ (source : Source) (model : Model Rat),
      (∀ document ∈ source.documents, document.Distinct) → d.discoverSource source = .ok model →
        model.validate.isValid = true ∧ model.Exact)
    ∧ (∀ (before after : Model Rat) (documents : List Document),
      before.validate.isValid = true → (∀ document ∈ documents, document.Distinct) →
        d.refine before documents = .ok after → after.validate.isValid = true ∧ after.Exact)
    ∧ ∀ (before after : Model Rat) (source : Source),
      before.validate.isValid = true → (∀ document ∈ source.documents, document.Distinct) →
        d.refineSource before source = .ok after → after.validate.isValid = true ∧ after.Exact := by
  refine ⟨fun name documents model hdistinct h => ?_, fun source model hdistinct h => ?_,
    fun before after documents hbefore hdistinct h => ?_,
    fun before after source hbefore hdistinct h => ?_⟩
  · have hrun := (Discoverer.discover_eq_ok_iff.1 h).2
    exact Discoverer.isValid_of_run_eq_ok hrun (rootObjects_distinct hdistinct)
      (Registry.each_empty _)
  · have hrun := (Discoverer.discoverSource_eq_ok_iff.1 h).2
    exact Discoverer.isValid_of_run_eq_ok hrun (Source.roots_distinct hdistinct)
      (Registry.each_empty _)
  · have hrun := (Discoverer.refine_eq_ok_iff.1 h).2
    exact Discoverer.isValid_of_run_eq_ok hrun (rootObjects_distinct hdistinct)
      (Discoverer.consistent_seed hbefore)
  · have hrun := (Discoverer.refineSource_eq_ok_iff.1 h).2
    exact Discoverer.isValid_of_run_eq_ok hrun (Source.roots_distinct hdistinct)
      (Discoverer.consistent_seed hbefore)

/-- A model of classes that were never observed. An id and a name are repeated, and no kind is what
the type says. -/
def unobserved : Model Rat :=
  ⟨"A", "", "", "A",
    [⟨"A", [], 0⟩,
      ⟨"A",
        [⟨"A", .attribute, .instanceOf "B", .many, true, 0, some 0⟩,
          ⟨"A", .reference, .string, .one, false, 0, some 0⟩], 0⟩]⟩

theorem unobserved_isValid : unobserved.validate.isValid = true := by
  decide +kernel

/-- The last class of the repeated id is refined, and in it the first field of the repeated name. -/
theorem discovered_isValid_unobserved :
    (∃ model : Model Rat,
      Discoverer.discover ⟨.standard, .verbatim⟩ "A" [.object selfNested] = .ok model
        ∧ model.validate.isValid = true ∧ model.Exact)
    ∧ ∃ after : Model Rat,
      unobserved.validate.isValid = true
        ∧ Discoverer.refineSource ⟨.standard, .verbatim⟩ unobserved
          ⟨"A", [⟨none, .object selfNested⟩]⟩ = .ok after
        ∧ after.classes.map (·.fields.map (·.occurrences)) = [[2, 0]]
        ∧ after.validate.isValid = true ∧ after.Exact := by
  have hdistinct : (Document.object selfNested).Distinct := by
    simp [selfNested, Document.Distinct, Document.DistinctMembers]
  obtain ⟨hdiscover, -, -, hrefine⟩ := discovered_isValid ⟨.standard, .verbatim⟩
  constructor
  · obtain ⟨model, hmodel, -⟩ := discover_selfNested
    have hdocuments : ∀ document ∈ [Document.object selfNested], document.Distinct := by
      simpa using hdistinct
    exact ⟨model, hmodel, hdiscover "A" _ model hdocuments hmodel⟩
  · obtain ⟨after, hafter, hcounts⟩ : ∃ after : Model Rat,
        Discoverer.refineSource ⟨.standard, .verbatim⟩ unobserved
            ⟨"A", [⟨none, .object selfNested⟩]⟩ = .ok after
          ∧ after.classes.map (·.fields.map (·.occurrences)) = [[2, 0]] :=
      ⟨_, Discoverer.refineSource_eq_ok_iff.2
        ⟨List.cons_ne_nil _ _, Discoverer.run_eq_ok_iff.2 ⟨"A", _, rfl, rfl, rfl⟩⟩, rfl⟩
    exact ⟨after, unobserved_isValid, hafter, hcounts,
      hrefine unobserved after ⟨"A", [⟨none, .object selfNested⟩]⟩ unobserved_isValid
        (by simpa [SourceDocument.Distinct] using hdistinct) hafter⟩

end DocModel
