import DocModel.Proofs.Counts
import DocModel.Proofs.Discovery.Observations

set_option autoImplicit false

/-! # Types are joins of observations

An attribute keeps a scalar type other than string exactly as long as all of its observations have
it, and a reference has a target that one of its observations has. -/

namespace DocModel

variable {ρ : Type}

open Discovery

/-- The type of the field is the join of the types of these values: integer and boolean are for
values that agree, string is for all others, and a target is that of a value. -/
structure Model.Field.IsJoin (policy : Policy) (observed : Document → Prop)
    (field : Model.Field ρ) : Prop where
  seen : ∃ value, observed value
  typed : field.kind = .attribute → ∀ value, observed value →
    ∃ type, ∀ other, Resolves ρ policy field.name value other ↔ other = type
  integer : field.kind = .attribute → (field.valueType = .scalar .integer
    ↔ ∀ value, observed value → Resolves ρ policy field.name value (.scalar .integer))
  boolean : field.kind = .attribute → (field.valueType = .scalar .boolean
    ↔ ∀ value, observed value → Resolves ρ policy field.name value (.scalar .boolean))
  string : field.kind = .attribute → field.valueType ≠ .scalar .integer →
    field.valueType ≠ .scalar .boolean → field.valueType = .string
  reference : field.kind = .reference → ∃ id value, field.valueType = .instanceOf id
    ∧ observed value ∧ Resolves ρ policy field.name value (.instanceOf id)

/-! ## Fields with settled observations and a justified type -/

namespace Discovery

section

variable {policy : Policy} {name : String} {observed : Document → Prop} {field : Model.Field ρ}

/-- What has settled in an attribute has a type, and only one. -/
theorem SettledIn.exists_type {value : Document} (h : SettledIn policy name value field)
    (hkind : field.kind = .attribute) :
    ∃ type, (∀ other, Resolves ρ policy name value other ↔ other = type)
      ∧ (field.valueType = type ∨ field.valueType = .string) := by
  have hattribute := Model.Field.isReference_eq_false_iff.2 hkind
  rcases h with href | ⟨type, hresolves, href | htype⟩
  · exact absurd (hattribute.symm.trans href) nofun
  · exact absurd (hattribute.symm.trans href) nofun
  · refine ⟨type, fun other => ⟨fun hother => hother.unique hresolves, ?_⟩, htype⟩
    rintro rfl
    exact hresolves

theorem JustifiedBy.exists_observed (h : JustifiedBy policy name observed field) :
    ∃ value, observed value := by
  rcases h with ⟨value, hvalue, -⟩ | ⟨-, -, value, -, -, -, hvalue, -⟩
  · exact ⟨value, hvalue⟩
  · exact ⟨value, hvalue⟩

/-- An attribute has another type than string exactly if all its observations have it. -/
theorem valueType_eq_iff (hkind : field.kind = .attribute)
    (hsettled : ∀ value, observed value → SettledIn policy name value field)
    (hjustified : JustifiedBy policy name observed field) {type : ValueType}
    (hstring : type ≠ .string) :
    field.valueType = type ↔ ∀ value, observed value → Resolves ρ policy name value type := by
  constructor
  · rintro rfl value hvalue
    obtain ⟨type, honly, hsame | hwide⟩ := (hsettled value hvalue).exists_type hkind
    · exact (honly _).2 hsame
    · exact absurd hwide hstring
  · intro hall
    rcases hjustified with ⟨value, hvalue, hresolves⟩ | ⟨-, -, value, first, other, second, hdiffer⟩
    · exact hresolves.unique (hall value hvalue)
    · -- two observations of the same type do not differ
      obtain ⟨hvalue, hresolves, hother, hresolves', hne⟩ := hdiffer
      have hfirst := hresolves.unique (hall value hvalue)
      have hsecond := hresolves'.unique (hall other hother)
      exact absurd (hfirst.trans hsecond.symm) hne

theorem isJoin_of_settled (hkind : field.kind = field.valueType.kind)
    (hsettled : ∀ value, observed value → SettledIn policy field.name value field)
    (hjustified : JustifiedBy policy field.name observed field) : field.IsJoin policy observed where
  seen := hjustified.exists_observed
  typed hattribute value hvalue := by
    obtain ⟨type, honly, -⟩ := (hsettled value hvalue).exists_type hattribute
    exact ⟨type, honly⟩
  integer hattribute := valueType_eq_iff hattribute hsettled hjustified (by decide)
  boolean hattribute := valueType_eq_iff hattribute hsettled hjustified (by decide)
  string hattribute hinteger hboolean := by
    rw [hattribute] at hkind
    cases htype : field.valueType with
    | instanceOf id => simp [htype, ValueType.kind] at hkind
    | scalar s => cases s <;> simp_all
  reference hreference := by
    rw [hreference] at hkind
    rcases hjustified with ⟨value, hvalue, hresolves⟩ | ⟨hattribute, -⟩
    · cases htype : field.valueType with
      | scalar s => simp [htype, ValueType.kind] at hkind
      | instanceOf id => exact ⟨id, value, rfl, hvalue, htype ▸ hresolves⟩
    · exact absurd (hattribute.symm.trans hreference) nofun

end

/-- In a run from nothing that succeeds all observations have settled and all types are justified. -/
theorem Runs.isJoin {policy : Policy} {task : Task} {c : Context ρ} {result : task.Result}
    (h : Runs policy task (.of .empty) (.ok result) c) (hlogged : task.Logged [])
    {cls : Model.Class ρ} (hcls : cls ∈ c.registry.classes) {field : Model.Field ρ}
    (hfield : field ∈ cls.fields) :
    field.IsJoin policy (Observed c.encounters cls.id field.name) := by
  have hnames := h.distinctNames (Registry.each_empty _)
  have hfound := hnames.field?_of_mem hcls hfield
  have hsound := (h.sound (Registry.each_empty _)).field? hfound
  have hjustified := h.justified hlogged fun _ _ _ => nofun
  refine isJoin_of_settled hsound.kind ?_ (hjustified _ _ field hfound)
  rintro value ⟨encounter, hencounter, hid, hmember⟩
  rcases (h.settled rfl).2 encounter hencounter with hbefore | hsettled
  · exact absurd hbefore List.not_mem_nil
  · obtain ⟨found, hfound', hin⟩ := hsettled field.name value hmember
    rw [hid, hfound] at hfound'
    obtain rfl := Option.some.inj hfound'
    exact hin

end Discovery

/-- Coverage is no part of it. -/
theorem Model.Field.IsJoin.withCoverage {policy : Policy} {observed : Document → Prop}
    {field : Model.Field ρ} (h : field.IsJoin policy observed) (ratio : Option ρ) :
    (field.withCoverage ratio).IsJoin policy observed :=
  ⟨h.seen, h.typed, h.integer, h.boolean, h.string, h.reference⟩

/-! ## Models -/

/-- **The type of a field is the join of its observations** in every model that is discovered: no
conflict is missed and no attribute is widened without one, whatever the order of the observations
and however deeply classes nest in themselves. -/
theorem discover_isJoin [Ratio ρ] (d : Discoverer) (name : String) (documents : List Document)
    (model : Model ρ) (h : d.discover name documents = .ok model) :
    ∃ (root : String) (context : Context ρ), d.digester name = .ok root
      ∧ d.fold .empty root (rootObjects documents) = (.ok (), context)
      ∧ ∀ cls ∈ model.classes, ∀ field ∈ cls.fields,
        field.IsJoin d.policy (Observed context.encounters cls.id field.name) := by
  obtain ⟨-, hrun⟩ := Discoverer.discover_eq_ok_iff.1 h
  obtain ⟨root, context, hdigest, hfold, rfl⟩ := Discoverer.run_eq_ok_iff.1 hrun
  refine ⟨root, context, hdigest, hfold, fun cls hcls field hfield => ?_⟩
  obtain ⟨stored, hstored, rfl⟩ := Discoverer.mem_classes_modelOf.1 hcls
  obtain ⟨old, hold, rfl⟩ := List.mem_map.1 hfield
  exact ((Discoverer.fold_eq_iff.1 hfold).isJoin trivial hstored hold).withCoverage _

/-- The inner object makes the field a boolean, and the outer one, whose value is an object, widens
it. -/
theorem discover_isJoin_selfNested :
    ∃ (model : Model Rat) (root : String) (context : Context Rat),
      Discoverer.discover ⟨.standard, .verbatim⟩ "A" [.object selfNested] = .ok model
        ∧ Digester.verbatim "A" = .ok root
        ∧ Discoverer.fold ⟨.standard, .verbatim⟩ .empty root (rootObjects [.object selfNested])
          = (.ok (), context)
        ∧ model.classes.map (·.fields.map (·.valueType)) = [[.string]]
        ∧ ∀ cls ∈ model.classes, ∀ field ∈ cls.fields, field.IsJoin ⟨.verbatim, none⟩
          (Observed context.encounters cls.id field.name) := by
  obtain ⟨model, hmodel, -, -, htypes⟩ := discover_selfNested
  obtain ⟨root, context, hdigest, hfold, hjoin⟩ := discover_isJoin _ "A" _ model hmodel
  exact ⟨model, root, context, hmodel, hdigest, hfold, htypes, hjoin⟩

end DocModel
