import DocModel.Proofs.Discovery.Simulation

set_option autoImplicit false

/-! # Flat values

A value without objects is typed without a look at any class, so its type is a matter of the name and
the depth alone, and nothing changes meanwhile. Root objects with such members only make a class of
attributes, whatever their order: they succeed exactly if each of their values can be typed at the
depth of the members, and they are all that is ever handed to a class. -/

namespace DocModel

variable {ρ : Type}

/-! ## Values without objects -/

namespace Document

/-- No object stands in the value: it is a scalar, or an array of such values. -/
def Flat (value : Document) : Prop := ∀ object : Members, ¬ (Document.object object).PartOf value

@[simp]
theorem flat_null : null.Flat := fun _ h => by cases h

@[simp]
theorem flat_bool (value : Bool) : (bool value).Flat := fun _ h => by cases h

@[simp]
theorem flat_number (value : Number) : (number value).Flat := fun _ h => by cases h

@[simp]
theorem flat_string (value : String) : (string value).Flat := fun _ h => by cases h

@[simp]
theorem flat_array_iff {items : List Document} :
    (array items).Flat ↔ ∀ item ∈ items, item.Flat := by
  constructor
  · exact fun h item hitem object hpart => h object (.item hitem hpart)
  · intro h object hpart
    cases hpart with
    | item hitem hinner => exact h _ hitem object hinner

variable {digester : Digester} {id name : String} {value : Document}

theorem Holds.exists_partOf (h : value.Holds digester id name) :
    ∃ object : Members, (Document.object object).PartOf value := by
  induction h with
  | object => exact ⟨_, .refl⟩
  | item _ hitem _ ih =>
    obtain ⟨object, hpart⟩ := ih
    exact ⟨object, .item hitem hpart⟩

/-- A flat value is about no class, whatever its name is. -/
theorem Flat.not_touches (h : value.Flat) : ¬ value.Touches digester id name := by
  rintro (hholds | ⟨inner, hpart, -⟩)
  · obtain ⟨object, hpart⟩ := hholds.exists_partOf
    exact h object hpart
  · exact h inner hpart

theorem Flat.isScalar_of_typeUnder (h : value.Flat) {type : ValueType}
    (htype : value.typeUnder digester name = some type) : type.isScalar = true := by
  cases type with
  | scalar => rfl
  | instanceOf id =>
    obtain ⟨object, hpart⟩ := (holds_of_typeUnder value name htype).exists_partOf
    exact absurd hpart (h object)

end Document

/-! ## Registries of attributes -/

namespace Registry

/-- No class has a reference. -/
def AllAttributes (r : Registry ρ) : Prop :=
  ∀ id name field, r.field? id name = some field → field.isReference = false

namespace AllAttributes

variable {r : Registry ρ}

theorem empty : (Registry.empty : Registry ρ).AllAttributes := fun _ _ _ h => absurd h nofun

theorem modifyField (h : r.AllAttributes) (id name : String) {f : Model.Field ρ → Model.Field ρ}
    (hf : ∀ field : Model.Field ρ, field.Extends (f field)) :
    (r.modifyField id name f).AllAttributes := by
  intro other label field hfield
  rw [field?_modifyField _ _ _ _ fun field => (hf field).name] at hfield
  split at hfield
  · obtain ⟨old, hold, rfl⟩ := Option.map_eq_some_iff.1 hfield
    rw [(hf old).isReference]
    exact h _ _ old hold
  · exact h other label field hfield

theorem pushField (h : r.AllAttributes) {id : String} (hid : r.contains id = true)
    {field : Model.Field ρ} (hattribute : field.isReference = false) :
    (r.pushField id field).AllAttributes := by
  intro other label found hfound
  rw [field?_pushField _ _ _ hid, Option.or_eq_some_iff] at hfound
  rcases hfound with hold | ⟨-, hnew⟩
  · exact h other label found hold
  · split at hnew
    · rwa [← Option.some.inj hnew]
    · exact absurd hnew nofun

theorem enter {c : Context ρ} (h : c.registry.AllAttributes) (id : String) (object : Members) :
    (c.enter id object).registry.AllAttributes := by
  intro other name field hfield
  rw [Context.field?_enter] at hfield
  exact h other name field hfield

end AllAttributes

end Registry

namespace Discovery

/-! ## Tasks that are about no class -/

/-- Two contexts that keep everything but their depth, which is the same. -/
theorem simulation_idle (c₀ d₀ : Context ρ) : Simulation (fun _ => False) fun c d =>
    ∃ depth, c = { c₀ with depth := depth } ∧ d = { d₀ with depth := depth } where
  depth := by rintro _ _ ⟨depth, rfl, rfl⟩; rfl
  contains _ hid := hid.elim
  field? _ _ hid := hid.elim
  inside := by rintro _ _ ⟨depth, rfl, rfl⟩; exact ⟨depth + 1, rfl, rfl⟩
  outside := by rintro _ _ ⟨depth, rfl, rfl⟩; exact ⟨depth - 1, rfl, rfl⟩
  enter _ _ hid := hid.elim
  modifyField _ _ _ hid := hid.elim
  pushField _ _ hid := hid.elim

/-- **A task that is about no class leaves its context as it is**, and it has the same outcome in
every context of the same depth. -/
theorem Runs.idle {policy : Policy} {task : Task} {c c' d : Context ρ}
    {outcome : Except Error task.Result} (h : Runs policy task c outcome c')
    (hidle : ∀ id, ¬ task.Touches policy.digester id) (hdepth : d.depth = c.depth) :
    c' = c ∧ Runs policy task d outcome d := by
  obtain ⟨d', hruns, depth, rfl, rfl⟩ := h.simulate (simulation_idle c d)
    (fun id hid => hidle id hid) ⟨c.depth, rfl, by rw [← hdepth]⟩
  obtain rfl : depth = c.depth := h.depth_eq
  rw [← hdepth] at hruns
  exact ⟨rfl, hruns⟩

/-- Typing the value under this name succeeds at this depth, in some context. -/
def Typable (ρ : Type) (policy : Policy) (depth : Nat) (name : String) (value : Document) : Prop :=
  ∃ (c c' : Context ρ) (type : ValueType), c.depth = depth
    ∧ Runs policy (.typing name value) c (.ok type) c'

section Flat

variable {policy : Policy} {id name : String} {creating : Bool} {value : Document}
  {c c' : Context ρ}

/-- Typing a flat value changes nothing, finds a scalar type and succeeds wherever it can. -/
theorem Runs.typing_flat {outcome : Except Error ValueType}
    (h : Runs policy (.typing name value) c outcome c') (hflat : value.Flat) :
    c' = c ∧ (outcome.isOk = true ↔ Typable ρ policy c.depth name value)
      ∧ ∀ type, outcome = .ok type → type.isScalar = true := by
  have hidle : ∀ id, ¬ (Task.typing name value).Touches policy.digester id :=
    fun _ => hflat.not_touches
  refine ⟨(h.idle hidle rfl).1, ⟨fun hok => ?_, ?_⟩, fun type htype => ?_⟩
  · cases outcome with
    | error e => exact absurd hok nofun
    | ok type => exact ⟨c, c', type, rfl, h⟩
  · rintro ⟨d, d', type, hdepth, hruns⟩
    -- what succeeds in the one context does in the other
    obtain ⟨-, hagain⟩ := hruns.idle hidle (d := c) hdepth.symm
    obtain ⟨rfl, -⟩ := Prod.mk.inj (h.run_eq.symm.trans hagain.run_eq)
    rfl
  · exact hflat.isScalar_of_typeUnder (h.foreseen type htype)

/-- Folding a flat member into a class of attributes. -/
theorem Runs.member_flat {outcome : Except Error Unit}
    (h : Runs policy (.member id creating name value) c outcome c') (hflat : value.Flat)
    (hattributes : c.registry.AllAttributes) :
    c'.registry.AllAttributes ∧ c'.encounters = c.encounters
      ∧ (outcome.isOk = true ↔ Typable ρ policy c.depth name value) := by
  cases h with
  | stop hstops => cases hstops
  | counted hfield href => exact absurd ((hattributes _ _ _ hfield).symm.trans href) nofun
  | retypeFails _ _ htyping =>
    obtain ⟨rfl, hok, -⟩ := htyping.typing_flat hflat
    exact ⟨hattributes.modifyField id name Model.Field.extends_recordOccurrence, rfl, hok⟩
  | @retyped _ _ _ _ _ type _ _ _ _ htyping =>
    obtain ⟨rfl, hok, -⟩ := htyping.typing_flat hflat
    have hcounted := hattributes.modifyField id name Model.Field.extends_recordOccurrence
    exact ⟨hcounted.modifyField id name (Model.Field.extends_retyped type creating), rfl, hok⟩
  | absent hid hnone hadding =>
    cases hadding with
    | stop hstops => cases hstops
    | addFails _ _ htyping =>
      obtain ⟨rfl, hok, -⟩ := htyping.typing_flat hflat
      exact ⟨hattributes, rfl, hok⟩
    | addKnown _ _ htyping hknown =>
      -- typing has added no field
      obtain ⟨rfl, -⟩ := htyping.typing_flat hflat
      exact absurd (hknown.symm.trans hnone) nofun
    | @addNew _ _ _ _ type _ _ _ _ htyping =>
      obtain ⟨rfl, hok, hscalar⟩ := htyping.typing_flat hflat
      refine ⟨hattributes.pushField hid ?_, rfl, hok⟩
      cases type with
      | scalar => rfl
      | instanceOf => exact absurd (hscalar _ rfl) nofun

/-- Folding flat members into a class of attributes succeeds if each of them can be typed. -/
theorem Runs.folding_flat {members : Members} {outcome : Except Error Unit}
    (h : Runs policy (.folding id creating members) c outcome c')
    (hflat : ∀ member ∈ members, member.2.Flat) (hattributes : c.registry.AllAttributes) :
    c'.registry.AllAttributes ∧ c'.encounters = c.encounters
      ∧ (outcome.isOk = true ↔ ∀ member ∈ members, Typable ρ policy c.depth member.1 member.2) := by
  induction members generalizing c with
  | nil =>
    cases h with
    | stop hstops => cases hstops
    | foldNil => exact ⟨hattributes, rfl, iff_of_true rfl nofun⟩
  | cons member rest ih =>
    rw [List.forall_mem_cons] at hflat
    rw [List.forall_mem_cons]
    cases h with
    | stop hstops => cases hstops
    | foldFails hmember =>
      obtain ⟨hkept, hlog, hok⟩ := hmember.member_flat hflat.1 hattributes
      exact ⟨hkept, hlog, iff_of_false nofun fun hall => absurd (hok.2 hall.1) nofun⟩
    | foldCons hmember hrest =>
      obtain ⟨hkept, hlog, hok⟩ := hmember.member_flat hflat.1 hattributes
      obtain ⟨hkept', hlog', hok'⟩ := ih hrest hflat.2 hkept
      rw [hmember.depth_eq] at hok'
      exact ⟨hkept', hlog'.trans hlog, hok'.trans (and_iff_right (hok.1 rfl)).symm⟩

/-- Handing an object with flat members to a class of attributes. -/
theorem Runs.entering_flat {object : Members} {outcome : Except Error String}
    (h : Runs policy (.entering id object) c outcome c')
    (hflat : ∀ member ∈ object, member.2.Flat) (hattributes : c.registry.AllAttributes) :
    c'.registry.AllAttributes
      ∧ (outcome.isOk = true → c'.encounters = ⟨id, object⟩ :: c.encounters)
      ∧ (outcome.isOk = true
        ↔ id ≠ "" ∧ ∀ member ∈ object, Typable ρ policy c.depth member.1 member.2) := by
  cases h with
  | stop hstops =>
    cases hstops with
    | emptyId => exact ⟨hattributes, nofun, iff_of_false nofun fun hall => hall.1 rfl⟩
  | @enter _ _ _ _ outcome hne hfolding =>
    obtain ⟨hkept, hlog, hok⟩ := hfolding.folding_flat hflat (hattributes.enter id object)
    refine ⟨hkept, fun _ => hlog, ?_⟩
    rw [and_iff_right hne]
    cases outcome <;> exact hok

/-- **Root objects with flat members succeed if each of their values can be typed**, and then they
are what was met, latest first. Neither depends on what came before. -/
theorem Runs.roots_flat {roots : List Members} {outcome : Except Error Unit}
    (h : Runs policy (.roots id roots) c outcome c')
    (hflat : ∀ root ∈ roots, ∀ member ∈ root, member.2.Flat)
    (hattributes : c.registry.AllAttributes) :
    c'.registry.AllAttributes
      ∧ (outcome.isOk = true → c'.encounters = (roots.map (⟨id, ·⟩)).reverse ++ c.encounters)
      ∧ (outcome.isOk = true ↔ ∀ root ∈ roots,
        id ≠ "" ∧ ∀ member ∈ root, Typable ρ policy c.depth member.1 member.2) := by
  induction roots generalizing c with
  | nil =>
    cases h with
    | stop hstops => cases hstops
    | rootNil => exact ⟨hattributes, fun _ => rfl, iff_of_true rfl nofun⟩
  | cons root rest ih =>
    rw [List.forall_mem_cons] at hflat
    rw [List.forall_mem_cons]
    cases h with
    | stop hstops => cases hstops
    | rootFails hentering =>
      obtain ⟨hkept, -, hok⟩ := hentering.entering_flat hflat.1 hattributes
      exact ⟨hkept, nofun, iff_of_false nofun fun hall => absurd (hok.2 hall.1) nofun⟩
    | rootCons hentering hrest =>
      obtain ⟨hkept, hlog, hok⟩ := hentering.entering_flat hflat.1 hattributes
      obtain ⟨hkept', hlog', hok'⟩ := ih hrest hflat.2 hkept
      rw [hentering.depth_eq] at hok'
      refine ⟨hkept', fun hdone => ?_, hok'.trans (and_iff_right (hok.1 rfl)).symm⟩
      rw [hlog' hdone, hlog rfl]
      simp

end Flat

end Discovery

end DocModel
