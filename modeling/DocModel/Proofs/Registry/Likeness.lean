import DocModel.Proofs.Registry.Lookup

set_option autoImplicit false

/-! # Registries that differ in coverage only

Coverage is stored in the fields, and nothing that discovery does depends on it. Two registries are
alike if their classes are the same without coverage. They have the same ids and, up to coverage,
the same look-ups, and every update that commutes with erasing coverage keeps them alike. The index
of a registry is not compared, as it is determined by the classes. -/

namespace DocModel

variable {ρ : Type}

/-! ## Erasing coverage -/

namespace Model

namespace Field

@[simp]
theorem name_withCoverage (ratio : Option ρ) (field : Field ρ) :
    (field.withCoverage ratio).name = field.name := rfl

/-- The update neither reads nor writes coverage. -/
def Blind (f : Field ρ → Field ρ) : Prop :=
  ∀ field, (f field).withCoverage none = f (field.withCoverage none)

theorem blind_recordOccurrence : Blind (recordOccurrence : Field ρ → Field ρ) := fun _ => rfl

theorem blind_markRequired : Blind (markRequired : Field ρ → Field ρ) := fun _ => rfl

theorem blind_unify (observed : ValueType) : Blind (unify observed : Field ρ → Field ρ) := by
  intro field
  show (unify observed field).withCoverage none = unify observed (field.withCoverage none)
  unfold unify degradeToString
  by_cases hsame : field.valueType = observed
  · simp [withCoverage, hsame]
  · by_cases hwidenable : field.isWidenable = true
    · have hwidenable' : (field.withCoverage none).isWidenable = true := hwidenable
      simp only [hwidenable, hwidenable', ↓reduceIte]
      simp [withCoverage, hsame]
    · have hwidenable' : ¬ (field.withCoverage none).isWidenable = true := hwidenable
      simp only [hwidenable, hwidenable']
      simp [withCoverage]

theorem Blind.comp {f g : Field ρ → Field ρ} (hg : Blind g) (hf : Blind f) : Blind (g ∘ f) := by
  intro field
  simp only [Function.comp_apply]
  rw [hg, hf]

end Field

namespace Class

@[simp]
theorem id_clearCoverage (cls : Class ρ) : cls.clearCoverage.id = cls.id := rfl

theorem clearCoverage_clearCoverage (cls : Class ρ) :
    cls.clearCoverage.clearCoverage = cls.clearCoverage := by
  simp [clearCoverage, mapFields, Field.withCoverage]

theorem clearCoverage_computeCoverage [Ratio ρ] (cls : Class ρ) :
    cls.computeCoverage.clearCoverage = cls.clearCoverage := by
  simp [clearCoverage, computeCoverage, mapFields, Field.withCoverage]

theorem computeCoverage_clearCoverage [Ratio ρ] (cls : Class ρ) :
    cls.clearCoverage.computeCoverage = cls.computeCoverage := by
  simp [clearCoverage, computeCoverage, mapFields, Field.withCoverage]

theorem clearCoverage_recordOccurrence (cls : Class ρ) :
    cls.recordOccurrence.clearCoverage = cls.clearCoverage.recordOccurrence := rfl

theorem field?_clearCoverage (cls : Class ρ) (name : String) :
    cls.clearCoverage.field? name = (cls.field? name).map (Field.withCoverage none) := by
  unfold field? clearCoverage mapFields
  rw [List.find?_map]
  rfl

theorem clearCoverage_modifyField {f : Field ρ → Field ρ} (hf : Field.Blind f) (name : String)
    (cls : Class ρ) :
    (cls.modifyField name f).clearCoverage = cls.clearCoverage.modifyField name f := by
  have hfields : (Model.modifyField name f cls.fields).map (Field.withCoverage none)
      = Model.modifyField name f (cls.fields.map (Field.withCoverage none)) := by
    induction cls.fields with
    | nil => rfl
    | cons field rest ih =>
      simp only [Model.modifyField, List.map_cons]
      by_cases hname : field.name = name
      · simp [hname, hf field]
      · simp [hname, ih]
  simp only [clearCoverage, mapFields, modifyField, hfields]

theorem clearCoverage_pushField (field : Field ρ) (cls : Class ρ) :
    (cls.pushField field).clearCoverage
      = cls.clearCoverage.pushField (field.withCoverage none) := by
  simp [clearCoverage, mapFields, pushField]

end Class

end Model

/-! ## Registries that are alike -/

namespace Registry

/-- Without coverage the classes are the same. -/
def Alike (r s : Registry ρ) : Prop :=
  r.classes.map Model.Class.clearCoverage = s.classes.map Model.Class.clearCoverage

namespace Alike

variable {r s : Registry ρ}

theorem ids_eq (h : r.Alike s) : r.ids = s.ids := by
  have hclear : ∀ t : Registry ρ,
      (t.classes.map Model.Class.clearCoverage).map (·.id) = t.ids := by
    intro t
    rw [List.map_map]
    rfl
  rw [← hclear r, ← hclear s, h]

theorem contains_eq (h : r.Alike s) (id : String) : r.contains id = s.contains id := by
  rw [Bool.eq_iff_iff, contains_iff_mem_ids, contains_iff_mem_ids, h.ids_eq]

theorem contains_of_contains (h : r.Alike s) {id : String} (hid : r.contains id = true) :
    s.contains id = true := (h.contains_eq id).symm.trans hid

theorem position?_eq (h : r.Alike s) (id : String) : r.position? id = s.position? id := by
  apply Option.ext
  intro i
  rw [position?_eq_some_iff, position?_eq_some_iff, h.ids_eq]

theorem get?_eq (h : r.Alike s) (id : String) :
    (r.get? id).map Model.Class.clearCoverage = (s.get? id).map Model.Class.clearCoverage := by
  unfold get?
  rw [h.position?_eq]
  cases s.position? id with
  | none => rfl
  | some i =>
    simp only [Option.bind_some]
    rw [← List.getElem?_map, ← List.getElem?_map, h]

theorem field?_eq (h : r.Alike s) (id name : String) :
    (r.field? id name).map (Model.Field.withCoverage none)
      = (s.field? id name).map (Model.Field.withCoverage none) := by
  have hfields : ∀ t : Registry ρ, (t.field? id name).map (Model.Field.withCoverage none)
      = ((t.get? id).map Model.Class.clearCoverage).bind (·.field? name) := by
    intro t
    unfold field?
    cases t.get? id with
    | none => rfl
    | some cls => exact (cls.field?_clearCoverage name).symm
  rw [hfields, hfields, h.get?_eq]

/-- Both registries have a field of this name or none has, and the fields are of one kind. -/
theorem map_isReference_field? (h : r.Alike s) (id name : String) :
    (s.field? id name).map Model.Field.isReference
      = (r.field? id name).map Model.Field.isReference := by
  have hkind : ∀ t : Registry ρ, (t.field? id name).map Model.Field.isReference
      = ((t.field? id name).map (Model.Field.withCoverage none)).map Model.Field.isReference := by
    intro t
    rw [Option.map_map]
    rfl
  rw [hkind, hkind, h.field?_eq]

/-! ### Updates -/

theorem modify (h : r.Alike s) (id : String) {f g : Model.Class ρ → Model.Class ρ}
    (keeps : ∀ cls, (f cls).id = cls.id) (hf : ∀ cls, (f cls).clearCoverage = g cls.clearCoverage) :
    (r.modify id f keeps).Alike (s.modify id f keeps) := by
  have hclear : ∀ t : Registry ρ,
      (t.modify id f keeps).classes.map Model.Class.clearCoverage
        = (t.classes.map Model.Class.clearCoverage).map
          fun cls => if cls.id = id then g cls else cls := by
    intro t
    simp only [Registry.modify, classes_map, List.map_map]
    apply List.map_congr_left
    intro cls _
    by_cases hid : cls.id = id <;> simp [hid, hf]
  unfold Alike
  rw [hclear, hclear, h]

theorem modifyField (h : r.Alike s) (id name : String) {f : Model.Field ρ → Model.Field ρ}
    (hf : Model.Field.Blind f) : (r.modifyField id name f).Alike (s.modifyField id name f) :=
  h.modify id _ (Model.Class.clearCoverage_modifyField hf name)

theorem pushField (h : r.Alike s) (id : String) (field : Model.Field ρ) :
    (r.pushField id field).Alike (s.pushField id field) :=
  h.modify id _ (Model.Class.clearCoverage_pushField field)

theorem put (h : r.Alike s) (cls : Model.Class ρ) : (r.put cls).Alike (s.put cls) := by
  unfold Alike at h ⊢
  rw [classes_put, classes_put, Alike.position?_eq h]
  cases s.position? cls.id with
  | none => simp only [List.map_append, h]
  | some i => simp only [List.map_set, h]

theorem reseed (h : r.Alike s) : r.reseed.Alike s.reseed := by
  unfold Alike
  rwa [classes_reseed, classes_reseed]

/-! ### Coverage -/

/-- Attaching coverage leaves a registry that is alike. -/
theorem computeCoverage [Ratio ρ] (h : r.Alike s) : r.computeCoverage.Alike s := by
  refine Eq.trans ?_ h
  show (r.classes.map Model.Class.computeCoverage).map Model.Class.clearCoverage = _
  rw [List.map_map]
  exact List.map_congr_left fun cls _ => cls.clearCoverage_computeCoverage

/-- What is attached depends on the counts only, so it is the same in both registries. -/
theorem classes_computeCoverage_eq [Ratio ρ] (h : r.Alike s) :
    r.computeCoverage.classes = s.computeCoverage.classes := by
  have hcoverage : ∀ t : Registry ρ, t.computeCoverage.classes
      = (t.classes.map Model.Class.clearCoverage).map Model.Class.computeCoverage := by
    intro t
    rw [List.map_map]
    exact List.map_congr_left fun cls _ => cls.computeCoverage_clearCoverage.symm
  rw [hcoverage r, hcoverage s, h]

end Alike

end Registry

end DocModel
