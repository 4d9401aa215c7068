import DocModel.Proofs.Registry.Invariant
import DocModel.Validation

set_option autoImplicit false

/-! # Consistent classes

What validation asks of a class besides coverage: references lead to known classes, and no field was
observed more often than the class. A model that was read may satisfy this and repeat the names of
fields, store kinds that types do not have, or never have been observed at all.

Two invariants carry it through discovery. That references lead to known classes is the first one. A
bound of counts is none in the middle of an object; but discovery updates the first field of a name
only, so the fields that repeat its name stay below a count that only grows. -/

namespace DocModel

variable {ρ : Type}

namespace Model

/-! ## References -/

namespace Field

theorem target?_eq_some_iff {field : Field ρ} {target : String} :
    field.target? = some target
      ↔ field.kind = .reference ∧ field.valueType = .instanceOf target := by
  unfold target? isReference
  cases field.kind <;> cases field.valueType <;> simp [ValueType.classId?]

/-- Growing neither makes a field refer to a class nor changes the class it refers to. -/
theorem Extends.target? {before after : Field ρ} (h : before.Extends after) :
    after.target? = before.target? := by
  rcases h.valueType with htype | ⟨hkind, -⟩
  · simp only [Field.target?, h.isReference, htype]
  · have hattribute : before.isReference = false := isReference_eq_false_iff.2 hkind
    simp [Field.target?, h.isReference, hattribute]

end Field

namespace Class

/-- References lead to known classes. -/
def Closed (known : String → Prop) (cls : Class ρ) : Prop :=
  ∀ field ∈ cls.fields, ∀ target, field.target? = some target → known target

/-- No field was observed more often than the class. -/
def BoundedFields (cls : Class ρ) : Prop :=
  ∀ field ∈ cls.fields, field.occurrences ≤ cls.occurrences

/-- No field that repeats the name of an earlier one was observed more often than the class. -/
def BoundedRepeats (cls : Class ρ) : Prop :=
  cls.fields.Pairwise fun first other =>
    other.name = first.name → other.occurrences ≤ cls.occurrences

/-- What validation asks of a class, coverage apart. -/
structure Consistent (known : String → Prop) (cls : Class ρ) : Prop where
  closed : cls.Closed known
  bounded : cls.BoundedFields

end Class

/-! ## Repeated names -/

/-- Updating the first field of a name keeps what is said of fields that repeat a name. -/
theorem pairwise_modifyField {P : Field ρ → Prop} {fields : List (Field ρ)}
    (h : fields.Pairwise fun first other => other.name = first.name → P other) (name : String)
    {f : Field ρ → Field ρ} (hf : ∀ field, (f field).name = field.name) :
    (modifyField name f fields).Pairwise fun first other => other.name = first.name → P other := by
  induction fields with
  | nil => exact List.Pairwise.nil
  | cons head rest ih =>
    obtain ⟨hhead, hrest⟩ := List.pairwise_cons.1 h
    unfold modifyField
    split
    · refine List.pairwise_cons.2 ⟨fun other hother hname => ?_, hrest⟩
      exact hhead other hother (hname.trans (hf head))
    · rename_i hne
      refine List.pairwise_cons.2 ⟨fun other hother hname => ?_, ih hrest⟩
      rcases mem_modifyField hother with hold | ⟨old, hold, hmodified, rfl⟩
      · exact hhead other hold hname
      -- only a field of the other name is updated in the rest
      · exact absurd (hname.symm.trans ((hf old).trans hmodified)) hne

/-- A field is the first one of its name, or it repeats a name. -/
theorem find?_eq_some_or {P : Field ρ → Prop} {fields : List (Field ρ)}
    (h : fields.Pairwise fun first other => other.name = first.name → P other) {field : Field ρ}
    (hfield : field ∈ fields) :
    (fields.find? fun other => other.name = field.name) = some field ∨ P field := by
  induction fields with
  | nil => exact absurd hfield List.not_mem_nil
  | cons head rest ih =>
    obtain ⟨hhead, hrest⟩ := List.pairwise_cons.1 h
    rcases List.mem_cons.1 hfield with rfl | hin
    · simp
    · by_cases hname : head.name = field.name
      · exact Or.inr (hhead field hin hname.symm)
      · rw [List.find?_cons_of_neg (by simpa using hname)]
        exact ih hrest hin

end Model

/-! ## Invariants -/

theorem classInvariant_closed :
    ClassInvariant fun known (cls : Model.Class ρ) => cls.Closed known where
  mono h hmore := fun field hfield target htarget => hmore target (h field hfield target htarget)
  new _ _ := fun _ h => absurd h List.not_mem_nil
  recordOccurrence h := h
  modifyField name h hf := by
    intro field hfield target htarget
    rcases Model.mem_modifyField hfield with hold | ⟨old, hold, -, rfl⟩
    · exact h field hold target htarget
    · exact h old hold target ((hf old).target? ▸ htarget)
  pushField multiplicity required h htype _ := by
    intro field hfield target htarget
    rcases List.mem_append.1 hfield with hold | hpushed
    · exact h field hold target htarget
    · rw [List.mem_singleton.1 hpushed] at htarget
      exact htype target (Model.Field.target?_eq_some_iff.1 htarget).2

theorem classInvariant_boundedRepeats :
    ClassInvariant fun _ (cls : Model.Class ρ) => cls.BoundedRepeats where
  mono h _ := h
  new _ _ := List.Pairwise.nil
  recordOccurrence h := h.imp fun hle hname => Nat.le_succ_of_le (hle hname)
  modifyField name h hf := Model.pairwise_modifyField h name fun field => (hf field).name
  pushField multiplicity required h _ hnew := by
    refine List.pairwise_append.2 ⟨h, List.pairwise_singleton .., ?_⟩
    intro first hfirst pushed hpushed hname
    -- the name of the new field is repeated by nothing
    rw [List.mem_singleton.1 hpushed] at hname
    have hknown := List.mem_map.2 ⟨first, hfirst, hname.symm⟩
    exact absurd hknown (Model.Class.field?_eq_none_iff.1 hnew)

end DocModel
