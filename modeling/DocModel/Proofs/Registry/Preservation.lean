import DocModel.Proofs.Registry.Growth

set_option autoImplicit false

/-! # What a registry preserves

Growth says that nothing is lost. More holds of what was there before a call: its coverage is not
touched, and a field that was optional stays optional. Inside of a call this is different, because
the object that creates a class marks its fields, also those that objects nested in it have added.
So there are two relations here. `Registry.Keeps marked` is for every point of a traversal; it
allows the fields in `marked` to become required. `Registry.Preserves` allows none, and it follows
wherever the fields in `marked` were not there before: `Registry.Keeps.preserves`. -/

namespace DocModel

variable {ρ : Type}

/-! ## Calls -/

namespace Model

/-- What may become of a field between two calls. -/
structure Field.Preserves (before after : Field ρ) : Prop where
  name : after.name = before.name
  kind : after.kind = before.kind
  multiplicity : after.multiplicity = before.multiplicity
  required : after.required = before.required
  coverage : after.coverage = before.coverage
  occurrences : before.occurrences ≤ after.occurrences
  valueType : after.valueType = before.valueType ∨
    before.kind = .attribute ∧ after.valueType = .string

/-- What may become of a class between two calls: its fields stay where they are, and new fields
come after them. -/
structure Class.Preserves (before after : Class ρ) : Prop where
  id : after.id = before.id
  occurrences : before.occurrences ≤ after.occurrences
  fields : Grown Field.Preserves before.fields after.fields
  names : before.fields.map (·.name) <+: after.fields.map (·.name)

end Model

/-- What may become of a registry between two calls: its classes stay where they are, and new
classes come after them. -/
structure Registry.Preserves (before after : Registry ρ) : Prop where
  classes : Grown Model.Class.Preserves before.classes after.classes
  ids : before.ids <+: after.ids

/-! ## Fields inside of a call -/

namespace Model

/-- What may become of a field inside of a call; it may become required if it is `marked`. -/
structure Field.Keeps (marked : Prop) (before after : Field ρ) : Prop where
  grows : before.Extends after
  coverage : after.coverage = before.coverage
  required : after.required = before.required ∨ marked ∧ after.required = true

namespace Field

namespace Keeps

variable {marked : Prop} {a b c : Field ρ}

theorem refl (marked : Prop) (field : Field ρ) : field.Keeps marked field :=
  ⟨Extends.refl field, rfl, Or.inl rfl⟩

theorem trans (h1 : a.Keeps marked b) (h2 : b.Keeps marked c) : a.Keeps marked c := by
  refine ⟨h1.grows.trans h2.grows, h2.coverage.trans h1.coverage, ?_⟩
  rcases h2.required with hsame | hmarked
  · rw [hsame]
    exact h1.required
  · exact Or.inr hmarked

theorem mono (h : a.Keeps marked b) {more : Prop} (hmore : marked → more) : a.Keeps more b := by
  refine ⟨h.grows, h.coverage, ?_⟩
  rcases h.required with hsame | ⟨hmarked, hrequired⟩
  · exact Or.inl hsame
  · exact Or.inr ⟨hmore hmarked, hrequired⟩

/-- A flag is never taken back. -/
theorem required_of_required (h : a.Keeps marked b) (ha : a.required = true) :
    b.required = true := by
  rcases h.required with hsame | ⟨-, hrequired⟩
  · rw [hsame, ha]
  · exact hrequired

theorem preserves (h : a.Keeps False b) : a.Preserves b where
  name := h.grows.name
  kind := h.grows.kind
  multiplicity := h.grows.multiplicity
  required := h.required.resolve_right fun hmarked => hmarked.1
  coverage := h.coverage
  occurrences := h.grows.occurrences
  valueType := h.grows.valueType

end Keeps

theorem keeps_recordOccurrence (field : Field ρ) : field.Keeps False field.recordOccurrence :=
  ⟨field.extends_recordOccurrence, rfl, Or.inl rfl⟩

theorem keeps_markRequired (field : Field ρ) : field.Keeps True field.markRequired :=
  ⟨field.extends_markRequired, rfl, Or.inr ⟨trivial, rfl⟩⟩

theorem keeps_unify (field : Field ρ) (observed : ValueType) :
    field.Keeps False (field.unify observed) := by
  refine ⟨field.extends_unify observed, ?_, Or.inl ?_⟩ <;> unfold unify degradeToString
  · split
    · rfl
    · split <;> rfl
  · split
    · rfl
    · split <;> rfl

end Field

/-! ## Classes and registries inside of a call -/

/-- What may become of a class inside of a call; its fields of a name in `marked` may become
required. -/
structure Class.Keeps (marked : String → Prop) (before after : Class ρ) : Prop where
  id : after.id = before.id
  occurrences : before.occurrences ≤ after.occurrences
  fields : Grown (fun old new => old.Keeps (marked old.name) new) before.fields after.fields

namespace Class

namespace Keeps

variable {marked : String → Prop} {a b c : Class ρ}

theorem refl (marked : String → Prop) (cls : Class ρ) : cls.Keeps marked cls :=
  ⟨rfl, Nat.le_refl _, .refl (fun field => .refl _ field) _⟩

theorem trans (h1 : a.Keeps marked b) (h2 : b.Keeps marked c) : a.Keeps marked c := by
  refine ⟨h2.id.trans h1.id, Nat.le_trans h1.occurrences h2.occurrences, ?_⟩
  refine h1.fields.trans (fun x y z hxy hyz => ?_) h2.fields
  rw [hxy.grows.name] at hyz
  exact hxy.trans hyz

theorem mono (h : a.Keeps marked b) {more : String → Prop}
    (hmore : ∀ field ∈ a.fields, marked field.name → more field.name) : a.Keeps more b :=
  ⟨h.id, h.occurrences, h.fields.imp fun field hfield _ hkeeps => hkeeps.mono (hmore field hfield)⟩

theorem preserves (h : a.Keeps (fun _ => False) b) : a.Preserves b where
  id := h.id
  occurrences := h.occurrences
  fields := h.fields.imp fun _ _ _ hkeeps => hkeeps.preserves
  names := h.fields.map_isPrefix fun _ _ hkeeps => hkeeps.grows.name

end Keeps

theorem keeps_recordOccurrence (marked : String → Prop) (cls : Class ρ) :
    cls.Keeps marked cls.recordOccurrence :=
  ⟨rfl, Nat.le_succ _, .refl (fun field => .refl _ field) _⟩

theorem keeps_pushField (marked : String → Prop) (field : Field ρ) (cls : Class ρ) :
    cls.Keeps marked (cls.pushField field) :=
  ⟨rfl, Nat.le_refl _, .append (fun field => .refl _ field) _ _⟩

theorem keeps_modifyField {marked : String → Prop} (name : String) {f : Field ρ → Field ρ}
    (hf : ∀ field : Field ρ, field.Keeps (marked name) (f field)) (cls : Class ρ) :
    cls.Keeps marked (cls.modifyField name f) := by
  refine ⟨rfl, Nat.le_refl _, grown_modifyField (fun field => .refl _ field) ?_ cls.fields⟩
  rintro field rfl
  exact hf field

end Class

end Model

namespace Registry

/-- What may become of a registry inside of a call; its fields with an id and a name in `marked` may
become required. -/
def Keeps (marked : String → String → Prop) (before after : Registry ρ) : Prop :=
  Grown (fun old new => old.Keeps (marked old.id) new) before.classes after.classes

namespace Keeps

variable {marked : String → String → Prop} {a b c : Registry ρ}

theorem refl (marked : String → String → Prop) (r : Registry ρ) : r.Keeps marked r :=
  Grown.refl (fun cls => .refl _ cls) _

theorem trans (h1 : a.Keeps marked b) (h2 : b.Keeps marked c) : a.Keeps marked c := by
  refine Grown.trans (fun x y z hxy hyz => ?_) h1 h2
  rw [hxy.id] at hyz
  exact hxy.trans hyz

/-- Only fields that were there before matter. -/
theorem mono (h : a.Keeps marked b) {more : String → String → Prop}
    (hmore : ∀ id name, marked id name → (a.field? id name).isSome = true → more id name) :
    a.Keeps more b := by
  refine Grown.imp h fun cls hcls grown hkeeps => hkeeps.mono fun field hfield hmarked => ?_
  refine hmore cls.id field.name hmarked ?_
  have hname : cls.field? field.name ≠ none := fun hnone =>
    Model.Class.field?_eq_none_iff.1 hnone (List.mem_map_of_mem hfield)
  rw [field?, get?_of_mem hcls]
  exact Option.isSome_iff_ne_none.2 hname

/-- What may be marked was not there before, so nothing that was there is marked. -/
theorem unmarked (h : a.Keeps marked b)
    (habsent : ∀ id name, marked id name → a.field? id name = none)
    (more : String → String → Prop) : a.Keeps more b :=
  h.mono fun id name hmarked hthere => by simp [habsent id name hmarked] at hthere

theorem preserves (h : a.Keeps (fun _ _ => False) b) : a.Preserves b where
  classes := Grown.imp h fun _ _ _ hkeeps => hkeeps.preserves
  ids := Grown.map_isPrefix h fun _ _ hkeeps => hkeeps.id

/-- The first field of a name is found again. -/
theorem field? (h : a.Keeps marked b) {id name : String} {field : Model.Field ρ}
    (hfield : a.field? id name = some field) :
    ∃ kept, b.field? id name = some kept ∧ field.Keeps (marked id name) kept := by
  obtain ⟨cls, hcls, hin⟩ := Option.bind_eq_some_iff.1 hfield
  obtain ⟨grown, hgrown, hkeeps⟩ := Grown.mem h (mem_of_get? hcls)
  obtain ⟨kept, hkept, hfields⟩ := hkeeps.fields.find?
    (fun old new hold => by rw [hold.grows.name]) hin
  obtain rfl := id_of_get? hcls
  obtain rfl := Model.Class.name_of_field? hin
  refine ⟨kept, Option.bind_eq_some_iff.2 ⟨grown, ?_, hkept⟩, hfields⟩
  exact get?_eq_some_iff.2 ⟨hgrown, hkeeps.id⟩

end Keeps

/-! ## Updates -/

theorem keeps_modify (marked : String → String → Prop) (r : Registry ρ) (id : String)
    {f : Model.Class ρ → Model.Class ρ} (keeps : ∀ cls, (f cls).id = cls.id)
    (hf : ∀ cls : Model.Class ρ, cls.Keeps (marked id) (f cls)) :
    r.Keeps marked (r.modify id f keeps) := by
  refine Grown.map (fun cls => ?_) r.classes
  split
  · rename_i hid
    rw [hid]
    exact hf cls
  · exact .refl _ cls

theorem keeps_modifyField (marked : String → String → Prop) (r : Registry ρ) (id name : String)
    {f : Model.Field ρ → Model.Field ρ}
    (hf : ∀ field : Model.Field ρ, field.Keeps (marked id name) (f field)) :
    r.Keeps marked (r.modifyField id name f) :=
  r.keeps_modify marked id _ (Model.Class.keeps_modifyField name hf)

theorem keeps_pushField (marked : String → String → Prop) (r : Registry ρ) (id : String)
    (field : Model.Field ρ) : r.Keeps marked (r.pushField id field) :=
  r.keeps_modify marked id _ (Model.Class.keeps_pushField _ field)

theorem keeps_put_new (marked : String → String → Prop) (r : Registry ρ) {id : String}
    (hid : r.contains id = false) : r.Keeps marked (r.put (.new id)) := by
  have hnone : r.position? id = none := by simpa [contains] using hid
  unfold Keeps
  rw [classes_put]
  simp only [Model.Class.new, hnone]
  exact Grown.append (fun cls => .refl _ cls) _ _

end Registry

end DocModel
