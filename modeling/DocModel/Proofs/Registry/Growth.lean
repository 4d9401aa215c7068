import DocModel.Proofs.Registry.Lookup

set_option autoImplicit false

/-! # Growth of registries

What discovery never undoes. Classes and fields keep their positions and what they are found by,
counts only grow, and an attribute may become a string. New classes and fields come after the old
ones. `Registry.Extends` says this of two registries; it is a preorder, every update of discovery
respects it, and what was found before is found after it. -/

namespace DocModel

variable {ρ : Type}

/-! ## Lists that grow -/

/-- Every element is still at its position, changed as `R` allows, and more may follow. -/
def Grown {α : Type} (R : α → α → Prop) (before after : List α) : Prop :=
  ∀ (i : Nat) (x : α), before[i]? = some x → ∃ y, after[i]? = some y ∧ R x y

namespace Grown

variable {α : Type} {R : α → α → Prop}

theorem refl (hrefl : ∀ x, R x x) (xs : List α) : Grown R xs xs :=
  fun _ x h => ⟨x, h, hrefl x⟩

theorem trans (htrans : ∀ x y z, R x y → R y z → R x z) {xs ys zs : List α}
    (h1 : Grown R xs ys) (h2 : Grown R ys zs) : Grown R xs zs := by
  intro i x hx
  obtain ⟨y, hy, hxy⟩ := h1 i x hx
  obtain ⟨z, hz, hyz⟩ := h2 i y hy
  exact ⟨z, hz, htrans x y z hxy hyz⟩

theorem append (hrefl : ∀ x, R x x) (xs more : List α) : Grown R xs (xs ++ more) := by
  intro i x hx
  obtain ⟨hlt, -⟩ := List.getElem?_eq_some_iff.1 hx
  exact ⟨x, by rw [List.getElem?_append_left hlt, hx], hrefl x⟩

theorem map {f : α → α} (hf : ∀ x, R x (f x)) (xs : List α) : Grown R xs (xs.map f) := by
  intro i x hx
  exact ⟨f x, by simp [hx], hf x⟩

/-- What is found first is found first again. -/
theorem find? {p : α → Bool} (hp : ∀ x y, R x y → p y = p x) {xs ys : List α} (h : Grown R xs ys)
    {x : α} (hx : xs.find? p = some x) : ∃ y, ys.find? p = some y ∧ R x y := by
  obtain ⟨hfound, i, hi, hget, hfirst⟩ := List.find?_eq_some_iff_getElem.1 hx
  obtain ⟨y, hy, hxy⟩ := h i x (by simp [hi, hget])
  obtain ⟨hi', hget'⟩ := List.getElem?_eq_some_iff.1 hy
  refine ⟨y, List.find?_eq_some_iff_getElem.2 ⟨?_, i, hi', hget', ?_⟩, hxy⟩
  · rw [hp x y hxy, hfound]
  · intro j hj
    obtain ⟨earlier, hearlier, hsame⟩ := h j xs[j] (by simp)
    obtain ⟨hj', heq⟩ := List.getElem?_eq_some_iff.1 hearlier
    have hne := hfirst j hj
    rw [heq, hp _ _ hsame]
    exact hne

theorem imp {S : α → α → Prop} {xs ys : List α} (h : Grown R xs ys)
    (himp : ∀ x ∈ xs, ∀ y, R x y → S x y) : Grown S xs ys := by
  intro i x hx
  obtain ⟨y, hy, hxy⟩ := h i x hx
  exact ⟨y, hy, himp x (List.mem_of_getElem? hx) y hxy⟩

/-- What does not change of an element makes a list that more follows on. -/
theorem map_isPrefix {β : Type} {f : α → β} {xs ys : List α} (h : Grown R xs ys)
    (hf : ∀ x y, R x y → f y = f x) : xs.map f <+: ys.map f := by
  rw [List.prefix_iff_getElem?]
  intro i hi
  rw [List.length_map] at hi
  obtain ⟨y, hy, hxy⟩ := h i xs[i] (List.getElem?_eq_getElem hi)
  simp [hy, hf _ _ hxy]

theorem mem {xs ys : List α} (h : Grown R xs ys) {x : α} (hx : x ∈ xs) : ∃ y ∈ ys, R x y := by
  obtain ⟨i, hi⟩ := List.mem_iff_getElem?.1 hx
  obtain ⟨y, hy, hxy⟩ := h i x hi
  exact ⟨y, List.mem_of_getElem? hy, hxy⟩

end Grown

/-! ## Fields and classes -/

namespace Model

/-- What a field may become: counts grow, and an attribute may be widened. -/
structure Field.Extends (before after : Field ρ) : Prop where
  name : after.name = before.name
  kind : after.kind = before.kind
  multiplicity : after.multiplicity = before.multiplicity
  occurrences : before.occurrences ≤ after.occurrences
  valueType : after.valueType = before.valueType ∨
    before.kind = .attribute ∧ after.valueType = .string

namespace Field

theorem Extends.refl (field : Field ρ) : field.Extends field :=
  ⟨rfl, rfl, rfl, Nat.le_refl _, Or.inl rfl⟩

theorem Extends.trans {a b c : Field ρ} (h1 : a.Extends b) (h2 : b.Extends c) : a.Extends c where
  name := h2.name.trans h1.name
  kind := h2.kind.trans h1.kind
  multiplicity := h2.multiplicity.trans h1.multiplicity
  occurrences := Nat.le_trans h1.occurrences h2.occurrences
  valueType := by
    rcases h2.valueType with h | ⟨hkind, h⟩
    · rw [h]
      exact h1.valueType
    · exact Or.inr ⟨h1.kind ▸ hkind, h⟩

theorem extends_recordOccurrence (field : Field ρ) : field.Extends field.recordOccurrence :=
  ⟨rfl, rfl, rfl, Nat.le_succ _, Or.inl rfl⟩

theorem extends_markRequired (field : Field ρ) : field.Extends field.markRequired :=
  ⟨rfl, rfl, rfl, Nat.le_refl _, Or.inl rfl⟩

theorem extends_unify (field : Field ρ) (observed : ValueType) :
    field.Extends (field.unify observed) := by
  unfold unify degradeToString
  split
  · exact Extends.refl field
  · split
    · rename_i hwidenable
      refine ⟨rfl, rfl, rfl, Nat.le_refl _, Or.inr ⟨?_, rfl⟩⟩
      simp only [isWidenable, isAttribute, Bool.and_eq_true, beq_iff_eq] at hwidenable
      exact hwidenable.1
    · exact Extends.refl field

/-- There is no third kind. -/
theorem isReference_eq_false_iff {field : Field ρ} :
    field.isReference = false ↔ field.kind = .attribute := by
  unfold isReference
  cases field.kind <;> simp

theorem Extends.isReference {before after : Field ρ} (h : before.Extends after) :
    after.isReference = before.isReference := by
  rw [Field.isReference, Field.isReference, h.kind]

theorem name_unify (field : Field ρ) (observed : ValueType) :
    (field.unify observed).name = field.name := (field.extends_unify observed).name

end Field

/-- An update changes only a field of its name. -/
theorem grown_modifyField {R : Field ρ → Field ρ → Prop} (hrefl : ∀ field, R field field)
    {name : String} {f : Field ρ → Field ρ} (hf : ∀ field, field.name = name → R field (f field))
    (fields : List (Field ρ)) : Grown R fields (modifyField name f fields) := by
  induction fields with
  | nil => exact .refl hrefl []
  | cons field rest ih =>
    intro i x hx
    simp only [modifyField]
    cases i with
    | zero =>
      obtain rfl : field = x := by simpa using hx
      split
      · rename_i hname
        exact ⟨f field, rfl, hf field hname⟩
      · exact ⟨field, rfl, hrefl field⟩
    | succ i =>
      rw [List.getElem?_cons_succ] at hx
      split
      · exact ⟨x, by simpa using hx, hrefl x⟩
      · simpa using ih i x hx

/-- What a class may become: counts grow, fields grow in place, and new fields follow. -/
structure Class.Extends (before after : Class ρ) : Prop where
  id : after.id = before.id
  occurrences : before.occurrences ≤ after.occurrences
  fields : Grown Field.Extends before.fields after.fields

namespace Class

theorem Extends.refl (cls : Class ρ) : cls.Extends cls :=
  ⟨rfl, Nat.le_refl _, .refl Field.Extends.refl _⟩

theorem Extends.trans {a b c : Class ρ} (h1 : a.Extends b) (h2 : b.Extends c) : a.Extends c where
  id := h2.id.trans h1.id
  occurrences := Nat.le_trans h1.occurrences h2.occurrences
  fields := h1.fields.trans (fun _ _ _ hxy hyz => hxy.trans hyz) h2.fields

theorem extends_recordOccurrence (cls : Class ρ) : cls.Extends cls.recordOccurrence :=
  ⟨rfl, Nat.le_succ _, .refl Field.Extends.refl _⟩

theorem extends_pushField (field : Field ρ) (cls : Class ρ) : cls.Extends (cls.pushField field) :=
  ⟨rfl, Nat.le_refl _, .append Field.Extends.refl _ _⟩

theorem extends_modifyField (name : String) {f : Field ρ → Field ρ}
    (hf : ∀ field : Field ρ, field.Extends (f field)) (cls : Class ρ) :
    cls.Extends (cls.modifyField name f) :=
  ⟨rfl, Nat.le_refl _, grown_modifyField Field.Extends.refl (fun field _ => hf field) cls.fields⟩

/-- The first field of a name stays the first one of this name. -/
theorem Extends.field? {before after : Class ρ} (h : before.Extends after) {name : String}
    {field : Field ρ} (hfield : before.field? name = some field) :
    ∃ grown, after.field? name = some grown ∧ field.Extends grown := by
  refine h.fields.find? (fun old new hext => ?_) hfield
  rw [hext.name]

end Class

end Model

/-! ## Registries -/

namespace Registry

/-- The second registry has everything the first one has, where it was. -/
def Extends (before after : Registry ρ) : Prop :=
  Grown Model.Class.Extends before.classes after.classes

namespace Extends

theorem refl (r : Registry ρ) : r.Extends r := Grown.refl Model.Class.Extends.refl _

theorem trans {a b c : Registry ρ} (h1 : a.Extends b) (h2 : b.Extends c) : a.Extends c :=
  Grown.trans (fun _ _ _ hxy hyz => hxy.trans hyz) h1 h2

variable {before after : Registry ρ}

theorem get? (h : before.Extends after) {id : String} {cls : Model.Class ρ}
    (hcls : before.get? id = some cls) :
    ∃ grown, after.get? id = some grown ∧ cls.Extends grown := by
  obtain ⟨grown, hmem, hext⟩ := h.mem (mem_of_get? hcls)
  have hid : grown.id = id := hext.id.trans (id_of_get? hcls)
  exact ⟨grown, get?_eq_some_iff.2 ⟨hmem, hid⟩, hext⟩

theorem contains (h : before.Extends after) {id : String} (hid : before.contains id = true) :
    after.contains id = true := by
  rw [contains_eq_isSome_get?, Option.isSome_iff_exists] at hid ⊢
  obtain ⟨cls, hcls⟩ := hid
  obtain ⟨grown, hgrown, -⟩ := h.get? hcls
  exact ⟨grown, hgrown⟩

theorem field? (h : before.Extends after) {id name : String} {field : Model.Field ρ}
    (hfield : before.field? id name = some field) :
    ∃ grown, after.field? id name = some grown ∧ field.Extends grown := by
  obtain ⟨cls, hcls, hin⟩ := Option.bind_eq_some_iff.1 hfield
  obtain ⟨grownCls, hgrownCls, hext⟩ := h.get? hcls
  obtain ⟨grown, hgrown, hfields⟩ := hext.field? hin
  exact ⟨grown, Option.bind_eq_some_iff.2 ⟨grownCls, hgrownCls, hgrown⟩, hfields⟩

end Extends

/-! ## Updates -/

theorem extends_modify (r : Registry ρ) (id : String) {f : Model.Class ρ → Model.Class ρ}
    (keeps : ∀ cls, (f cls).id = cls.id) (hf : ∀ cls : Model.Class ρ, cls.Extends (f cls)) :
    r.Extends (r.modify id f keeps) := by
  refine Grown.map (fun cls => ?_) r.classes
  split
  · exact hf cls
  · exact Model.Class.Extends.refl cls

theorem extends_modifyField (r : Registry ρ) (id name : String)
    {f : Model.Field ρ → Model.Field ρ} (hf : ∀ field : Model.Field ρ, field.Extends (f field)) :
    r.Extends (r.modifyField id name f) :=
  extends_modify r id _ (Model.Class.extends_modifyField name hf)

theorem extends_pushField (r : Registry ρ) (id : String) (field : Model.Field ρ) :
    r.Extends (r.pushField id field) :=
  extends_modify r id _ (Model.Class.extends_pushField field)

theorem extends_put_new (r : Registry ρ) {id : String} (hid : r.contains id = false) :
    r.Extends (r.put (.new id)) := by
  have hnone : r.position? id = none := by simpa [contains] using hid
  unfold Extends
  rw [classes_put]
  simp only [Model.Class.new, hnone]
  exact Grown.append Model.Class.Extends.refl _ _

end Registry

end DocModel
