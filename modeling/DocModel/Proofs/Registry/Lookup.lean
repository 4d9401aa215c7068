import DocModel.Registry

set_option autoImplicit false

/-! # Look-up after updates

Discovery reads and writes a registry through look-ups only: the class of an id, and the first field
of a name in it. Each update is described here by what it does to these look-ups, and nothing
further on opens the lists behind them. -/

namespace DocModel

variable {ρ : Type}

/-! ## Fields of a class -/

namespace Model

/-- An update that keeps names changes the first field of the name and no other look-up. -/
theorem find?_modifyField (fields : List (Field ρ)) (name other : String)
    (f : Field ρ → Field ρ) (keeps : ∀ field, (f field).name = field.name) :
    (modifyField name f fields).find? (fun field => field.name = other)
      = if other = name then (fields.find? fun field => field.name = name).map f
        else fields.find? fun field => field.name = other := by
  induction fields with
  | nil => simp [modifyField]
  | cons field rest ih =>
    simp only [modifyField]
    by_cases hname : field.name = name
    · by_cases hother : other = name
      · simp [hname, hother, keeps]
      · have hne : ¬ name = other := fun h => hother h.symm
        simp [hname, hother, hne, keeps]
    · by_cases hother : other = name
      · subst hother
        simpa [hname] using ih
      · by_cases hfound : field.name = other
        · simp [hother, hfound]
        · simpa [hname, hother, hfound] using ih

theorem map_name_modifyField (fields : List (Field ρ)) (name : String)
    (f : Field ρ → Field ρ) (keeps : ∀ field, (f field).name = field.name) :
    (modifyField name f fields).map (·.name) = fields.map (·.name) := by
  induction fields with
  | nil => rfl
  | cons field rest ih =>
    simp only [modifyField]
    split
    · simp [keeps]
    · simp [ih]

/-- Two updates of the same field are one. -/
theorem modifyField_modifyField (fields : List (Field ρ)) (name : String)
    (f g : Field ρ → Field ρ) (keeps : ∀ field, (f field).name = field.name) :
    modifyField name g (modifyField name f fields) = modifyField name (g ∘ f) fields := by
  induction fields with
  | nil => rfl
  | cons field rest ih =>
    by_cases hname : field.name = name
    · simp [modifyField, hname, keeps]
    · simp [modifyField, hname, ih]

/-- An update that does not change the first field of its name changes nothing. -/
theorem modifyField_eq_self {fields : List (Field ρ)} {name : String} {f : Field ρ → Field ρ}
    (h : ∀ field, fields.find? (fun field => field.name = name) = some field → f field = field) :
    modifyField name f fields = fields := by
  induction fields with
  | nil => rfl
  | cons first rest ih =>
    by_cases hname : first.name = name
    · have hfirst := h first (by simp [hname])
      simp [modifyField, hname, hfirst]
    · simp only [modifyField, hname, ↓reduceIte, List.cons.injEq, true_and]
      exact ih fun field hfield => h field (by simpa [hname] using hfield)

/-- Every field after an update is an old one or the image of an old one of this name. -/
theorem mem_modifyField {fields : List (Field ρ)} {name : String} {f : Field ρ → Field ρ}
    {field : Field ρ} (h : field ∈ modifyField name f fields) :
    field ∈ fields ∨ ∃ old ∈ fields, old.name = name ∧ field = f old := by
  induction fields with
  | nil => simp [modifyField] at h
  | cons first rest ih =>
    simp only [modifyField] at h
    split at h
    · rename_i hname
      rcases List.mem_cons.1 h with rfl | hrest
      · exact Or.inr ⟨first, List.mem_cons_self .., hname, rfl⟩
      · exact Or.inl (List.mem_cons_of_mem _ hrest)
    · rcases List.mem_cons.1 h with rfl | hrest
      · exact Or.inl (List.mem_cons_self ..)
      · rcases ih hrest with hold | ⟨old, hold, hname, heq⟩
        · exact Or.inl (List.mem_cons_of_mem _ hold)
        · exact Or.inr ⟨old, List.mem_cons_of_mem _ hold, hname, heq⟩

namespace Class

theorem id_modifyField (name : String) (f : Field ρ → Field ρ) (cls : Class ρ) :
    (cls.modifyField name f).id = cls.id := rfl

theorem id_pushField (field : Field ρ) (cls : Class ρ) : (cls.pushField field).id = cls.id := rfl

theorem field?_modifyField (cls : Class ρ) (name other : String) (f : Field ρ → Field ρ)
    (keeps : ∀ field, (f field).name = field.name) :
    (cls.modifyField name f).field? other
      = if other = name then (cls.field? name).map f else cls.field? other :=
  find?_modifyField cls.fields name other f keeps

theorem field?_pushField (cls : Class ρ) (field : Field ρ) (name : String) :
    (cls.pushField field).field? name
      = (cls.field? name).or (if field.name = name then some field else none) := by
  simp only [field?, pushField, List.find?_append, List.find?_singleton, decide_eq_true_eq]

theorem name_of_field? {cls : Class ρ} {name : String} {field : Field ρ}
    (h : cls.field? name = some field) : field.name = name := by
  simpa using List.find?_some h

theorem mem_of_field? {cls : Class ρ} {name : String} {field : Field ρ}
    (h : cls.field? name = some field) : field ∈ cls.fields := List.mem_of_find?_eq_some h

theorem field?_eq_none_iff {cls : Class ρ} {name : String} :
    cls.field? name = none ↔ name ∉ cls.fields.map (·.name) := by
  simp [field?, List.find?_eq_none]

/-- Where names are distinct every field is found by its name. -/
theorem field?_eq_some_of_mem {cls : Class ρ} (hnames : (cls.fields.map (·.name)).Nodup)
    {field : Field ρ} (h : field ∈ cls.fields) : cls.field? field.name = some field := by
  unfold field?
  generalize cls.fields = fields at hnames h
  induction fields with
  | nil => simp at h
  | cons first rest ih =>
    rw [List.map_cons, List.nodup_cons] at hnames
    rcases List.mem_cons.1 h with rfl | hrest
    · simp
    · have hne : first.name ≠ field.name := by
        intro heq
        exact hnames.1 (heq ▸ List.mem_map_of_mem hrest)
      simpa [hne] using ih hnames.2 hrest

end Class

end Model

/-! ## Classes of a registry -/

namespace Registry

theorem get?_map (r : Registry ρ) (f : Model.Class ρ → Model.Class ρ)
    (keeps : ∀ cls, (f cls).id = cls.id) (id : String) :
    (r.map f keeps).get? id = (r.get? id).map f := by
  show (r.position? id).bind ((r.classes.map f)[·]?) = ((r.position? id).bind (r.classes[·]?)).map f
  cases r.position? id <;> simp

theorem id_of_get? {r : Registry ρ} {id : String} {cls : Model.Class ρ} (h : r.get? id = some cls) :
    cls.id = id := (get?_eq_some_iff.1 h).2

theorem mem_of_get? {r : Registry ρ} {id : String} {cls : Model.Class ρ}
    (h : r.get? id = some cls) : cls ∈ r.classes := (get?_eq_some_iff.1 h).1

theorem get?_of_mem {r : Registry ρ} {cls : Model.Class ρ} (h : cls ∈ r.classes) :
    r.get? cls.id = some cls := get?_eq_some_iff.2 ⟨h, rfl⟩

theorem contains_eq_isSome_get? (r : Registry ρ) (id : String) :
    r.contains id = (r.get? id).isSome := by
  rw [Bool.eq_iff_iff, contains_iff_mem_ids, Option.isSome_iff_exists, ids, List.mem_map]
  exact exists_congr fun cls => get?_eq_some_iff.symm

theorem get?_modify (r : Registry ρ) (id : String) (f : Model.Class ρ → Model.Class ρ)
    (keeps : ∀ cls, (f cls).id = cls.id) (other : String) :
    (r.modify id f keeps).get? other
      = if other = id then (r.get? id).map f else r.get? other := by
  rw [modify, get?_map]
  by_cases hother : other = id
  · subst hother
    cases hcls : r.get? other with
    | none => simp
    | some cls => simp [id_of_get? hcls]
  · cases hcls : r.get? other with
    | none => simp [hother]
    | some cls => simp [id_of_get? hcls, hother]

/-- A class that is put takes the place of the class of its id; the others stay. -/
theorem mem_classes_put {r : Registry ρ} {cls other : Model.Class ρ} :
    other ∈ (r.put cls).classes ↔ other = cls ∨ other ∈ r.classes ∧ other.id ≠ cls.id := by
  rw [classes_put]
  cases hpos : r.position? cls.id with
  | none =>
    have hnew : cls.id ∉ r.ids := position?_eq_none_iff.1 hpos
    simp only [List.mem_append, List.mem_singleton]
    constructor
    · rintro (hold | rfl)
      · exact Or.inr ⟨hold, fun heq => hnew (heq ▸ List.mem_map_of_mem hold)⟩
      · exact Or.inl rfl
    · rintro (rfl | ⟨hold, -⟩)
      · exact Or.inr rfl
      · exact Or.inl hold
  | some i =>
    have hi := position?_eq_some_iff.1 hpos
    -- ids are distinct, so position `i` is the only one of this id
    have honly : ∀ j, r.ids[j]? = some cls.id → i = j := fun j hj =>
      Option.some.inj (hpos.symm.trans (position?_eq_some_iff.2 hj))
    obtain ⟨stored, hstored, hid⟩ : ∃ stored, r.classes[i]? = some stored ∧ stored.id = cls.id := by
      rwa [ids, List.getElem?_map, Option.map_eq_some_iff] at hi
    obtain ⟨hlt, -⟩ := List.getElem?_eq_some_iff.1 hstored
    simp only [List.mem_iff_getElem?, List.getElem?_set]
    constructor
    · rintro ⟨j, hj⟩
      split at hj
      · exact Or.inl (Option.some.inj (by simpa [hlt] using hj)).symm
      · rename_i hne
        refine Or.inr ⟨⟨j, hj⟩, fun heq => hne (honly j ?_)⟩
        simp [ids, hj, heq]
    · rintro (rfl | ⟨⟨j, hj⟩, hne⟩)
      · exact ⟨i, by simp [hlt]⟩
      · refine ⟨j, ?_⟩
        have hij : ¬ i = j := by
          rintro rfl
          rw [hstored, Option.some.injEq] at hj
          exact hne (hj ▸ hid)
        simpa [hij] using hj

theorem get?_put (r : Registry ρ) (cls : Model.Class ρ) (id : String) :
    (r.put cls).get? id = if id = cls.id then some cls else r.get? id := by
  apply Option.ext
  intro other
  rw [get?_eq_some_iff, mem_classes_put]
  by_cases hid : id = cls.id
  · subst hid
    simp only [↓reduceIte, Option.some.injEq]
    constructor
    · rintro ⟨rfl | ⟨-, hne⟩, heq⟩
      · rfl
      · exact absurd heq hne
    · rintro rfl
      exact ⟨Or.inl rfl, rfl⟩
  · simp only [hid, ↓reduceIte, get?_eq_some_iff]
    constructor
    · rintro ⟨rfl | ⟨hold, -⟩, heq⟩
      · exact absurd heq.symm hid
      · exact ⟨hold, heq⟩
    · rintro ⟨hold, rfl⟩
      exact ⟨Or.inr ⟨hold, hid⟩, rfl⟩

theorem contains_put (r : Registry ρ) (cls : Model.Class ρ) (id : String) :
    (r.put cls).contains id = (decide (id = cls.id) || r.contains id) := by
  rw [contains_eq_isSome_get?, contains_eq_isSome_get?, get?_put]
  by_cases hid : id = cls.id <;> simp [hid]

theorem contains_modify (r : Registry ρ) (id : String) (f : Model.Class ρ → Model.Class ρ)
    (keeps : ∀ cls, (f cls).id = cls.id) (other : String) :
    (r.modify id f keeps).contains other = r.contains other := by
  rw [Bool.eq_iff_iff, contains_iff_mem_ids, contains_iff_mem_ids, ids_modify]

/-! ## Registries of given classes -/

theorem classes_foldl_put (classes : List (Model.Class ρ)) (r : Registry ρ)
    (h : (r.ids ++ classes.map (·.id)).Nodup) :
    (classes.foldl put r).classes = r.classes ++ classes := by
  induction classes generalizing r with
  | nil => simp
  | cons cls rest ih =>
    have hnew : r.position? cls.id = none := by
      refine position?_eq_none_iff.2 fun hmem => ?_
      exact (List.nodup_append.1 h).2.2 cls.id hmem cls.id (by simp) rfl
    have hput : (r.put cls).classes = r.classes ++ [cls] := by
      rw [classes_put]
      simp only [hnew]
    have hids : (r.put cls).ids = r.ids ++ [cls.id] := by simp [ids, hput]
    rw [List.foldl_cons, ih (r.put cls) (by simpa [hids] using h), hput]
    simp

/-- Classes of distinct ids are kept as they are. -/
theorem classes_ofClasses {classes : List (Model.Class ρ)} (h : (classes.map (·.id)).Nodup) :
    (ofClasses classes).classes = classes :=
  (classes_foldl_put classes empty (by simpa [ids, empty] using h)).trans (List.nil_append _)

@[simp]
theorem classes_reseed (r : Registry ρ) : r.reseed.classes = r.classes :=
  classes_ofClasses r.nodup_ids

theorem mem_classes_foldl_put {classes : List (Model.Class ρ)} {r : Registry ρ}
    {cls : Model.Class ρ} (h : cls ∈ (classes.foldl put r).classes) :
    cls ∈ r.classes ∨ cls ∈ classes := by
  induction classes generalizing r with
  | nil => exact Or.inl h
  | cons head rest ih =>
    rcases ih h with hput | hrest
    · rcases mem_classes_put.1 hput with rfl | ⟨hold, -⟩
      · exact Or.inr List.mem_cons_self
      · exact Or.inl hold
    · exact Or.inr (List.mem_cons_of_mem head hrest)

/-- Only given classes are kept, also where ids are repeated. -/
theorem mem_of_mem_ofClasses {classes : List (Model.Class ρ)} {cls : Model.Class ρ}
    (h : cls ∈ (ofClasses classes).classes) : cls ∈ classes :=
  (mem_classes_foldl_put h).resolve_left List.not_mem_nil

theorem contains_foldl_put (classes : List (Model.Class ρ)) (r : Registry ρ) (id : String) :
    (classes.foldl put r).contains id = true
      ↔ r.contains id = true ∨ id ∈ classes.map (·.id) := by
  induction classes generalizing r with
  | nil => simp
  | cons head rest ih =>
    rw [List.foldl_cons, ih, contains_put]
    simp only [Bool.or_eq_true, decide_eq_true_eq, List.map_cons, List.mem_cons]
    rw [or_assoc, or_left_comm]

/-- Every given id is kept. -/
theorem contains_ofClasses {classes : List (Model.Class ρ)} {id : String} :
    (ofClasses classes).contains id = true ↔ id ∈ classes.map (·.id) := by
  rw [ofClasses, contains_foldl_put, contains_iff_mem_ids]
  simp [ids, empty]

/-! ## Fields of a registry -/

/-- The first field of this name in the class of this id. -/
def field? (r : Registry ρ) (id name : String) : Option (Model.Field ρ) :=
  (r.get? id).bind (·.field? name)

/-- Update the first field of this name in the class of this id. -/
def modifyField (r : Registry ρ) (id name : String) (f : Model.Field ρ → Model.Field ρ) :
    Registry ρ :=
  r.modify id (Model.Class.modifyField name f) (Model.Class.id_modifyField name f)

/-- Append a field to the class of this id. -/
def pushField (r : Registry ρ) (id : String) (field : Model.Field ρ) : Registry ρ :=
  r.modify id (Model.Class.pushField field) (Model.Class.id_pushField field)

theorem contains_modifyField (r : Registry ρ) (id name : String)
    (f : Model.Field ρ → Model.Field ρ) (other : String) :
    (r.modifyField id name f).contains other = r.contains other :=
  r.contains_modify id _ (Model.Class.id_modifyField name f) other

theorem contains_pushField (r : Registry ρ) (id : String) (field : Model.Field ρ)
    (other : String) : (r.pushField id field).contains other = r.contains other :=
  r.contains_modify id _ (Model.Class.id_pushField field) other

/-- Two updates of the same field are one. -/
theorem modifyField_modifyField (r : Registry ρ) (id name : String)
    (f g : Model.Field ρ → Model.Field ρ) (keeps : ∀ field, (f field).name = field.name) :
    (r.modifyField id name f).modifyField id name g = r.modifyField id name (g ∘ f) := by
  simp only [modifyField, modify, map, List.map_map, mk.injEq, and_true]
  apply List.map_congr_left
  intro cls _
  by_cases hid : cls.id = id
  · simp [hid, Model.Class.modifyField, Model.modifyField_modifyField _ _ _ _ keeps]
  · simp [hid]

theorem map_eq_self {r : Registry ρ} {f : Model.Class ρ → Model.Class ρ}
    {keeps : ∀ cls, (f cls).id = cls.id} (h : ∀ cls ∈ r.classes, f cls = cls) :
    r.map f keeps = r := by
  have hclasses : r.classes.map f = r.classes := (List.map_congr_left h).trans (List.map_id' _)
  cases r
  simpa [map] using hclasses

/-- An update that does not change the field changes nothing. -/
theorem modifyField_eq_self {r : Registry ρ} {id name : String} {f : Model.Field ρ → Model.Field ρ}
    (h : ∀ field, r.field? id name = some field → f field = field) :
    r.modifyField id name f = r := by
  unfold modifyField modify
  refine map_eq_self fun cls hcls => ?_
  split
  · rename_i hid
    obtain rfl := hid
    have hfields : Model.modifyField name f cls.fields = cls.fields := by
      refine Model.modifyField_eq_self fun field hfield => h field ?_
      simpa [field?, get?_of_mem hcls, Model.Class.field?] using hfield
    simp [Model.Class.modifyField, hfields]
  · rfl

theorem field?_modifyField (r : Registry ρ) (id name : String)
    (f : Model.Field ρ → Model.Field ρ) (keeps : ∀ field, (f field).name = field.name)
    (other label : String) :
    (r.modifyField id name f).field? other label
      = if other = id ∧ label = name then (r.field? id name).map f else r.field? other label := by
  rw [field?, modifyField, get?_modify]
  by_cases hid : other = id
  · subst hid
    cases hcls : r.get? other with
    | none => simp [field?, hcls]
    | some cls =>
      simp only [↓reduceIte, Option.map_some, Option.bind_some, true_and, field?, hcls,
        Model.Class.field?_modifyField cls name label f keeps]
  · simp [hid, field?]

theorem field?_pushField (r : Registry ρ) (id : String) (field : Model.Field ρ)
    (hid : r.contains id) (other label : String) :
    (r.pushField id field).field? other label
      = (r.field? other label).or
          (if other = id ∧ field.name = label then some field else none) := by
  rw [field?, pushField, get?_modify]
  by_cases hother : other = id
  · subst hother
    rw [contains_eq_isSome_get?, Option.isSome_iff_exists] at hid
    obtain ⟨cls, hcls⟩ := hid
    simp [field?, hcls, Model.Class.field?_pushField]
  · simp [hother, field?]

/-- A new class has no fields yet, so no look-up of a field changes. -/
theorem field?_put_new (r : Registry ρ) (id : String) (hid : r.contains id = false)
    (other name : String) : (r.put (.new id)).field? other name = r.field? other name := by
  rw [field?, get?_put]
  split
  · rename_i heq
    have hnone : r.get? id = none := by
      simpa [contains_eq_isSome_get?] using hid
    simp [field?, heq, Model.Class.new, hnone, Model.Class.field?]
  · rfl

theorem field?_modify_of_fields (r : Registry ρ) (id : String)
    (f : Model.Class ρ → Model.Class ρ) (keeps : ∀ cls, (f cls).id = cls.id)
    (hfields : ∀ cls, (f cls).fields = cls.fields) (other name : String) :
    (r.modify id f keeps).field? other name = r.field? other name := by
  rw [field?, get?_modify]
  split
  · rename_i heq
    subst heq
    cases hcls : r.get? other <;> simp [field?, hcls, Model.Class.field?, hfields]
  · rfl

end Registry

end DocModel
