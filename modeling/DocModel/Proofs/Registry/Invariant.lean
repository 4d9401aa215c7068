import DocModel.Proofs.Registry.Growth

set_option autoImplicit false

/-! # Invariants of registries

`ClassInvariant` lists what an invariant of classes has to be kept by; whoever has it gets it for
every registry that discovery makes. Two invariants are stated here: fields have distinct names, and
classes are sound, that is, they and their fields were seen, kinds say what types are, and targets
are known. -/

namespace DocModel

variable {ρ : Type}

/-- A type that is known where these classes are: a scalar, or one of the classes. -/
def ValueType.Known (known : String → Prop) (type : ValueType) : Prop :=
  ∀ id, type = .instanceOf id → known id

theorem ValueType.Known.mono {known more : String → Prop} {type : ValueType}
    (h : type.Known known) (hmore : ∀ id, known id → more id) : type.Known more :=
  fun id hid => hmore id (h id hid)

theorem ValueType.known_string (known : String → Prop) : ValueType.string.Known known :=
  fun _ h => by cases h

namespace Model

structure Field.Sound (known : String → Prop) (field : Field ρ) : Prop where
  kind : field.kind = field.valueType.kind
  target : field.valueType.Known known
  seen : 1 ≤ field.occurrences

theorem Field.Sound.mono {known more : String → Prop} {field : Field ρ} (h : field.Sound known)
    (hmore : ∀ id, known id → more id) : field.Sound more :=
  ⟨h.kind, h.target.mono hmore, h.seen⟩

theorem Field.Sound.extends {known : String → Prop} {before after : Field ρ}
    (h : before.Sound known) (hext : before.Extends after) : after.Sound known where
  kind := by
    rcases hext.valueType with heq | ⟨hkind, heq⟩
    · rw [hext.kind, heq, h.kind]
    · rw [hext.kind, hkind, heq]
      rfl
  target := by
    rcases hext.valueType with heq | ⟨-, heq⟩
    · rw [heq]
      exact h.target
    · rw [heq]
      exact ValueType.known_string known
  seen := Nat.le_trans h.seen hext.occurrences

/-- The field of one observation of a known type is sound. -/
theorem Field.sound_new {known : String → Prop} {type : ValueType} (h : type.Known known)
    (name : String) (multiplicity : Multiplicity) (required : Bool) :
    (Field.new name type multiplicity required : Field ρ).Sound known :=
  ⟨rfl, h, Nat.le_refl 1⟩

structure Class.Sound (known : String → Prop) (cls : Class ρ) : Prop where
  fields : ∀ field ∈ cls.fields, field.Sound known
  seen : 1 ≤ cls.occurrences

/-- No two fields have the same name. -/
def Class.DistinctNames (cls : Class ρ) : Prop := (cls.fields.map (·.name)).Nodup

end Model

/-! ## Invariants of classes -/

/-- What can be said of every class at every point of a discovery. It may speak of the ids that are
registered, and every update of a class has to keep it. -/
structure ClassInvariant (P : (String → Prop) → Model.Class ρ → Prop) : Prop where
  mono {known more : String → Prop} {cls : Model.Class ρ} :
    P known cls → (∀ id, known id → more id) → P more cls
  new (known : String → Prop) (id : String) : P known (.new id)
  recordOccurrence {known : String → Prop} {cls : Model.Class ρ} :
    P known cls → P known cls.recordOccurrence
  modifyField {known : String → Prop} {cls : Model.Class ρ} {f : Model.Field ρ → Model.Field ρ}
    (name : String) :
    P known cls → (∀ field : Model.Field ρ, field.Extends (f field)) →
      P known (cls.modifyField name f)
  pushField {known : String → Prop} {cls : Model.Class ρ} {name : String} {type : ValueType}
    (multiplicity : Multiplicity) (required : Bool) :
    P known cls → type.Known known → cls.field? name = none →
      P known (cls.pushField (.new name type multiplicity required))

theorem classInvariant_sound :
    ClassInvariant fun known (cls : Model.Class ρ) => cls.Sound known where
  mono h hmore := ⟨fun field hfield => (h.fields field hfield).mono hmore, h.seen⟩
  new _ _ := ⟨fun _ h => absurd h List.not_mem_nil, Nat.le_refl 1⟩
  recordOccurrence h := ⟨h.fields, Nat.le_succ_of_le h.seen⟩
  modifyField name h hf := by
    refine ⟨fun field hfield => ?_, h.seen⟩
    rcases Model.mem_modifyField hfield with hold | ⟨old, hold, -, rfl⟩
    · exact h.fields field hold
    · exact (h.fields old hold).extends (hf old)
  pushField multiplicity required h htype _ := by
    refine ⟨fun field hfield => ?_, h.seen⟩
    rcases List.mem_append.1 hfield with hold | hpushed
    · exact h.fields field hold
    · rw [List.mem_singleton.1 hpushed]
      exact Model.Field.sound_new htype ..

theorem classInvariant_distinctNames :
    ClassInvariant fun _ (cls : Model.Class ρ) => cls.DistinctNames where
  mono h _ := h
  new _ _ := List.nodup_nil
  recordOccurrence h := h
  modifyField name h hf := by
    show ((Model.modifyField name _ _).map (·.name)).Nodup
    rw [Model.map_name_modifyField _ _ _ fun field => (hf field).name]
    exact h
  pushField multiplicity required h _ hnew := by
    simp only [Model.Class.DistinctNames, Model.Class.pushField, List.map_append, List.map_cons,
      List.map_nil]
    refine List.nodup_append.2 ⟨h, by simp, ?_⟩
    intro other hother pushed hpushed heq
    obtain rfl : other = _ := heq.trans (List.mem_singleton.1 hpushed)
    exact Model.Class.field?_eq_none_iff.1 hnew hother

namespace Registry

/-- Every class satisfies the invariant. -/
def Each (P : (String → Prop) → Model.Class ρ → Prop) (r : Registry ρ) : Prop :=
  ∀ cls ∈ r.classes, P (fun id => r.contains id = true) cls

/-- Every class is sound, and targets are registered. -/
def Sound (r : Registry ρ) : Prop := r.Each fun known cls => cls.Sound known

/-- In every class no two fields have the same name. -/
def DistinctNames (r : Registry ρ) : Prop := r.Each fun _ cls => cls.DistinctNames

theorem each_empty (P : (String → Prop) → Model.Class ρ → Prop) :
    (Registry.empty : Registry ρ).Each P := fun _ h => absurd h List.not_mem_nil

namespace Each

variable {P : (String → Prop) → Model.Class ρ → Prop} {r : Registry ρ}

theorem get? (h : r.Each P) {id : String} {cls : Model.Class ρ} (hcls : r.get? id = some cls) :
    P (fun id => r.contains id = true) cls := h cls (mem_of_get? hcls)

theorem modify (h : r.Each P) (inv : ClassInvariant P) (id : String)
    {f : Model.Class ρ → Model.Class ρ} (keeps : ∀ cls, (f cls).id = cls.id)
    (hf : ∀ cls, r.get? id = some cls → P (fun id => r.contains id = true) (f cls)) :
    (r.modify id f keeps).Each P := by
  intro cls hcls
  have hmono : ∀ other, r.contains other = true → (r.modify id f keeps).contains other = true :=
    fun other hother => by rw [contains_modify, hother]
  refine inv.mono ?_ hmono
  obtain ⟨old, hold, rfl⟩ := List.mem_map.1 hcls
  split
  · rename_i hid
    exact hf old (hid ▸ get?_of_mem hold)
  · exact h old hold

theorem put (h : r.Each P) (inv : ClassInvariant P) {cls : Model.Class ρ}
    (hcls : P (fun id => (r.put cls).contains id = true) cls) : (r.put cls).Each P := by
  intro other hother
  rcases mem_classes_put.1 hother with rfl | ⟨hold, -⟩
  · exact hcls
  · refine inv.mono (h other hold) fun id hid => ?_
    rw [contains_put, hid, Bool.or_true]

theorem modifyField (h : r.Each P) (inv : ClassInvariant P) (id name : String)
    {f : Model.Field ρ → Model.Field ρ} (hf : ∀ field : Model.Field ρ, field.Extends (f field)) :
    (r.modifyField id name f).Each P :=
  h.modify inv id _ fun _ hcls => inv.modifyField name (h.get? hcls) hf

theorem pushField (h : r.Each P) (inv : ClassInvariant P) (id : String) {name : String}
    {type : ValueType} (multiplicity : Multiplicity) (required : Bool)
    (htype : type.Known fun id => r.contains id = true) (hnew : r.field? id name = none) :
    (r.pushField id (.new name type multiplicity required)).Each P := by
  refine h.modify inv id _ fun cls hcls => ?_
  refine inv.pushField multiplicity required (h.get? hcls) htype ?_
  simpa [field?, hcls] using hnew

end Each

/-- The fields of one name in one class are one field. -/
theorem DistinctNames.field?_of_mem {r : Registry ρ} (h : r.DistinctNames) {cls : Model.Class ρ}
    {field : Model.Field ρ} (hcls : cls ∈ r.classes) (hfield : field ∈ cls.fields) :
    r.field? cls.id field.name = some field := by
  simp [field?, get?_of_mem hcls, Model.Class.field?_eq_some_of_mem (h cls hcls) hfield]

theorem Sound.field? {r : Registry ρ} (h : r.Sound) {id name : String} {field : Model.Field ρ}
    (hfield : r.field? id name = some field) : field.Sound fun id => r.contains id = true := by
  obtain ⟨cls, hcls, hin⟩ := Option.bind_eq_some_iff.1 hfield
  exact (Each.get? h hcls).fields field (Model.Class.mem_of_field? hin)

end Registry

end DocModel
