import DocModel.Proofs.Discovery.Execution

set_option autoImplicit false

/-! # A value has one type

Whether typing a value succeeds depends on the depth and on what was discovered before: a member of
a known reference is not looked into. The type it finds does not. `typeUnder` computes it from the
value and the names alone. -/

namespace DocModel

variable {ρ : Type}

namespace Document

mutual

/-- The type that a value can have under a name. -/
def typeUnder (digester : Digester) (name : String) : Document → Option ValueType
  | .null | .string _ | .array [] => some .string
  | .bool _ => some (.scalar .boolean)
  | .number _ => some (.scalar .integer)
  | .array (first :: rest) =>
    match digester name with
    | .error _ => none
    | .ok element =>
      match first.typeUnder digester element with
      | none => none
      | some general => typeUnderRest digester element general rest
  | .object _ => (digester name).toOption.map .instanceOf

/-- The type that an array can have whose first item has the type `general`. -/
def typeUnderRest (digester : Digester) (name : String) (general : ValueType) :
    List Document → Option ValueType
  | [] => some general
  | item :: rest =>
    match item.typeUnder digester name with
    | none => none
    | some observed =>
      if observed = general then typeUnderRest digester name general rest else some .string

end

theorem typeUnder_of_leafType? {value : Document} {type : ValueType}
    (h : value.leafType? = some type) (digester : Digester) (name : String) :
    value.typeUnder digester name = some type := by
  cases value with
  | array items =>
    cases items with
    | nil => rw [typeUnder, ← h]; rfl
    | cons => simp [leafType?] at h
  | object => simp [leafType?] at h
  | null | bool | number | string => rw [typeUnder, ← h]; rfl

/-- The items have the type of the first one, or one of them has another type and the array is a
string. -/
theorem typeUnderRest_eq_some {digester : Digester} {name : String} {general type : ValueType}
    {items : List Document} (h : typeUnderRest digester name general items = some type) :
    (type = general ∧ ∀ item ∈ items, item.typeUnder digester name = some general)
      ∨ type = .string ∧ ∃ item ∈ items, ∃ other, item.typeUnder digester name = some other
        ∧ other ≠ general := by
  induction items with
  | nil =>
    obtain rfl : general = type := Option.some.inj h
    exact Or.inl ⟨rfl, nofun⟩
  | cons item rest ih =>
    rw [typeUnderRest] at h
    cases hitem : item.typeUnder digester name with
    | none => simp only [hitem, reduceCtorEq] at h
    | some observed =>
      simp only [hitem] at h
      split at h
      · rename_i heq
        subst heq
        rcases ih h with ⟨hsame, hall⟩ | ⟨hstring, other, hother, hdiffers⟩
        · refine Or.inl ⟨hsame, fun other hother => ?_⟩
          rcases List.mem_cons.1 hother with rfl | hrest
          · exact hitem
          · exact hall other hrest
        · exact Or.inr ⟨hstring, other, List.mem_cons_of_mem _ hother, hdiffers⟩
      · rename_i hne
        exact Or.inr ⟨(Option.some.inj h).symm, item, List.mem_cons_self, observed, hitem, hne⟩

end Document

namespace Discovery

/-- A result of a task is the one that can be computed from the task. -/
def Task.Foreseen (digester : Digester) : (task : Task) → Except Error task.Result → Prop
  | .typing name value, outcome =>
    ∀ type, outcome = .ok type → value.typeUnder digester name = some type
  | .typingRest name general items, outcome =>
    ∀ type, outcome = .ok type → Document.typeUnderRest digester name general items = some type
  | .entering id _, outcome => ∀ entered, outcome = .ok entered → entered = id
  | .folding .., _ | .member .., _ | .adding .., _ | .roots .., _ => True

theorem Task.foreseen_error (digester : Digester) (task : Task) (e : Error) :
    task.Foreseen digester (.error e) := by
  cases task with
  | typing | typingRest | entering => exact nofun
  | folding | member | adding | roots => trivial

theorem Runs.foreseen {policy : Policy} {task : Task} {c c' : Context ρ}
    {outcome : Except Error task.Result} (h : Runs policy task c outcome c') :
    task.Foreseen policy.digester outcome := by
  induction h with
  | stop => exact Task.foreseen_error ..
  | leaf _ htype =>
    rintro _ ⟨⟩
    exact Document.typeUnder_of_leafType? htype _ _
  | arrayFails | restFails => exact nofun
  | array _ _ hdigest _ _ ih1 ih2 =>
    intro type htype
    have hfirst := ih1 _ rfl
    simp only [Document.typeUnder, hdigest, hfirst]
    exact ih2 type htype
  | @object _ id _ _ _ outcome _ hdigest _ _ ih =>
    intro type htype
    cases outcome with
    | error e => exact absurd htype nofun
    | ok entered =>
      -- the type of an object is read off its digest, whatever its members do
      have hentered := ih entered rfl
      rw [Document.typeUnder, hdigest, ← Except.ok.inj htype]
      show some (ValueType.instanceOf id) = some (.instanceOf entered)
      rw [hentered]
  | restNil =>
    rintro _ ⟨⟩
    rfl
  | restDiffers _ hne ih =>
    rintro _ ⟨⟩
    have hitem := ih _ rfl
    simp only [Document.typeUnderRest, hitem, hne, ↓reduceIte]
  | restAgrees _ _ ih1 ih2 =>
    intro type htype
    have hitem := ih1 _ rfl
    simp only [Document.typeUnderRest, hitem, ↓reduceIte]
    exact ih2 type htype
  | @enter id _ _ _ outcome _ _ _ =>
    intro entered hentered
    cases outcome with
    | error e => exact absurd hentered nofun
    | ok _ => exact (Except.ok.inj hentered).symm
  | foldNil | foldFails | foldCons | counted | retypeFails | retyped | absent | addFails | addKnown
  | addNew | rootNil | rootFails | rootCons => trivial

/-- Typing this value under this name gives this type, in some context. -/
def Resolves (ρ : Type) (policy : Policy) (name : String) (value : Document) (type : ValueType) :
    Prop :=
  ∃ before after : Context ρ, (typeOf policy name value).run before = (.ok type, after)

theorem Runs.resolves {policy : Policy} {name : String} {value : Document} {type : ValueType}
    {c c' : Context ρ} (h : Runs policy (.typing name value) c (.ok type) c') :
    Resolves ρ policy name value type := ⟨c, c', h.run_eq⟩

/-- The type that is found is the one that can be computed from the value. -/
theorem Resolves.typeUnder {policy : Policy} {name : String} {value : Document} {type : ValueType}
    (h : Resolves ρ policy name value type) : value.typeUnder policy.digester name = some type := by
  obtain ⟨c, c', hrun⟩ := h
  exact ((runs_iff (.typing name value) trivial).2 hrun).foreseen type rfl

/-- **A value has one type**, in whatever contexts it is typed. -/
theorem Resolves.unique {policy : Policy} {name : String} {value : Document}
    {type other : ValueType}
    (h1 : Resolves ρ policy name value type) (h2 : Resolves ρ policy name value other) :
    type = other :=
  Option.some.inj (h1.typeUnder.symm.trans h2.typeUnder)

end Discovery

end DocModel
