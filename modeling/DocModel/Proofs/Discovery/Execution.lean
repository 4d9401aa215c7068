import DocModel.Proofs.Discovery.Rules

set_option autoImplicit false

/-! # The functions of discovery follow the rules

Every task has a derivation, and the function of a task does what its derivation says. Since the
functions compute one result, the two together say that the functions and the rules agree, failures
included: `runs_iff`. The look-ups that the functions make after typing a value never fail, because
typing loses nothing. -/

namespace DocModel.Discovery

variable {ρ α β : Type}

/-! ## Running single steps -/

theorem run_bind_ok {step : Discovery ρ α} {next : α → Discovery ρ β} {c c' : Context ρ} {value : α}
    (h : step.run c = (.ok value, c')) : (step >>= next).run c = (next value).run c' := by
  rw [run_bind, h]

theorem run_bind_error {step : Discovery ρ α} {next : α → Discovery ρ β} {c c' : Context ρ}
    {e : Error} (h : step.run c = (.error e, c')) : (step >>= next).run c = (.error e, c') := by
  rw [run_bind, h]

theorem run_discard_ok {step : Discovery ρ α} {c c' : Context ρ} {value : α}
    (h : step.run c = (.ok value, c')) : (discard step).run c = (.ok (), c') :=
  run_bind_ok h

/-- A result that is replaced in the end. -/
theorem run_bind_pure {step : Discovery ρ α} {c c' : Context ρ} {outcome : Except Error α}
    {value : β} (h : step.run c = (outcome, c')) :
    (step >>= fun _ => pure value).run c = (outcome.map fun _ => value, c') := by
  rw [run_bind, h]
  cases outcome <;> rfl

theorem run_ofExcept_error {outcome : Except Error α} {e : Error} (h : outcome = .error e)
    (c : Context ρ) : (ofExcept outcome).run c = (.error e, c) := by
  rw [h]
  rfl

theorem run_ofExcept_ok {outcome : Except Error α} {value : α} (h : outcome = .ok value)
    (c : Context ρ) : (ofExcept outcome).run c = (.ok value, c) := by
  rw [h]
  rfl

theorem run_updateField (id name : String) (f : Model.Field ρ → Model.Field ρ) (c : Context ρ) :
    (updateField id name f).run c = (.ok (), c.modifyField id name f) := rfl

theorem run_classOf {id : String} {cls : Model.Class ρ} {c : Context ρ}
    (h : c.registry.get? id = some cls) : (classOf id).run c = (.ok cls, c) := by
  simp only [run, classOf, h]

theorem run_fieldOf {id name : String} {field : Model.Field ρ} {c : Context ρ}
    (h : c.registry.field? id name = some field) : (fieldOf id name).run c = (.ok field, c) := by
  obtain ⟨cls, hcls, hfield⟩ := Option.bind_eq_some_iff.1 h
  rw [fieldOf, run_bind_ok (run_classOf hcls)]
  simp only [hfield, run_pure]

theorem run_nested {policy : Policy} {step : Discovery ρ α} {c c' : Context ρ}
    {outcome : Except Error α} (hdepth : policy.Admits (c.depth + 1))
    (h : step.run c.inside = (outcome, c')) :
    (nested policy.maxDepth step).run c = (outcome, c'.outside) := by
  have hstep : step { c with depth := c.depth + 1 } = (outcome, c') := h
  unfold run nested
  cases hmax : policy.maxDepth with
  | none => simp only [hstep, Context.outside]
  | some limit =>
    have hle : ¬ c.depth + 1 > limit := Nat.not_lt.2 (hdepth limit hmax)
    simp only [hle, ↓reduceIte, hstep, Context.outside]

theorem run_nested_tooDeep {policy : Policy} {step : Discovery ρ α} {c : Context ρ} {limit : Nat}
    (hmax : policy.maxDepth = some limit) (hdepth : limit < c.depth + 1) :
    (nested policy.maxDepth step).run c = (.error (.tooDeep (c.depth + 1) limit), c) := by
  unfold run nested
  simp only [hmax, gt_iff_lt, hdepth, ↓reduceIte]

/-! ## Folding one member -/

section Member

variable {id name : String} {typing : Discovery ρ ValueType} {c c₁ : Context ρ}

/-- A class that has a field is found, and it says that it has the field. -/
theorem get?_of_field? {field : Model.Field ρ} (h : c.registry.field? id name = some field) :
    ∃ cls, c.registry.get? id = some cls ∧ cls.hasField name = true := by
  obtain ⟨cls, hcls, hfield⟩ := Option.bind_eq_some_iff.1 h
  exact ⟨cls, hcls, by simp [Model.Class.hasField, hfield]⟩

/-- A registered class without a field is found, and it says that it does not have the field. -/
theorem get?_of_field?_eq_none (hid : c.registry.contains id = true)
    (h : c.registry.field? id name = none) :
    ∃ cls, c.registry.get? id = some cls ∧ cls.hasField name = false := by
  rw [Registry.contains_eq_isSome_get?, Option.isSome_iff_exists] at hid
  obtain ⟨cls, hcls⟩ := hid
  refine ⟨cls, hcls, ?_⟩
  simpa [Registry.field?, hcls, Model.Class.hasField] using h

theorem run_refineField_counted {field : Model.Field ρ}
    (hfield : c.registry.field? id name = some field) (href : field.isReference = true) :
    (refineField id name typing).run c
      = (.ok (), c.modifyField id name Model.Field.recordOccurrence) := by
  rw [refineField, run_bind_ok (run_fieldOf hfield), run_bind_ok (run_updateField ..)]
  simp only [href, ↓reduceIte, run_pure]

theorem run_refineField_fails {field : Model.Field ρ} {e : Error}
    (hfield : c.registry.field? id name = some field) (href : field.isReference = false)
    (htyping : typing.run (c.modifyField id name Model.Field.recordOccurrence) = (.error e, c₁)) :
    (refineField id name typing).run c = (.error e, c₁) := by
  rw [refineField, run_bind_ok (run_fieldOf hfield), run_bind_ok (run_updateField ..)]
  simp only [href, Bool.false_eq_true, ↓reduceIte]
  exact run_bind_error htyping

theorem run_refineField_retyped {field again : Model.Field ρ} {type : ValueType}
    (hfield : c.registry.field? id name = some field) (href : field.isReference = false)
    (htyping : typing.run (c.modifyField id name Model.Field.recordOccurrence) = (.ok type, c₁))
    (hagain : c₁.registry.field? id name = some again) :
    (refineField id name typing).run c
      = (.ok (), c₁.modifyField id name (Model.Field.unify type)) := by
  rw [refineField, run_bind_ok (run_fieldOf hfield), run_bind_ok (run_updateField ..)]
  simp only [href, Bool.false_eq_true, ↓reduceIte]
  rw [run_bind_ok htyping, run_bind_ok (run_discard_ok (run_fieldOf hagain)), run_updateField]

/-- A member of a known field is folded by refining the field, and then by marking it if the object
creates its class. -/
theorem run_foldMember_known {creating : Bool} {value : Document}
    {field again : Model.Field ρ} {f : Model.Field ρ → Model.Field ρ}
    (keeps : ∀ field, (f field).name = field.name)
    (hfield : c.registry.field? id name = some field)
    (hrefine : (refineField id name typing).run c = (.ok (), c₁.modifyField id name f))
    (hagain : c₁.registry.field? id name = some again) :
    (foldMember id creating name value typing).run c
      = (.ok (), c₁.modifyField id name fun field => (f field).requireIf creating) := by
  obtain ⟨cls, hcls, hhas⟩ := get?_of_field? hfield
  rw [foldMember, run_bind_ok (run_classOf hcls)]
  simp only [hhas, ↓reduceIte]
  rw [run_bind_ok hrefine]
  cases creating with
  | false => rfl
  | true =>
    have hafter := Context.field?_modifyField_self keeps hagain
    simp only [↓reduceIte]
    rw [run_bind_ok (run_discard_ok (run_fieldOf hafter)), run_updateField,
      Context.modifyField_modifyField _ _ _ _ _ keeps]
    rfl

theorem run_foldMember_fails {creating : Bool} {value : Document} {field : Model.Field ρ}
    {e : Error}
    (hfield : c.registry.field? id name = some field)
    (hrefine : (refineField id name typing).run c = (.error e, c₁)) :
    (foldMember id creating name value typing).run c = (.error e, c₁) := by
  obtain ⟨cls, hcls, hhas⟩ := get?_of_field? hfield
  rw [foldMember, run_bind_ok (run_classOf hcls)]
  simp only [hhas, ↓reduceIte]
  exact run_bind_error hrefine

theorem run_foldMember_absent {creating : Bool} {value : Document}
    (hid : c.registry.contains id = true) (hfield : c.registry.field? id name = none) :
    (foldMember id creating name value typing).run c
      = (createFieldTyped id name (multiplicityOf value) creating typing).run c := by
  obtain ⟨cls, hcls, hhas⟩ := get?_of_field?_eq_none hid hfield
  rw [foldMember, run_bind_ok (run_classOf hcls)]
  simp only [hhas, Bool.false_eq_true, ↓reduceIte]

variable {multiplicity : Multiplicity} {required : Bool}

theorem run_createFieldTyped_fails {e : Error}
    (hid : c.registry.contains id = true) (hfield : c.registry.field? id name = none)
    (htyping : typing.run c = (.error e, c₁)) :
    (createFieldTyped id name multiplicity required typing).run c = (.error e, c₁) := by
  obtain ⟨cls, hcls, hhas⟩ := get?_of_field?_eq_none hid hfield
  rw [createFieldTyped, run_bind_ok (run_classOf hcls)]
  simp only [hhas, Bool.false_eq_true, ↓reduceIte]
  exact run_bind_error htyping

theorem run_createFieldTyped_known {type : ValueType} {field : Model.Field ρ}
    (hid : c.registry.contains id = true) (hfield : c.registry.field? id name = none)
    (htyping : typing.run c = (.ok type, c₁)) (hknown : c₁.registry.field? id name = some field) :
    (createFieldTyped id name multiplicity required typing).run c
      = (.ok (), c₁.modifyField id name fun field =>
          (field.recordOccurrence.requireIf required).unify type) := by
  obtain ⟨cls, hcls, hhas⟩ := get?_of_field?_eq_none hid hfield
  obtain ⟨cls', hcls', hhas'⟩ := get?_of_field? hknown
  rw [createFieldTyped, run_bind_ok (run_classOf hcls)]
  simp only [hhas, Bool.false_eq_true, ↓reduceIte]
  rw [run_bind_ok htyping, run_bind_ok (run_classOf hcls')]
  simp only [hhas', ↓reduceIte]
  exact run_updateField ..

theorem run_createFieldTyped_new {type : ValueType}
    (hid : c.registry.contains id = true) (hfield : c.registry.field? id name = none)
    (htyping : typing.run c = (.ok type, c₁)) (hid' : c₁.registry.contains id = true)
    (hnew : c₁.registry.field? id name = none) :
    (createFieldTyped id name multiplicity required typing).run c
      = (.ok (), c₁.pushField id (.new name type multiplicity required)) := by
  obtain ⟨cls, hcls, hhas⟩ := get?_of_field?_eq_none hid hfield
  obtain ⟨cls', hcls', hhas'⟩ := get?_of_field?_eq_none hid' hnew
  rw [createFieldTyped, run_bind_ok (run_classOf hcls)]
  simp only [hhas, Bool.false_eq_true, ↓reduceIte]
  rw [run_bind_ok htyping, run_bind_ok (run_classOf hcls')]
  simp only [hhas', Bool.false_eq_true, ↓reduceIte]
  rfl

end Member

/-! ## Entering and typing -/

theorem run_enterClass {id : String} {object : Members} {folding : Bool → Discovery ρ Unit}
    {c c₁ : Context ρ} {outcome : Except Error Unit} (hid : id ≠ "")
    (h : (folding (!c.registry.contains id)).run (c.enter id object) = (outcome, c₁)) :
    (enterClass id object folding).run c = (outcome.map fun _ => id, c₁) := by
  have hne : id.isEmpty = false := by simpa using hid
  have hnote : (note id object : Discovery ρ Unit).run c
      = (.ok (), { c with encounters := ⟨id, object⟩ :: c.encounters }) := rfl
  have hregistry : ∀ d : Context ρ, (registry : Discovery ρ _).run d = (.ok d.registry, d) :=
    fun _ => rfl
  unfold enterClass
  simp only [hne, Bool.false_eq_true, ↓reduceIte]
  rw [run_bind_ok hnote, run_bind_ok (hregistry _)]
  cases hknown : c.registry.contains id with
  | true =>
    have hcounted : (updateClass id Model.Class.recordOccurrence).run
        { c with encounters := ⟨id, object⟩ :: c.encounters } = (.ok (), c.enter id object) := by
      simp only [Context.enter, hknown, ↓reduceIte]
      rfl
    simp only [hknown, Bool.not_true, ↓reduceIte] at h ⊢
    rw [run_bind_ok hcounted]
    exact run_bind_pure h
  | false =>
    have hcreated : (update (·.put (.new id))).run
        { c with encounters := ⟨id, object⟩ :: c.encounters } = (.ok (), c.enter id object) := by
      simp only [Context.enter, hknown, Bool.false_eq_true, ↓reduceIte]
      rfl
    simp only [hknown, Bool.not_false, Bool.false_eq_true, ↓reduceIte] at h ⊢
    rw [run_bind_ok hcreated]
    exact run_bind_pure h

theorem Stops.run_eq {policy : Policy} {task : Task} {c : Context ρ} {e : Error}
    (h : Stops policy c.depth task e) : (task.step policy).run c = (.error e, c) := by
  cases h with
  | @unnamed value =>
    cases value with
    | array items => cases items <;> (rw [Task.step, typeOf]; rfl)
    | null | bool | number | string | object => rw [Task.step, typeOf]; rfl
  | @arrayTooDeep name _ _ _ hname hmax hdepth =>
    have hne : name.isEmpty = false := by simpa using hname
    rw [Task.step, typeOf]
    simp only [hne, Bool.false_eq_true, ↓reduceIte]
    exact run_nested_tooDeep hmax hdepth
  | @arrayUndigested name _ _ _ hname hdepth hdigest =>
    have hne : name.isEmpty = false := by simpa using hname
    rw [Task.step, typeOf]
    simp only [hne, Bool.false_eq_true, ↓reduceIte]
    exact run_nested hdepth (run_bind_error (run_ofExcept_error hdigest c.inside))
  | @objectUndigested name _ _ hname hdigest =>
    have hne : name.isEmpty = false := by simpa using hname
    rw [Task.step, typeOf]
    simp only [hne, Bool.false_eq_true, ↓reduceIte]
    exact run_bind_error (run_ofExcept_error hdigest c)
  | @objectTooDeep name _ _ _ hname hdigest hmax hdepth =>
    have hne : name.isEmpty = false := by simpa using hname
    rw [Task.step, typeOf]
    simp only [hne, Bool.false_eq_true, ↓reduceIte]
    rw [run_bind_ok (run_ofExcept_ok hdigest c)]
    exact run_bind_error (run_nested_tooDeep hmax hdepth)
  | emptyId => rfl

/-- The function of a task does what the rules say. -/
theorem Runs.run_eq {policy : Policy} {task : Task} {c c' : Context ρ}
    {outcome : Except Error task.Result} (h : Runs policy task c outcome c') :
    (task.step policy).run c = (outcome, c') := by
  induction h with
  | stop h => exact h.run_eq
  | @leaf name value type c hname htype =>
    have hne : name.isEmpty = false := by simpa using hname
    cases value with
    | array items =>
      cases items with
      | nil =>
        obtain rfl : ValueType.string = type := Option.some.inj htype
        rw [Task.step, typeOf]
        simp only [hne, Bool.false_eq_true, ↓reduceIte, run_pure]
      | cons => simp [Document.leafType?] at htype
    | object => simp [Document.leafType?] at htype
    | null | bool | number | string =>
      obtain rfl := Option.some.inj htype
      rw [Task.step, typeOf]
      simp only [hne, Bool.false_eq_true, ↓reduceIte, run_pure]
  | @arrayFails name _ _ _ _ _ _ hname hdepth hdigest _ ih =>
    have hne : name.isEmpty = false := by simpa using hname
    rw [Task.step, typeOf]
    simp only [hne, Bool.false_eq_true, ↓reduceIte]
    refine run_nested hdepth ?_
    rw [run_bind_ok (run_ofExcept_ok hdigest _)]
    exact run_bind_error ih
  | @array name _ _ _ _ _ _ _ _ hname hdepth hdigest _ _ ih1 ih2 =>
    have hne : name.isEmpty = false := by simpa using hname
    rw [Task.step, typeOf]
    simp only [hne, Bool.false_eq_true, ↓reduceIte]
    refine run_nested hdepth ?_
    rw [run_bind_ok (run_ofExcept_ok hdigest _), run_bind_ok ih1]
    exact ih2
  | @object name _ _ _ _ outcome hname hdigest hdepth _ ih =>
    have hne : name.isEmpty = false := by simpa using hname
    rw [Task.step, typeOf]
    simp only [hne, Bool.false_eq_true, ↓reduceIte]
    rw [run_bind_ok (run_ofExcept_ok hdigest _)]
    have hnested := run_nested hdepth ih
    cases outcome with
    | error e => exact run_bind_error hnested
    | ok id => exact run_bind_ok hnested
  | restNil => rw [Task.step, typeOfRest]; rfl
  | restFails _ ih =>
    rw [Task.step, typeOfRest]
    exact run_bind_error ih
  | restDiffers _ hne ih =>
    rw [Task.step, typeOfRest, run_bind_ok ih]
    simp only [hne, ↓reduceIte, run_pure]
  | restAgrees _ _ ih1 ih2 =>
    rw [Task.step, typeOfRest, run_bind_ok ih1]
    simpa only [↓reduceIte] using ih2
  | enter hid _ ih => exact run_enterClass hid ih
  | foldNil => rw [Task.step, foldMembers]; rfl
  | foldFails _ ih =>
    rw [Task.step, foldMembers]
    exact run_bind_error ih
  | foldCons _ _ ih1 ih2 =>
    rw [Task.step, foldMembers, run_bind_ok ih1]
    exact ih2
  | counted hfield href =>
    exact run_foldMember_known (fun _ => rfl) hfield (run_refineField_counted hfield href) hfield
  | retypeFails hfield href _ ih =>
    exact run_foldMember_fails hfield (run_refineField_fails hfield href ih)
  | retyped hfield href htyping ih =>
    -- the function looks the field up once more, and finds it
    obtain ⟨again, hagain⟩ := htyping.field?_of_counted hfield
    exact run_foldMember_known (fun field => field.name_unify _) hfield
      (run_refineField_retyped hfield href ih hagain) hagain
  | absent hid hfield _ ih =>
    rw [Task.step, run_foldMember_absent hid hfield]
    exact ih
  | addFails hid hfield _ ih => exact run_createFieldTyped_fails hid hfield ih
  | addKnown hid hfield _ hknown ih => exact run_createFieldTyped_known hid hfield ih hknown
  | addNew hid hfield htyping hnew ih =>
    exact run_createFieldTyped_new hid hfield ih (htyping.extends.contains hid) hnew
  | rootNil => rfl
  | rootFails _ ih =>
    rw [Task.step, discoverRoots]
    exact run_bind_error (run_bind_error ih)
  | rootCons _ _ ih1 ih2 =>
    rw [Task.step, discoverRoots, run_bind_ok (run_discard_ok ih1)]
    exact ih2

/-! ## Every task has a derivation -/

section Existence

variable {policy : Policy} {id name : String} {value : Document} {c : Context ρ}

theorem exists_runs_adding (required : Bool) (hid : c.registry.contains id = true)
    (hfield : c.registry.field? id name = none)
    (htyping : ∃ outcome c', Runs policy (.typing name value) c outcome c') :
    ∃ outcome c', Runs policy (.adding id name value required) c outcome c' := by
  obtain ⟨outcome, c₁, htyping⟩ := htyping
  cases outcome with
  | error e => exact ⟨_, _, .addFails hid hfield htyping⟩
  | ok type =>
    cases hafter : c₁.registry.field? id name with
    | none => exact ⟨_, _, .addNew hid hfield htyping hafter⟩
    | some field => exact ⟨_, _, .addKnown hid hfield htyping hafter⟩

theorem exists_runs_member (creating : Bool) (hid : c.registry.contains id = true)
    (htyping : ∀ d : Context ρ, ∃ outcome c', Runs policy (.typing name value) d outcome c') :
    ∃ outcome c', Runs policy (.member id creating name value) c outcome c' := by
  cases hfield : c.registry.field? id name with
  | none =>
    obtain ⟨outcome, c₁, hadding⟩ := exists_runs_adding creating hid hfield (htyping c)
    exact ⟨outcome, c₁, .absent hid hfield hadding⟩
  | some field =>
    cases href : field.isReference with
    | true => exact ⟨_, _, .counted hfield href⟩
    | false =>
      obtain ⟨outcome, c₁, hretyped⟩ := htyping (c.modifyField id name .recordOccurrence)
      cases outcome with
      | error e => exact ⟨_, _, .retypeFails hfield href hretyped⟩
      | ok type => exact ⟨_, _, .retyped hfield href hretyped⟩

theorem exists_runs_entering (object : Members)
    (hfolding : ∀ (creating : Bool) (d : Context ρ), d.registry.contains id = true →
      ∃ outcome c', Runs policy (.folding id creating object) d outcome c') :
    ∃ outcome c', Runs policy (.entering id object) c outcome c' := by
  by_cases hid : id = ""
  · subst hid
    exact ⟨_, _, .stop .emptyId⟩
  · obtain ⟨outcome, c₁, hfolded⟩ := hfolding (!c.registry.contains id) (c.enter id object)
      (c.contains_enter id object)
    exact ⟨_, _, .enter hid hfolded⟩

/-- The depth is too much for a limit, or it is admitted. -/
theorem admits_or_exceeds (policy : Policy) (depth : Nat) :
    policy.Admits depth ∨ ∃ limit, policy.maxDepth = some limit ∧ limit < depth := by
  cases hmax : policy.maxDepth with
  | none => exact Or.inl fun limit hlimit => by simp [hmax] at hlimit
  | some limit =>
    rcases Nat.lt_or_ge limit depth with hlt | hge
    · exact Or.inr ⟨limit, rfl, hlt⟩
    · refine Or.inl fun other hother => ?_
      rw [hmax, Option.some.injEq] at hother
      exact hother ▸ hge

end Existence

mutual

theorem exists_runs_typing (policy : Policy) (name : String) (value : Document) (c : Context ρ) :
    ∃ outcome c', Runs policy (.typing name value) c outcome c' := by
  by_cases hname : name = ""
  · subst hname
    exact ⟨_, _, .stop .unnamed⟩
  match value with
  | .null | .bool _ | .number _ | .string _ | .array [] => exact ⟨_, _, .leaf hname rfl⟩
  | .array (first :: rest) =>
    rcases admits_or_exceeds policy (c.depth + 1) with hdepth | ⟨limit, hmax, hdepth⟩
    · cases hdigest : policy.digester name with
      | error e => exact ⟨_, _, .stop (.arrayUndigested hname hdepth hdigest)⟩
      | ok element =>
        obtain ⟨outcome, c₁, hfirst⟩ := exists_runs_typing policy element first c.inside
        cases outcome with
        | error e => exact ⟨_, _, .arrayFails hname hdepth hdigest hfirst⟩
        | ok general =>
          obtain ⟨outcome, c₂, hrest⟩ := exists_runs_typingRest policy element general rest c₁
          exact ⟨_, _, .array hname hdepth hdigest hfirst hrest⟩
    · exact ⟨_, _, .stop (.arrayTooDeep hname hmax hdepth)⟩
  | .object object =>
    cases hdigest : policy.digester name with
    | error e => exact ⟨_, _, .stop (.objectUndigested hname hdigest)⟩
    | ok id =>
      rcases admits_or_exceeds policy (c.depth + 1) with hdepth | ⟨limit, hmax, hdepth⟩
      · obtain ⟨outcome, c₁, hentered⟩ := exists_runs_entering (c := c.inside) object
          fun creating d => exists_runs_folding policy id creating object d
        exact ⟨_, _, .object hname hdigest hdepth hentered⟩
      · exact ⟨_, _, .stop (.objectTooDeep hname hdigest hmax hdepth)⟩

theorem exists_runs_typingRest (policy : Policy) (name : String) (general : ValueType)
    (items : List Document) (c : Context ρ) :
    ∃ outcome c', Runs policy (.typingRest name general items) c outcome c' := by
  match items with
  | [] => exact ⟨_, _, .restNil⟩
  | item :: rest =>
    obtain ⟨outcome, c₁, hitem⟩ := exists_runs_typing policy name item c
    cases outcome with
    | error e => exact ⟨_, _, .restFails hitem⟩
    | ok observed =>
      by_cases heq : observed = general
      · subst heq
        obtain ⟨outcome, c₂, hrest⟩ := exists_runs_typingRest policy name observed rest c₁
        exact ⟨_, _, .restAgrees hitem hrest⟩
      · exact ⟨_, _, .restDiffers hitem heq⟩

theorem exists_runs_folding (policy : Policy) (id : String) (creating : Bool)
    (members : List (String × Document)) (c : Context ρ) (hid : c.registry.contains id = true) :
    ∃ outcome c', Runs policy (.folding id creating members) c outcome c' := by
  match members with
  | [] => exact ⟨_, _, .foldNil⟩
  | (name, value) :: rest =>
    obtain ⟨outcome, c₁, hmember⟩ := exists_runs_member creating hid
      fun d => exists_runs_typing policy name value d
    cases outcome with
    | error e => exact ⟨_, _, .foldFails hmember⟩
    | ok _ =>
      obtain ⟨outcome, c₂, hrest⟩ := exists_runs_folding policy id creating rest c₁
        (hmember.extends.contains hid)
      exact ⟨_, _, .foldCons hmember hrest⟩

end

theorem exists_runs_roots (policy : Policy) (id : String) (objects : List Members)
    (c : Context ρ) : ∃ outcome c', Runs policy (.roots id objects) c outcome c' := by
  induction objects generalizing c with
  | nil => exact ⟨_, _, .rootNil⟩
  | cons object rest ih =>
    obtain ⟨outcome, c₁, hentered⟩ := exists_runs_entering (c := c) object
      fun creating d => exists_runs_folding policy id creating object d
    cases outcome with
    | error e => exact ⟨_, _, .rootFails hentered⟩
    | ok _ =>
      obtain ⟨outcome, c₂, hrest⟩ := ih c₁
      exact ⟨_, _, .rootCons hentered hrest⟩

/-- What a task relies on: the class at hand is registered, and a field that is added is new. -/
def Task.Ready (c : Context ρ) : Task → Prop
  | .typing .. | .typingRest .. | .entering .. | .roots .. => True
  | .folding id .. | .member id .. => c.registry.contains id = true
  | .adding id name .. => c.registry.contains id = true ∧ c.registry.field? id name = none

theorem exists_runs (policy : Policy) {task : Task} {c : Context ρ} (h : task.Ready c) :
    ∃ outcome c', Runs policy task c outcome c' := by
  cases task with
  | typing name value => exact exists_runs_typing policy name value c
  | typingRest name general items => exact exists_runs_typingRest policy name general items c
  | entering id object =>
    exact exists_runs_entering object fun creating d =>
      exists_runs_folding policy id creating object d
  | folding id creating members => exact exists_runs_folding policy id creating members c h
  | member id creating name value =>
    exact exists_runs_member creating h fun d => exists_runs_typing policy name value d
  | adding id name value required =>
    exact exists_runs_adding required h.1 h.2 (exists_runs_typing policy name value c)
  | roots id objects => exact exists_runs_roots policy id objects c

/-- **The functions and the rules agree**, failures included. -/
theorem runs_iff {policy : Policy} (task : Task) {c c' : Context ρ}
    {outcome : Except Error task.Result} (h : task.Ready c) :
    Runs policy task c outcome c' ↔ (task.step policy).run c = (outcome, c') := by
  constructor
  · exact Runs.run_eq
  · intro hrun
    obtain ⟨other, d, hruns⟩ := exists_runs policy h
    obtain ⟨rfl, rfl⟩ := Prod.mk.inj (hruns.run_eq.symm.trans hrun)
    exact hruns

/-- A task that is run has a derivation. -/
theorem runs_run (policy : Policy) {task : Task} {c : Context ρ} (h : task.Ready c) :
    Runs policy task c ((task.step policy).run c).1 ((task.step policy).run c).2 :=
  (runs_iff task h).2 rfl

section CreateField

variable {id name : String} {value : Document} {required : Bool} {c : Context ρ}

/-- A class that is not there gets no field. -/
theorem run_createField_of_not_contains (policy : Policy) (h : c.registry.contains id = false) :
    (createField policy id name value required).run c = (.error (.classNotRegistered id), c) := by
  have hcls : c.registry.get? id = none := by
    simpa [Registry.contains_eq_isSome_get?] using h
  have hmissing : (classOf id).run c = (.error (.classNotRegistered id), c) := by
    simp only [run, classOf, hcls]
  exact run_bind_error hmissing

/-- A field that is there already is not added. -/
theorem run_createField_of_field? (policy : Policy) {field : Model.Field ρ}
    (h : c.registry.field? id name = some field) :
    (createField policy id name value required).run c = (.error (.fieldExists name id), c) := by
  obtain ⟨cls, hcls, hhas⟩ := get?_of_field? h
  rw [createField, createFieldTyped, run_bind_ok (run_classOf hcls)]
  simp only [hhas, ↓reduceIte]
  rfl

theorem contains_eq_false_or_of_not_ready (h : ¬ (Task.adding id name value required).Ready c) :
    c.registry.contains id = false ∨ ∃ field, c.registry.field? id name = some field := by
  cases hid : c.registry.contains id with
  | false => exact Or.inl rfl
  | true =>
    refine Or.inr (Option.ne_none_iff_exists'.1 fun hfield => h ⟨hid, hfield⟩)

/-- A call that is not ready does not look at the value, so the policy does not matter. -/
theorem exists_run_createField_eq_error (h : ¬ (Task.adding id name value required).Ready c) :
    ∃ e, (e = .classNotRegistered id ∨ e = .fieldExists name id)
      ∧ ∀ policy, (createField policy id name value required).run c = (.error e, c) := by
  rcases contains_eq_false_or_of_not_ready h with hid | ⟨field, hfield⟩
  · exact ⟨_, Or.inl rfl, fun policy => run_createField_of_not_contains policy hid⟩
  · exact ⟨_, Or.inr rfl, fun policy => run_createField_of_field? policy hfield⟩

theorem run_createField_of_not_ready {policy : Policy}
    (h : ¬ (Task.adding id name value required).Ready c) :
    ((createField policy id name value required).run c).2 = c := by
  obtain ⟨e, -, hrun⟩ := exists_run_createField_eq_error h
  rw [hrun policy]

end CreateField

end DocModel.Discovery
