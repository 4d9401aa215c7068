import DocModel.Proofs.Digest
import DocModel.Proofs.Discovery.Observations

set_option autoImplicit false

/-! # Where encounters come from

An object is handed to a class because it is a root object, or because a member of an object met
before holds it, possibly inside of arrays: `Runs.traced`. Its class has an id that is derived from
the name of the member, and a member that holds objects is of type string or of a class. -/

namespace DocModel

variable {ρ : Type}

/-! ## Values that hold objects -/

/-- Under this name the value is an object of the class of the id, or an item of it holds one under
the digest of the name. -/
inductive Document.Holds (digester : Digester) (id : String) : String → Document → Prop
  | object {name : String} {members : Members} :
      digester name = .ok id → Holds digester id name (.object members)
  | item {name element : String} {items : List Document} {item : Document} :
      digester name = .ok element → item ∈ items → Holds digester id element item →
      Holds digester id name (.array items)

namespace Document

variable {digester : Digester} {id name : String} {value : Document} {type : ValueType}

theorem Holds.derives (h : value.Holds digester id name) : digester.Derives name id := by
  induction h with
  | object hdigest => exact .once hdigest
  | item hdigest _ _ ih => exact .again hdigest ih

/-- An array has the type of all of its items, or it is a string. -/
theorem eq_string_or_of_typeUnderRest {general : ValueType} {items : List Document}
    (h : typeUnderRest digester name general items = some type) :
    type = .string ∨ type = general ∧ ∀ item ∈ items, item.typeUnder digester name = some general := by
  rcases typeUnderRest_eq_some h with hsame | ⟨hstring, -⟩
  · exact Or.inr hsame
  · exact Or.inl hstring

/-- A value that holds objects has the type of a class, or it is a string. -/
theorem Holds.typeUnder (h : value.Holds digester id name)
    (htype : value.typeUnder digester name = some type) :
    type = .string ∨ ∃ target, type = .instanceOf target := by
  induction h generalizing type with
  | @object name _ hdigest =>
    rw [Document.typeUnder, hdigest] at htype
    exact Or.inr ⟨id, (Option.some.inj htype).symm⟩
  | @item name element items item hdigest hitem hholds ih =>
    cases items with
    | nil => exact absurd hitem List.not_mem_nil
    | cons first rest =>
      rw [Document.typeUnder] at htype
      simp only [hdigest] at htype
      cases hfirst : first.typeUnder digester element with
      | none => simp only [hfirst, reduceCtorEq] at htype
      | some general =>
        simp only [hfirst] at htype
        rcases eq_string_or_of_typeUnderRest htype with hstring | ⟨rfl, hall⟩
        · exact Or.inl hstring
        · -- all items have the type of the array, the one that holds objects too
          rcases List.mem_cons.1 hitem with rfl | hrest
          · exact ih hfirst
          · exact ih (hall item hrest)

/-- A value that has the type of a class holds objects of the class. -/
theorem holds_of_typeUnder : ∀ (value : Document) (name : String),
    value.typeUnder digester name = some (.instanceOf id) → value.Holds digester id name
  | .null, _, h | .bool _, _, h | .number _, _, h | .string _, _, h | .array [], _, h => by
    simp only [typeUnder, ValueType.string, Option.some.injEq, reduceCtorEq] at h
  | .array (first :: rest), name, h => by
    rw [typeUnder] at h
    cases hdigest : digester name with
    | error e => simp only [hdigest, reduceCtorEq] at h
    | ok element =>
      simp only [hdigest] at h
      cases hfirst : first.typeUnder digester element with
      | none => simp only [hfirst, reduceCtorEq] at h
      | some general =>
        simp only [hfirst] at h
        rcases eq_string_or_of_typeUnderRest h with hstring | ⟨rfl, -⟩
        · simp only [ValueType.string, reduceCtorEq] at hstring
        · exact .item hdigest List.mem_cons_self (holds_of_typeUnder first element hfirst)
  | .object members, name, h => by
    rw [typeUnder] at h
    cases hdigest : digester name with
    | error e => simp [hdigest, Except.toOption] at h
    | ok entered =>
      rw [hdigest] at h
      obtain rfl : entered = id := ValueType.instanceOf.inj (Option.some.inj h)
      exact .object hdigest

end Document

/-! ## Traces of encounters -/

/-- The id is one that a member of an object in the log holds objects of. -/
def Descends (digester : Digester) (log : List Encounter) (id : String) : Prop :=
  ∃ parent ∈ log, ∃ name value, (name, value) ∈ parent.object ∧ value.Holds digester id name

theorem Descends.mono {digester : Digester} {log more : List Encounter} {id : String}
    (h : Descends digester log id) (hmore : ∀ encounter ∈ log, encounter ∈ more) :
    Descends digester more id := by
  obtain ⟨parent, hparent, hholds⟩ := h
  exact ⟨parent, hmore parent hparent, hholds⟩

/-- Every object in the log was handed to the root class, or an object met before holds it. -/
def Traced (digester : Digester) (root : String) : List Encounter → Prop
  | [] => True
  | encounter :: earlier =>
    (encounter.id = root ∨ Descends digester earlier encounter.id) ∧ Traced digester root earlier

namespace Discovery

/-- The objects that a task will meet are root objects, or they descend from the log. -/
def Task.Traced (digester : Digester) (root : String) (log : List Encounter) : Task → Prop
  | .typing name value => ∀ id, value.Holds digester id name → Descends digester log id
  | .typingRest name _ items =>
    ∀ item ∈ items, ∀ id, item.Holds digester id name → Descends digester log id
  | .entering id _ => id = root ∨ Descends digester log id
  | .folding id _ members => ∀ name value, (name, value) ∈ members → Observed log id name value
  | .member id _ name value | .adding id name value _ => Observed log id name value
  | .roots id _ => id = root

/-- A member that was observed is there for what it holds. -/
theorem descends_of_observed {digester : Digester} {log : List Encounter} {id name : String}
    {value : Document} (h : Observed log id name value) {held : String}
    (hholds : value.Holds digester held name) : Descends digester log held := by
  obtain ⟨encounter, hencounter, -, hmember⟩ := h
  exact ⟨encounter, hencounter, name, value, hmember, hholds⟩

/-- **No object comes from nowhere**, also when a task fails. -/
theorem Runs.traced {policy : Policy} {task : Task} {c c' : Context ρ}
    {outcome : Except Error task.Result} (h : Runs policy task c outcome c') {root : String}
    (htask : task.Traced policy.digester root c.encounters)
    (hlog : DocModel.Traced policy.digester root c.encounters) :
    DocModel.Traced policy.digester root c'.encounters := by
  induction h with
  | stop | leaf | restNil | foldNil | counted | rootNil => exact hlog
  | arrayFails _ _ hdigest _ ih =>
    refine ih (fun id hholds => ?_) hlog
    exact htask id (.item hdigest List.mem_cons_self hholds)
  | array _ _ hdigest hfirst _ ih1 ih2 =>
    have htraced := ih1 (fun id hholds => htask id (.item hdigest List.mem_cons_self hholds)) hlog
    refine ih2 (fun item hitem id hholds => ?_) htraced
    exact (htask id (.item hdigest (List.mem_cons_of_mem _ hitem) hholds)).mono
      hfirst.encounters_subset
  | object _ hdigest _ _ ih => exact ih (Or.inr (htask _ (.object hdigest))) hlog
  | restFails _ ih | restDiffers _ _ ih => exact ih (htask _ List.mem_cons_self) hlog
  | restAgrees hitem _ ih1 ih2 =>
    have htraced := ih1 (htask _ List.mem_cons_self) hlog
    refine ih2 (fun other hother id hholds => ?_) htraced
    exact (htask other (List.mem_cons_of_mem _ hother) id hholds).mono hitem.encounters_subset
  | @enter id object c _ _ _ _ ih =>
    -- the object is in the log from here on, and its members are observations
    refine ih (fun name value hmember => ?_) ⟨htask, hlog⟩
    exact ⟨⟨id, object⟩, List.mem_cons_self, rfl, hmember⟩
  | foldFails _ ih => exact ih (htask _ _ List.mem_cons_self) hlog
  | foldCons hmember _ ih1 ih2 =>
    have htraced := ih1 (htask _ _ List.mem_cons_self) hlog
    refine ih2 (fun name value hin => ?_) htraced
    exact (htask name value (List.mem_cons_of_mem _ hin)).mono hmember.encounters_subset
  | retypeFails _ _ _ ih | retyped _ _ _ ih | addFails _ _ _ ih | addKnown _ _ _ _ ih
  | addNew _ _ _ _ ih =>
    exact ih (fun _ hholds => descends_of_observed htask hholds) hlog
  | absent _ _ _ ih => exact ih htask hlog
  | rootFails _ ih => exact ih (Or.inl htask) hlog
  | rootCons _ _ ih1 ih2 => exact ih2 htask (ih1 (Or.inl htask) hlog)

end Discovery

end DocModel
