import DocModel.Proofs.Discovery.Counting

set_option autoImplicit false

/-! # Counts are tallies of encounters

The balance counts a name as often as it stands in an object. Documents that were read have distinct
names, and every object that is met in a traversal is a part of them, so there the counts of a
registry grow by the number of objects of a class and by the number of those that have a member:
`Runs.exists_log`. -/

namespace DocModel

variable {ρ : Type}

/-! ## Tallies of a log -/

/-- How many objects with a member of this name were handed to the class of this id. -/
def timesPresent (log : List Encounter) (id name : String) : Nat :=
  log.countP fun encounter => encounter.id = id ∧ name ∈ Assoc.keys encounter.object

theorem timesEntered_append (more log : List Encounter) (id : String) :
    timesEntered (more ++ log) id = timesEntered more id + timesEntered log id := by
  simp [timesEntered]

theorem timesObserved_append (more log : List Encounter) (id name : String) :
    timesObserved (more ++ log) id name
      = timesObserved more id name + timesObserved log id name := by
  simp [timesObserved]

theorem observations_of_nodup {object : Members} (h : (Assoc.keys object).Nodup)
    (id name other : String) :
    observations id name other object
      = if other = id ∧ name ∈ Assoc.keys object then 1 else 0 := by
  by_cases hid : other = id
  · by_cases hname : name ∈ Assoc.keys object
    · simp [observations, hid, hname, h.count]
    · simp [observations, hid, hname, List.count_eq_zero]
  · simp [observations, hid]

/-- Where names are distinct no object counts twice. -/
theorem timesObserved_eq_timesPresent {log : List Encounter}
    (h : ∀ encounter ∈ log, (Assoc.keys encounter.object).Nodup) (id name : String) :
    timesObserved log id name = timesPresent log id name := by
  induction log with
  | nil => rfl
  | cons encounter rest ih =>
    have hrest := ih fun other hother => h other (List.mem_cons_of_mem _ hother)
    have hfirst := observations_of_nodup (h encounter List.mem_cons_self) id name encounter.id
    simp only [timesObserved, timesPresent, List.map_cons, List.sum_cons, List.countP_cons,
      decide_eq_true_eq] at hrest ⊢
    rw [hrest, hfirst, Nat.add_comm]

theorem timesPresent_le_timesEntered (log : List Encounter) (id name : String) :
    timesPresent log id name ≤ timesEntered log id := by
  refine List.countP_mono_left fun encounter _ h => ?_
  simp only [decide_eq_true_eq] at h ⊢
  exact h.1

theorem timesEntered_pos {log : List Encounter} {id : String} :
    0 < timesEntered log id ↔ ∃ encounter ∈ log, encounter.id = id := by
  simp [timesEntered, List.countP_pos_iff]

theorem timesPresent_pos {log : List Encounter} {id name : String} :
    0 < timesPresent log id name
      ↔ ∃ encounter ∈ log, encounter.id = id ∧ name ∈ Assoc.keys encounter.object := by
  simp [timesPresent, List.countP_pos_iff]

/-! ## Objects of a traversal -/

namespace Discovery

/-- Names are distinct in every object of the documents at hand. -/
def Task.Distinct : Task → Prop
  | .typing _ value | .member _ _ _ value | .adding _ _ value _ => value.Distinct
  | .typingRest _ _ items => Document.DistinctItems items
  | .entering _ object => (Document.object object).Distinct
  | .folding _ _ members => Document.DistinctMembers members
  | .roots _ objects => ∀ object ∈ objects, (Document.object object).Distinct

/-- The second context has met the objects of the first one, and after them objects with distinct
names only. -/
def Meets (c c' : Context ρ) : Prop :=
  ∃ log, c'.encounters = log ++ c.encounters
    ∧ ∀ encounter ∈ log, (Assoc.keys encounter.object).Nodup

namespace Meets

theorem refl (c : Context ρ) : Meets c c := ⟨[], rfl, nofun⟩

theorem trans {c c₁ c₂ : Context ρ} (h1 : Meets c c₁) (h2 : Meets c₁ c₂) : Meets c c₂ := by
  obtain ⟨log, hlog, hnodup⟩ := h1
  obtain ⟨more, hmore, hnodup'⟩ := h2
  refine ⟨more ++ log, by rw [hmore, hlog, List.append_assoc], ?_⟩
  intro encounter hencounter
  rcases List.mem_append.1 hencounter with hin | hin
  · exact hnodup' encounter hin
  · exact hnodup encounter hin

theorem enter (c : Context ρ) (id : String) {object : Members} (h : (Assoc.keys object).Nodup) :
    Meets c (c.enter id object) := by
  refine ⟨[⟨id, object⟩], rfl, ?_⟩
  intro encounter hencounter
  rw [List.mem_singleton.1 hencounter]
  exact h

end Meets

theorem Runs.meets {policy : Policy} {task : Task} {c c' : Context ρ}
    {outcome : Except Error task.Result} (h : Runs policy task c outcome c')
    (hdistinct : task.Distinct) : Meets c c' := by
  induction h with
  | stop | leaf | restNil | foldNil | counted | rootNil => exact Meets.refl _
  | arrayFails _ _ _ _ ih => exact ih hdistinct.1
  | object _ _ _ _ ih => exact ih hdistinct
  | array _ _ _ _ _ ih1 ih2 => exact Meets.trans (ih1 hdistinct.1) (ih2 hdistinct.2)
  | restFails _ ih | restDiffers _ _ ih | foldFails _ ih => exact ih hdistinct.1
  | restAgrees _ _ ih1 ih2 | foldCons _ _ ih1 ih2 => exact (ih1 hdistinct.1).trans (ih2 hdistinct.2)
  | enter _ _ ih => exact (Meets.enter _ _ hdistinct.1).trans (ih hdistinct.2)
  | retypeFails _ _ _ ih | retyped _ _ _ ih | absent _ _ _ ih | addFails _ _ _ ih
  | addKnown _ _ _ _ ih | addNew _ _ _ _ ih => exact ih hdistinct
  | rootFails _ ih => exact ih (hdistinct _ List.mem_cons_self)
  | rootCons _ _ ih1 ih2 =>
    have hrest := fun object hobject => hdistinct object (List.mem_cons_of_mem _ hobject)
    exact (ih1 (hdistinct _ List.mem_cons_self)).trans (ih2 hrest)

/-- The objects that were met are the latest ones of the context. -/
theorem Runs.exists_log {policy : Policy} {task : Task} {c c' : Context ρ}
    {outcome : Except Error task.Result} (h : Runs policy task c outcome c')
    (hdistinct : task.Distinct) :
    ∃ log, c'.encounters = log ++ c.encounters
      ∧ (∀ id, c'.registry.classCount id = c.registry.classCount id + timesEntered log id)
      ∧ (∀ id name, c'.registry.fieldCount id name
          ≤ c.registry.fieldCount id name + timesPresent log id name + task.owed id name)
      ∧ (outcome.isOk = true → ∀ id name, c'.registry.fieldCount id name
          = c.registry.fieldCount id name + timesPresent log id name + task.owed id name) := by
  obtain ⟨log, hlog, hnodup⟩ := h.meets hdistinct
  have hobserved : ∀ id name, timesObserved c'.encounters id name
      = timesPresent log id name + timesObserved c.encounters id name := by
    intro id name
    rw [hlog, timesObserved_append, timesObserved_eq_timesPresent hnodup]
  refine ⟨log, hlog, fun id => ?_, fun id name => ?_, fun hok id name => ?_⟩
  · have hcount := h.classCount_add id
    rw [hlog, timesEntered_append] at hcount
    omega
  · have hle := (h.balance id name).le
    rw [hobserved] at hle
    omega
  · have heq := (h.balance id name).eq hok
    rw [hobserved] at heq
    omega

end Discovery

end DocModel
