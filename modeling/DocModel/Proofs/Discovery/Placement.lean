import DocModel.Proofs.Digest
import DocModel.Proofs.Discovery.Rules

set_option autoImplicit false

/-! # Where objects stand

An object that is handed to a class is one of the root objects, or it stands in the value of a member,
possibly inside of arrays, and then its place decides its class: the id is the digest of the name of
the member, taken once for each array and once more. So it is for all objects that a task meets, also
when it fails: `Runs.placed`. -/

namespace DocModel

variable {ρ : Type}

/-! ## Places -/

/-- The object stands in the value, in exactly so many arrays and in nothing else. -/
inductive Document.Stands (object : Members) : Nat → Document → Prop
  | here : Stands object 0 (.object object)
  | item {depth : Nat} {items : List Document} {item : Document} :
      item ∈ items → Stands object depth item → Stands object (depth + 1) (.array items)

/-- The object of the encounter stands in the value, and its class is the one of its place under the
name. -/
def Encounter.In (digester : Digester) (name : String) (value : Document) (encounter : Encounter) :
    Prop :=
  ∃ depth, value.Stands encounter.object depth
    ∧ digester.repeated (depth + 1) name = .ok encounter.id

/-- The object of the encounter stands in a member of an object that was met. -/
def Encounter.Nested (digester : Digester) (log : List Encounter) (encounter : Encounter) : Prop :=
  ∃ outer ∈ log, ∃ member ∈ outer.object, encounter.In digester member.1 member.2

namespace Encounter

variable {digester : Digester} {name : String} {encounter : Encounter}

theorem In.object {id : String} {object : Members} (hdigest : digester name = .ok id) :
    (Encounter.mk id object).In digester name (.object object) :=
  ⟨0, .here, by rwa [Digester.repeated_one]⟩

theorem In.item {element : String} {items : List Document} {item : Document}
    (hdigest : digester name = .ok element) (hitem : item ∈ items)
    (h : encounter.In digester element item) : encounter.In digester name (.array items) := by
  obtain ⟨depth, hstands, hid⟩ := h
  exact ⟨depth + 1, .item hitem hstands, by rwa [Digester.repeated_succ hdigest]⟩

theorem Nested.mono {log more : List Encounter} (h : encounter.Nested digester log)
    (hmore : log ⊆ more) : encounter.Nested digester more := by
  obtain ⟨outer, houter, hin⟩ := h
  exact ⟨outer, hmore houter, hin⟩

end Encounter

namespace Discovery

/-- The encounter is with one of the objects that the task was given, in its place. -/
def Task.Places (digester : Digester) (encounter : Encounter) : Task → Prop
  | .typing name value | .member _ _ name value | .adding _ name value _ =>
    encounter.In digester name value
  | .typingRest name _ items => ∃ item ∈ items, encounter.In digester name item
  | .entering id object => encounter = ⟨id, object⟩
  | .folding _ _ members => ∃ member ∈ members, encounter.In digester member.1 member.2
  | .roots id objects => encounter.id = id ∧ encounter.object ∈ objects

/-- Every encounter of the log is with an object of the task, in its place, or with a nested one. -/
def Task.Accounts (digester : Digester) (log : List Encounter) (task : Task) : Prop :=
  ∀ encounter ∈ log, task.Places digester encounter ∨ encounter.Nested digester log

namespace Task.Accounts

variable {digester : Digester} {part rest task : Task} {log later : List Encounter}

theorem nil (digester : Digester) (task : Task) : task.Accounts digester [] := nofun

theorem imp (h : part.Accounts digester log)
    (hpart : ∀ encounter, part.Places digester encounter → task.Places digester encounter) :
    task.Accounts digester log :=
  fun encounter hmet => (h encounter hmet).imp_left (hpart encounter)

/-- Two parts of a task one after the other. The encounters of the second part are the later ones. -/
theorem append (h1 : part.Accounts digester log) (h2 : rest.Accounts digester later)
    (hpart : ∀ encounter, part.Places digester encounter → task.Places digester encounter)
    (hrest : ∀ encounter, rest.Places digester encounter → task.Places digester encounter) :
    task.Accounts digester (later ++ log) := by
  intro encounter hmet
  rcases List.mem_append.1 hmet with hlater | hearlier
  · exact (h2 encounter hlater).imp (hrest encounter)
      fun hnested => hnested.mono (List.subset_append_left later log)
  · exact (h1 encounter hearlier).imp (hpart encounter)
      fun hnested => hnested.mono (List.subset_append_right later log)

/-- The members of an object are nested in it. -/
theorem enter {id : String} {creating : Bool} {object : Members}
    (h : (Task.folding id creating object).Accounts digester log) :
    (Task.entering id object).Accounts digester (log ++ [⟨id, object⟩]) := by
  intro encounter hmet
  rcases List.mem_append.1 hmet with hinner | hobject
  · refine Or.inr ?_
    rcases h encounter hinner with hmember | hnested
    · exact ⟨⟨id, object⟩, List.mem_append_right log List.mem_cons_self, hmember⟩
    · exact hnested.mono (List.subset_append_left log _)
  · exact Or.inl (List.mem_singleton.1 hobject)

end Task.Accounts

/-- **Every object has been handed to the class of its place**, also when a task fails. -/
theorem Runs.placed {policy : Policy} {task : Task} {c c' : Context ρ}
    {outcome : Except Error task.Result} (h : Runs policy task c outcome c') :
    ∃ log, c'.encounters = log ++ c.encounters ∧ task.Accounts policy.digester log := by
  induction h with
  | stop | leaf | restNil | foldNil | counted | rootNil => exact ⟨[], rfl, .nil _ _⟩
  | arrayFails _ _ hdigest _ ih =>
    obtain ⟨log, hlog, haccounts⟩ := ih
    exact ⟨log, hlog, haccounts.imp fun _ hin => hin.item hdigest List.mem_cons_self⟩
  | array _ _ hdigest _ _ ih1 ih2 =>
    obtain ⟨log, hlog, hfirst⟩ := ih1
    obtain ⟨later, hlater, hrest⟩ := ih2
    refine ⟨later ++ log, ?_, hfirst.append hrest
      (fun _ hin => hin.item hdigest List.mem_cons_self)
      (fun _ ⟨_, hitem, hin⟩ => hin.item hdigest (List.mem_cons_of_mem _ hitem))⟩
    rw [hlog, ← List.append_assoc] at hlater
    exact hlater
  | object _ hdigest _ _ ih =>
    obtain ⟨log, hlog, haccounts⟩ := ih
    refine ⟨log, hlog, haccounts.imp ?_⟩
    rintro _ rfl
    exact .object hdigest
  | restFails _ ih | restDiffers _ _ ih =>
    obtain ⟨log, hlog, haccounts⟩ := ih
    exact ⟨log, hlog, haccounts.imp fun _ hin => ⟨_, List.mem_cons_self, hin⟩⟩
  | restAgrees _ _ ih1 ih2 | foldCons _ _ ih1 ih2 =>
    obtain ⟨log, hlog, hfirst⟩ := ih1
    obtain ⟨later, hlater, hrest⟩ := ih2
    exact ⟨later ++ log, by rw [hlater, hlog, List.append_assoc], hfirst.append hrest
      (fun _ hin => ⟨_, List.mem_cons_self, hin⟩)
      (fun _ ⟨_, hitem, hin⟩ => ⟨_, List.mem_cons_of_mem _ hitem, hin⟩)⟩
  | enter _ _ ih =>
    obtain ⟨log, hlog, haccounts⟩ := ih
    refine ⟨log ++ [_], ?_, haccounts.enter⟩
    rw [hlog, List.append_assoc]
    rfl
  | foldFails _ ih =>
    obtain ⟨log, hlog, haccounts⟩ := ih
    exact ⟨log, hlog, haccounts.imp fun _ hin => ⟨_, List.mem_cons_self, hin⟩⟩
  | retypeFails _ _ _ ih | retyped _ _ _ ih | absent _ _ _ ih | addFails _ _ _ ih
  | addKnown _ _ _ _ ih | addNew _ _ _ _ ih => exact ih
  | rootFails _ ih =>
    obtain ⟨log, hlog, haccounts⟩ := ih
    refine ⟨log, hlog, haccounts.imp ?_⟩
    rintro _ rfl
    exact ⟨rfl, List.mem_cons_self⟩
  | rootCons _ _ ih1 ih2 =>
    obtain ⟨log, hlog, hfirst⟩ := ih1
    obtain ⟨later, hlater, hrest⟩ := ih2
    refine ⟨later ++ log, by rw [hlater, hlog, List.append_assoc], hfirst.append hrest ?_ ?_⟩
    · rintro _ rfl
      exact ⟨rfl, List.mem_cons_self⟩
    · exact fun _ ⟨hid, hobject⟩ => ⟨hid, List.mem_cons_of_mem _ hobject⟩

end Discovery

end DocModel
