import DocModel.Proofs.Discovery.Execution

set_option autoImplicit false

/-! # The order of observations

The members of an object are folded in order, and what is nested in the value of a member is folded
before the member itself gets its field. `Task.visits` lists the members in the order in which their
values have been typed, each with the id of the class that its object was handed to. The encounters
do not say this: an object is handed to its class before any of its members is looked at.

How the visits of a task that succeeds come about is said by `Trail`, and what holds of them is proved
by induction on it: every member of every object that is handed to a class is visited once
(`Trail.perm`). -/

namespace DocModel

variable {ρ : Type}

/-- A member of an object that was handed to the class of this id. -/
structure Visit where
  id : String
  name : String
  value : Document

/-- The member has this name and belongs to this class. -/
def Visit.isOf (id name : String) (visit : Visit) : Bool := visit.id = id ∧ visit.name = name

theorem Visit.isOf_iff {id name : String} {visit : Visit} :
    visit.isOf id name = true ↔ visit.id = id ∧ visit.name = name := by
  rw [isOf, decide_eq_true_eq]

/-- The members of an object that was handed to a class, in order. -/
def Encounter.visits (encounter : Encounter) : List Visit :=
  encounter.object.map fun member => ⟨encounter.id, member.1, member.2⟩

namespace Discovery

/-! ## Visits of a traversal -/

/-- The visits of one member. The value of a reference is not looked into, and an attribute has been
counted when its value is typed again. -/
def visitsMember (id name : String) (value : Document) (typing : Context ρ → List Visit)
    (c : Context ρ) : List Visit :=
  (match c.registry.field? id name with
    | none => typing c
    | some field =>
      if field.isReference then []
      else typing (c.modifyField id name Model.Field.recordOccurrence)) ++ [⟨id, name, value⟩]

mutual

/-- The visits that are made while a value is typed under a name. -/
def visits (policy : Policy) (name : String) : Document → Context ρ → List Visit
  | .null, _ | .bool _, _ | .number _, _ | .string _, _ | .array [], _ => []
  | .array (first :: rest), c =>
    match policy.digester name with
    | .error _ => []
    | .ok element =>
      visits policy element first c.inside ++
        match (typeOf policy element first).run c.inside with
        | (.ok general, c₁) => visitsRest policy element general rest c₁
        | (.error _, _) => []
  | .object object, c =>
    match policy.digester name with
    | .error _ => []
    | .ok id =>
      visitsMembers policy id (!c.inside.registry.contains id) object (c.inside.enter id object)

/-- The visits in the items after the first one, up to the first item of another type. -/
def visitsRest (policy : Policy) (name : String) (general : ValueType) :
    List Document → Context ρ → List Visit
  | [], _ => []
  | item :: rest, c =>
    visits policy name item c ++
      match (typeOf policy name item).run c with
      | (.ok observed, c₁) =>
        if observed = general then visitsRest policy name general rest c₁ else []
      | (.error _, _) => []

/-- The visits of the members of an object, in order. -/
def visitsMembers (policy : Policy) (id : String) (creating : Bool) :
    List (String × Document) → Context ρ → List Visit
  | [], _ => []
  | (name, value) :: rest, c =>
    visitsMember id name value (visits policy name value) c ++
      match (foldMember id creating name value (typeOf policy name value)).run c with
      | (.ok _, c₁) => visitsMembers policy id creating rest c₁
      | (.error _, _) => []

end

/-- The visits of an object that is handed to the class of an id. -/
def visitsEntering (policy : Policy) (id : String) (object : Members) (c : Context ρ) : List Visit :=
  visitsMembers policy id (!c.registry.contains id) object (c.enter id object)

/-- The visits of objects that are handed to one class, in order. -/
def visitsRoots (policy : Policy) (id : String) : List Members → Context ρ → List Visit
  | [], _ => []
  | object :: rest, c =>
    visitsEntering policy id object c ++
      match (discoverClass policy id object).run c with
      | (.ok _, c₁) => visitsRoots policy id rest c₁
      | (.error _, _) => []

/-- The visits of a task, up to the point where it fails. The members that it is typing then come
last, the innermost first. -/
def Task.visits (policy : Policy) : Task → Context ρ → List Visit
  | .typing name value, c => Discovery.visits policy name value c
  | .typingRest name general items, c => visitsRest policy name general items c
  | .entering id object, c => visitsEntering policy id object c
  | .folding id creating members, c => visitsMembers policy id creating members c
  | .member id _ name value, c => visitsMember id name value (Discovery.visits policy name value) c
  | .adding id name value _, c => Discovery.visits policy name value c ++ [⟨id, name, value⟩]
  | .roots id objects, c => visitsRoots policy id objects c

/-! ## Visits and the rules -/

section Rules

variable {policy : Policy} {id name element : String} {value first item : Document}
  {rest : List Document} {general : ValueType} {object : Members} {creating : Bool}
  {members : List (String × Document)} {objects : List Members} {c c₁ : Context ρ} {e : Error}

theorem visits_leaf {type : ValueType} (h : value.leafType? = some type) :
    visits policy name value c = [] := by
  cases value with
  | array items =>
    cases items with
    | nil => rw [visits]
    | cons => simp [Document.leafType?] at h
  | object => simp [Document.leafType?] at h
  | null | bool | number | string => rw [visits]

theorem visits_array_error (hdigest : policy.digester name = .ok element)
    (hfirst : (typeOf policy element first).run c.inside = (.error e, c₁)) :
    visits policy name (.array (first :: rest)) c = visits policy element first c.inside := by
  simp only [visits, hdigest, hfirst, List.append_nil]

theorem visits_array_ok (hdigest : policy.digester name = .ok element)
    (hfirst : (typeOf policy element first).run c.inside = (.ok general, c₁)) :
    visits policy name (.array (first :: rest)) c
      = visits policy element first c.inside ++ visitsRest policy element general rest c₁ := by
  simp only [visits, hdigest, hfirst]

theorem visits_object (hdigest : policy.digester name = .ok id) :
    visits policy name (.object object) c = visitsEntering policy id object c.inside := by
  simp only [visits, hdigest, visitsEntering]

theorem visitsRest_error (hitem : (typeOf policy name item).run c = (.error e, c₁)) :
    visitsRest policy name general (item :: rest) c = visits policy name item c := by
  simp only [visitsRest, hitem, List.append_nil]

theorem visitsRest_differs {other : ValueType}
    (hitem : (typeOf policy name item).run c = (.ok other, c₁)) (hne : other ≠ general) :
    visitsRest policy name general (item :: rest) c = visits policy name item c := by
  simp only [visitsRest, hitem, hne, ↓reduceIte, List.append_nil]

theorem visitsRest_agrees (hitem : (typeOf policy name item).run c = (.ok general, c₁)) :
    visitsRest policy name general (item :: rest) c
      = visits policy name item c ++ visitsRest policy name general rest c₁ := by
  simp only [visitsRest, hitem, ↓reduceIte]

theorem visitsMembers_error
    (hmember : (foldMember id creating name value (typeOf policy name value)).run c
      = (.error e, c₁)) :
    visitsMembers policy id creating ((name, value) :: members) c
      = visitsMember id name value (visits policy name value) c := by
  simp only [visitsMembers, hmember, List.append_nil]

theorem visitsMembers_ok
    (hmember : (foldMember id creating name value (typeOf policy name value)).run c
      = (.ok (), c₁)) :
    visitsMembers policy id creating ((name, value) :: members) c
      = visitsMember id name value (visits policy name value) c
        ++ visitsMembers policy id creating members c₁ := by
  simp only [visitsMembers, hmember]

theorem visitsMember_reference {typing : Context ρ → List Visit} {field : Model.Field ρ}
    (hfield : c.registry.field? id name = some field) (href : field.isReference = true) :
    visitsMember id name value typing c = [⟨id, name, value⟩] := by
  simp only [visitsMember, hfield, href, ↓reduceIte, List.nil_append]

theorem visitsMember_attribute {typing : Context ρ → List Visit} {field : Model.Field ρ}
    (hfield : c.registry.field? id name = some field) (href : field.isReference = false) :
    visitsMember id name value typing c
      = typing (c.modifyField id name Model.Field.recordOccurrence) ++ [⟨id, name, value⟩] := by
  simp only [visitsMember, hfield, href, Bool.false_eq_true, ↓reduceIte]

theorem visitsMember_absent {typing : Context ρ → List Visit}
    (hfield : c.registry.field? id name = none) :
    visitsMember id name value typing c = typing c ++ [⟨id, name, value⟩] := by
  simp only [visitsMember, hfield]

theorem visitsRoots_error (hroot : (discoverClass policy id object).run c = (.error e, c₁)) :
    visitsRoots policy id (object :: objects) c = visitsEntering policy id object c := by
  simp only [visitsRoots, hroot, List.append_nil]

theorem visitsRoots_ok {entered : String}
    (hroot : (discoverClass policy id object).run c = (.ok entered, c₁)) :
    visitsRoots policy id (object :: objects) c
      = visitsEntering policy id object c ++ visitsRoots policy id objects c₁ := by
  simp only [visitsRoots, hroot]

end Rules

end Discovery

/-! ## Visits and encounters -/

/-- Under this name the value is an object of the class of the id and has the member, or an object
at any depth inside of it is and has. -/
inductive Document.HoldsMember (digester : Digester) (id label : String) : String → Document → Prop
  | object {name : String} {members : Members} :
      digester name = .ok id → label ∈ Assoc.keys members →
      HoldsMember digester id label name (.object members)
  | member {name : String} {members : Members} {member : String × Document} :
      member ∈ members → HoldsMember digester id label member.1 member.2 →
      HoldsMember digester id label name (.object members)
  | item {name element : String} {items : List Document} {item : Document} :
      digester name = .ok element → item ∈ items →
      HoldsMember digester id label element item → HoldsMember digester id label name (.array items)

/-- An object inside of this one belongs to the class of the id and has the member. -/
def NestsMember (digester : Digester) (id label : String) (object : Members) : Prop :=
  ∃ member ∈ object, member.2.HoldsMember digester id label member.1

/-- How a list of visits comes about between two logs: some visits are a task's own, and the others
are those of the objects that it hands to classes. Whatever object of a class it hands over, with a
member of some name, is foreseen by `nested`. -/
inductive Trail (digester : Digester) : (nested : String → String → Prop) →
    (visits own : List Visit) → (before after : List Encounter) → Prop
  | refl (nested : String → String → Prop) (own : List Visit) (log : List Encounter) :
      Trail digester nested own own log log
  | append {nested : String → String → Prop} {visits more own others : List Visit}
      {before middle after : List Encounter} :
      Trail digester nested visits own before middle →
      Trail digester nested more others middle after →
      Trail digester nested (visits ++ more) (own ++ others) before after
  /-- Folding an object makes the members of its encounter its own, and only what is inside of them is
  handed over; the caller hands over the object, too. -/
  | enter {id : String} {object : Members} {visits : List Visit} {before after : List Encounter} :
      Trail digester (fun other label => NestsMember digester other label object) visits
        (Encounter.visits ⟨id, object⟩) (⟨id, object⟩ :: before) after →
      Trail digester (fun other label =>
          (id = other ∧ label ∈ Assoc.keys object) ∨ NestsMember digester other label object)
        visits [] before after
  | imp {inner outer : String → String → Prop} {visits own : List Visit}
      {before after : List Encounter} :
      Trail digester inner visits own before after →
      (∀ id label, inner id label → outer id label) →
      Trail digester outer visits own before after

/-- Every member is visited once: the own ones and those of the encounters in between. -/
theorem Trail.perm {digester : Digester} {nested : String → String → Prop} {visits own : List Visit}
    {before after : List Encounter} (h : Trail digester nested visits own before after) :
    ∃ log, after = log ++ before ∧ visits.Perm (own ++ log.flatMap Encounter.visits) := by
  induction h with
  | refl nested own log => exact ⟨[], rfl, by rw [List.flatMap_nil, List.append_nil]⟩
  | @append _ _ _ own others _ _ _ _ _ ih1 ih2 =>
    obtain ⟨first, rfl, hfirst⟩ := ih1
    obtain ⟨second, rfl, hsecond⟩ := ih2
    refine ⟨second ++ first, (List.append_assoc ..).symm, ?_⟩
    rw [List.flatMap_append, List.append_assoc]
    refine (hfirst.append hsecond).trans ?_
    rw [List.append_assoc]
    refine List.Perm.append_left own ?_
    rw [← List.append_assoc others]
    exact List.perm_append_comm
  | @enter id object _ _ _ _ ih =>
    obtain ⟨log, rfl, hperm⟩ := ih
    refine ⟨log ++ [⟨id, object⟩], by rw [List.append_assoc, List.singleton_append], ?_⟩
    rw [List.nil_append, List.flatMap_append, List.flatMap_singleton]
    exact hperm.trans List.perm_append_comm
  | imp _ _ ih => exact ih

namespace Discovery

/-- The visits that a task makes itself: the members that it folds. -/
def Task.own : Task → List Visit
  | .folding id _ members => members.map fun member => ⟨id, member.1, member.2⟩
  | .member id _ name value | .adding id name value _ => [⟨id, name, value⟩]
  | .typing .. | .typingRest .. | .entering .. | .roots .. => []

/-- An object that the task hands to a class belongs to the class of the id and has the member. -/
def Task.NestsMember (digester : Digester) (id label : String) : Task → Prop
  | .typing name value | .member _ _ name value | .adding _ name value _ =>
    value.HoldsMember digester id label name
  | .typingRest name _ items => ∃ item ∈ items, item.HoldsMember digester id label name
  | .entering other object =>
    (other = id ∧ label ∈ Assoc.keys object) ∨ DocModel.NestsMember digester id label object
  | .folding _ _ members => DocModel.NestsMember digester id label members
  | .roots other objects => ∃ object ∈ objects,
    (other = id ∧ label ∈ Assoc.keys object) ∨ DocModel.NestsMember digester id label object

/-- **The visits of a task that succeeds** are those that it makes itself and those of the objects
that it hands to classes. -/
theorem Runs.trail {policy : Policy} {task : Task} {c c' : Context ρ}
    {outcome : Except Error task.Result} (h : Runs policy task c outcome c')
    (hok : outcome.isOk = true) :
    Trail policy.digester (fun id label => task.NestsMember policy.digester id label)
      (task.visits policy c) task.own c.encounters c'.encounters := by
  induction h with
  | stop | arrayFails | restFails | foldFails | retypeFails | addFails | rootFails =>
    exact absurd hok nofun
  | leaf _ htype =>
    rw [Task.visits, visits_leaf htype]
    exact .refl _ [] _
  | array _ _ hdigest hfirst _ ih1 ih2 =>
    rw [Task.visits, visits_array_ok hdigest hfirst.run_eq]
    refine ((ih1 rfl).imp fun _ _ h => ?_).append ((ih2 hok).imp fun _ _ ⟨_, hitem, h⟩ => ?_)
    · exact .item hdigest List.mem_cons_self h
    · exact .item hdigest (List.mem_cons_of_mem _ hitem) h
  | @object _ _ _ _ _ outcome _ hdigest _ _ ih =>
    rw [Task.visits, visits_object hdigest]
    cases outcome with
    | error e => exact absurd hok nofun
    | ok entered =>
      refine (ih rfl).imp ?_
      rintro _ _ (⟨rfl, hlabel⟩ | ⟨_, hmember, h⟩)
      · exact .object hdigest hlabel
      · exact .member hmember h
  | restNil | foldNil | rootNil => exact .refl _ [] _
  | restDiffers hitem hne ih =>
    rw [Task.visits, visitsRest_differs hitem.run_eq hne]
    exact (ih rfl).imp fun _ _ h => ⟨_, List.mem_cons_self, h⟩
  | restAgrees hitem _ ih1 ih2 =>
    rw [Task.visits, visitsRest_agrees hitem.run_eq]
    exact ((ih1 rfl).imp fun _ _ h => ⟨_, List.mem_cons_self, h⟩).append
      ((ih2 hok).imp fun _ _ ⟨_, hin, h⟩ => ⟨_, List.mem_cons_of_mem _ hin, h⟩)
  | @enter _ _ _ _ outcome _ _ ih =>
    cases outcome with
    | error e => exact absurd hok nofun
    | ok _ => exact .enter (ih rfl)
  | foldCons hmember _ ih1 ih2 =>
    rw [Task.visits, visitsMembers_ok hmember.run_eq]
    exact ((ih1 rfl).imp fun _ _ h => ⟨_, List.mem_cons_self, h⟩).append
      ((ih2 hok).imp fun _ _ ⟨_, hin, h⟩ => ⟨_, List.mem_cons_of_mem _ hin, h⟩)
  | @counted other _ name value _ _ hfield href =>
    rw [Task.visits, visitsMember_reference hfield href]
    exact .refl _ [⟨other, name, value⟩] _
  | @retyped other _ name value _ _ _ _ hfield href _ ih =>
    rw [Task.visits, visitsMember_attribute hfield href]
    exact (ih rfl).append (.refl _ [⟨other, name, value⟩] _)
  | absent _ hfield _ ih =>
    rw [Task.visits, visitsMember_absent hfield]
    exact ih hok
  | @addKnown other name value _ _ _ _ _ _ _ _ _ ih
  | @addNew other name value _ _ _ _ _ _ _ _ ih =>
    exact (ih rfl).append (.refl _ [⟨other, name, value⟩] _)
  | rootCons hroot _ ih1 ih2 =>
    rw [Task.visits, visitsRoots_ok hroot.run_eq]
    exact ((ih1 rfl).imp fun _ _ h => ⟨_, List.mem_cons_self, h⟩).append
      ((ih2 hok).imp fun _ _ ⟨_, hin, h⟩ => ⟨_, List.mem_cons_of_mem _ hin, h⟩)

end Discovery

end DocModel
