import DocModel.Proofs.Discoverer
import DocModel.Proofs.Discovery.Order

set_option autoImplicit false

/-! # Multiplicity and the first observation

The multiplicity of a field is fixed when the field is created, by the member that is visited first:
its value is the first one of the field to be typed.

First does not mean in the object that was handed to the class first. An object is handed to its class
before its members are folded, and what is nested in a member is visited before the member. So where
objects of a class nest in one another, the inner one decides; where they do not, the first object
does. -/

namespace DocModel

variable {ρ : Type}

namespace Discovery

theorem multiplicityOf_eq_many_iff (value : Document) :
    multiplicityOf value = .many ↔ value.isArray = true := by
  unfold multiplicityOf
  split <;> simp [*]

/-! ## Updates of one field -/

theorem field?_modifyField_eq_none {c : Context ρ} {id name other label : String}
    {f : Model.Field ρ → Model.Field ρ} (hf : ∀ field : Model.Field ρ, field.Extends (f field))
    (h : c.registry.field? other label = none) :
    (c.modifyField id name f).registry.field? other label = none := by
  rw [Context.registry_modifyField,
    Registry.field?_modifyField _ _ _ _ fun field => (hf field).name]
  split
  · rename_i hsame
    rw [← hsame.1, ← hsame.2, h]
    rfl
  · exact h

theorem field?_pushField_new {c : Context ρ} {id name : String} {type : ValueType}
    {multiplicity : Multiplicity} {required : Bool} (hid : c.registry.contains id = true)
    (hnew : c.registry.field? id name = none) :
    (c.pushField id (.new name type multiplicity required)).registry.field? id name
      = some (.new name type multiplicity required) :=
  Context.field?_pushField_self hid hnew

/-! ## Members that have a field -/

/-- Every member that was visited has a field of its name. -/
def Stored (visits : List Visit) (r : Registry ρ) : Prop :=
  ∀ visit ∈ visits, ∃ field, r.field? visit.id visit.name = some field

section Stored

variable {visits more : List Visit} {r s : Registry ρ}

theorem Stored.append (h : Stored visits r) (hext : r.Extends s) (hmore : Stored more s) :
    Stored (visits ++ more) s := by
  intro visit hvisit
  rcases List.mem_append.1 hvisit with hin | hin
  · obtain ⟨field, hfield⟩ := h visit hin
    obtain ⟨grown, hgrown, -⟩ := hext.field? hfield
    exact ⟨grown, hgrown⟩
  · exact hmore visit hin

theorem stored_singleton {id name : String} {field : Model.Field ρ}
    (hfield : r.field? id name = some field) (value : Document) : Stored [⟨id, name, value⟩] r := by
  intro visit hvisit
  obtain rfl := List.mem_singleton.1 hvisit
  exact ⟨field, hfield⟩

/-- A member whose field is updated when its value has been typed. -/
theorem Stored.modifyField {c : Context ρ} (h : Stored visits c.registry) {id name : String}
    {field : Model.Field ρ} (hfield : c.registry.field? id name = some field)
    {f : Model.Field ρ → Model.Field ρ} (hf : ∀ field : Model.Field ρ, field.Extends (f field))
    (value : Document) :
    Stored (visits ++ [⟨id, name, value⟩]) (c.modifyField id name f).registry :=
  h.append (Registry.extends_modifyField _ _ _ hf) <| stored_singleton
    (Context.field?_modifyField_self (fun field => (hf field).name) hfield) value

end Stored

/-- A task that succeeds leaves a field for every member that it has visited. -/
theorem Runs.stored {policy : Policy} {task : Task} {c c' : Context ρ}
    {outcome : Except Error task.Result} (h : Runs policy task c outcome c')
    (hok : outcome.isOk = true) : Stored (task.visits policy c) c'.registry := by
  induction h with
  | stop | arrayFails | restFails | foldFails | retypeFails | addFails | rootFails =>
    exact absurd hok nofun
  | leaf _ htype =>
    rw [Task.visits, visits_leaf htype]
    exact fun _ hvisit => absurd hvisit List.not_mem_nil
  | array _ _ hdigest hfirst hrest ih1 ih2 =>
    rw [Task.visits, visits_array_ok hdigest hfirst.run_eq]
    exact (ih1 rfl).append hrest.extends (ih2 hok)
  | @object _ _ _ _ _ outcome _ hdigest _ _ ih =>
    rw [Task.visits, visits_object hdigest]
    cases outcome with
    | error e => exact absurd hok Bool.false_ne_true
    | ok entered => exact ih rfl
  | restNil | foldNil | rootNil => exact fun _ hvisit => absurd hvisit List.not_mem_nil
  | restDiffers hitem hne ih =>
    rw [Task.visits, visitsRest_differs hitem.run_eq hne]
    exact ih rfl
  | restAgrees hitem hrest ih1 ih2 =>
    rw [Task.visits, visitsRest_agrees hitem.run_eq]
    exact (ih1 rfl).append hrest.extends (ih2 hok)
  | @enter _ _ _ _ outcome _ _ ih =>
    cases outcome with
    | error e => exact absurd hok Bool.false_ne_true
    | ok _ => exact ih rfl
  | foldCons hmember hrest ih1 ih2 =>
    rw [Task.visits, visitsMembers_ok hmember.run_eq]
    exact (ih1 rfl).append hrest.extends (ih2 hok)
  | @counted _ creating _ value _ _ hfield href =>
    rw [Task.visits, visitsMember_reference hfield href]
    exact stored_singleton (Context.field?_modifyField_self
      (fun field => (field.extends_counted creating).name) hfield) value
  | @retyped _ creating _ value _ type _ _ hfield href htyping ih =>
    rw [Task.visits, visitsMember_attribute hfield href]
    obtain ⟨again, hagain⟩ := htyping.field?_of_counted hfield
    exact (ih rfl).modifyField hagain (fun field => field.extends_retyped type creating) value
  | absent _ hfield _ ih =>
    rw [Task.visits, visitsMember_absent hfield]
    exact ih hok
  | @addKnown _ _ value required type _ _ _ _ _ _ hknown ih =>
    exact (ih rfl).modifyField hknown (fun field => field.extends_joined type required) value
  | @addNew _ _ value _ _ _ _ hid _ htyping hnew ih =>
    exact (ih rfl).append (Registry.extends_pushField _ _ _)
      (stored_singleton (field?_pushField_new (htyping.extends.contains hid) hnew) value)
  | rootCons hroot hrest ih1 ih2 =>
    rw [Task.visits, visitsRoots_ok hroot.run_eq]
    exact (ih1 rfl).append hrest.extends (ih2 hok)

/-! ## Fields decided by their first visit -/

/-- A field that the second registry has and the first one has not was visited, and it has the
multiplicity of the value that was visited first. -/
def DecidedBy (visits : List Visit) (r s : Registry ρ) : Prop :=
  ∀ id name field, r.field? id name = none → s.field? id name = some field →
    ∃ first, visits.find? (Visit.isOf id name) = some first
      ∧ field.multiplicity = multiplicityOf first.value

section DecidedBy

variable {visits more : List Visit} {r s t : Registry ρ}

theorem decidedBy_refl (visits : List Visit) (r : Registry ρ) : DecidedBy visits r r := by
  intro id name field hbefore hafter
  rw [hbefore] at hafter
  exact absurd hafter nofun

/-- What was stored before the later visits has been decided, and it is not decided anew. -/
theorem DecidedBy.append (h : DecidedBy visits r s) (hstored : Stored visits s)
    (hext : s.Extends t) (hmore : DecidedBy more s t) : DecidedBy (visits ++ more) r t := by
  intro id name field hbefore hafter
  rw [List.find?_append]
  cases hmiddle : s.field? id name with
  | some old =>
    obtain ⟨first, hfirst, hlaw⟩ := h id name old hbefore hmiddle
    obtain ⟨grown, hgrown, hgrows⟩ := hext.field? hmiddle
    obtain rfl : grown = field := Option.some.inj (hgrown.symm.trans hafter)
    exact ⟨first, by rw [hfirst, Option.some_or], hgrows.multiplicity.trans hlaw⟩
  | none =>
    obtain ⟨first, hfirst, hlaw⟩ := hmore id name field hmiddle hafter
    have hearlier : visits.find? (Visit.isOf id name) = none := by
      refine List.find?_eq_none.2 fun visit hvisit hof => ?_
      obtain ⟨rfl, rfl⟩ := Visit.isOf_iff.1 hof
      obtain ⟨stored, hfield⟩ := hstored visit hvisit
      rw [hmiddle] at hfield
      exact absurd hfield nofun
    exact ⟨first, by rw [hearlier, Option.none_or, hfirst], hlaw⟩

/-- Visits that add no field decide nothing. -/
theorem DecidedBy.append_right (h : DecidedBy visits r s) (more : List Visit) :
    DecidedBy (visits ++ more) r s := by
  intro id name field hbefore hafter
  obtain ⟨first, hfirst, hlaw⟩ := h id name field hbefore hafter
  exact ⟨first, by rw [List.find?_append, hfirst, Option.some_or], hlaw⟩

theorem DecidedBy.of_modifyField {c : Context ρ} {id name : String}
    {f : Model.Field ρ → Model.Field ρ} (h : DecidedBy visits (c.modifyField id name f).registry s)
    (hf : ∀ field : Model.Field ρ, field.Extends (f field)) : DecidedBy visits c.registry s :=
  fun other label field hbefore hafter =>
    h other label field (field?_modifyField_eq_none hf hbefore) hafter

theorem DecidedBy.modifyField {c : Context ρ} (h : DecidedBy visits r c.registry) (id name : String)
    {f : Model.Field ρ → Model.Field ρ} (hf : ∀ field : Model.Field ρ, field.Extends (f field)) :
    DecidedBy visits r (c.modifyField id name f).registry := by
  intro other label field hbefore hafter
  cases hold : c.registry.field? other label with
  | none =>
    rw [field?_modifyField_eq_none hf hold] at hafter
    exact absurd hafter nofun
  | some old =>
    obtain ⟨first, hfirst, hlaw⟩ := h other label old hbefore hold
    have hext : c.registry.Extends (c.modifyField id name f).registry :=
      Registry.extends_modifyField _ _ _ hf
    obtain ⟨grown, hgrown, hgrows⟩ := hext.field? hold
    obtain rfl : grown = field := Option.some.inj (hgrown.symm.trans hafter)
    exact ⟨first, hfirst, hgrows.multiplicity.trans hlaw⟩

/-- The member that adds a field decides it. -/
theorem decidedBy_pushField {c : Context ρ} {id name : String} (value : Document) {type : ValueType}
    {required : Bool} (hid : c.registry.contains id = true)
    (hnew : c.registry.field? id name = none) :
    DecidedBy [⟨id, name, value⟩] c.registry
      (c.pushField id (.new name type (multiplicityOf value) required)).registry := by
  intro other label field hbefore hafter
  by_cases hsame : id = other ∧ name = label
  · obtain ⟨rfl, rfl⟩ := hsame
    rw [field?_pushField_new hid hnew] at hafter
    obtain rfl := Option.some.inj hafter
    exact ⟨_, List.find?_cons_of_pos (Visit.isOf_iff.2 ⟨rfl, rfl⟩), rfl⟩
  · have hne : ¬ (other = id ∧ name = label) := fun h => hsame ⟨h.1.symm, h.2⟩
    rw [Context.registry_pushField, Registry.field?_pushField _ _ _ hid, hbefore] at hafter
    simp only [Model.Field.new, hne, ↓reduceIte, Option.or_none, reduceCtorEq] at hafter

end DecidedBy

/-- **The first visit decides the multiplicity** of every field that a task adds, also when the task
fails. -/
theorem Runs.decided {policy : Policy} {task : Task} {c c' : Context ρ}
    {outcome : Except Error task.Result} (h : Runs policy task c outcome c') :
    DecidedBy (task.visits policy c) c.registry c'.registry := by
  induction h with
  | stop | leaf | restNil | foldNil | rootNil => exact decidedBy_refl _ _
  | arrayFails _ _ hdigest hfirst ih =>
    rw [Task.visits, visits_array_error hdigest hfirst.run_eq]
    exact ih
  | array _ _ hdigest hfirst hrest ih1 ih2 =>
    rw [Task.visits, visits_array_ok hdigest hfirst.run_eq]
    exact ih1.append (hfirst.stored rfl) hrest.extends ih2
  | object _ hdigest _ _ ih =>
    rw [Task.visits, visits_object hdigest]
    exact ih
  | restFails hitem ih =>
    rw [Task.visits, visitsRest_error hitem.run_eq]
    exact ih
  | restDiffers hitem hne ih =>
    rw [Task.visits, visitsRest_differs hitem.run_eq hne]
    exact ih
  | restAgrees hitem hrest ih1 ih2 =>
    rw [Task.visits, visitsRest_agrees hitem.run_eq]
    exact ih1.append (hitem.stored rfl) hrest.extends ih2
  | @enter id object c _ _ _ _ ih =>
    -- entering a class adds no field
    intro other label field hbefore hafter
    exact ih other label field ((c.field?_enter id object other label).trans hbefore) hafter
  | foldFails hmember ih =>
    rw [Task.visits, visitsMembers_error hmember.run_eq]
    exact ih
  | foldCons hmember hrest ih1 ih2 =>
    rw [Task.visits, visitsMembers_ok hmember.run_eq]
    exact ih1.append (hmember.stored rfl) hrest.extends ih2
  | @counted id creating name _ _ c hfield href =>
    rw [Task.visits, visitsMember_reference hfield href]
    exact (decidedBy_refl _ c.registry).modifyField id name
      fun field => field.extends_counted creating
  | retypeFails hfield href _ ih =>
    rw [Task.visits, visitsMember_attribute hfield href]
    exact (ih.of_modifyField Model.Field.extends_recordOccurrence).append_right _
  | @retyped id creating name _ _ type _ _ hfield href _ ih =>
    rw [Task.visits, visitsMember_attribute hfield href]
    have hbefore := ih.of_modifyField Model.Field.extends_recordOccurrence
    exact (hbefore.append_right _).modifyField id name
      fun field => field.extends_retyped type creating
  | absent _ hfield _ ih =>
    rw [Task.visits, visitsMember_absent hfield]
    exact ih
  | addFails _ _ _ ih => exact ih.append_right _
  | @addKnown id name _ required type _ _ _ _ _ _ _ ih =>
    exact (ih.append_right _).modifyField id name fun field => field.extends_joined type required
  | @addNew _ _ value _ _ _ _ hid _ htyping hnew ih =>
    exact ih.append (htyping.stored rfl) (Registry.extends_pushField _ _ _)
      (decidedBy_pushField value (htyping.extends.contains hid) hnew)
  | rootFails hroot ih =>
    rw [Task.visits, visitsRoots_error hroot.run_eq]
    exact ih
  | rootCons hroot hrest ih1 ih2 =>
    rw [Task.visits, visitsRoots_ok hroot.run_eq]
    exact ih1.append (hroot.stored rfl) hrest.extends ih2

end Discovery

/-! ## Models -/

/-- The earliest object with a member of this name that was handed to the class of this id. -/
def firstHolder? (log : List Encounter) (id name : String) : Option Members :=
  (log.reverse.find? (Encounter.holds id name)).map (·.object)

/-- The first object that was handed to a class with such a member, and its member. It is the one
that is visited first if no object with such a member of the class is nested in it. -/
theorem Trail.exists_firstHolder? {digester : Digester} {nested : String → String → Prop}
    {visits : List Visit} {log : List Encounter} (h : Trail digester nested visits [] [] log)
    {id name : String} {first : Visit}
    (hfirst : visits.find? (Visit.isOf id name) = some first) :
    ∃ object value, firstHolder? log id name = some object
      ∧ Assoc.find? name object = some value
      ∧ (¬ NestsMember digester id name object → value = first.value) := by
  obtain ⟨log, rfl, hordered⟩ := h.ordered id name
  rw [List.append_nil]
  cases hholder : log.reverse.find? (Encounter.holds id name) with
  | none =>
    have hnone : ∀ encounter ∈ log, encounter.holds id name = false := by simpa using hholder
    rw [hordered.of_own hnone] at hfirst
    exact absurd hfirst nofun
  | some encounter =>
    have hholds := List.find?_some hholder
    obtain ⟨rfl, -⟩ := Encounter.holds_iff.1 hholds
    rw [← encounter.isSome_find?_visits, encounter.find?_visits, Option.isSome_map,
      Option.isSome_iff_exists] at hholds
    obtain ⟨value, hvalue⟩ := hholds
    refine ⟨encounter.object, value, by rw [firstHolder?, hholder, Option.map_some], hvalue,
      fun hnests => ?_⟩
    have hsame := hordered.of_log rfl encounter hholder hnests
    rw [hfirst, encounter.find?_visits, hvalue, Option.map_some] at hsame
    exact congrArg Visit.value (Option.some.inj hsame).symm

/-- **Multiplicity reflects the first observation.** A run that succeeds visits every member of every
object that is handed to a class, once. A field has the multiplicity many exactly if, among the
members of its name of its class, the one that is visited first has an array. This member is in the
earliest object that was handed to the class with such a member, unless another one is nested in this
object. -/
theorem many_iff_first_visit_isArray [Ratio ρ] (d : Discoverer) (name : String)
    (documents : List Document) (model : Model ρ) (h : d.discover name documents = .ok model) :
    ∃ (root : String) (context : Context ρ) (visits : List Visit),
      d.digester name = .ok root
      ∧ d.fold .empty root (rootObjects documents) = (.ok (), context)
      ∧ visits = Discovery.visitsRoots d.policy root (rootObjects documents)
        (.of .empty : Context ρ)
      ∧ visits.Perm (context.encounters.flatMap Encounter.visits)
      ∧ ∀ cls ∈ model.classes, ∀ field ∈ cls.fields,
        (∃ first, visits.find? (Visit.isOf cls.id field.name) = some first
          ∧ (field.multiplicity = .many ↔ first.value.isArray = true))
        ∧ ∃ object value, firstHolder? context.encounters cls.id field.name = some object
          ∧ Assoc.find? field.name object = some value
          ∧ (¬ NestsMember d.digester cls.id field.name object →
            (field.multiplicity = .many ↔ value.isArray = true)) := by
  obtain ⟨root, context, hdigest, hruns, rfl⟩ := Discoverer.exists_runs_of_discover h
  have htrail := hruns.trail rfl
  refine ⟨root, context, _, hdigest, Discoverer.fold_eq_iff.2 hruns, rfl, ?_,
    fun cls hcls field hfield => ?_⟩
  · obtain ⟨log, hlog, hperm⟩ := htrail.perm
    -- the run starts with an empty log, so all encounters are its own
    obtain rfl : context.encounters = log := hlog.trans (List.append_nil log)
    exact hperm
  · obtain ⟨stored, hstored, rfl⟩ := Discoverer.mem_classes_modelOf.1 hcls
    obtain ⟨old, hold, rfl⟩ := List.mem_map.1 hfield
    have hnames := hruns.distinctNames (Registry.each_empty _)
    obtain ⟨first, hfirst, hlaw⟩ :=
      hruns.decided stored.id old.name old rfl (hnames.field?_of_mem hstored hold)
    have hmany : old.multiplicity = .many ↔ first.value.isArray = true := by
      rw [hlaw, Discovery.multiplicityOf_eq_many_iff]
    obtain ⟨object, value, hholder, hvalue, hsame⟩ := htrail.exists_firstHolder? hfirst
    refine ⟨⟨first, hfirst, hmany⟩, object, value, hholder, hvalue, fun hnests => ?_⟩
    rw [hsame hnests]
    exact hmany

/-! ## Objects of one class inside one another -/

/-- An object whose first member holds another object of its class. Both have the second member. -/
def earlierInside : Members :=
  [("a", .object [("k", .ofInt 1)]), ("k", .array [.ofInt 2])]

theorem eq_of_pluralStrip_a {root : String} (h : Digester.pluralStrip "a" = .ok root) :
    root = "A" := by
  have hroot : (Digester.pluralStrip "a").toOption = some "A" := by decide +kernel
  rw [h] at hroot
  exact Option.some.inj hroot

theorem discover_earlierInside : ∃ model : Model Rat,
    Discoverer.discover ⟨.standard, .pluralStrip⟩ "a" [.object earlierInside] = .ok model
      ∧ model.classes.map (fun cls => (cls.id, cls.fields.map fun field =>
          (field.name, field.multiplicity)))
        = [("A", [("k", .one), ("a", .one)])] := by
  refine exists_eq_ok_of_toOption_map ?_
  decide +kernel

/-- The inner object is of the class of the outer one, and its member is visited first. -/
theorem many_iff_first_visit_isArray_earlierInside :
    ∃ (model : Model Rat) (context : Context Rat) (visits : List Visit),
      Discoverer.discover ⟨.standard, .pluralStrip⟩ "a" [.object earlierInside] = .ok model
      ∧ visits.map (fun visit => (visit.id, visit.name, visit.value.isArray))
        = [("A", "k", false), ("A", "a", false), ("A", "k", true)]
      ∧ visits.Perm (context.encounters.flatMap Encounter.visits)
      ∧ ∀ cls ∈ model.classes, ∀ field ∈ cls.fields,
        (∃ first, visits.find? (Visit.isOf cls.id field.name) = some first
          ∧ (field.multiplicity = .many ↔ first.value.isArray = true))
        ∧ ∃ object value, firstHolder? context.encounters cls.id field.name = some object
          ∧ Assoc.find? field.name object = some value
          ∧ (¬ NestsMember .pluralStrip cls.id field.name object →
            (field.multiplicity = .many ↔ value.isArray = true)) := by
  obtain ⟨model, hmodel, -⟩ := discover_earlierInside
  obtain ⟨root, context, visits, hdigest, -, rfl, hperm, hmany⟩ :=
    many_iff_first_visit_isArray _ "a" _ model hmodel
  obtain rfl : root = "A" := eq_of_pluralStrip_a hdigest
  exact ⟨model, context, _, hmodel, by decide +kernel, hperm, hmany⟩

/-- The outer object is handed to the class first, and its value is an array, but the field is not
many. -/
theorem multiplicity_ne_of_firstHolder :
    ∃ (model : Model Rat) (root : String) (context : Context Rat),
      Discoverer.discover ⟨.standard, .pluralStrip⟩ "a" [.object earlierInside] = .ok model
      ∧ Digester.pluralStrip "a" = .ok root
      ∧ Discoverer.fold ⟨.standard, .pluralStrip⟩ .empty root (rootObjects [.object earlierInside])
        = (.ok (), context)
      ∧ ∃ cls ∈ model.classes, ∃ field ∈ cls.fields, ∃ object value,
        firstHolder? context.encounters cls.id field.name = some object
        ∧ Assoc.find? field.name object = some value
        ∧ ¬ (field.multiplicity = .many ↔ value.isArray = true) := by
  obtain ⟨model, hmodel, hclasses⟩ := discover_earlierInside
  obtain ⟨-, hrun⟩ := Discoverer.discover_eq_ok_iff.1 hmodel
  obtain ⟨root, context, hdigest, hfold, -⟩ := Discoverer.run_eq_ok_iff.1 hrun
  refine ⟨model, root, context, hmodel, hdigest, hfold, ?_⟩
  obtain rfl : root = "A" := eq_of_pluralStrip_a hdigest
  -- the one class of the model has the field, and the log has the array
  obtain ⟨cls, hcls, hshape⟩ : ∃ cls ∈ model.classes, (cls.id, cls.fields.map fun field =>
      (field.name, field.multiplicity)) = ("A", [("k", .one), ("a", .one)]) :=
    List.mem_map.1 (hclasses ▸ List.mem_singleton_self _)
  obtain ⟨hid, hfields⟩ := Prod.mk.inj hshape
  obtain ⟨field, hfield, hentry⟩ : ∃ field ∈ cls.fields,
      (field.name, field.multiplicity) = ("k", .one) :=
    List.mem_map.1 (hfields ▸ List.mem_cons_self)
  obtain ⟨hname, hone⟩ := Prod.mk.inj hentry
  have hfirst : ((firstHolder? (Discoverer.fold ⟨.standard, .pluralStrip⟩ (.empty : Registry Rat) "A"
      (rootObjects [.object earlierInside])).2.encounters "A" "k").bind (Assoc.find? "k")).map
        Document.isArray = some true := by decide +kernel
  obtain ⟨value, hvalue, harray⟩ := Option.map_eq_some_iff.1 hfirst
  obtain ⟨object, hobject, hmember⟩ := Option.bind_eq_some_iff.1 hvalue
  rw [hfold] at hobject
  refine ⟨cls, hcls, field, hfield, object, value, hid ▸ hname ▸ hobject, hname ▸ hmember, ?_⟩
  rw [hone, harray]
  decide

end DocModel
