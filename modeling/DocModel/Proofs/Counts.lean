import DocModel.Proofs.Discoverer

set_option autoImplicit false

/-! # What counts mean

The counts of classes and fields against the log of encounters, for one call and for whole runs. A
class counts the objects that were handed to it and a field those of them that have a member of its
name, however they nest; what was counted before the call stays on top. -/

namespace DocModel

variable {ρ : Type}

namespace Registry

/-- From the first registry to the second one every class and every field has counted its encounters
of the log, starting from zero if it is new, and nothing is new that the log does not have. -/
structure Tallies (log : List Encounter) (before after : Registry ρ) : Prop where
  kept : before.Extends after
  ids : ∀ id, after.contains id = true
    ↔ before.contains id = true ∨ ∃ encounter ∈ log, encounter.id = id
  names : ∀ id name, (after.field? id name).isSome = true
    ↔ (before.field? id name).isSome = true
      ∨ ∃ encounter ∈ log, encounter.id = id ∧ name ∈ Assoc.keys encounter.object
  classes : ∀ cls ∈ after.classes,
    cls.occurrences = before.classCount cls.id + timesEntered log cls.id
  fields : ∀ cls ∈ after.classes, ∀ field ∈ cls.fields,
    field.occurrences
      = before.fieldCount cls.id field.name + timesPresent log cls.id field.name

theorem classCount_of_contains_eq_false {r : Registry ρ} {id : String}
    (h : r.contains id = false) : r.classCount id = 0 := by
  have hnone : r.get? id = none := by simpa [contains_eq_isSome_get?] using h
  simp [classCount, hnone]

theorem fieldCount_of_field?_eq_none {r : Registry ρ} {id name : String}
    (h : r.field? id name = none) : r.fieldCount id name = 0 := by
  simp [fieldCount, h]

@[simp]
theorem classCount_empty (id : String) : (empty : Registry ρ).classCount id = 0 :=
  classCount_of_contains_eq_false rfl

@[simp]
theorem fieldCount_empty (id name : String) : (empty : Registry ρ).fieldCount id name = 0 := rfl

/-! ## What is new was seen -/

/-- The class was there before or was seen, and so was each of its fields. -/
def SeenSince (before : Registry ρ) (cls : Model.Class ρ) : Prop :=
  (before.contains cls.id = true ∨ 1 ≤ cls.occurrences)
    ∧ ∀ field ∈ cls.fields,
      (before.field? cls.id field.name).isSome = true ∨ 1 ≤ field.occurrences

theorem classInvariant_seenSince (before : Registry ρ) :
    ClassInvariant fun _ cls => before.SeenSince cls where
  mono h _ := h
  new _ _ := ⟨Or.inr (Nat.le_refl 1), fun _ h => absurd h List.not_mem_nil⟩
  recordOccurrence h := ⟨h.1.imp id Nat.le_succ_of_le, h.2⟩
  modifyField name h hf := by
    refine ⟨h.1, fun field hfield => ?_⟩
    rcases Model.mem_modifyField hfield with hold | ⟨old, hold, -, rfl⟩
    · exact h.2 field hold
    · rw [(hf old).name]
      exact (h.2 old hold).imp id fun hseen => Nat.le_trans hseen (hf old).occurrences
  pushField multiplicity required h _ _ := by
    refine ⟨h.1, fun field hfield => ?_⟩
    rcases List.mem_append.1 hfield with hold | hpushed
    · exact h.2 field hold
    · rw [List.mem_singleton.1 hpushed]
      exact Or.inr (Nat.le_refl 1)

theorem each_seenSince (r : Registry ρ) : r.Each fun _ cls => r.SeenSince cls := by
  refine fun cls hcls => ⟨Or.inl (contains_iff_mem_ids.2 (List.mem_map_of_mem hcls)), ?_⟩
  intro field hfield
  refine Or.inl ?_
  rw [field?, get?_of_mem hcls, Option.bind_some, ← Option.not_isNone, Bool.not_eq_true',
    ← Bool.not_eq_true, Option.isNone_iff_eq_none, Model.Class.field?_eq_none_iff]
  exact fun hnone => hnone (List.mem_map_of_mem hfield)

/-- A class is there that was there before or has counted something since. -/
theorem contains_iff_of_classCount {before after : Registry ρ} {id : String} {n : Nat}
    (hkept : before.Extends after) (hseen : after.Each fun _ cls => before.SeenSince cls)
    (hcount : after.classCount id = before.classCount id + n) :
    after.contains id = true ↔ before.contains id = true ∨ 0 < n := by
  constructor
  · intro hid
    obtain ⟨cls, hcls, rfl⟩ := List.mem_map.1 (contains_iff_mem_ids.1 hid)
    cases hbefore : before.contains cls.id with
    | true => exact Or.inl rfl
    | false =>
      have hnew := (hseen cls hcls).1.resolve_left (by simp [hbefore])
      have hzero := classCount_of_contains_eq_false hbefore
      rw [classCount_of_mem hcls] at hcount
      exact Or.inr (by omega)
  · rintro (hold | hpos)
    · exact hkept.contains hold
    · cases hcontains : after.contains id with
      | true => rfl
      | false =>
        have hzero := classCount_of_contains_eq_false hcontains
        omega

/-- A field is there that was there before or has counted something since. -/
theorem field?_iff_of_fieldCount {before after : Registry ρ} {id name : String} {n : Nat}
    (hkept : before.Extends after) (hseen : after.Each fun _ cls => before.SeenSince cls)
    (hcount : after.fieldCount id name = before.fieldCount id name + n) :
    (after.field? id name).isSome = true ↔ (before.field? id name).isSome = true ∨ 0 < n := by
  constructor
  · intro hname
    obtain ⟨field, hfound⟩ := Option.isSome_iff_exists.1 hname
    obtain ⟨cls, hcls, hin⟩ := Option.bind_eq_some_iff.1 hfound
    obtain rfl := id_of_get? hcls
    obtain rfl := Model.Class.name_of_field? hin
    cases hbefore : before.field? cls.id field.name with
    | some old => exact Or.inl rfl
    | none =>
      have hsince := (hseen cls (mem_of_get? hcls)).2 field (Model.Class.mem_of_field? hin)
      have hnew := hsince.resolve_left (by simp [hbefore])
      have hzero := fieldCount_of_field?_eq_none hbefore
      rw [fieldCount_of_field? hfound] at hcount
      exact Or.inr (by omega)
  · rintro (hold | hpos)
    · obtain ⟨field, hfound⟩ := Option.isSome_iff_exists.1 hold
      obtain ⟨grown, hgrown, -⟩ := hkept.field? hfound
      exact Option.isSome_iff_exists.2 ⟨grown, hgrown⟩
    · cases hfound : after.field? id name with
      | some field => rfl
      | none =>
        have hzero := fieldCount_of_field?_eq_none hfound
        omega

/-- Counts by id and name say everything where names are distinct and what is new was seen. -/
theorem tallies_of_counts {log : List Encounter} {before after : Registry ρ}
    (hkept : before.Extends after) (hnames : after.DistinctNames)
    (hseen : after.Each fun _ cls => before.SeenSince cls)
    (hclass : ∀ id, after.classCount id = before.classCount id + timesEntered log id)
    (hfield : ∀ id name,
      after.fieldCount id name = before.fieldCount id name + timesPresent log id name) :
    Tallies log before after where
  kept := hkept
  ids id := by
    rw [contains_iff_of_classCount hkept hseen (hclass id), timesEntered_pos]
  names id name := by
    rw [field?_iff_of_fieldCount hkept hseen (hfield id name), timesPresent_pos]
  classes cls hcls := by
    rw [← classCount_of_mem hcls]
    exact hclass cls.id
  fields cls hcls field hin := by
    rw [← fieldCount_of_field? (hnames.field?_of_mem hcls hin)]
    exact hfield cls.id field.name

end Registry

namespace Discovery

/-- A task that owes nothing in the beginning and succeeds has tallied what it met. -/
theorem Runs.tallies {policy : Policy} {task : Task} {c c' : Context ρ}
    {outcome : Except Error task.Result} (h : Runs policy task c outcome c')
    (hdistinct : task.Distinct) (howed : ∀ id name, task.owed id name = 0)
    (hok : outcome.isOk = true) (hnames : c.registry.DistinctNames) :
    ∃ log, c'.encounters = log ++ c.encounters ∧ Registry.Tallies log c.registry c'.registry := by
  obtain ⟨log, hlog, hclass, -, hfield⟩ := h.exists_log hdistinct
  have hseen := h.each (Registry.classInvariant_seenSince c.registry) c.registry.each_seenSince
  refine ⟨log, hlog, Registry.tallies_of_counts h.extends (h.distinctNames hnames) hseen hclass ?_⟩
  intro id name
  rw [hfield hok id name, howed, Nat.add_zero]

/-! ## Runs from nothing

All that is there has been counted, so the log says what is there. -/

section Roots

variable {policy : Policy} {id : String} {roots : List Members} {c : Context ρ}

theorem Runs.classCount_roots (h : Runs policy (.roots id roots) (.of .empty) (.ok ()) c)
    (label : String) : c.registry.classCount label = timesEntered c.encounters label := by
  simpa [timesEntered, Context.of] using h.classCount_add label

theorem Runs.fieldCount_roots (h : Runs policy (.roots id roots) (.of .empty) (.ok ()) c)
    (label name : String) :
    c.registry.fieldCount label name = timesObserved c.encounters label name := by
  simpa [timesObserved, Context.of, Task.owed] using (h.balance label name).eq rfl

/-- A class is there that has counted an object. -/
theorem Runs.contains_roots_iff (h : Runs policy (.roots id roots) (.of .empty) (.ok ()) c)
    (label : String) : c.registry.contains label = true ↔ 0 < c.registry.classCount label := by
  have hseen := h.each (Registry.classInvariant_seenSince .empty) (Registry.each_seenSince _)
  refine (Registry.contains_iff_of_classCount h.extends hseen (Nat.zero_add _).symm).trans ?_
  exact or_iff_right Bool.false_ne_true

/-- A field is there that has counted a member. -/
theorem Runs.field?_roots_iff (h : Runs policy (.roots id roots) (.of .empty) (.ok ()) c)
    (label name : String) :
    (c.registry.field? label name).isSome = true ↔ 0 < c.registry.fieldCount label name := by
  have hseen := h.each (Registry.classInvariant_seenSince .empty) (Registry.each_seenSince _)
  refine (Registry.field?_iff_of_fieldCount h.extends hseen (Nat.zero_add _).symm).trans ?_
  exact or_iff_right Bool.false_ne_true

end Roots

end Discovery

/-! ## Models -/

/-- The counts of a model are those of the log: its classes are the ids that were met, and the
fields of a class are the names that its objects have. -/
structure Model.Tallies (log : List Encounter) (model : Model ρ) : Prop where
  ids : ∀ id, id ∈ model.classIds ↔ ∃ encounter ∈ log, encounter.id = id
  names : ∀ cls ∈ model.classes, ∀ name, name ∈ cls.fields.map (·.name)
    ↔ ∃ encounter ∈ log, encounter.id = cls.id ∧ name ∈ Assoc.keys encounter.object
  classes : ∀ cls ∈ model.classes, cls.occurrences = timesEntered log cls.id
  fields : ∀ cls ∈ model.classes, ∀ field ∈ cls.fields,
    field.occurrences = timesPresent log cls.id field.name

/-- A registry that was empty before the log makes a model with the counts of the log. -/
theorem Registry.Tallies.modelOf [Ratio ρ] {log : List Encounter} {r : Registry ρ}
    (h : Tallies log .empty r) (d : Discoverer) (name root : String) :
    (d.modelOf name root r).Tallies log where
  ids id := by
    have hids := h.ids id
    rw [Registry.contains_iff_mem_ids, Registry.contains_iff_mem_ids] at hids
    rw [Discoverer.classIds_modelOf, hids]
    simp [Registry.ids, Registry.empty]
  names cls hcls label := by
    obtain ⟨stored, hstored, rfl⟩ := Discoverer.mem_classes_modelOf.1 hcls
    have hnames := h.names stored.id label
    rw [Registry.field?, Registry.get?_of_mem hstored, Option.bind_some, Option.isSome_iff_ne_none,
      ne_eq, Model.Class.field?_eq_none_iff, Decidable.not_not] at hnames
    rw [stored.names_computeCoverage, hnames]
    exact or_iff_right Bool.false_ne_true
  classes cls hcls := by
    obtain ⟨stored, hstored, rfl⟩ := Discoverer.mem_classes_modelOf.1 hcls
    have hcount := h.classes stored hstored
    rwa [Registry.classCount_empty, Nat.zero_add] at hcount
  fields cls hcls field hfield := by
    obtain ⟨stored, hstored, rfl⟩ := Discoverer.mem_classes_modelOf.1 hcls
    obtain ⟨old, hold, rfl⟩ := List.mem_map.1 hfield
    have hcount := h.fields stored hstored old hold
    rwa [Registry.fieldCount_empty, Nat.zero_add] at hcount

/-- **Counts are exact.** A call that succeeds on a registry with distinct field names adds to every
count the number of objects that were handed to the class meanwhile, or that had the member. A run
that succeeds starts from nothing, so there the log says everything about ids, names and counts.
Objects have distinct member names, as they do in every document that is read. -/
theorem counts_eq_encounters [Ratio ρ] :
    (∀ (policy : Policy) (before after : Context ρ) (id entered : String) (object : Members),
      before.registry.DistinctNames → (Document.object object).Distinct →
      (Discovery.discoverClass policy id object).run before = (.ok entered, after) →
      ∃ log, after.encounters = log ++ before.encounters
        ∧ Registry.Tallies log before.registry after.registry)
    ∧ ∀ (d : Discoverer) (name : String) (documents : List Document) (model : Model ρ),
      (∀ document ∈ documents, document.Distinct) → d.discover name documents = .ok model →
      ∃ (root : String) (context : Context ρ), d.digester name = .ok root
        ∧ d.fold .empty root (rootObjects documents) = (.ok (), context)
        ∧ model.Tallies context.encounters := by
  constructor
  · intro policy before after id entered object hnames hdistinct hrun
    have hruns := (Discovery.runs_iff (.entering id object) trivial).2 hrun
    exact hruns.tallies hdistinct (fun _ _ => rfl) rfl hnames
  · intro d name documents model hdistinct hdiscover
    obtain ⟨-, hrun⟩ := Discoverer.discover_eq_ok_iff.1 hdiscover
    obtain ⟨root, context, hdigest, hfold, rfl⟩ := Discoverer.run_eq_ok_iff.1 hrun
    have hruns := Discoverer.fold_eq_iff.1 hfold
    obtain ⟨log, hlog, htallies⟩ := hruns.tallies (rootObjects_distinct hdistinct)
      (fun _ _ => rfl) rfl (Registry.each_empty _)
    -- the run starts with an empty log, so all encounters are its own
    obtain rfl : context.encounters = log := hlog.trans (List.append_nil log)
    exact ⟨root, context, hdigest, hfold, htallies.modelOf d name root⟩

/-- An object of a class that contains another object of this class under a name that both have. -/
def selfNested : Members := [("A", .object [("A", .bool true)])]

/-- The inner object adds the field, and the outer one finds it there when its value is typed. -/
theorem discover_selfNested : ∃ model : Model Rat,
    Discoverer.discover ⟨.standard, .verbatim⟩ "A" [.object selfNested] = .ok model
      ∧ model.classes.map (·.occurrences) = [2]
      ∧ model.classes.map (·.fields.map (·.occurrences)) = [[2]]
      ∧ model.classes.map (·.fields.map (·.valueType)) = [[.string]] :=
  ⟨_, Discoverer.discover_eq_ok_iff.2
    ⟨List.cons_ne_nil _ _, Discoverer.run_eq_ok_iff.2 ⟨"A", _, rfl, rfl, rfl⟩⟩, rfl, rfl, rfl⟩

theorem counts_eq_encounters_selfNested :
    (∃ (log : List Encounter) (after : Context Rat),
      (Discovery.discoverClass ⟨.verbatim, none⟩ "A" selfNested).run (.of .empty) = (.ok "A", after)
        ∧ after.encounters = log ++ [] ∧ Registry.Tallies log .empty after.registry)
    ∧ ∃ (model : Model Rat) (root : String) (context : Context Rat),
      Discoverer.discover ⟨.standard, .verbatim⟩ "A" [.object selfNested] = .ok model
        ∧ Digester.verbatim "A" = .ok root
        ∧ Discoverer.fold ⟨.standard, .verbatim⟩ .empty root (rootObjects [.object selfNested])
          = (.ok (), context)
        ∧ model.Tallies context.encounters := by
  have hdistinct : (Document.object selfNested).Distinct := by
    simp [selfNested, Document.Distinct, Document.DistinctMembers]
  constructor
  · obtain ⟨after, hrun⟩ : ∃ after : Context Rat, (Discovery.discoverClass ⟨.verbatim, none⟩ "A"
        selfNested).run (.of .empty) = (.ok "A", after) := ⟨_, rfl⟩
    obtain ⟨log, hlog, htallies⟩ := counts_eq_encounters.1 ⟨.verbatim, none⟩ (.of .empty) after
      "A" "A" selfNested (Registry.each_empty _) hdistinct hrun
    exact ⟨log, after, hrun, hlog, htallies⟩
  · obtain ⟨model, hmodel, -⟩ := discover_selfNested
    obtain ⟨root, context, hdigest, hfold, htallies⟩ := counts_eq_encounters.2
      ⟨.standard, .verbatim⟩ "A" [.object selfNested] model (by simpa using hdistinct) hmodel
    exact ⟨model, root, context, hmodel, hdigest, hfold, htallies⟩

end DocModel
