import DocModel.Proofs.Counts

set_option autoImplicit false

/-! # Well-formed registries

What every registry satisfies that discovery, coverage, a new start from the same classes and the
insertion of well-formed classes can make from the empty one, however often a step fails half way.
Soundness and distinct names are invariants of classes. That a field is not counted more often than
its class is not: in the middle of an object the class has already counted what its fields have not
counted yet. It holds again between steps, by the balance of counts and encounters. -/

namespace DocModel

variable {ρ : Type}

/-! ## Well-formedness -/

/-- Attributes hold scalars, targets are known, names are distinct, and no field was seen more often
than the class, or never. -/
structure Model.Class.WellFormed (known : String → Prop) (cls : Model.Class ρ) : Prop where
  seen : 1 ≤ cls.occurrences
  names : (cls.fields.map (·.name)).Nodup
  kinds : ∀ field ∈ cls.fields, field.kind = .attribute ↔ field.valueType.isScalar = true
  targets : ∀ field ∈ cls.fields, ∀ id, field.valueType = .instanceOf id → known id
  counts : ∀ field ∈ cls.fields, 1 ≤ field.occurrences ∧ field.occurrences ≤ cls.occurrences

namespace Model.Class

theorem kind_eq_iff {kind : FieldKind} {type : ValueType} :
    kind = type.kind ↔ (kind = .attribute ↔ type.isScalar = true) := by
  cases kind <;> cases type <;> simp [ValueType.kind, ValueType.isScalar]

/-- The parts of well-formedness that hold at every point of a traversal, and the one that does
not. -/
theorem wellFormed_iff {known : String → Prop} {cls : Model.Class ρ} :
    cls.WellFormed known ↔ cls.Sound known ∧ cls.DistinctNames
      ∧ ∀ field ∈ cls.fields, field.occurrences ≤ cls.occurrences := by
  constructor
  · intro h
    refine ⟨⟨fun field hfield => ⟨?_, ?_, ?_⟩, h.seen⟩, h.names, fun field hfield => ?_⟩
    · exact kind_eq_iff.2 (h.kinds field hfield)
    · exact h.targets field hfield
    · exact (h.counts field hfield).1
    · exact (h.counts field hfield).2
  · rintro ⟨hsound, hnames, hle⟩
    refine ⟨hsound.seen, hnames, ?_, ?_, ?_⟩ <;> intro field hfield
    · exact kind_eq_iff.1 (hsound.fields field hfield).kind
    · exact (hsound.fields field hfield).target
    · exact ⟨(hsound.fields field hfield).seen, hle field hfield⟩

theorem WellFormed.mono {known more : String → Prop} {cls : Model.Class ρ}
    (h : cls.WellFormed known) (hmore : ∀ id, known id → more id) : cls.WellFormed more :=
  ⟨h.seen, h.names, h.kinds, fun field hfield id hid => hmore id (h.targets field hfield id hid),
    h.counts⟩

theorem WellFormed.computeCoverage [Ratio ρ] {known : String → Prop} {cls : Model.Class ρ}
    (h : cls.WellFormed known) : cls.computeCoverage.WellFormed known := by
  refine ⟨h.seen, cls.names_computeCoverage ▸ h.names, ?_, ?_, ?_⟩ <;> intro field hfield <;>
    obtain ⟨old, hold, rfl⟩ := List.mem_map.1 hfield
  · exact h.kinds old hold
  · exact h.targets old hold
  · exact h.counts old hold

end Model.Class

namespace Registry

/-- Ids are distinct, and every class is well-formed with registered targets. -/
structure WellFormed (r : Registry ρ) : Prop where
  ids : (r.classes.map (·.id)).Nodup
  classes : ∀ cls ∈ r.classes, cls.WellFormed fun id => r.contains id = true

/-- No field has counted more than its class. Of fields of one name the first one is meant. -/
def Bounded (r : Registry ρ) : Prop := ∀ id name, r.fieldCount id name ≤ r.classCount id

theorem bounded_of_counts {r : Registry ρ}
    (h : ∀ cls ∈ r.classes, ∀ field ∈ cls.fields, field.occurrences ≤ cls.occurrences) :
    r.Bounded := by
  intro id name
  cases hfield : r.field? id name with
  | none => simp [fieldCount_of_field?_eq_none hfield]
  | some field =>
    obtain ⟨cls, hcls, hin⟩ := Option.bind_eq_some_iff.1 hfield
    obtain rfl := id_of_get? hcls
    rw [fieldCount_of_field? hfield, classCount_of_mem (mem_of_get? hcls)]
    exact h cls (mem_of_get? hcls) field (Model.Class.mem_of_field? hin)

theorem Bounded.le_of_field? {r : Registry ρ} (h : r.Bounded) {cls : Model.Class ρ}
    (hcls : cls ∈ r.classes) {name : String} {field : Model.Field ρ}
    (hfield : r.field? cls.id name = some field) : field.occurrences ≤ cls.occurrences := by
  have hle := h cls.id name
  rwa [classCount_of_mem hcls, fieldCount_of_field? hfield] at hle

theorem wellFormed_iff {r : Registry ρ} :
    r.WellFormed ↔ r.Sound ∧ r.DistinctNames ∧ r.Bounded := by
  constructor
  · intro h
    have hparts := fun cls hcls => Model.Class.wellFormed_iff.1 (h.classes cls hcls)
    exact ⟨fun cls hcls => (hparts cls hcls).1, fun cls hcls => (hparts cls hcls).2.1,
      bounded_of_counts fun cls hcls => (hparts cls hcls).2.2⟩
  · rintro ⟨hsound, hnames, hbounded⟩
    refine ⟨r.nodup_ids, fun cls hcls => Model.Class.wellFormed_iff.2 ⟨hsound cls hcls, ?_, ?_⟩⟩
    · exact hnames cls hcls
    · exact fun field hfield => hbounded.le_of_field? hcls (hnames.field?_of_mem hcls hfield)

/-- Only the classes matter, not how they are found. -/
theorem WellFormed.of_classes_eq {r s : Registry ρ} (h : r.WellFormed)
    (heq : s.classes = r.classes) : s.WellFormed := by
  refine ⟨heq ▸ h.ids, fun cls hcls => ?_⟩
  refine (h.classes cls (heq ▸ hcls)).mono fun id hid => ?_
  rw [contains_iff_mem_ids, Registry.ids] at hid ⊢
  rwa [heq]

theorem wellFormed_empty : (empty : Registry ρ).WellFormed := ⟨List.nodup_nil, nofun⟩

theorem WellFormed.computeCoverage [Ratio ρ] {r : Registry ρ} (h : r.WellFormed) :
    r.computeCoverage.WellFormed := by
  refine ⟨r.computeCoverage.nodup_ids, fun cls hcls => ?_⟩
  obtain ⟨old, hold, rfl⟩ := List.mem_map.1 hcls
  refine (h.classes old hold).computeCoverage.mono fun id hid => ?_
  rw [contains_iff_mem_ids] at hid ⊢
  rwa [ids_computeCoverage]

/-- A well-formed class may refer to itself. -/
theorem WellFormed.put {r : Registry ρ} (h : r.WellFormed) {cls : Model.Class ρ}
    (hcls : cls.WellFormed fun id => r.contains id = true ∨ id = cls.id) :
    (r.put cls).WellFormed := by
  refine ⟨(r.put cls).nodup_ids, fun other hother => ?_⟩
  rcases mem_classes_put.1 hother with rfl | ⟨hold, -⟩
  · refine hcls.mono fun id hid => ?_
    rcases hid with hold | rfl <;> simp [contains_put, *]
  · refine (h.classes other hold).mono fun id hid => ?_
    simp [contains_put, hid]

end Registry

/-! ## Steps of discovery -/

namespace Discovery

variable {policy : Policy} {c : Context ρ}

/-- A task that has room for the members that it owes leaves no field that has counted more than
its class, whatever the outcome. -/
theorem Runs.bounded {task : Task} {c' : Context ρ} {outcome : Except Error task.Result}
    (h : Runs policy task c outcome c') (hdistinct : task.Distinct)
    (hroom : ∀ id name,
      c.registry.fieldCount id name + task.owed id name ≤ c.registry.classCount id) :
    c'.registry.Bounded := by
  intro id name
  -- every encounter that the field counts is one that the class counts
  obtain ⟨log, -, hclass, hfield, -⟩ := h.exists_log hdistinct
  have hshare := timesPresent_le_timesEntered log id name
  have hbefore := hroom id name
  have hafter := hfield id name
  rw [hclass id]
  omega

theorem Runs.wellFormed {task : Task} {c' : Context ρ} {outcome : Except Error task.Result}
    (h : Runs policy task c outcome c') (hdistinct : task.Distinct) (hwell : c.registry.WellFormed)
    (hroom : ∀ id name,
      c.registry.fieldCount id name + task.owed id name ≤ c.registry.classCount id) :
    c'.registry.WellFormed := by
  obtain ⟨hsound, hnames, -⟩ := Registry.wellFormed_iff.1 hwell
  exact Registry.wellFormed_iff.2
    ⟨h.sound hsound, h.distinctNames hnames, h.bounded hdistinct hroom⟩

/-- A task that is started with nothing owed needs no room. -/
theorem run_wellFormed (task : Task) (hready : task.Ready c) (hdistinct : task.Distinct)
    (howed : ∀ id name, task.owed id name = 0) (hwell : c.registry.WellFormed) :
    ((task.step policy).run c).2.registry.WellFormed := by
  refine (runs_run policy hready).wellFormed hdistinct hwell fun id name => ?_
  rw [howed, Nat.add_zero]
  exact (Registry.wellFormed_iff.1 hwell).2.2 id name

/-- There is room for a new field: its class was seen, and the field was not. -/
theorem run_createField_wellFormed (id name : String) {value : Document} (required : Bool)
    (hdistinct : value.Distinct) (hwell : c.registry.WellFormed) :
    ((createField policy id name value required).run c).2.registry.WellFormed := by
  by_cases hready : (Task.adding id name value required).Ready c
  -- the member that is owed belongs to no object of the log
  · obtain ⟨hsound, -, hbounded⟩ := Registry.wellFormed_iff.1 hwell
    refine (runs_run policy hready).wellFormed hdistinct hwell fun other label => ?_
    by_cases hsame : other = id ∧ label = name
    · obtain ⟨rfl, rfl⟩ := hsame
      obtain ⟨cls, hcls⟩ : ∃ cls, c.registry.get? other = some cls := by
        rw [← Option.isSome_iff_exists, ← Registry.contains_eq_isSome_get?]
        exact hready.1
      have hseen := (hsound cls (Registry.mem_of_get? hcls)).seen
      have hnew := Registry.fieldCount_of_field?_eq_none hready.2
      simp only [Task.owed, hnew, Registry.classCount, hcls]
      simpa using hseen
    · simp only [Task.owed, hsame, ↓reduceIte, Nat.add_zero]
      exact hbounded other label
  · rw [run_createField_of_not_ready hready]
    exact hwell

end Discovery

/-! ## Every registry that can be reached -/

namespace Registry

/-- What can be made from the empty registry. Every step may have a policy of its own, documents
have distinct names, and a step of discovery counts with the registry it leaves, also when it
fails. -/
inductive Reachable [Ratio ρ] : Registry ρ → Prop
  | empty : Reachable .empty
  | discoverClass {c : Context ρ} (policy : Policy) (id : String) {object : Members} :
      Reachable c.registry → (Document.object object).Distinct →
      Reachable ((Discovery.discoverClass policy id object).run c).2.registry
  | createField {c : Context ρ} (policy : Policy) (id name : String) {value : Document}
      (required : Bool) : Reachable c.registry → value.Distinct →
      Reachable ((Discovery.createField policy id name value required).run c).2.registry
  | typeOf {c : Context ρ} (policy : Policy) (name : String) {value : Document} :
      Reachable c.registry → value.Distinct →
      Reachable ((Discovery.typeOf policy name value).run c).2.registry
  | computeCoverage {r : Registry ρ} : Reachable r → Reachable r.computeCoverage
  | reseed {r : Registry ρ} : Reachable r → Reachable r.reseed
  | put {r : Registry ρ} {cls : Model.Class ρ} : Reachable r →
      cls.WellFormed (fun id => r.contains id = true ∨ id = cls.id) → Reachable (r.put cls)

/-- **Every registry that can be reached is well-formed**, also where the last step has failed and
left what it had done so far. -/
theorem reachable_wellFormed [Ratio ρ] {r : Registry ρ} (h : Reachable r) : r.WellFormed := by
  induction h with
  | empty => exact wellFormed_empty
  | discoverClass policy id _ hdistinct ih =>
    exact Discovery.run_wellFormed (.entering id _) trivial hdistinct (fun _ _ => rfl) ih
  | createField policy id name required _ hdistinct ih =>
    exact Discovery.run_createField_wellFormed id name required hdistinct ih
  | typeOf policy name _ hdistinct ih =>
    exact Discovery.run_wellFormed (.typing name _) trivial hdistinct (fun _ _ => rfl) ih
  | computeCoverage _ ih => exact ih.computeCoverage
  | reseed _ ih => exact ih.of_classes_eq (classes_reseed _)
  | put _ hcls ih => exact ih.put hcls

/-- An object whose last member has no name, so that folding it fails after the class was created
and a member was added. -/
def brokenOff : Members := [("a", .bool true), ("", .null)]

theorem reachable_wellFormed_brokenOff :
    ∃ (e : Error) (c : Context Rat),
      (Discovery.discoverClass ⟨.verbatim, none⟩ "A" brokenOff).run (.of .empty) = (.error e, c)
        ∧ c.registry.ids = ["A"] ∧ c.registry.WellFormed := by
  have hdistinct : (Document.object brokenOff).Distinct := by
    simp [brokenOff, Document.Distinct, Document.DistinctMembers]
  exact ⟨_, _, rfl, rfl, reachable_wellFormed
    (.discoverClass (c := .of .empty) ⟨.verbatim, none⟩ "A" .empty hdistinct)⟩

end Registry

end DocModel
