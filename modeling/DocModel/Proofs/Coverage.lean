import DocModel.Proofs.Incremental

set_option autoImplicit false

/-! # Coverage never feeds back

Coverage stands in the same records that discovery reads and extends. It can be attached between any
two operations on a registry, and none of them notices: results, errors and everything else that is
stored are the same, and where coverage is attached in the end, it is the same as well. In the same
way a refinement does not notice the coverage of the model it starts from. -/

namespace DocModel

variable {ρ : Type}

/-! ## Operations on a registry -/

/-- An operation on a registry. Every step of discovery has a policy of its own. -/
inductive Operation (ρ : Type) where
  | discoverClass (policy : Policy) (id : String) (object : Members)
  | createField (policy : Policy) (id name : String) (value : Document) (required : Bool)
  | typeOf (policy : Policy) (name : String) (value : Document)
  | put (cls : Model.Class ρ)
  | reseed

namespace Operation

/-- What an operation tells its caller: the result or the error of a step of discovery. -/
inductive Outcome where
  | entered (outcome : Except Error String)
  | added (outcome : Except Error Unit)
  | typed (outcome : Except Error ValueType)
  | done

/-- The outcome of an operation and the registry that it leaves, also when it fails. -/
def run (r : Registry ρ) : Operation ρ → Outcome × Registry ρ
  | .discoverClass policy id object =>
    ((Discovery.discoverClass policy id object).run (.of r)).map .entered (·.registry)
  | .createField policy id name value required =>
    ((Discovery.createField policy id name value required).run (.of r)).map .added (·.registry)
  | .typeOf policy name value =>
    ((Discovery.typeOf policy name value).run (.of r)).map .typed (·.registry)
  | .put cls => (.done, r.put cls)
  | .reseed => (.done, r.reseed)

/-- **No operation looks at coverage.** -/
theorem run_alike (operation : Operation ρ) {r s : Registry ρ} (h : r.Alike s) :
    (operation.run r).1 = (operation.run s).1 ∧ (operation.run r).2.Alike (operation.run s).2 := by
  have hof : (Context.of r).Alike (.of s) := ⟨h, rfl⟩
  cases operation with
  | discoverClass policy id object =>
    obtain ⟨houtcome, hafter⟩ := Discovery.run_alike policy (.entering id object) trivial hof
    exact ⟨congrArg Outcome.entered houtcome, hafter.registry⟩
  | createField policy id name value required =>
    obtain ⟨houtcome, hafter⟩ := Discovery.run_createField_alike policy id name value required hof
    exact ⟨congrArg Outcome.added houtcome, hafter.registry⟩
  | typeOf policy name value =>
    obtain ⟨houtcome, hafter⟩ := Discovery.run_alike policy (.typing name value) trivial hof
    exact ⟨congrArg Outcome.typed houtcome, hafter.registry⟩
  | put cls => exact ⟨rfl, h.put cls⟩
  | reseed => exact ⟨rfl, h.reseed⟩

end Operation

/-! ## Programs -/

/-- A step of a program on a registry. -/
inductive Instruction (ρ : Type) where
  | perform (operation : Operation ρ)
  | computeCoverage

/-- The operation of a step, unless it attaches coverage. -/
def Instruction.operation? : Instruction ρ → Option (Operation ρ)
  | .perform operation => some operation
  | .computeCoverage => none

/-- Steps that are made one after the other. An operation that fails does not end the program. -/
abbrev Program (ρ : Type) := List (Instruction ρ)

namespace Program

/-- The operations of the program, in order. -/
def operations (program : Program ρ) : List (Operation ρ) :=
  program.filterMap Instruction.operation?

variable [Ratio ρ]

/-- For every operation its outcome and the registry after it. -/
def trace : Program ρ → Registry ρ → List (Operation.Outcome × Registry ρ)
  | [], _ => []
  | .perform operation :: rest, r => operation.run r :: trace rest (operation.run r).2
  | .computeCoverage :: rest, r => trace rest r.computeCoverage

/-- The registry in the end. -/
def final : Program ρ → Registry ρ → Registry ρ
  | [], r => r
  | .perform operation :: rest, r => final rest (operation.run r).2
  | .computeCoverage :: rest, r => final rest r.computeCoverage

theorem final_append (first second : Program ρ) (r : Registry ρ) :
    final (first ++ second) r = final second (final first r) := by
  induction first generalizing r with
  | nil => rfl
  | cons instruction rest ih =>
    cases instruction with
    | perform operation => exact ih _
    | computeCoverage => exact ih _

/-- What is to be seen after an operation, but for coverage. -/
def seen (entry : Operation.Outcome × Registry ρ) : Operation.Outcome × List (Model.Class ρ) :=
  (entry.1, entry.2.classes.map Model.Class.clearCoverage)

/-- A program does what its operations do without any coverage in between. -/
theorem alike_operations (program : Program ρ) {r s : Registry ρ} (h : r.Alike s) :
    (trace program r).map seen = (trace (program.operations.map .perform) s).map seen
      ∧ (final program r).Alike (final (program.operations.map .perform) s) := by
  induction program generalizing r s with
  | nil => exact ⟨rfl, h⟩
  | cons instruction rest ih =>
    cases instruction with
    | perform operation =>
      obtain ⟨houtcome, hafter⟩ := operation.run_alike h
      obtain ⟨htrace, hfinal⟩ := ih hafter
      refine ⟨?_, hfinal⟩
      have hseen : seen (operation.run r) = seen (operation.run s) := Prod.ext houtcome hafter
      exact List.cons_eq_cons.2 ⟨hseen, htrace⟩
    | computeCoverage => exact ih h.computeCoverage

/-- Two programs of the same operations, with coverage attached wherever they like. -/
theorem alike_of_operations_eq {first second : Program ρ}
    (h : first.operations = second.operations) (r : Registry ρ) :
    (trace first r).map seen = (trace second r).map seen
      ∧ (final first r).Alike (final second r) := by
  obtain ⟨htrace, hfinal⟩ := first.alike_operations (r := r) (s := r) rfl
  obtain ⟨htrace', hfinal'⟩ := second.alike_operations (r := r) (s := r) rfl
  rw [h] at htrace hfinal
  exact ⟨htrace.trans htrace'.symm, Eq.trans hfinal (Eq.symm hfinal')⟩

/-- A program that attaches coverage in the end. -/
theorem exists_of_getLast? {program : Program ρ}
    (h : program.getLast? = some .computeCoverage) (r : Registry ρ) :
    ∃ start : Program ρ, start.operations = program.operations
      ∧ final program r = (final start r).computeCoverage := by
  obtain ⟨start, rfl⟩ := List.getLast?_eq_some_iff.1 h
  refine ⟨start, ?_, final_append start _ r⟩
  simp [operations, Instruction.operation?]

end Program

/-! ## Models -/

/-- The model without the coverage of its fields. -/
def Model.clearCoverage (model : Model ρ) : Model ρ :=
  { model with classes := model.classes.map Class.clearCoverage }

/-- A run starts from the same classes, whatever coverage the model has. -/
theorem Discoverer.seed_eq_of_clearCoverage_eq {model other : Model ρ}
    (h : model.clearCoverage = other.clearCoverage) : seed model = seed other := by
  have hclasses : model.classes.map Model.Class.clearCoverage
      = other.classes.map Model.Class.clearCoverage := congrArg Model.classes h
  unfold seed
  rw [hclasses]

/-- **Coverage never feeds back into discovery.** Two programs that perform the same operations on a
registry have the same outcomes and leave the same classes after each of them, coverage apart,
wherever coverage is computed in between; if both compute it in the end, the classes are the same
with their coverage. Refinements of two models that differ in coverage only are equal. -/
theorem coverage_never_feeds_back [Ratio ρ] :
    (∀ (first second : Program ρ) (r : Registry ρ), first.operations = second.operations →
      (first.trace r).map Program.seen = (second.trace r).map Program.seen
      ∧ (first.getLast? = some .computeCoverage → second.getLast? = some .computeCoverage →
        (first.final r).classes = (second.final r).classes))
    ∧ ∀ (d : Discoverer) (model other : Model ρ), model.clearCoverage = other.clearCoverage →
      (∀ documents : List Document, d.refine model documents = d.refine other documents)
      ∧ ∀ source : Source, d.refineSource model source = d.refineSource other source := by
  constructor
  · intro first second r hoperations
    refine ⟨(Program.alike_of_operations_eq hoperations r).1, fun hfirst hsecond => ?_⟩
    obtain ⟨start, hstart, hfinal⟩ := Program.exists_of_getLast? hfirst r
    obtain ⟨start', hstart', hfinal'⟩ := Program.exists_of_getLast? hsecond r
    have hsame : start.operations = start'.operations :=
      hstart.trans (hoperations.trans hstart'.symm)
    rw [hfinal, hfinal']
    exact (Program.alike_of_operations_eq hsame r).2.classes_computeCoverage_eq
  · intro d model other hclear
    have hname : model.name = other.name := congrArg (·.name) hclear
    have hseed := Discoverer.seed_eq_of_clearCoverage_eq hclear
    refine ⟨fun documents => ?_, fun source => ?_⟩
    · rw [Discoverer.refine, Discoverer.refine, hname, hseed]
    · rw [Discoverer.refineSource, Discoverer.refineSource, hname, hseed]

/-- The object is folded twice, with coverage in between or not, and a model is refined by it with
its coverage or without. -/
theorem coverage_never_feeds_back_selfNested :
    (Program.final [.perform (.discoverClass ⟨.verbatim, none⟩ "A" selfNested), .computeCoverage,
        .perform (.discoverClass ⟨.verbatim, none⟩ "A" selfNested), .computeCoverage]
        (.empty : Registry Rat)).classes
      = (Program.final [.perform (.discoverClass ⟨.verbatim, none⟩ "A" selfNested),
        .perform (.discoverClass ⟨.verbatim, none⟩ "A" selfNested), .computeCoverage]
        (.empty : Registry Rat)).classes
    ∧ ∃ model : Model Rat,
      Discoverer.discover ⟨.standard, .verbatim⟩ "A" [.object selfNested] = .ok model
        ∧ model.classes.map (·.fields.map (·.coverage.isSome)) = [[true]]
        ∧ Discoverer.refine ⟨.standard, .verbatim⟩ model.clearCoverage [.object selfNested]
          = Discoverer.refine ⟨.standard, .verbatim⟩ model [.object selfNested] := by
  have hblind := coverage_never_feeds_back (ρ := Rat)
  constructor
  · refine (hblind.1 _ _ .empty ?_).2 ?_ ?_ <;> rfl
  · have hcovered : (Discoverer.discover ⟨.standard, .verbatim⟩ "A" [.object selfNested] :
        Except Error (Model Rat)).toOption.map (·.classes.map (·.fields.map (·.coverage.isSome)))
        = some [[true]] := by decide +kernel
    obtain ⟨model, hmodel, hshown⟩ := exists_eq_ok_of_toOption_map hcovered
    refine ⟨model, hmodel, hshown, (hblind.2 _ _ _ ?_).1 _⟩
    simp [Model.clearCoverage, Model.Class.clearCoverage_clearCoverage]

end DocModel
