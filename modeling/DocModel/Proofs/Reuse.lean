import DocModel.Proofs.Coverage
import DocModel.Proofs.Opacity

set_option autoImplicit false

/-! # Contexts can be used again

A context counts the containers that are open. Every call closes what it has opened, on whatever way
it ends, and nothing is closed that is not open. So a context comes back from a call at the depth at
which it was handed in, and all that the next call can notice of the calls before is the registry that
they have left. -/

namespace DocModel

variable {ρ α β : Type}

namespace Discovery

/-! ## Depths -/

/-- The step ends at the depth at which it starts, whatever its outcome. -/
def Balanced (step : Discovery ρ α) : Prop := ∀ c : Context ρ, (step.run c).2.depth = c.depth

/-- Where the step is done one container deeper, the counter can be lowered by one in the end. -/
def Lowerable (step : Discovery ρ α) : Prop :=
  ∀ c : Context ρ, (step.run c.inside).2.outside.inside = (step.run c.inside).2

theorem Balanced.lowerable {step : Discovery ρ α} (h : Balanced step) : Lowerable step := by
  intro c
  have hraised : (step.run c.inside).2.depth = c.depth + 1 := h c.inside
  show { (step.run c.inside).2 with depth := (step.run c.inside).2.depth - 1 + 1 }
    = (step.run c.inside).2
  rw [hraised, Nat.add_sub_cancel, ← hraised]

theorem balanced_ofExcept (outcome : Except Error α) :
    Balanced (ofExcept outcome : Discovery ρ α) := fun _ => rfl

theorem Balanced.bind {step : Discovery ρ α} {next : α → Discovery ρ β} (h : Balanced step)
    (hnext : ∀ value, Balanced (next value)) : Balanced (step >>= next) := by
  intro c
  have hstep := h c
  rw [run_bind]
  rcases hrun : step.run c with ⟨_ | value, c₁⟩
  · rw [hrun] at hstep
    exact hstep
  · rw [hrun] at hstep
    exact (hnext value c₁).trans hstep

/-- A task that can be started in every context. -/
theorem Task.balanced (policy : Policy) (task : Task) (h : ∀ c : Context ρ, task.Ready c) :
    Balanced (task.step policy : Discovery ρ task.Result) :=
  fun c => (runs_run policy (h c)).depth_eq

section Calls

variable (policy : Policy)

theorem balanced_discoverClass (id : String) (object : Members) :
    Balanced (discoverClass policy id object : Discovery ρ String) :=
  Task.balanced policy (.entering id object) fun _ => trivial

theorem balanced_typeOf (name : String) (value : Document) :
    Balanced (typeOf policy name value : Discovery ρ ValueType) :=
  Task.balanced policy (.typing name value) fun _ => trivial

theorem balanced_createField (id name : String) (value : Document) (required : Bool) :
    Balanced (createField policy id name value required : Discovery ρ Unit) := by
  intro c
  by_cases hready : (Task.adding id name value required).Ready c
  · exact (runs_run policy hready).depth_eq
  · rw [run_createField_of_not_ready hready]

/-! ## Containers -/

/-- What is done with the items of an array, one container deeper. -/
def typeOfItems (name : String) (first : Document) (rest : List Document) :
    Discovery ρ ValueType := do
  let element ← ofExcept (policy.digester name)
  let general ← typeOf policy element first
  typeOfRest policy element general rest

theorem typeOf_array (name : String) (first : Document) (rest : List Document) :
    (typeOf policy name (.array (first :: rest)) : Discovery ρ ValueType)
      = if name.isEmpty then fail .emptyFieldName
        else nested policy.maxDepth (typeOfItems policy name first rest) := by
  rw [typeOf]
  rfl

theorem typeOf_object (name : String) (object : Members) :
    (typeOf policy name (.object object) : Discovery ρ ValueType)
      = if name.isEmpty then fail .emptyFieldName
        else (do
          let id ← ofExcept (policy.digester name)
          let id ← nested policy.maxDepth (discoverClass policy id object)
          return .instanceOf id) := by
  rw [typeOf]
  rfl

theorem balanced_typeOfItems (name : String) (first : Document) (rest : List Document) :
    Balanced (typeOfItems policy name first rest : Discovery ρ ValueType) := by
  refine (balanced_ofExcept _).bind fun element => ?_
  refine (balanced_typeOf policy element first).bind fun general => ?_
  exact Task.balanced policy (.typingRest element general rest) fun _ => trivial

end Calls

end Discovery

/-! ## One context for many operations -/

/-- A context that has not done anything yet, at a depth. -/
def Context.at (registry : Registry ρ) (depth : Nat) : Context ρ := ⟨registry, depth, []⟩

namespace Operation

/-- The operation within a context, which it leaves for the next one, also when it fails. -/
def runIn (c : Context ρ) : Operation ρ → Outcome × Context ρ
  | .discoverClass policy id object =>
    ((Discovery.discoverClass policy id object).run c).map .entered fun after => after
  | .createField policy id name value required =>
    ((Discovery.createField policy id name value required).run c).map .added fun after => after
  | .typeOf policy name value =>
    ((Discovery.typeOf policy name value).run c).map .typed fun after => after
  | .put cls => (.done, { c with registry := c.registry.put cls })
  | .reseed => (.done, { c with registry := c.registry.reseed })

/-- One operation after the other, all within one context: for each of them the outcome and what the
context is afterwards. -/
def reuse : List (Operation ρ) → Context ρ → List (Outcome × Context ρ)
  | [], _ => []
  | operation :: rest, c => operation.runIn c :: reuse rest (operation.runIn c).2

/-- One operation after the other, each within a context of its own over the registry that the one
before has left: for each of them the outcome and the registry afterwards. -/
def renew (depth : Nat) : List (Operation ρ) → Registry ρ → List (Outcome × Registry ρ)
  | [], _ => []
  | operation :: rest, r =>
    (operation.runIn (.at r depth)).map id (·.registry)
      :: renew depth rest (operation.runIn (.at r depth)).2.registry

theorem depth_runIn (operation : Operation ρ) (c : Context ρ) :
    (operation.runIn c).2.depth = c.depth := by
  cases operation with
  | discoverClass policy id object => exact Discovery.balanced_discoverClass policy id object c
  | createField policy id name value required =>
    exact Discovery.balanced_createField policy id name value required c
  | typeOf policy name value => exact Discovery.balanced_typeOf policy name value c
  | put cls => rfl
  | reseed => rfl

/-- Operations do not look at what a context has met. -/
theorem runIn_sameState (operation : Operation ρ) {c d : Context ρ} (h : c.SameState d) :
    (operation.runIn c).1 = (operation.runIn d).1
      ∧ (operation.runIn c).2.SameState (operation.runIn d).2 := by
  have sim := Discovery.simulation_sameState (ρ := ρ)
  cases operation with
  | discoverClass policy id object =>
    obtain ⟨houtcome, hafter⟩ := sim.run policy h (.entering id object) trivial
    exact ⟨congrArg Outcome.entered houtcome, hafter⟩
  | createField policy id name value required =>
    obtain ⟨houtcome, hafter⟩ := sim.run_createField policy h id name value required
    exact ⟨congrArg Outcome.added houtcome, hafter⟩
  | typeOf policy name value =>
    obtain ⟨houtcome, hafter⟩ := sim.run policy h (.typing name value) trivial
    exact ⟨congrArg Outcome.typed houtcome, hafter⟩
  | put cls => exact ⟨rfl, by simp only [runIn, h.registry], h.depth⟩
  | reseed => exact ⟨rfl, by simp only [runIn, h.registry], h.depth⟩

theorem sameState_at (c : Context ρ) : c.SameState (.at c.registry c.depth) := ⟨rfl, rfl⟩

theorem reuse_eq_renew (operations : List (Operation ρ)) (c : Context ρ) :
    (reuse operations c).map (fun entry => (entry.1, entry.2.registry, entry.2.depth))
      = (renew c.depth operations c.registry).map fun entry => (entry.1, entry.2, c.depth) := by
  induction operations generalizing c with
  | nil => rfl
  | cons operation rest ih =>
    obtain ⟨houtcome, hafter⟩ := operation.runIn_sameState (sameState_at c)
    have hdepth := operation.depth_runIn c
    have hrest := ih (operation.runIn c).2
    rw [hdepth] at hrest
    rw [reuse, renew, List.map_cons, List.map_cons, hrest, hafter.registry, hdepth]
    exact congrArg (· :: _) (Prod.ext houtcome (Prod.ext hafter.registry.symm rfl))

/-- The second of two arrays is as deep as the limit allows, and it is typed after the first one has
failed within. -/
example :
    (reuse [.typeOf ⟨.verbatim, some 1⟩ "A" (.array [.array [.null]]),
        .typeOf ⟨.verbatim, some 1⟩ "A" (.array [.null])] (.of (.empty : Registry ρ))).map (·.1)
      = [.typed (.error (.tooDeep 2 1)), .typed (.ok .string)] := by rfl

end Operation

/-! ## One context for many root objects -/

namespace Discovery

/-- Fold objects into one class, each within a context of its own over the registry that the one
before has left, until one of them fails. -/
def renewRoots (policy : Policy) (id : String) :
    List Members → Registry ρ → Except Error Unit × Registry ρ
  | [], r => (.ok (), r)
  | root :: rest, r =>
    match (discoverClass policy id root).run (.of r) with
    | (.ok _, after) => renewRoots policy id rest after.registry
    | (.error e, after) => (.error e, after.registry)

theorem discoverRoots_eq_renewRoots (policy : Policy) (id : String) (roots : List Members)
    {c : Context ρ} (hdepth : c.depth = 0) :
    (((discoverRoots policy id roots).run c).1, ((discoverRoots policy id roots).run c).2.registry)
      = renewRoots policy id roots c.registry := by
  induction roots generalizing c with
  | nil => rfl
  | cons root rest ih =>
    have hback := balanced_discoverClass policy id root c
    have hsame : c.SameState (.of c.registry) := ⟨rfl, hdepth.symm⟩
    obtain ⟨houtcome, hafter⟩ := simulation_sameState.run policy hsame (.entering id root) trivial
    rw [Task.step] at houtcome hafter
    rw [discoverRoots, renewRoots]
    rcases hfirst : (discoverClass policy id root).run c with ⟨outcome, c₁⟩
    rcases hfresh : (discoverClass policy id root).run (.of c.registry) with ⟨fresh, d₁⟩
    rw [hfirst] at hback
    rw [hfirst, hfresh] at houtcome hafter
    obtain rfl : outcome = fresh := houtcome
    have hregistry : d₁.registry = c₁.registry := hafter.registry
    cases outcome with
    | error e =>
      have hfails : (discard (discoverClass policy id root)).run c = (.error e, c₁) :=
        run_bind_error hfirst
      rw [run_bind_error hfails, ← hregistry]
    | ok entered =>
      rw [run_bind_ok (run_discard_ok hfirst), ih (hback.trans hdepth), ← hregistry]

end Discovery

/-- **Contexts can be used again.** Every call ends at the depth at which it starts, in every context
and with every outcome. Containers are opened at two places, for the items of an array and for an
object, and at both of them the counter can be lowered again. So in operations that follow one another
within one context, each has the outcome and leaves the registry that it has and leaves within a new
context over the registry before it, whether or not those before have failed; and a run, which folds
all of its root objects within one context, might take a new one for each of them. -/
theorem contexts_can_be_reused :
    (∀ (policy : Policy) (id : String) (object : Members),
      Discovery.Balanced (Discovery.discoverClass policy id object : Discovery ρ String))
    ∧ (∀ (policy : Policy) (id name : String) (value : Document) (required : Bool),
      Discovery.Balanced (Discovery.createField policy id name value required : Discovery ρ Unit))
    ∧ (∀ (policy : Policy) (name : String) (value : Document),
      Discovery.Balanced (Discovery.typeOf policy name value : Discovery ρ ValueType))
    ∧ (∀ (policy : Policy) (name : String) (first : Document) (rest : List Document),
      (Discovery.typeOf policy name (.array (first :: rest)) : Discovery ρ ValueType)
          = (if name.isEmpty then Discovery.fail .emptyFieldName
            else Discovery.nested policy.maxDepth (Discovery.typeOfItems policy name first rest))
        ∧ Discovery.Lowerable
          (Discovery.typeOfItems policy name first rest : Discovery ρ ValueType))
    ∧ (∀ (policy : Policy) (name : String) (object : Members),
      (Discovery.typeOf policy name (.object object) : Discovery ρ ValueType)
          = (if name.isEmpty then Discovery.fail .emptyFieldName
            else (do
              let id ← Discovery.ofExcept (policy.digester name)
              let id ← Discovery.nested policy.maxDepth (Discovery.discoverClass policy id object)
              return .instanceOf id))
        ∧ ∀ id : String, Discovery.Lowerable
          (Discovery.discoverClass policy id object : Discovery ρ String))
    ∧ (∀ (operations : List (Operation ρ)) (c : Context ρ),
      (Operation.reuse operations c).map (fun entry => (entry.1, entry.2.registry, entry.2.depth))
        = (Operation.renew c.depth operations c.registry).map
          fun entry => (entry.1, entry.2, c.depth))
    ∧ ∀ (policy : Policy) (id : String) (roots : List Members) (r : Registry ρ),
      (((Discovery.discoverRoots policy id roots).run (.of r)).1,
          ((Discovery.discoverRoots policy id roots).run (.of r)).2.registry)
        = Discovery.renewRoots policy id roots r := by
  refine ⟨Discovery.balanced_discoverClass, Discovery.balanced_createField,
    Discovery.balanced_typeOf, fun policy name first rest => ?array,
    fun policy name object => ?object, Operation.reuse_eq_renew, fun policy id roots r => ?roots⟩
  case array =>
    exact ⟨Discovery.typeOf_array policy name first rest,
      (Discovery.balanced_typeOfItems policy name first rest).lowerable⟩
  case object =>
    exact ⟨Discovery.typeOf_object policy name object,
      fun id => (Discovery.balanced_discoverClass policy id object).lowerable⟩
  case roots =>
    exact Discovery.discoverRoots_eq_renewRoots policy id roots rfl

end DocModel
