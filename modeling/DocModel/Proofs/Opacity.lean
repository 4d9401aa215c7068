import DocModel.Proofs.Discoverer
import DocModel.Proofs.Discovery.Simulation
import DocModel.Proofs.Registry.Invariant
import Mathlib.Data.List.Forall2

set_option autoImplicit false

/-! # Values under references are opaque

A member of a known reference is counted, and its value is not looked at. So two objects that differ
in such values only cannot be told apart by handing them to the class of the references: the call has
one outcome, and it leaves one registry. What keeps it so between one reference and the next is that
a reference stays a reference, whatever the other members do to the class. -/

namespace DocModel

variable {ρ : Type}

/-! ## Contexts in the same state -/

/-- The registry and the depth are the same. The encounters need not be, as nothing is decided by
them. -/
structure Context.SameState (c d : Context ρ) : Prop where
  registry : d.registry = c.registry
  depth : d.depth = c.depth

/-- The class of the id has a reference of this name. -/
def Registry.Refers (r : Registry ρ) (id name : String) : Prop :=
  ∃ field, r.field? id name = some field ∧ field.isReference = true

theorem Registry.Refers.extends {r s : Registry ρ} {id name : String} (h : r.Refers id name)
    (hext : r.Extends s) : s.Refers id name := by
  obtain ⟨field, hfield, href⟩ := h
  obtain ⟨grown, hgrown, hgrows⟩ := hext.field? hfield
  exact ⟨grown, hgrown, hgrows.isReference.trans href⟩

/-- Member for member the names are the same, and the values are where the name is not a hidden
one. -/
def Members.AgreeExcept (hidden : String → Prop) : Members → Members → Prop :=
  List.Forall₂ fun member twin => member.1 = twin.1 ∧ (hidden member.1 ∨ member.2 = twin.2)

namespace Discovery

/-- Contexts in the same state look the same, and every update leaves them in the same state. -/
theorem simulation_sameState : Simulation (ρ := ρ) (fun _ => True) Context.SameState where
  depth h := h.depth
  contains h _ := by rw [h.registry]
  field? name h _ := by rw [h.registry]
  inside h := ⟨h.registry, congrArg (· + 1) h.depth⟩
  outside h := ⟨h.registry, congrArg (· - 1) h.depth⟩
  enter object h _ := ⟨by simp only [Context.enter, h.registry], h.depth⟩
  modifyField name _ h _ := ⟨by simp only [Context.registry_modifyField, h.registry], h.depth⟩
  pushField field h _ := ⟨by simp only [Context.registry_pushField, h.registry], h.depth⟩

section

variable {policy : Policy} {id name : String} {creating : Bool} {c c' d : Context ρ}

/-- A member of a reference does the same with every value: the reference is counted. -/
theorem Runs.member_hidden {value other : Document} {outcome : Except Error Unit}
    (h : Runs policy (.member id creating name value) c outcome c')
    (hrefers : c.registry.Refers id name) (hsame : c.SameState d) :
    ∃ d', Runs policy (.member id creating name other) d outcome d' ∧ c'.SameState d' := by
  obtain ⟨field, hfield, href⟩ := hrefers
  have hcounted : Runs policy (.member id creating name value) c (.ok ()) _ :=
    .counted hfield href
  obtain ⟨rfl, rfl⟩ := Prod.mk.inj (h.run_eq.symm.trans hcounted.run_eq)
  refine ⟨_, .counted (hsame.registry ▸ hfield) href, ?_, hsame.depth⟩
  simp only [Context.registry_modifyField, hsame.registry]

/-- Folding members of a class in two states that are the same, where the objects agree except in
members of references. -/
theorem Runs.folding_hidden {hidden : String → Prop} {object other : Members}
    (hagree : Members.AgreeExcept hidden object other) {outcome : Except Error Unit}
    (h : Runs policy (.folding id creating object) c outcome c')
    (hhidden : ∀ name, hidden name → c.registry.Refers id name) (hsame : c.SameState d) :
    ∃ d', Runs policy (.folding id creating other) d outcome d' ∧ c'.SameState d' := by
  induction hagree generalizing c d with
  | nil =>
    cases h with
    | stop hstops => cases hstops
    | foldNil => exact ⟨d, .foldNil, hsame⟩
  | @cons member twin _ _ hhead _ ih =>
    obtain ⟨name, value⟩ := member
    obtain ⟨label, twinValue⟩ := twin
    obtain ⟨heq, hvalue⟩ := hhead
    obtain rfl : name = label := heq
    -- the two members do the same: one is counted only, or the values are equal
    have hmembers : ∀ {c₁ : Context ρ} {result : Except Error Unit},
        Runs policy (.member id creating name value) c result c₁ →
        ∃ d₁, Runs policy (.member id creating name twinValue) d result d₁ ∧ c₁.SameState d₁ := by
      intro c₁ result hmember
      rcases hvalue with hname | rfl
      · exact hmember.member_hidden (hhidden name hname) hsame
      · exact hmember.simulate simulation_sameState (fun _ _ => trivial) hsame
    cases h with
    | stop hstops => cases hstops
    | foldFails hmember =>
      obtain ⟨d₁, hrun, hafter⟩ := hmembers hmember
      exact ⟨d₁, .foldFails hrun, hafter⟩
    | foldCons hmember hrest =>
      obtain ⟨d₁, hrun, hafter⟩ := hmembers hmember
      -- what the member has done to the class leaves the references what they are
      have hlater := fun label h => (hhidden label h).extends hmember.extends
      obtain ⟨d₂, hruns, hdone⟩ := ih hrest hlater hafter
      exact ⟨d₂, .foldCons hrun hruns, hdone⟩

/-- Handing two objects to a class that agree except in members of its references. -/
theorem Runs.entering_hidden {hidden : String → Prop} {object other : Members}
    (hagree : Members.AgreeExcept hidden object other) {outcome : Except Error String}
    (h : Runs policy (.entering id object) c outcome c')
    (hhidden : ∀ name, hidden name → c.registry.Refers id name) :
    ∃ d', Runs policy (.entering id other) c outcome d' ∧ c'.SameState d' := by
  cases h with
  | stop hstops =>
    cases hstops with
    | emptyId => exact ⟨c, .stop .emptyId, rfl, rfl⟩
  | enter hne hfolded =>
    have hentered := fun label h => (hhidden label h).extends (c.extends_enter id object)
    obtain ⟨d', hruns, hafter⟩ := hfolded.folding_hidden (d := c.enter id other) hagree hentered
      ⟨rfl, rfl⟩
    exact ⟨d', .enter hne hruns, hafter⟩

end

end Discovery

/-- **Values under references are opaque.** Two objects that have the same names in the same order and
differ only in the values of members that are references of a registered class already are the same
to this class: handing in either one has the same result or the same error, and it leaves the same
registry. So no such value is ever looked at, whatever it holds and however deep it is. -/
theorem referenced_values_ignored (policy : Policy) (c : Context ρ) (id : String)
    (cls : Model.Class ρ) (object other : Members) (hcls : c.registry.get? id = some cls) (hnames : cls.DistinctNames)
    (hagree : Members.AgreeExcept
      (fun name => ∃ field ∈ cls.fields, field.name = name ∧ field.kind = .reference) object other) :
    ((Discovery.discoverClass policy id object).run c).1
        = ((Discovery.discoverClass policy id other).run c).1
      ∧ ((Discovery.discoverClass policy id object).run c).2.registry
        = ((Discovery.discoverClass policy id other).run c).2.registry := by
  have hruns : Discovery.Runs policy (.entering id object) c _ _ :=
    Discovery.runs_run policy trivial
  obtain ⟨d', htwin, hafter⟩ := hruns.entering_hidden hagree fun name => by
    rintro ⟨field, hfield, rfl, hkind⟩
    refine ⟨field, ?_, ?_⟩
    · rw [Registry.field?, hcls, Option.bind_some, Model.Class.field?_eq_some_of_mem hnames hfield]
    · rw [Model.Field.isReference, hkind]
      rfl
  have hrun : (Discovery.discoverClass policy id other).run c = (_, d') := htwin.run_eq
  rw [hrun]
  exact ⟨rfl, hafter.registry.symm⟩

/-- A class with a reference to another one. -/
def referring : Context Rat := .of (.ofClasses [⟨"C", [.new "r" (.instanceOf "D") .one true], 1⟩,
  .new "D"])

/-- An object that nests another one of its class, before a member with this value. -/
def nestedBefore (value : Document) : Members :=
  [("C", .object [("k", .null), ("r", .null)]), ("r", value)]

/-- The value has a member without a name. -/
def unnamedHidden : Members := nestedBefore (.object [("", .null)])

/-- The value is nested deeper than the limit. -/
def deepHidden : Members := nestedBefore (.array [.array [.null]])

/-- Neither of the two faults shows under the reference, also not after the class was entered
again. -/
theorem referenced_values_ignored_unnamedHidden :
    ∃ after other : Context Rat,
      (Discovery.discoverClass ⟨.verbatim, some 1⟩ "C" unnamedHidden).run referring
        = (.ok "C", after)
      ∧ (Discovery.discoverClass ⟨.verbatim, some 1⟩ "C" deepHidden).run referring
        = (.ok "C", other)
      ∧ after.registry = other.registry := by
  obtain ⟨houtcome, hregistry⟩ := referenced_values_ignored ⟨.verbatim, some 1⟩ referring "C" _
    unnamedHidden deepHidden rfl (by simp [Model.Class.DistinctNames])
    (.cons ⟨rfl, .inr rfl⟩ (.cons ⟨rfl, .inl ⟨_, List.mem_singleton_self _, rfl, rfl⟩⟩ .nil))
  obtain ⟨entered, hunnamed, hentered⟩ : ∃ entered,
      ((Discovery.discoverClass ⟨.verbatim, some 1⟩ "C" unnamedHidden).run referring).1
        = .ok entered ∧ id entered = "C" := exists_eq_ok_of_toOption_map (by decide +kernel)
  obtain rfl : entered = "C" := hentered
  exact ⟨_, _, Prod.ext hunnamed rfl, Prod.ext (houtcome.symm.trans hunnamed) rfl, hregistry⟩

end DocModel
