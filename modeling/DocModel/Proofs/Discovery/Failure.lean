import DocModel.Proofs.Digest
import DocModel.Proofs.Discovery.Execution
import DocModel.Proofs.Document

set_option autoImplicit false

/-! # Why discovery fails

Every failure is one of a name, of the digester or of the limit: `Runs.failure`. A limit is never
exceeded by more than one, because a traversal that is one container too deep ends there. What a
traversal looks up is always there, so no failure says that a class or a field is missing or that a
field is there already; calls that are started with such a fault are the only ones to report it. -/

namespace DocModel.Discovery

variable {ρ : Type}

/-! ## Kinds of failures -/

/-- A member at hand, at any depth, has no name, or a value is to be typed under none. -/
def Task.Unnamed : Task → Prop
  | .typing name value | .member _ _ name value | .adding _ name value _ =>
    name = "" ∨ value.HasMember ""
  | .typingRest name _ items => name = "" ∨ (Document.array items).HasMember ""
  | .entering _ object | .folding _ _ object => (Document.object object).HasMember ""
  | .roots _ objects => ∃ object ∈ objects, (Document.object object).HasMember ""

/-- Objects are to be handed to a class that has no id. -/
def Task.Unidentified : Task → Prop
  | .entering id _ | .roots id _ => id = ""
  | .typing .. | .typingRest .. | .folding .. | .member .. | .adding .. => False

/-- How a task can fail. -/
inductive Task.Failure (policy : Policy) (task : Task) : Error → Prop
  | unnamed : task.Unnamed → Task.Failure policy task .emptyFieldName
  | unidentified : task.Unidentified → Task.Failure policy task .emptyId
  /-- The digester refuses a name. -/
  | undigested {name : String} {e : Error} :
      name ≠ "" → policy.digester name = .error e → Task.Failure policy task e
  /-- The digester makes an id of a name that is no name itself. -/
  | blank {name : String} {e : Error} : name ≠ "" → policy.digester name = .ok "" →
      e = .emptyFieldName ∨ e = .emptyId → Task.Failure policy task e
  | tooDeep {limit : Nat} :
      policy.maxDepth = some limit → Task.Failure policy task (.tooDeep (limit + 1) limit)

section

variable {policy : Policy} {task part : Task}

/-- What makes a part of a task fail makes the task fail. -/
theorem Task.Failure.of_part {e : Error} (h : part.Failure policy e)
    (hname : part.Unnamed → task.Failure policy .emptyFieldName)
    (hid : part.Unidentified → task.Failure policy .emptyId) : task.Failure policy e := by
  cases h with
  | unnamed hunnamed => exact hname hunnamed
  | unidentified hunidentified => exact hid hunidentified
  | undigested hname hdigest => exact .undigested hname hdigest
  | blank hname hdigest he => exact .blank hname hdigest he
  | tooDeep hlimit => exact .tooDeep hlimit

theorem Stops.failure {depth : Nat} {e : Error} (h : Stops policy depth task e)
    (hdepth : policy.Admits depth) : task.Failure policy e := by
  cases h with
  | unnamed => exact .unnamed (Or.inl rfl)
  | arrayTooDeep _ hmax hlt | objectTooDeep _ _ hmax hlt =>
    rw [hdepth.eq_of_lt hmax hlt]
    exact .tooDeep hmax
  | arrayUndigested hname _ hdigest | objectUndigested hname hdigest =>
    exact .undigested hname hdigest
  | emptyId => exact .unidentified rfl

end

/-! ## Every failure -/

theorem eq_error_of_map_eq_error {α β : Type} {outcome : Except Error α} {f : α → β} {e : Error}
    (h : outcome.map f = .error e) : outcome = .error e := by
  cases outcome with
  | ok value => exact absurd h nofun
  | error cause => rw [Except.error.inj h]

/-- **Every failure has one of these reasons**, wherever in the traversal it arises. -/
theorem Runs.failure {policy : Policy} {task : Task} {c c' : Context ρ}
    {outcome : Except Error task.Result} (h : Runs policy task c outcome c')
    (hdepth : policy.Admits c.depth) : ∀ e, outcome = .error e → task.Failure policy e := by
  induction h with
  | stop hstops =>
    rintro _ ⟨⟩
    exact hstops.failure hdepth
  | leaf | restNil | restDiffers | foldNil | counted | retyped | addKnown | addNew | rootNil =>
    exact nofun
  | arrayFails hname hadmits hdigest _ ih =>
    intro e he
    refine (ih hadmits e he).of_part (fun hunnamed => ?_) nofun
    -- an item without a name is one under a digest that is none
    rcases hunnamed with rfl | hinside
    · exact .blank hname hdigest (Or.inl rfl)
    · exact .unnamed (Or.inr (hinside.item List.mem_cons_self))
  | array hname hadmits hdigest hfirst _ _ ih2 =>
    intro e he
    refine (ih2 (hfirst.depth_eq ▸ hadmits) e he).of_part (fun hunnamed => ?_) nofun
    rcases hunnamed with rfl | hinside
    · exact .blank hname hdigest (Or.inl rfl)
    · exact .unnamed (Or.inr hinside.of_rest_items)
  | object hname hdigest hadmits _ ih =>
    intro e he
    have hcause := ih hadmits e (eq_error_of_map_eq_error he)
    refine hcause.of_part (fun hunnamed => .unnamed (Or.inr hunnamed)) ?_
    -- the only class that an object cannot be handed to is the one of a blank digest
    rintro rfl
    exact .blank hname hdigest (Or.inr rfl)
  | restFails _ ih =>
    intro e he
    refine (ih hdepth e (by rw [Except.error.inj he])).of_part (fun hunnamed => .unnamed ?_) nofun
    exact hunnamed.imp id fun hinside => hinside.item List.mem_cons_self
  | restAgrees hitem _ _ ih2 =>
    intro e he
    refine (ih2 (hitem.depth_eq ▸ hdepth) e he).of_part (fun hunnamed => .unnamed ?_) nofun
    exact hunnamed.imp id fun hinside => hinside.of_rest_items
  | enter _ _ ih =>
    intro e he
    have hcause := ih hdepth e (eq_error_of_map_eq_error he)
    exact hcause.of_part (fun hunnamed => .unnamed hunnamed) nofun
  | foldFails _ ih =>
    intro e he
    refine (ih hdepth e he).of_part (fun hunnamed => .unnamed ?_) nofun
    rcases hunnamed with rfl | hinside
    · exact Document.hasMember_of_mem_keys List.mem_cons_self
    · exact hinside.member List.mem_cons_self
  | foldCons hmember _ _ ih2 =>
    intro e he
    refine (ih2 (hmember.depth_eq ▸ hdepth) e he).of_part (fun hunnamed => .unnamed ?_) nofun
    exact hunnamed.of_rest_members
  | retypeFails _ _ _ ih | addFails _ _ _ ih =>
    intro e he
    have hcause := ih hdepth e (by rw [Except.error.inj he])
    exact hcause.of_part (fun hunnamed => .unnamed hunnamed) nofun
  | absent _ _ _ ih =>
    intro e he
    exact (ih hdepth e he).of_part (fun hunnamed => .unnamed hunnamed) nofun
  | @rootFails _ object rest _ _ _ _ ih =>
    intro e he
    refine (ih hdepth e (by rw [Except.error.inj he])).of_part (fun hunnamed => .unnamed ?_)
      fun hid => .unidentified hid
    exact ⟨object, List.mem_cons_self, hunnamed⟩
  | rootCons hentered _ _ ih2 =>
    intro e he
    refine (ih2 (hentered.depth_eq ▸ hdepth) e he).of_part (fun hunnamed => .unnamed ?_)
      fun hid => .unidentified hid
    obtain ⟨object, hobject, hinside⟩ := hunnamed
    exact ⟨object, List.mem_cons_of_mem _ hobject, hinside⟩

end DocModel.Discovery
