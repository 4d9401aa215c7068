import DocModel.Proofs.Discovery.Execution
import DocModel.Proofs.Document

set_option autoImplicit false

/-! # Discovery under limits

A limit of nesting decides nothing but whether a traversal may go on. So what is done under one limit
is done in the same way under every other one that admits the depths that come up, unless it was cut
short for being too deep: `Runs.transfer`. -/

namespace DocModel

variable {ρ : Type}

/-! ## Limits -/

namespace Policy

/-- Up to this depth the second policy admits what the first one does. -/
def Covers (p q : Policy) (depth : Nat) : Prop :=
  ∀ n, n ≤ depth → p.Admits n → q.Admits n

/-! What covers a container covers the container itself and what is inside, and what covers several
values covers each of them. -/

theorem Covers.admits {p q : Policy} {depth inner : Nat} (h : p.Covers q (depth + (1 + inner)))
    (hadmits : p.Admits (depth + 1)) : q.Admits (depth + 1) :=
  h (depth + 1) (by omega) hadmits

theorem Covers.inside {p q : Policy} {depth inner : Nat} (h : p.Covers q (depth + (1 + inner))) :
    p.Covers q (depth + 1 + inner) := by
  rw [Nat.add_assoc]
  exact h

theorem Covers.left {p q : Policy} {depth first rest : Nat}
    (h : p.Covers q (depth + max first rest)) : p.Covers q (depth + first) :=
  fun n hn => h n (Nat.le_trans hn (Nat.add_le_add_left (Nat.le_max_left first rest) depth))

/-- What comes second starts from the depth that the first one has come back to. -/
theorem Covers.right {p q : Policy} {depth after first rest : Nat}
    (h : p.Covers q (depth + max first rest)) (hafter : after = depth) :
    p.Covers q (after + rest) := by
  rw [hafter]
  exact fun n hn => h n (Nat.le_trans hn (Nat.add_le_add_left (Nat.le_max_right first rest) depth))

/-- The limit was exceeded, by one container. -/
def Cut (policy : Policy) {α : Type} (outcome : Except Error α) : Prop :=
  ∃ max, policy.maxDepth = some max ∧ outcome = .error (.tooDeep (max + 1) max)

theorem Cut.map {policy : Policy} {α β : Type} {outcome : Except Error α}
    (h : policy.Cut outcome) (f : α → β) : policy.Cut (outcome.map f) := by
  obtain ⟨max, hmax, rfl⟩ := h
  exact ⟨max, hmax, rfl⟩

theorem Cut.error {policy : Policy} {α β : Type} {e : Error}
    (h : policy.Cut (.error e : Except Error α)) : policy.Cut (.error e : Except Error β) := by
  obtain ⟨max, hmax, he⟩ := h
  exact ⟨max, hmax, by rw [Except.error.inj he]⟩

theorem not_cut_ok {policy : Policy} {α : Type} {result : α} :
    ¬ policy.Cut (.ok result : Except Error α) := by
  rintro ⟨max, -, hok⟩
  exact absurd hok nofun

end Policy

namespace Discovery

/-! ## Depths that come up -/

/-- How many containers a task opens inside one another at most. The object that is handed to a
class does not count, because it has been opened before. -/
def Task.nesting : Task → Nat
  | .typing _ value | .member _ _ _ value | .adding _ _ value _ => value.nesting
  | .typingRest _ _ items => Document.nestingItems items
  | .entering _ object | .folding _ _ object => Document.nestingMembers object
  | .roots _ objects => (objects.map Document.nestingMembers).foldr max 0

/-! ## The same run under another limit -/

section

variable {p q : Policy}

theorem Stops.transfer {depth : Nat} {task : Task} {e : Error} (h : Stops p depth task e)
    (hdigester : q.digester = p.digester) (hdepth : p.Admits depth)
    (hcovers : p.Covers q (depth + task.nesting))
    (hcut : ¬ p.Cut (.error e : Except Error task.Result)) : Stops q depth task e := by
  cases h with
  | unnamed => exact .unnamed
  | arrayTooDeep _ hmax hlt | objectTooDeep _ _ hmax hlt =>
    refine absurd ⟨_, hmax, ?_⟩ hcut
    rw [hdepth.eq_of_lt hmax hlt]
  | arrayUndigested hname hadmits hdigest =>
    exact .arrayUndigested hname (hcovers.admits hadmits) (hdigester ▸ hdigest)
  | objectUndigested hname hdigest => exact .objectUndigested hname (hdigester ▸ hdigest)
  | emptyId => exact .emptyId

/-- **A limit does nothing but cut**: what is not cut short runs in the same way under another limit
that covers the depths that come up. -/
theorem Runs.transfer {task : Task} {c c' : Context ρ} {outcome : Except Error task.Result}
    (h : Runs p task c outcome c') (hdigester : q.digester = p.digester) (hdepth : p.Admits c.depth)
    (hcovers : p.Covers q (c.depth + task.nesting)) (hcut : ¬ p.Cut outcome) :
    Runs q task c outcome c' := by
  induction h with
  | stop hstops => exact .stop (hstops.transfer hdigester hdepth hcovers hcut)
  | leaf hname htype => exact .leaf hname htype
  | arrayFails hname hadmits hdigest _ ih =>
    exact .arrayFails hname (hcovers.admits hadmits) (hdigester ▸ hdigest)
      (ih hadmits hcovers.inside.left (fun h => hcut h.error))
  | array hname hadmits hdigest hfirst _ ih1 ih2 =>
    have hdepth1 := hfirst.depth_eq
    exact .array hname (hcovers.admits hadmits) (hdigester ▸ hdigest)
      (ih1 hadmits hcovers.inside.left Policy.not_cut_ok)
      (ih2 (hdepth1 ▸ hadmits) (hcovers.inside.right hdepth1) hcut)
  | object hname hdigest hadmits _ ih =>
    exact .object hname (hdigester ▸ hdigest) (hcovers.admits hadmits)
      (ih hadmits hcovers.inside (fun h => hcut (h.map _)))
  | restNil => exact .restNil
  | restFails _ ih => exact .restFails (ih hdepth hcovers.left (fun h => hcut h.error))
  | restDiffers _ hne ih => exact .restDiffers (ih hdepth hcovers.left Policy.not_cut_ok) hne
  | restAgrees hitem _ ih1 ih2 =>
    have hdepth1 := hitem.depth_eq
    exact .restAgrees (ih1 hdepth hcovers.left Policy.not_cut_ok)
      (ih2 (hdepth1 ▸ hdepth) (hcovers.right hdepth1) hcut)
  | enter hid _ ih => exact .enter hid (ih hdepth hcovers (fun h => hcut (h.map _)))
  | foldNil => exact .foldNil
  | foldFails _ ih => exact .foldFails (ih hdepth hcovers.left (fun h => hcut h.error))
  | foldCons hmember _ ih1 ih2 =>
    have hdepth1 := hmember.depth_eq
    exact .foldCons (ih1 hdepth hcovers.left Policy.not_cut_ok)
      (ih2 (hdepth1 ▸ hdepth) (hcovers.right hdepth1) hcut)
  | counted hfield href => exact .counted hfield href
  | retypeFails hfield href _ ih =>
    exact .retypeFails hfield href (ih hdepth hcovers (fun h => hcut h.error))
  | retyped hfield href _ ih => exact .retyped hfield href (ih hdepth hcovers Policy.not_cut_ok)
  | absent hid hfield _ ih => exact .absent hid hfield (ih hdepth hcovers hcut)
  | addFails hid hfield _ ih =>
    exact .addFails hid hfield (ih hdepth hcovers (fun h => hcut h.error))
  | addKnown hid hfield _ hknown ih =>
    exact .addKnown hid hfield (ih hdepth hcovers Policy.not_cut_ok) hknown
  | addNew hid hfield _ hnew ih =>
    exact .addNew hid hfield (ih hdepth hcovers Policy.not_cut_ok) hnew
  | rootNil => exact .rootNil
  | rootFails _ ih => exact .rootFails (ih hdepth hcovers.left (fun h => hcut h.error))
  | rootCons hentered _ ih1 ih2 =>
    have hdepth1 := hentered.depth_eq
    exact .rootCons (ih1 hdepth hcovers.left Policy.not_cut_ok)
      (ih2 (hdepth1 ▸ hdepth) (hcovers.right hdepth1) hcut)

end

end Discovery

end DocModel
