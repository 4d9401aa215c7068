import DocModel.Model.Basic
import DocModel.Proofs.Registry.Growth

set_option autoImplicit false

/-! # Counting without anything else

A tick counts one more object of a class or one more observation of a field and leaves everything
else alone. What a list of ticks adds to a class depends on the id of the class and on the names of
its fields only, so the same ticks add the same once more: `exists_gain`. -/

namespace DocModel

variable {ρ : Type}

/-- One more object of a class, or one more observation of the first field of a name. -/
inductive Tick where
  | object (id : String)
  | member (id name : String)

namespace Tick

/-- The class that counts. -/
def id : Tick → String
  | .object id => id
  | .member id _ => id

/-- What the class does. -/
def count : Tick → Model.Class ρ → Model.Class ρ
  | .object _ => Model.Class.recordOccurrence
  | .member _ name => Model.Class.modifyField name Model.Field.recordOccurrence

theorem extends_count (t : Tick) (cls : Model.Class ρ) : cls.Extends (t.count cls) := by
  cases t with
  | object => exact cls.extends_recordOccurrence
  | member _ name => exact cls.extends_modifyField name Model.Field.extends_recordOccurrence

end Tick

/-! ## Adding to counts -/

namespace Model

/-- Add to the count of a field. -/
def Field.gain (n : Nat) (field : Field ρ) : Field ρ :=
  { field with occurrences := field.occurrences + n }

namespace Class

/-- Add to the count of the class and to the count of the field at every position. -/
def gain (n : Nat) (ns : Nat → Nat) (cls : Class ρ) : Class ρ where
  id := cls.id
  fields := cls.fields.mapIdx fun j field => field.gain (ns j)
  occurrences := cls.occurrences + n

/-- What ticks look at. -/
def skeleton (cls : Class ρ) : String × List String := (cls.id, cls.fields.map (·.name))

theorem mapIdx_gain_zero (fields : List (Field ρ)) :
    fields.mapIdx (fun _ field => field.gain 0) = fields :=
  List.ext_getElem? fun j => by simp [Field.gain]

theorem gain_zero (cls : Class ρ) : cls.gain 0 (fun _ => 0) = cls := by
  simp [gain, mapIdx_gain_zero]

theorem gain_gain (n m : Nat) (ns ms : Nat → Nat) (cls : Class ρ) :
    (cls.gain n ns).gain m ms = cls.gain (n + m) fun j => ns j + ms j := by
  simp [gain, Field.gain, Nat.add_assoc, Function.comp_def]

theorem skeleton_gain (n : Nat) (ns : Nat → Nat) (cls : Class ρ) :
    (cls.gain n ns).skeleton = cls.skeleton := by
  simp only [skeleton, gain, Prod.mk.injEq, true_and]
  exact List.ext_getElem? fun j => by simp [Field.gain, Function.comp_def]

theorem clearCoverage_gain (n : Nat) (ns : Nat → Nat) (cls : Class ρ) :
    (cls.gain n ns).clearCoverage = cls.clearCoverage.gain n ns := by
  simp only [clearCoverage, mapFields, gain, mk.injEq, true_and, and_true]
  exact List.ext_getElem? fun j => by simp [Field.gain, Field.withCoverage, Function.comp_def]

theorem skeleton_clearCoverage (cls : Class ρ) : cls.clearCoverage.skeleton = cls.skeleton := by
  simp [clearCoverage, mapFields, skeleton, Field.withCoverage]

theorem gain_one (cls : Class ρ) : cls.gain 1 (fun _ => 0) = cls.recordOccurrence := by
  simp [gain, recordOccurrence, mapIdx_gain_zero]

end Class

/-- One more observation is one more at the position of the first field of the name, if there is
one. -/
theorem exists_gain_modifyField (names : List String) (name : String) :
    ∃ ns : Nat → Nat, ∀ fields : List (Field ρ), fields.map (·.name) = names →
      modifyField name Field.recordOccurrence fields
        = fields.mapIdx fun j field => field.gain (ns j) := by
  induction names with
  | nil =>
    refine ⟨fun _ => 0, fun fields h => ?_⟩
    obtain rfl := List.map_eq_nil_iff.1 h
    rfl
  | cons first rest ih =>
    by_cases hfirst : first = name
    · refine ⟨fun j => if j = 0 then 1 else 0, fun fields h => ?_⟩
      obtain ⟨field, others, rfl, hname, -⟩ := List.map_eq_cons_iff.1 h
      have hothers := Class.mapIdx_gain_zero others
      rw [modifyField, if_pos (hname.trans hfirst), List.mapIdx_cons]
      simp only [↓reduceIte, Nat.add_eq_zero_iff, Nat.one_ne_zero, and_false, hothers]
      rfl
    · obtain ⟨ns, hns⟩ := ih
      refine ⟨fun j => if j = 0 then 0 else ns (j - 1), fun fields h => ?_⟩
      obtain ⟨field, others, rfl, hname, hothers⟩ := List.map_eq_cons_iff.1 h
      have hne : ¬ field.name = name := fun h => hfirst (hname.symm.trans h)
      rw [modifyField, if_neg hne, List.mapIdx_cons, hns others hothers]
      simp [Field.gain]

namespace Class

/-! ## What ticks add -/

def tick (cls : Class ρ) (t : Tick) : Class ρ := if cls.id = t.id then t.count cls else cls

def ticks (ts : List Tick) (cls : Class ρ) : Class ρ := ts.foldl tick cls

theorem extends_tick (cls : Class ρ) (t : Tick) : cls.Extends (cls.tick t) := by
  unfold tick
  split
  · exact t.extends_count cls
  · exact .refl cls

theorem extends_ticks (ts : List Tick) (cls : Class ρ) : cls.Extends (cls.ticks ts) := by
  induction ts generalizing cls with
  | nil => exact .refl cls
  | cons t rest ih => exact (cls.extends_tick t).trans (ih (cls.tick t))

theorem id_ticks (ts : List Tick) (cls : Class ρ) : (cls.ticks ts).id = cls.id :=
  (cls.extends_ticks ts).id

theorem exists_gain_count (t : Tick) (s : String × List String) :
    ∃ (n : Nat) (ns : Nat → Nat), ∀ cls : Class ρ, cls.skeleton = s →
      t.count cls = cls.gain n ns := by
  cases t with
  | object => exact ⟨1, fun _ => 0, fun cls _ => cls.gain_one.symm⟩
  | member _ name =>
    obtain ⟨ns, hns⟩ := exists_gain_modifyField (ρ := ρ) s.2 name
    refine ⟨0, ns, fun cls hs => ?_⟩
    have hfields := hns cls.fields (congrArg Prod.snd hs)
    simp [Tick.count, modifyField, gain, hfields]

theorem exists_gain_tick (t : Tick) (s : String × List String) :
    ∃ (n : Nat) (ns : Nat → Nat), ∀ cls : Class ρ, cls.skeleton = s →
      cls.tick t = cls.gain n ns := by
  by_cases hid : s.1 = t.id
  · obtain ⟨n, ns, hcount⟩ := exists_gain_count (ρ := ρ) t s
    refine ⟨n, ns, fun cls hs => ?_⟩
    have hcls : cls.id = t.id := (congrArg Prod.fst hs).trans hid
    rw [tick, if_pos hcls, hcount cls hs]
  · refine ⟨0, fun _ => 0, fun cls hs => ?_⟩
    have hcls : ¬ cls.id = t.id := fun h => hid ((congrArg Prod.fst hs).symm.trans h)
    rw [tick, if_neg hcls, gain_zero]

/-- What ticks add depends on the id of the class and the names of its fields only. -/
theorem exists_gain (ts : List Tick) (s : String × List String) :
    ∃ (n : Nat) (ns : Nat → Nat), ∀ cls : Class ρ, cls.skeleton = s →
      cls.ticks ts = cls.gain n ns := by
  induction ts with
  | nil => exact ⟨0, fun _ => 0, fun cls _ => cls.gain_zero.symm⟩
  | cons t rest ih =>
    obtain ⟨n, ns, hfirst⟩ := exists_gain_tick (ρ := ρ) t s
    obtain ⟨m, ms, hrest⟩ := ih
    refine ⟨n + m, fun j => ns j + ms j, fun cls hs => ?_⟩
    show (cls.tick t).ticks rest = _
    rw [hfirst cls hs, hrest _ ((cls.skeleton_gain n ns).trans hs), gain_gain]

theorem skeleton_ticks (ts : List Tick) (cls : Class ρ) :
    (cls.ticks ts).skeleton = cls.skeleton := by
  obtain ⟨n, ns, hgain⟩ := exists_gain (ρ := ρ) ts cls.skeleton
  rw [hgain cls rfl, skeleton_gain]

/-- Ticks look at no coverage and change none. -/
theorem clearCoverage_ticks (ts : List Tick) (cls : Class ρ) :
    (cls.ticks ts).clearCoverage = cls.clearCoverage.ticks ts := by
  obtain ⟨n, ns, hgain⟩ := exists_gain (ρ := ρ) ts cls.skeleton
  rw [hgain cls rfl, clearCoverage_gain, hgain _ cls.skeleton_clearCoverage]

/-- The same for a list of classes, by their positions. -/
theorem exists_gains (ts : List Tick) (shape : List (String × List String)) :
    ∃ (n : Nat → Nat) (ns : Nat → Nat → Nat), ∀ classes : List (Class ρ),
      classes.map skeleton = shape →
        classes.map (ticks ts) = classes.mapIdx fun i cls => cls.gain (n i) (ns i) := by
  induction shape with
  | nil =>
    refine ⟨fun _ => 0, fun _ _ => 0, fun classes h => ?_⟩
    obtain rfl := List.map_eq_nil_iff.1 h
    rfl
  | cons s rest ih =>
    obtain ⟨n, ns, hfirst⟩ := exists_gain (ρ := ρ) ts s
    obtain ⟨m, ms, hrest⟩ := ih
    refine ⟨fun i => if i = 0 then n else m (i - 1), fun i => if i = 0 then ns else ms (i - 1),
      fun classes h => ?_⟩
    obtain ⟨cls, others, rfl, hs, hothers⟩ := List.map_eq_cons_iff.1 h
    simp [hfirst cls hs, hrest others hothers]

end Class

end Model

/-! ## Ticks of registries -/

namespace Registry

def ticks (ts : List Tick) (r : Registry ρ) : Registry ρ :=
  r.map (Model.Class.ticks ts) (Model.Class.id_ticks ts)

theorem extends_ticks (ts : List Tick) (r : Registry ρ) : r.Extends (r.ticks ts) :=
  Grown.map (Model.Class.extends_ticks ts) r.classes

theorem ticks_nil (r : Registry ρ) : r.ticks [] = r := map_eq_self fun _ _ => rfl

theorem ticks_append (ts more : List Tick) (r : Registry ρ) :
    r.ticks (ts ++ more) = (r.ticks ts).ticks more := by
  simp only [ticks, map, List.map_map, mk.injEq, and_true]
  exact List.map_congr_left fun cls _ => List.foldl_append

end Registry

end DocModel
