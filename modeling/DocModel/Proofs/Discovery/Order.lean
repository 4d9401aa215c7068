import DocModel.Proofs.Discovery.Visits

set_option autoImplicit false

/-! # Calls and visits

Objects are handed to a class in one order, and their members are visited in another one, because what
is nested in an object is visited before the members around it. For the members of one name of one
class the first visit is nevertheless in the object that was handed over first, unless an object
nested in it belongs to the class and has such a member, too: `Trail.ordered`. -/

namespace DocModel

/-! ## Objects that hold a member -/

/-- The object was handed to the class of the id, and it has the member. -/
def Encounter.holds (id label : String) (encounter : Encounter) : Bool :=
  encounter.id = id ∧ label ∈ Assoc.keys encounter.object

theorem Encounter.holds_iff {id label : String} {encounter : Encounter} :
    encounter.holds id label = true ↔ encounter.id = id ∧ label ∈ Assoc.keys encounter.object := by
  rw [holds, decide_eq_true_eq]

/-- The first visit of a name in an object is of the member that a look-up finds. -/
theorem Encounter.find?_visits (encounter : Encounter) (label : String) :
    encounter.visits.find? (Visit.isOf encounter.id label)
      = (Assoc.find? label encounter.object).map fun value => ⟨encounter.id, label, value⟩ := by
  obtain ⟨id, object⟩ := encounter
  induction object with
  | nil => rfl
  | cons member rest ih =>
    have hrest : (rest.map fun member : String × Document => Visit.mk id member.1 member.2).find?
        (Visit.isOf id label) = (Assoc.find? label rest).map fun value => ⟨id, label, value⟩ := ih
    by_cases hname : member.1 = label
    · simp [visits, Visit.isOf, Assoc.find?, hname]
    · simp [visits, Visit.isOf, Assoc.find?, hname, hrest]

/-- An object holds a member exactly if there is a visit of it. -/
theorem Encounter.isSome_find?_visits (encounter : Encounter) (id label : String) :
    (encounter.visits.find? (Visit.isOf id label)).isSome = encounter.holds id label := by
  rw [Bool.eq_iff_iff, List.find?_isSome, holds_iff]
  constructor
  · rintro ⟨visit, hvisit, hof⟩
    obtain ⟨member, hmember, rfl⟩ := List.mem_map.1 hvisit
    obtain ⟨hid, rfl⟩ := Visit.isOf_iff.1 hof
    exact ⟨hid, List.mem_map_of_mem hmember⟩
  · rintro ⟨hid, hlabel⟩
    obtain ⟨member, hmember, rfl⟩ := List.mem_map.1 hlabel
    exact ⟨_, List.mem_map_of_mem hmember, Visit.isOf_iff.2 ⟨hid, rfl⟩⟩

theorem Encounter.find?_visits_eq_none {encounter : Encounter} {id label : String}
    (h : encounter.holds id label = false) :
    encounter.visits.find? (Visit.isOf id label) = none := by
  rw [← Option.not_isSome_iff_eq_none, isSome_find?_visits, h]
  exact Bool.false_ne_true

/-! ## First calls and first visits -/

/-- How the visits of the members of one name of one class stand to the encounters in between, latest
first, and to what is visited besides. -/
structure Ordered (digester : Digester) (id label : String) (nested : Prop) (visits own : List Visit)
    (log : List Encounter) : Prop where
  /-- An object that holds such a member was foreseen. -/
  nested : ∀ encounter ∈ log, encounter.holds id label = true → nested
  /-- Without such an object the own visits are the only ones. -/
  of_own : (∀ encounter ∈ log, encounter.holds id label = false) →
    visits.find? (Visit.isOf id label) = own.find? (Visit.isOf id label)
  /-- Without own visits the first one is in the first object that holds such a member, if no object
  inside of it does. -/
  of_log : own.find? (Visit.isOf id label) = none → ∀ encounter,
    log.reverse.find? (Encounter.holds id label) = some encounter →
    ¬ NestsMember digester id label encounter.object →
    visits.find? (Visit.isOf id label) = encounter.visits.find? (Visit.isOf id label)

namespace Ordered

variable {digester : Digester} {id label : String} {nested inner : Prop}
  {visits more own others : List Visit} {first second log : List Encounter}

theorem refl (nested : Prop) (own : List Visit) : Ordered digester id label nested own own [] :=
  ⟨nofun, fun _ => rfl, fun _ _ hfirst => absurd hfirst nofun⟩

theorem imp (h : Ordered digester id label inner visits own log) (himp : inner → nested) :
    Ordered digester id label nested visits own log :=
  ⟨fun encounter hin hholds => himp (h.nested encounter hin hholds), h.of_own, h.of_log⟩

theorem append (hfirst : Ordered digester id label nested visits own first)
    (hsecond : Ordered digester id label nested more others second) :
    Ordered digester id label nested (visits ++ more) (own ++ others) (second ++ first) := by
  refine ⟨fun encounter hin => ?_, fun hnone => ?_, fun hown encounter hlog hnests => ?_⟩
  · rcases List.mem_append.1 hin with hin | hin
    · exact hsecond.nested encounter hin
    · exact hfirst.nested encounter hin
  · rw [List.find?_append, List.find?_append,
      hfirst.of_own fun encounter hin => hnone encounter (List.mem_append_right _ hin),
      hsecond.of_own fun encounter hin => hnone encounter (List.mem_append_left _ hin)]
  · rw [List.find?_append, Option.or_eq_none_iff] at hown
    rw [List.reverse_append, List.find?_append] at hlog
    rw [List.find?_append]
    cases hearlier : first.reverse.find? (Encounter.holds id label) with
    | some holder =>
      rw [hearlier, Option.some_or] at hlog
      obtain rfl : holder = encounter := Option.some.inj hlog
      have hsome : (holder.visits.find? (Visit.isOf id label)).isSome = true := by
        rw [holder.isSome_find?_visits, List.find?_some hearlier]
      rw [hfirst.of_log hown.1 holder hearlier hnests, Option.or_of_isSome hsome]
    | none =>
      rw [hearlier, Option.none_or] at hlog
      have hnone : ∀ earlier ∈ first, earlier.holds id label = false := by
        simpa using hearlier
      rw [hfirst.of_own hnone, hown.1, Option.none_or]
      exact hsecond.of_log hown.2 encounter hlog hnests

/-- An object that is handed to a class comes before what is nested in it. -/
theorem enter {other : String} {object : Members}
    (h : Ordered digester id label (NestsMember digester id label object) visits
      (Encounter.visits ⟨other, object⟩) log) :
    Ordered digester id label
      ((other = id ∧ label ∈ Assoc.keys object) ∨ NestsMember digester id label object)
      visits [] (log ++ [⟨other, object⟩]) := by
  refine ⟨fun encounter hin hholds => ?_, fun hnone => ?_, fun _ encounter hlog hnests => ?_⟩
  · rcases List.mem_append.1 hin with hin | hin
    · exact Or.inr (h.nested encounter hin hholds)
    · obtain rfl := List.mem_singleton.1 hin
      exact Or.inl (Encounter.holds_iff.1 hholds)
  · rw [h.of_own fun encounter hin => hnone encounter (List.mem_append_left _ hin)]
    exact Encounter.find?_visits_eq_none (hnone _ (by simp))
  · rw [List.reverse_append, List.reverse_singleton, List.singleton_append] at hlog
    cases hholds : Encounter.holds id label ⟨other, object⟩ with
    | true =>
      rw [List.find?_cons_of_pos hholds] at hlog
      obtain rfl := Option.some.inj hlog
      refine h.of_own fun inner hin => ?_
      exact Bool.eq_false_iff.2 fun hinner => hnests (h.nested inner hin hinner)
    | false =>
      rw [List.find?_cons_of_neg (by simp [hholds])] at hlog
      exact h.of_log (Encounter.find?_visits_eq_none hholds) encounter hlog hnests

end Ordered

/-- **Visits follow the calls**, but for what is nested. Appending puts the later encounters after
the earlier ones, and an object comes before all that is inside of it. -/
theorem Trail.ordered {digester : Digester} {nested : String → String → Prop}
    {visits own : List Visit} {before after : List Encounter}
    (h : Trail digester nested visits own before after) (id label : String) :
    ∃ log, after = log ++ before ∧ Ordered digester id label (nested id label) visits own log := by
  induction h with
  | refl nested own log => exact ⟨[], rfl, .refl _ own⟩
  | append _ _ ih1 ih2 =>
    obtain ⟨first, rfl, hfirst⟩ := ih1
    obtain ⟨second, rfl, hsecond⟩ := ih2
    exact ⟨second ++ first, (List.append_assoc ..).symm, hfirst.append hsecond⟩
  | @enter other object _ _ _ _ ih =>
    obtain ⟨log, rfl, hordered⟩ := ih
    exact ⟨log ++ [⟨other, object⟩], by rw [List.append_assoc, List.singleton_append],
      hordered.enter⟩
  | imp _ himp ih =>
    obtain ⟨log, rfl, hordered⟩ := ih
    exact ⟨log, rfl, hordered.imp (himp id label)⟩

end DocModel
