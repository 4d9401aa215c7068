import DocModel.Proofs.Discovery.Descent
import DocModel.Proofs.Document

set_option autoImplicit false

/-! # Footprints

The ids whose classes a call reads or writes. They are found by looking at the call alone, without
running it: an object that stands in a member, with so many arrays in between, is handed to the class
of the digest of the member's name, taken once more than there are arrays. Not every id of a footprint
need be reached, as a reference is counted without a look into its value and a failure ends the
call. -/

namespace DocModel

/-! ## Objects in arrays -/

namespace Document

/-- An object stands in the value, in exactly so many arrays and in nothing else. -/
def ObjectAt : Nat → Document → Prop
  | 0, .object _ => True
  | depth + 1, .array items => ∃ item ∈ items, item.ObjectAt depth
  | _, _ => False

theorem objectAt_zero {value : Document} (h : value.ObjectAt 0) :
    ∃ members, value = .object members := by
  cases value with
  | object members => exact ⟨members, rfl⟩
  | null | bool | number | string | array => exact h.elim

theorem objectAt_succ {depth : Nat} {value : Document} (h : value.ObjectAt (depth + 1)) :
    ∃ items, value = .array items ∧ ∃ item ∈ items, item.ObjectAt depth := by
  cases value with
  | array items => exact ⟨items, rfl, h⟩
  | null | bool | number | string | object => exact h.elim

variable {digester : Digester} {id name : String} {value : Document}

/-- What a value holds is what stands in its arrays, under the digest taken once for each array and
once for the object. -/
theorem holds_iff : value.Holds digester id name
    ↔ ∃ depth, value.ObjectAt depth ∧ digester.repeated (depth + 1) name = .ok id := by
  constructor
  · intro h
    induction h with
    | object hdigest => exact ⟨0, trivial, by rw [Digester.repeated_one, hdigest]⟩
    | item hdigest hitem _ ih =>
      obtain ⟨depth, hobject, hid⟩ := ih
      exact ⟨depth + 1, ⟨_, hitem, hobject⟩, by rw [Digester.repeated_succ hdigest, hid]⟩
  · rintro ⟨depth, hobject, hid⟩
    induction depth generalizing name value with
    | zero =>
      obtain ⟨members, rfl⟩ := objectAt_zero hobject
      exact .object (by rwa [Digester.repeated_one] at hid)
    | succ depth ih =>
      obtain ⟨items, rfl, item, hitem, hinner⟩ := objectAt_succ hobject
      cases hdigest : digester name with
      | error e =>
        change digester name >>= digester.repeated (depth + 1) = .ok id at hid
        rw [hdigest] at hid
        exact absurd hid nofun
      | ok element =>
        rw [Digester.repeated_succ hdigest] at hid
        exact .item hdigest hitem (ih hinner hid)

end Document

/-! ## Footprints of calls -/

/-- The ids that handing the object to the class of an id is about: this id and, for every object at
any depth, the ids of the objects that its members hold. -/
def Footprint (digester : Digester) (id : String) (object : Members) (other : String) : Prop :=
  other = id ∨ ∃ inner : Members, (Document.object inner).PartOf (.object object)
    ∧ ∃ member ∈ inner, ∃ depth, member.2.ObjectAt depth
      ∧ digester.repeated (depth + 1) member.1 = .ok other

/-- An object nested in this one belongs to the class of the id. It stands in a member, of the object
itself or of one at any depth, and the id is the digest of the name of the member, taken once for each
array around the object and once more. -/
def NestsObject (digester : Digester) (id : String) (object : Members) : Prop :=
  ∃ inner : Members, (Document.object inner).PartOf (.object object)
    ∧ ∃ member ∈ inner, ∃ depth, member.2.ObjectAt depth
      ∧ digester.repeated (depth + 1) member.1 = .ok id

theorem footprint_iff {digester : Digester} {id other : String} {object : Members} :
    Footprint digester id object other ↔ other = id ∨ NestsObject digester other object := Iff.rfl

/-- The ids that typing the value under this name is about. -/
def Document.Touches (digester : Digester) (id name : String) (value : Document) : Prop :=
  value.Holds digester id name ∨ ∃ inner : Members, (Document.object inner).PartOf value
    ∧ ∃ member ∈ inner, member.2.Holds digester id member.1

namespace Document

variable {digester : Digester} {id name : String}

theorem Touches.item {element : String} {items : List Document} {item : Document}
    (hdigest : digester name = .ok element) (hitem : item ∈ items)
    (h : item.Touches digester id element) : (array items).Touches digester id name := by
  rcases h with hholds | ⟨inner, hpart, hinner⟩
  · exact Or.inl (.item hdigest hitem hholds)
  · exact Or.inr ⟨inner, .item hitem hpart, hinner⟩

theorem Touches.object (object : Members) (hdigest : digester name = .ok id) :
    (Document.object object).Touches digester id name := Or.inl (.object hdigest)

theorem Touches.member {object : Members} {member : String × Document} (hmember : member ∈ object)
    (h : member.2.Touches digester id member.1) :
    (Document.object object).Touches digester id name := by
  rcases h with hholds | ⟨inner, hpart, hinner⟩
  · exact Or.inr ⟨object, .refl, member, hmember, hholds⟩
  · exact Or.inr ⟨inner, .member hmember hpart, hinner⟩

end Document

/-- What a member is about is nested in the object. -/
theorem nestsObject_of_touches {digester : Digester} {id : String} {object : Members}
    {member : String × Document} (hmember : member ∈ object)
    (h : member.2.Touches digester id member.1) : NestsObject digester id object := by
  rcases h with hholds | ⟨inner, hpart, deeper, hdeeper, hholds⟩
  · exact ⟨object, .refl, member, hmember, Document.holds_iff.1 hholds⟩
  · exact ⟨inner, .member hmember hpart, deeper, hdeeper, Document.holds_iff.1 hholds⟩

namespace Discovery

/-- The ids that a task is about. -/
def Task.Touches (digester : Digester) (other : String) : Task → Prop
  | .typing name value => value.Touches digester other name
  | .typingRest name _ items => ∃ item ∈ items, item.Touches digester other name
  | .entering id object | .folding id _ object =>
    other = id ∨ ∃ member ∈ object, member.2.Touches digester other member.1
  | .member id _ name value | .adding id name value _ =>
    other = id ∨ value.Touches digester other name
  | .roots id objects =>
    other = id ∨ ∃ object ∈ objects, ∃ member ∈ object, member.2.Touches digester other member.1

/-- The footprint of a call is what the task of the call is about. -/
theorem footprint_of_touches {digester : Digester} {id other : String} {object : Members}
    (h : (Task.entering id object).Touches digester other) : Footprint digester id object other := by
  rcases h with hid | ⟨member, hmember, htouches⟩
  · exact Or.inl hid
  · exact Or.inr (nestsObject_of_touches hmember htouches)

end Discovery

end DocModel
