import DocModel.Source

set_option autoImplicit false

/-! # Parts of documents

Every value that stands in a document at any depth is a part of it. A document has a member of a name
if one of the objects among its parts has. Root objects are parts of the documents they are taken
from, so what no part of a document has no root object has either. -/

namespace DocModel

namespace Document

/-! ## Parts -/

/-- The first document stands in the second one, at any depth. Every document is a part of itself. -/
inductive PartOf (part : Document) : Document → Prop
  | refl : PartOf part part
  | item {items : List Document} {item : Document} :
      item ∈ items → PartOf part item → PartOf part (.array items)
  | member {members : Members} {name : String} {value : Document} :
      (name, value) ∈ members → PartOf part value → PartOf part (.object members)

theorem PartOf.trans {a b c : Document} (hab : a.PartOf b) (hbc : b.PartOf c) : a.PartOf c := by
  induction hbc with
  | refl => exact hab
  | item hmem _ ih => exact .item hmem ih
  | member hmem _ ih => exact .member hmem ih

theorem partOf_of_mem_rootObjects {document : Document} {object : Members}
    (h : object ∈ document.rootObjects) : (Document.object object).PartOf document := by
  cases document with
  | object members =>
    obtain rfl : object = members := by simpa [rootObjects] using h
    exact .refl
  | array items =>
    obtain ⟨item, hitem, hmembers⟩ := List.mem_filterMap.1 h
    cases item with
    | object members =>
      obtain rfl : members = object := Option.some.inj hmembers
      exact .item hitem .refl
    | null | bool | number | string | array => simp [members?] at hmembers
  | null | bool | number | string => simp [rootObjects] at h

/-! ## Members at any depth -/

/-- An object in the document, at any depth, has a member of this name. -/
def HasMember (name : String) (document : Document) : Prop :=
  ∃ object : Members, (Document.object object).PartOf document ∧ name ∈ Assoc.keys object

theorem HasMember.of_partOf {name : String} {part document : Document} (h : part.HasMember name)
    (hpart : part.PartOf document) : document.HasMember name := by
  obtain ⟨object, hobject, hname⟩ := h
  exact ⟨object, hobject.trans hpart, hname⟩

theorem hasMember_of_mem_keys {name : String} {object : Members} (h : name ∈ Assoc.keys object) :
    (Document.object object).HasMember name := ⟨object, .refl, h⟩

theorem HasMember.item {name : String} {item : Document} {items : List Document}
    (hmem : item ∈ items) (h : item.HasMember name) : (Document.array items).HasMember name :=
  h.of_partOf (.item hmem .refl)

theorem HasMember.member {name label : String} {value : Document} {object : Members}
    (hmem : (label, value) ∈ object) (h : value.HasMember name) :
    (Document.object object).HasMember name :=
  h.of_partOf (.member hmem .refl)

/-! A list of items or members has what its rest has. -/

theorem HasMember.of_rest_items {name : String} {item : Document} {rest : List Document}
    (h : (Document.array rest).HasMember name) : (Document.array (item :: rest)).HasMember name := by
  obtain ⟨object, hobject, hname⟩ := h
  cases hobject with
  | item hmem hpart => exact ⟨object, .item (List.mem_cons_of_mem item hmem) hpart, hname⟩

theorem HasMember.of_rest_members {name : String} {entry : String × Document} {rest : Members}
    (h : (Document.object rest).HasMember name) :
    (Document.object (entry :: rest)).HasMember name := by
  obtain ⟨object, hobject, hname⟩ := h
  cases hobject with
  | refl => exact hasMember_of_mem_keys (List.mem_cons_of_mem entry.1 hname)
  | member hmem hpart => exact ⟨object, .member (List.mem_cons_of_mem entry hmem) hpart, hname⟩

theorem hasMember_array_iff {name : String} {items : List Document} :
    (array items).HasMember name ↔ ∃ item ∈ items, item.HasMember name := by
  constructor
  · rintro ⟨object, hobject, hname⟩
    cases hobject with
    | item hmem hpart => exact ⟨_, hmem, object, hpart, hname⟩
  · rintro ⟨item, hmem, h⟩
    exact h.item hmem

theorem hasMember_object_iff {name : String} {members : Members} :
    (object members).HasMember name
      ↔ ∃ member ∈ members, name = member.1 ∨ member.2.HasMember name := by
  constructor
  · rintro ⟨inner, hobject, hname⟩
    cases hobject with
    | refl =>
      obtain ⟨member, hmem, rfl⟩ := List.mem_map.1 hname
      exact ⟨member, hmem, Or.inl rfl⟩
    | member hmem hpart => exact ⟨_, hmem, Or.inr ⟨inner, hpart, hname⟩⟩
  · rintro ⟨member, hmem, rfl | h⟩
    · exact hasMember_of_mem_keys (List.mem_map_of_mem hmem)
    · exact h.member hmem

theorem not_hasMember_null (name : String) : ¬ null.HasMember name := by
  rintro ⟨object, hobject, -⟩
  cases hobject

/-! ## Nesting -/

mutual

/-- How many containers stand inside one another at most, the value itself included. The empty array
is none. -/
def nesting : Document → Nat
  | .null | .bool _ | .number _ | .string _ | .array [] => 0
  | .array (first :: rest) => 1 + max first.nesting (nestingItems rest)
  | .object members => 1 + nestingMembers members

/-- The nesting of the deepest item. -/
def nestingItems : List Document → Nat
  | [] => 0
  | item :: rest => max item.nesting (nestingItems rest)

/-- The nesting of the deepest member. -/
def nestingMembers : List (String × Document) → Nat
  | [] => 0
  | (_, value) :: rest => max value.nesting (nestingMembers rest)

end

end Document

/-- A name that a root object has at any depth is one that a document has. -/
theorem hasMember_of_rootObjects {name : String} {documents : List Document}
    (h : ∃ object ∈ rootObjects documents, (Document.object object).HasMember name) :
    ∃ document ∈ documents, document.HasMember name := by
  obtain ⟨object, hobject, hname⟩ := h
  obtain ⟨document, hdocument, hroot⟩ := List.mem_flatMap.1 hobject
  exact ⟨document, hdocument, hname.of_partOf (Document.partOf_of_mem_rootObjects hroot)⟩

end DocModel
