import DocModel.Proofs.Assoc
import DocModel.Yaml.Conversion
import Mathlib.Logic.Relation

set_option autoImplicit false

/-! # What documents keep of nodes

The law by which nodes become documents, in every spelling. Tags on values say nothing, at any depth. A mapping becomes
an object with one member for each text of a key: texts stand in the order in which they first occur,
and a text has the document of the last entry that has it, so keys of different kinds that read the
same share a member. A tag on a key does not show in its text. Sequences keep their items in order. -/

namespace DocModel.Yaml.Node

section Spelled

variable (spelling : Spelling)

/-! ## Lists of nodes -/

theorem itemDocuments_eq_map (items : List Node) :
    itemDocuments spelling items = items.map (toDocumentWith spelling) := by
  induction items with
  | nil => rw [itemDocuments, List.map_nil]
  | cons item rest ih => rw [itemDocuments, ih, List.map_cons]

theorem entryDocuments_eq_map (entries : List (Node × Node)) :
    entryDocuments spelling entries = entries.map fun entry =>
      (entry.1.keyTextWith spelling, entry.2.toDocumentWith spelling) := by
  induction entries with
  | nil => rw [entryDocuments, List.map_nil]
  | cons entry rest ih => rw [entryDocuments, ih, List.map_cons]

/-- Sequences keep length and order. -/
theorem toDocumentWith_sequence (items : List Node) :
    (sequence items).toDocumentWith spelling = .array (items.map (toDocumentWith spelling)) := by
  rw [toDocumentWith, itemDocuments_eq_map]

/-! ## Tags -/

/-- The second node is the first one without one of its tags. The tag may stand at any depth, but not
inside a key. -/
inductive DropsTag : Node → Node → Prop
  | here {tag : String} {value : Node} : DropsTag (tagged tag value) value
  | inside {tag : String} {value other : Node} :
      DropsTag value other → DropsTag (tagged tag value) (tagged tag other)
  | item {before after : List Node} {item other : Node} : DropsTag item other →
      DropsTag (sequence (before ++ item :: after)) (sequence (before ++ other :: after))
  | value {before after : List (Node × Node)} {key value other : Node} : DropsTag value other →
      DropsTag (mapping (before ++ (key, value) :: after)) (mapping (before ++ (key, other) :: after))

/-- The second node is the first one without some of its tags, one after the other. -/
def DropsTags : Node → Node → Prop := Relation.ReflTransGen DropsTag

theorem DropsTag.toDocumentWith_eq {node other : Node} (h : DropsTag node other) :
    other.toDocumentWith spelling = node.toDocumentWith spelling := by
  induction h with
  | here => rw [toDocumentWith]
  | inside _ ih => rw [toDocumentWith, toDocumentWith, ih]
  | item _ ih => simp only [toDocumentWith_sequence, List.map_append, List.map_cons, ih]
  | value _ ih =>
    simp only [toDocumentWith, entryDocuments_eq_map, List.map_append, List.map_cons, ih]

/-- Tags on values say nothing. -/
theorem DropsTags.toDocumentWith_eq {node other : Node} (h : DropsTags node other) :
    other.toDocumentWith spelling = node.toDocumentWith spelling := by
  induction h with
  | refl => rfl
  | tail _ hstep ih => rw [hstep.toDocumentWith_eq, ih]

/-- Tags on keys say nothing. -/
theorem keyTextWith_foldr_tagged (tags : List String) (key : Node) :
    (tags.foldr tagged key).keyTextWith spelling = key.keyTextWith spelling := by
  induction tags with
  | nil => rfl
  | cons tag rest ih => rw [List.foldr_cons, keyTextWith, ih]

/-! ## Mappings -/

/-- The texts of the keys, in order. -/
def keyTexts (entries : List (Node × Node)) : List String :=
  entries.map fun entry => entry.1.keyTextWith spelling

/-- The value of the last entry whose key has this text. -/
def lastValue? (entries : List (Node × Node)) (text : String) : Option Node :=
  (entries.reverse.find? fun entry => entry.1.keyTextWith spelling = text).map (·.2)

/-- The members gather the entries of a mapping. -/
structure Gathers (entries : List (Node × Node)) (members : Members) : Prop where
  /-- One member for each text, in the order in which the texts first occur. -/
  names : Assoc.keys members = (keyTexts spelling entries).eraseDups
  /-- A member has the document of the last entry of its text. -/
  values : ∀ text, Assoc.find? text members
    = (lastValue? spelling entries text).map (toDocumentWith spelling)
  /-- No entry is lost if no text is repeated. -/
  kept : (keyTexts spelling entries).Nodup → members = entries.map fun entry =>
    (entry.1.keyTextWith spelling, entry.2.toDocumentWith spelling)

theorem keys_entryDocuments (entries : List (Node × Node)) :
    Assoc.keys (entryDocuments spelling entries) = keyTexts spelling entries := by
  simp [entryDocuments_eq_map, Assoc.keys, keyTexts]

theorem gathers_ofEntries (entries : List (Node × Node)) :
    Gathers spelling entries (Assoc.ofEntries (entryDocuments spelling entries)) where
  names := by rw [Assoc.keys_ofEntries, keys_entryDocuments]
  values := by
    intro text
    rw [Assoc.find?_ofEntries, entryDocuments_eq_map, ← List.map_reverse, Assoc.find?_map, lastValue?,
      Option.map_map]
    rfl
  kept := by
    intro hdistinct
    rw [← keys_entryDocuments] at hdistinct
    rw [Assoc.ofEntries_of_nodup hdistinct, entryDocuments_eq_map]

end Spelled

/-- **Tags are dropped and keys are merged by their texts**, whatever the spelling of numbers and
collections. No tag on a value changes the document of a node. A mapping becomes an object whose
members gather its entries: first positions, last values, and nothing is lost where texts are
distinct. A tag on a key does not change its text, and a sequence becomes the array of the documents
of its items. -/
theorem tags_dropped_keys_merged (spelling : Spelling) :
    (∀ node other : Node, DropsTags node other →
      other.toDocumentWith spelling = node.toDocumentWith spelling)
    ∧ (∀ entries : List (Node × Node), ∃ members,
      (mapping entries).toDocumentWith spelling = .object members ∧ Gathers spelling entries members)
    ∧ (∀ (tags : List String) (key : Node),
      (tags.foldr tagged key).keyTextWith spelling = key.keyTextWith spelling)
    ∧ ∀ items : List Node,
      (sequence items).toDocumentWith spelling = .array (items.map (toDocumentWith spelling)) := by
  refine ⟨fun _ _ => DropsTags.toDocumentWith_eq spelling, ?_, keyTextWith_foldr_tagged spelling,
    toDocumentWith_sequence spelling⟩
  intro entries
  exact ⟨_, by rw [toDocumentWith], gathers_ofEntries spelling entries⟩

/-- A number and a tagged text as keys that read the same, with a key of null between them, and a tag
on the value of each. -/
def sameText : List (Node × Node) :=
  [(number (.int 1), tagged "A" (string "first")), (null, sequence [tagged "B" null, bool true]),
    (tagged "C" (tagged "D" (string "1")), tagged "E" (string "last"))]

/-- In the usual spelling the member `1` stands where the number stands and has the value under the
tagged text. Without the tag inside the sequence the document is the same. -/
theorem tags_dropped_keys_merged_sameText :
    ∃ members, (mapping sameText).toDocument = .object members
      ∧ Assoc.keys members = ["1", "null"]
      ∧ Assoc.find? "1" members = some (.string "last")
      ∧ Assoc.find? "null" members = some (.array [.null, .bool true])
      ∧ (tagged "C" (tagged "D" (string "1"))).keyTextWith .usual = "1"
      ∧ ∃ plain, DropsTags (mapping sameText) (mapping plain)
        ∧ lastValue? .usual plain "null" = some (sequence [null, bool true])
        ∧ (mapping plain).toDocument = .object members := by
  obtain ⟨hdrops, hgathers, htext, -⟩ := tags_dropped_keys_merged .usual
  obtain ⟨members, hmembers, hgathered⟩ := hgathers sameText
  have hitem : DropsTag (sequence [tagged "B" null, bool true]) (sequence [null, bool true]) :=
    @DropsTag.item [] _ _ _ .here
  have hplain : DropsTags (mapping sameText) (mapping _) := .single (@DropsTag.value [_] _ _ _ _ hitem)
  refine ⟨members, hmembers, ?_, ?_, ?_, htext ["C", "D"] (string "1"), _, hplain, rfl,
    (hdrops _ _ hplain).trans hmembers⟩
  · rw [hgathered.names]
    decide
  · rw [hgathered.values]
    rfl
  · rw [hgathered.values]
    rfl

end DocModel.Yaml.Node
