import DocModel.Proofs.Discoverer
import DocModel.Proofs.Shape.RoundTrip
import DocModel.Proofs.Yaml.Conversion

set_option autoImplicit false

/-! # Documents as nodes

A tree of JSON is a node as well, and the document of this node is the tree itself. An integer that 64
bits hold is one with a sign or one without, so it never becomes a double, and a finite double is no
integer, whatever its value. Member names are distinct, so no entry is put over another one. -/

namespace DocModel

namespace Yaml.Node

variable {spelling : Spelling}

/-! ## Numbers -/

/-- An integer that 64 bits hold stays an integer. What has no sign to lose may need the 64th bit. -/
theorem numberDocument_int {i : Int} (h : -0x8000000000000000 ≤ i ∧ i < 0x10000000000000000) :
    numberDocument spelling (.int i) = .number (.int i) := by
  unfold numberDocument
  by_cases hsigned : -0x8000000000000000 ≤ i ∧ i < 0x8000000000000000
  · simp only [Number.signed?, hsigned, and_self, ↓reduceIte, Document.ofInt]
  · have hunsigned : 0 ≤ i ∧ i < 0x10000000000000000 := by omega
    simp only [Number.signed?, hsigned, Number.unsigned?, hunsigned, and_self, ↓reduceIte,
      Document.ofInt]

/-- A finite double stays the double that it is, also where its value is an integer. -/
theorem numberDocument_float {f : Float} (h : f.isFinite = true) :
    numberDocument spelling (.float f) = .number (.float f) := by
  simp only [numberDocument, Number.signed?, Number.unsigned?, Number.double, h, ↓reduceIte]

/-! ## Nodes of documents -/

theorem ofItems_eq_map (items : List Document) : ofItems items = items.map ofDocument := by
  induction items with
  | nil => rw [ofItems, List.map_nil]
  | cons item rest ih => rw [ofItems, ih, List.map_cons]

theorem ofMembers_eq_map (members : Members) :
    ofMembers members = members.map fun member => (.string member.1, ofDocument member.2) := by
  induction members with
  | nil => rw [ofMembers, List.map_nil]
  | cons member rest ih => rw [ofMembers, ih, List.map_cons]

/-- The entries of an object have its names as their texts and are as many. -/
theorem entryDocuments_ofMembers {members : Members}
    (h : ∀ member ∈ members, (ofDocument member.2).toDocumentWith spelling = member.2) :
    entryDocuments spelling (ofMembers members) = members := by
  rw [entryDocuments_eq_map, ofMembers_eq_map, List.map_map]
  refine (List.map_congr_left fun member hmember => ?_).trans (List.map_id members)
  simp only [Function.comp_apply, keyTextWith, h member hmember, id_eq]

/-- A tree of JSON is the document of its node, and nothing of it is spelled. -/
theorem toDocumentWith_ofDocument {document : Document} (h : document.IsJson) :
    (ofDocument document).toDocumentWith spelling = document := by
  induction h with
  | null | bool | string => simp only [ofDocument, toDocumentWith]
  | int hrange =>
    rw [ofDocument, toDocumentWith]
    exact numberDocument_int hrange
  | float hfinite =>
    rw [ofDocument, toDocumentWith]
    exact numberDocument_float hfinite
  | array _ ih =>
    rw [ofDocument, ofItems_eq_map, toDocumentWith_sequence, List.map_map]
    exact congrArg Document.array ((List.map_congr_left ih).trans (List.map_id _))
  | object hnames _ ih =>
    rw [ofDocument, toDocumentWith, entryDocuments_ofMembers ih, Assoc.ofEntries_of_nodup hnames]

end Yaml.Node

open Yaml (Node)

/-- **Trees of JSON survive as nodes.** The document of the node of a tree of JSON is the tree itself:
integers, doubles, texts, the order of items and the order of members are all the same. So documents
that come as nodes are discovered as those that come as JSON, with the same model or error, and they
refine a model in the same way. -/
theorem json_survives_yaml {ρ : Type} [Ratio ρ] :
    (∀ document : Document, document.IsJson → (Node.ofDocument document).toDocument = document)
    ∧ (∀ (d : Discoverer) (name : String) (documents : List Document),
      (∀ document ∈ documents, document.IsJson) →
      (d.discover name (documents.map fun document => (Node.ofDocument document).toDocument) :
        Except Error (Model ρ)) = d.discover name documents)
    ∧ ∀ (d : Discoverer) (model : Model ρ) (documents : List Document),
      (∀ document ∈ documents, document.IsJson) →
      d.refine model (documents.map fun document => (Node.ofDocument document).toDocument)
        = d.refine model documents := by
  have hsame : ∀ documents : List Document, (∀ document ∈ documents, document.IsJson) →
      documents.map (fun document => (Node.ofDocument document).toDocument) = documents := by
    intro documents hjson
    refine (List.map_congr_left fun document hdocument => ?_).trans (List.map_id documents)
    exact Node.toDocumentWith_ofDocument (hjson document hdocument)
  refine ⟨fun _ => Node.toDocumentWith_ofDocument, ?_, ?_⟩
  · intro d name documents hjson
    rw [hsame documents hjson]
  · intro d model documents hjson
    rw [hsame documents hjson]

/-- The integers at the ends of the two ranges, doubles whose values are integers, and members that
are in no order. -/
def boundaries : Document :=
  .object [("unsigned", .array [.ofInt 0x8000000000000000, .ofInt 0xFFFFFFFFFFFFFFFF]),
    ("signed", .array [.ofInt (-0x8000000000000000), .ofInt 0x7FFFFFFFFFFFFFFF]),
    ("doubles", .array [.number (.float (-0.0)), .number (.float 1.0)]),
    ("items", .array [.object [("b", .null), ("a", .array [])], .object []])]

theorem json_survives_yaml_boundaries :
    boundaries.IsJson
      ∧ (Node.ofDocument boundaries).toDocument = boundaries
      ∧ ∃ model : Model Rat,
        Discoverer.discover ⟨.standard, .pluralStrip⟩ "limits"
            [(Node.ofDocument boundaries).toDocument] = .ok model
          ∧ Discoverer.refine ⟨.standard, .pluralStrip⟩ model
              [(Node.ofDocument boundaries).toDocument]
            = Discoverer.refine ⟨.standard, .pluralStrip⟩ model [boundaries] := by
  have hjson : boundaries.IsJson := by
    have hnegativeZero : (-0.0 : Float).isFinite = true := by decide +kernel
    have hwhole : (1.0 : Float).isFinite = true := by decide +kernel
    simp [boundaries, Assoc.keys, Document.ofInt, hnegativeZero, hwhole]
  have hall : ∀ document ∈ [boundaries], document.IsJson := by simpa using hjson
  obtain ⟨hsame, hdiscover, hrefine⟩ := json_survives_yaml (ρ := Rat)
  obtain ⟨model, hmodel, -⟩ : ∃ model : Model Rat,
      Discoverer.discover ⟨.standard, .pluralStrip⟩ "limits" [boundaries] = .ok model
        ∧ model.classIds = ["Limit", "Item"] :=
    exists_eq_ok_of_toOption_map (by decide +kernel)
  refine ⟨hjson, hsame boundaries hjson, model, ?_, ?_⟩
  · exact (hdiscover _ "limits" [boundaries] hall).trans hmodel
  · exact hrefine _ model [boundaries] hall

end DocModel
