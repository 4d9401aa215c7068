import DocModel.Proofs.Shape.Record
import DocModel.Shape.Model

set_option autoImplicit false

/-! # Shapes make round trips

Models, their parts, configurations, statistics, sources and findings are read from what is written
for them as they were, provided that their doubles are finite and that their counts fit into 64 bits.
What is read from a tree of JSON always does, so what was read once, from an object with its members
in any order and with others between them or from an array of its fields, is read again from what is
written for it. -/

namespace DocModel

open Shape

/-! ## Types of fields -/

protected theorem Scalar.roundTrips : RoundTrips Scalar.toDocument Scalar.shape fun _ => True where
  isJson_write s _ := .string s.shapeName
  read_write s _ := by cases s <;> rfl
  fits_read _ _ _ _ := trivial

protected theorem FieldKind.roundTrips :
    RoundTrips FieldKind.toDocument FieldKind.shape fun _ => True where
  isJson_write kind _ := by cases kind <;> exact .string _
  read_write kind _ := by cases kind <;> rfl
  fits_read _ _ _ _ := trivial

protected theorem Multiplicity.roundTrips :
    RoundTrips Multiplicity.toDocument Multiplicity.shape fun _ => True where
  isJson_write multiplicity _ := by cases multiplicity <;> exact .string _
  read_write multiplicity _ := by cases multiplicity <;> rfl
  fits_read _ _ _ _ := trivial

protected theorem ValueType.roundTrips :
    RoundTrips ValueType.toDocument ValueType.shape fun _ => True where
  isJson_write valueType _ := by
    cases valueType with
    | scalar s => simpa [ValueType.toDocument] using Scalar.roundTrips.isJson_write s trivial
    | instanceOf id => simp [ValueType.toDocument]
  read_write valueType _ := by
    cases valueType with
    | scalar s => cases s <;> rfl
    | instanceOf id => rfl
  fits_read _ _ _ _ := trivial

/-! ## Models -/

namespace Model

/-- The count fits into 64 bits and the coverage is finite. -/
def Field.Fits (field : Field Float) : Prop :=
  field.occurrences < 0x10000000000000000 ∧ ∀ ratio ∈ field.coverage, ratio.isFinite = true

def Class.Fits (cls : Class Float) : Prop :=
  (∀ field ∈ cls.fields, field.Fits) ∧ cls.occurrences < 0x10000000000000000

def Fits (model : Model Float) : Prop := ∀ cls ∈ model.classes, cls.Fits

protected theorem Field.roundTrips : RoundTrips Field.toDocument Field.shape Field.Fits := by
  refine .ofFields (fun _ => rfl) (fun field h => ?_) (fun field h => ?_) ?_
  · simp only [List.mem_cons, Option.some.injEq, List.not_mem_nil, or_false]
    rintro document (rfl | rfl | rfl | rfl | rfl | rfl | hcoverage)
    · exact .string _
    · exact FieldKind.roundTrips.isJson_write _ trivial
    · exact ValueType.roundTrips.isJson_write _ trivial
    · exact Multiplicity.roundTrips.isJson_write _ trivial
    · exact .bool _
    · exact Document.isJson_ofNat h.1
    · exact RoundTrips.float.isJson_of_map_write h.2 document hcoverage
  · refine .seq (.seq (.seq (.seq (.seq (.seq (.map ?_) ?_) ?_) ?_) ?_) ?_) ?_
    · exact .required rfl rfl
    · exact .required rfl (FieldKind.roundTrips.read_write _ trivial)
    · exact .required rfl (ValueType.roundTrips.read_write _ trivial)
    · exact .required rfl (Multiplicity.roundTrips.read_write _ trivial)
    · exact .required rfl rfl
    · exact .required rfl (RoundTrips.count_ofNat _)
    · exact .defaulted rfl (RoundTrips.optionalFloat.read_write _ h.2)
  · refine .seq (.seq (.seq (.seq (.seq (.seq (.map (.required .string 0) ?_)
      (.required FieldKind.roundTrips 1)) (.required ValueType.roundTrips 2))
      (.required Multiplicity.roundTrips 3)) (.required .bool 4)) (.required .count 5))
      (.defaulted .float (fun _ => RoundTrips.ofFloat_ne_null) 6)
    exact fun _ _ _ _ _ _ _ _ _ _ _ hcount _ hcoverage => ⟨hcount, hcoverage⟩

protected theorem Class.roundTrips : RoundTrips Class.toDocument Class.shape Class.Fits := by
  refine .ofFields (fun _ => rfl) (fun cls h => ?_) (fun cls h => ?_) ?_
  · simp only [List.mem_cons, Option.some.injEq, List.not_mem_nil, or_false]
    rintro document (rfl | rfl | rfl)
    · exact .string _
    · exact Field.roundTrips.list.isJson_write _ h.1
    · exact Document.isJson_ofNat h.2
  · refine .seq (.seq (.map ?_) ?_) ?_
    · exact .required rfl rfl
    · exact .required rfl (Field.roundTrips.list.read_write _ h.1)
    · exact .required rfl (RoundTrips.count_ofNat _)
  · refine .seq (.seq (.map (.required .string 0) ?_) (.required Field.roundTrips.list 1))
      (.required .count 2)
    exact fun _ _ _ hfields _ hcount => ⟨hfields, hcount⟩

protected theorem roundTrips : RoundTrips toDocument shape Fits := by
  refine .ofFields (fun _ => rfl) (fun model h => ?_) (fun model h => ?_) ?_
  · simpa using Class.roundTrips.list.isJson_write model.classes h
  · refine .seq (.seq (.seq (.seq (.map ?_) ?_) ?_) ?_) ?_
    · exact .required rfl rfl
    · exact .required rfl rfl
    · exact .required rfl rfl
    · exact .required rfl rfl
    · exact .required rfl (Class.roundTrips.list.read_write _ h)
  · refine .seq (.seq (.seq (.seq (.map (.required .string 0) ?_) (.required .string 1))
      (.required .string 2)) (.required .string 3)) (.required Class.roundTrips.list 4)
    exact fun _ _ _ _ _ _ _ _ _ hclasses => hclasses

end Model

/-! ## Statistics and configuration -/

namespace Stats

/-- All counts fit into 64 bits. -/
def Fits (stats : Stats) : Prop :=
  ∀ count ∈ [stats.rootInstances, stats.classes, stats.fields, stats.attributes, stats.references,
    stats.manyValuedFields, stats.optionalFields], count < 0x10000000000000000

protected theorem roundTrips : RoundTrips toDocument shape Fits := by
  refine .ofFields (fun _ => rfl) (fun stats h => ?_) (fun stats h => ?_) ?_
  · intro document hdocument
    have hcounts : ∃ count ∈ [stats.rootInstances, stats.classes, stats.fields, stats.attributes,
        stats.references, stats.manyValuedFields, stats.optionalFields],
        .ofNat count = document := by
      simpa [eq_comm] using hdocument
    obtain ⟨count, hcount, rfl⟩ := hcounts
    exact Document.isJson_ofNat (h count hcount)
  · refine .seq (.seq (.seq (.seq (.seq (.seq (.map ?_) ?_) ?_) ?_) ?_) ?_) ?_
    all_goals exact .required rfl (RoundTrips.count_ofNat _)
  · refine .seq (.seq (.seq (.seq (.seq (.seq (.map (.required .count 0) ?_) (.required .count 1))
      (.required .count 2)) (.required .count 3)) (.required .count 4)) (.required .count 5))
      (.required .count 6)
    intro a ha b hb c hc d hd e he f hf g hg
    simp only [Fits, List.forall_mem_cons]
    exact ⟨ha, hb, hc, hd, he, hf, hg, nofun⟩

end Stats

namespace Config

/-- The limit fits into 64 bits. -/
def Fits (config : Config) : Prop := ∀ depth ∈ config.maxDepth, depth < 0x10000000000000000

protected theorem roundTrips : RoundTrips toDocument shape Fits := by
  refine .ofFields (fun _ => rfl) (fun config h => ?_) (fun config h => ?_) ?_
  · simp only [List.mem_cons, Option.some.injEq, List.not_mem_nil, or_false]
    rintro document (rfl | rfl | hdepth)
    · exact .string _
    · exact .string _
    · exact RoundTrips.count.isJson_of_map_write h document hdepth
  · refine .seq (.seq (.map ?_) ?_) ?_
    · exact .required rfl rfl
    · exact .required rfl rfl
    · exact .defaulted rfl ((RoundTrips.count.optional fun _ _ => nofun).read_write _ h)
  · refine .seq (.seq (.map (.required .string 0) ?_) (.required .string 1))
      (.defaulted .count (fun _ _ => nofun) 2)
    exact fun _ _ _ _ _ hdepth => hdepth

end Config

/-! ## Sources -/

namespace SourceDocument

/-- The document and its input are trees of JSON. -/
def Fits (document : SourceDocument) : Prop :=
  (∀ members ∈ document.input, (Document.object members).IsJson) ∧ document.data.IsJson

protected theorem roundTrips : RoundTrips toDocument shape Fits := by
  refine .ofFields (fun _ => rfl) (fun document h => ?_) (fun document h => ?_) ?_
  · simp only [List.mem_cons, Option.some.injEq, List.not_mem_nil, or_false]
    rintro value (hinput | rfl)
    · exact RoundTrips.members.isJson_of_map_write h.1 value hinput
    · exact h.2
  · refine .seq (.map ?_) ?_
    · exact .defaulted rfl ((RoundTrips.members.optional fun _ _ => nofun).read_write _ h.1)
    · exact .required rfl rfl
  · refine .seq (.map (.defaulted .members (fun _ _ => nofun) 0) ?_) (.required .document 1)
    exact fun _ hinput _ hdata => ⟨hinput, hdata⟩

end SourceDocument

namespace Source

/-- All documents are trees of JSON. -/
def Fits (source : Source) : Prop := ∀ document ∈ source.documents, document.Fits

protected theorem roundTrips : RoundTrips toDocument shape Fits := by
  refine .ofFields (fun _ => rfl) (fun source h => ?_) (fun source h => ?_) ?_
  · simpa using SourceDocument.roundTrips.list.isJson_write source.documents h
  · refine .seq (.map ?_) ?_
    · exact .required rfl rfl
    · exact .required rfl (SourceDocument.roundTrips.list.read_write _ h)
  · refine .seq (.map (.required .string 0) ?_) (.required SourceDocument.roundTrips.list 1)
    exact fun _ _ _ hdocuments => hdocuments

end Source

/-! ## Findings -/

protected theorem DanglingReference.roundTrips :
    RoundTrips DanglingReference.toDocument DanglingReference.shape fun _ => True := by
  refine .ofFields (fun _ => rfl) (fun reference _ => ?_) (fun reference _ => ?_) ?_
  · simp
  · refine .seq (.seq (.map ?_) ?_) ?_
    all_goals exact .required rfl rfl
  · refine .seq (.seq (.map (.required .string 0) ?_) (.required .string 1)) (.required .string 2)
    exact fun _ _ _ _ _ _ => trivial

/-- Both counts fit into 64 bits. -/
def CountViolation.Fits (violation : CountViolation) : Prop :=
  violation.fieldCount < 0x10000000000000000 ∧ violation.classCount < 0x10000000000000000

protected theorem CountViolation.roundTrips :
    RoundTrips CountViolation.toDocument CountViolation.shape CountViolation.Fits := by
  refine .ofFields (fun _ => rfl) (fun violation h => ?_) (fun violation h => ?_) ?_
  · simp [Document.isJson_ofNat h.1, Document.isJson_ofNat h.2]
  · refine .seq (.seq (.seq (.map ?_) ?_) ?_) ?_
    · exact .required rfl rfl
    · exact .required rfl rfl
    · exact .required rfl (RoundTrips.count_ofNat _)
    · exact .required rfl (RoundTrips.count_ofNat _)
  · refine .seq (.seq (.seq (.map (.required .string 0) ?_) (.required .string 1))
      (.required .count 2)) (.required .count 3)
    exact fun _ _ _ _ _ hfield _ hclass => ⟨hfield, hclass⟩

/-- Both ratios are finite. -/
def CoverageViolation.Fits (violation : CoverageViolation Float) : Prop :=
  (∀ ratio ∈ violation.ratio, ratio.isFinite = true) ∧ violation.expected.isFinite = true

protected theorem CoverageViolation.roundTrips :
    RoundTrips CoverageViolation.toDocument CoverageViolation.shape CoverageViolation.Fits := by
  refine .ofFields (fun _ => rfl) (fun violation h => ?_) (fun violation h => ?_) ?_
  · simpa using RoundTrips.optionalFloat.isJson_write _ h.1
  · refine .seq (.seq (.seq (.map ?_) ?_) ?_) ?_
    · exact .required rfl rfl
    · exact .required rfl rfl
    · exact .nullable rfl (RoundTrips.optionalFloat.read_write _ h.1)
    · exact .required rfl (RoundTrips.float.read_write _ h.2)
  · refine .seq (.seq (.seq (.map (.required .string 0) ?_) (.required .string 1))
      (.nullable .float (fun _ => RoundTrips.ofFloat_ne_null) 2)) (.required .float 3)
    exact fun _ _ _ _ _ hratio _ hexpected => ⟨hratio, hexpected⟩

namespace Findings

/-- All counts fit into 64 bits and all ratios are finite. -/
def Fits (findings : Findings Float) : Prop :=
  (∀ violation ∈ findings.counts, violation.Fits) ∧ ∀ violation ∈ findings.coverage, violation.Fits

protected theorem roundTrips : RoundTrips toDocument shape Fits := by
  have hids := RoundTrips.string.list
  have hdangling := DanglingReference.roundTrips.list
  refine .ofFields (fun _ => rfl) (fun findings h => ?_) (fun findings h => ?_) ?_
  · have hunreachable := hids.isJson_write findings.unreachable fun _ _ => trivial
    have hreferences := hdangling.isJson_write findings.dangling fun _ _ => trivial
    have hcounts := CountViolation.roundTrips.list.isJson_write findings.counts h.1
    have hcoverage := CoverageViolation.roundTrips.list.isJson_write findings.coverage h.2
    have hrecursive := hids.isJson_write findings.recursive fun _ _ => trivial
    simp only [List.mem_cons, Option.some.injEq, List.not_mem_nil, or_false]
    rintro document (rfl | rfl | rfl | rfl | rfl) <;> assumption
  · refine .seq (.seq (.seq (.seq (.map ?_) ?_) ?_) ?_) ?_
    · exact .required rfl (hids.read_write _ fun _ _ => trivial)
    · exact .required rfl (hdangling.read_write _ fun _ _ => trivial)
    · exact .required rfl (CountViolation.roundTrips.list.read_write _ h.1)
    · exact .required rfl (CoverageViolation.roundTrips.list.read_write _ h.2)
    · exact .required rfl (hids.read_write _ fun _ _ => trivial)
  · refine .seq (.seq (.seq (.seq (.map (.required hids 0) ?_) (.required hdangling 1))
      (.required CountViolation.roundTrips.list 2)) (.required CoverageViolation.roundTrips.list 3))
      (.required hids 4)
    exact fun _ _ _ _ _ hcounts _ hcoverage _ _ => ⟨hcounts, hcoverage⟩

end Findings

/-! ## All shapes -/

/-- **No shape loses anything** when it is written and read. -/
theorem lossless_shapes :
    Lossless Model.toDocument Model.shape Model.Fits
      ∧ Lossless Model.Class.toDocument Model.Class.shape Model.Class.Fits
      ∧ Lossless Model.Field.toDocument Model.Field.shape Model.Field.Fits
      ∧ Lossless ValueType.toDocument ValueType.shape (fun _ => True)
      ∧ Lossless Config.toDocument Config.shape Config.Fits
      ∧ Lossless Stats.toDocument Stats.shape Stats.Fits
      ∧ Lossless SourceDocument.toDocument SourceDocument.shape SourceDocument.Fits
      ∧ Lossless Source.toDocument Source.shape Source.Fits
      ∧ Lossless Findings.toDocument Findings.shape Findings.Fits :=
  ⟨Model.roundTrips.lossless, Model.Class.roundTrips.lossless, Model.Field.roundTrips.lossless,
    ValueType.roundTrips.lossless, Config.roundTrips.lossless, Stats.roundTrips.lossless,
    SourceDocument.roundTrips.lossless, Source.roundTrips.lossless, Findings.roundTrips.lossless⟩

/-- A model as an array. One field is an array without coverage, one an object in another order with
an integer for a double, and the class has a member that is not its own. -/
def handwritten : Document :=
  .array [.string "shop", .string "uri", .string "s", .string "Order", .array [
    .object [("extra", .null), ("occurrenceCount", .ofNat 2), ("id", .string "Order"),
      ("fields", .array [
        .array [.string "item", .object [("reference", .null)], .object [("class", .string "Item")],
          .string "many", .bool false, .ofNat 1],
        .object [("coverage", .ofInt 1), ("occurrenceCount", .ofNat 2), ("required", .bool true),
          ("multiplicity", .string "one"), ("valueType", .object [("primitive", .string "integer")]),
          ("kind", .string "attribute"), ("name", .string "total")]])]]]

def handwrittenModel : Model Float where
  name := "shop"
  nsUri := "uri"
  nsPrefix := "s"
  root := "Order"
  classes := [⟨"Order",
    [⟨"item", .reference, .instanceOf "Item", .many, false, 1, none⟩,
      ⟨"total", .attribute, .scalar .integer, .one, true, 2, some (floatOfInt 1)⟩], 2⟩]

theorem lossless_handwritten :
    Model.shape handwritten = .ok handwrittenModel
      ∧ Model.shape handwrittenModel.toDocument = .ok handwrittenModel
      ∧ rewrite Model.toDocument Model.shape handwrittenModel.toDocument
        = .ok handwrittenModel.toDocument
      ∧ SourceDocument.shape
          (SourceDocument.toDocument ⟨some [("b", .null), ("a", .null)], .array []⟩)
        = .ok ⟨some [("b", .null), ("a", .null)], .array []⟩ := by
  obtain ⟨hmodel, -, -, -, -, -, hdocument, -, -⟩ := lossless_shapes
  have hjson : handwritten.IsJson := by
    simp [handwritten, Assoc.keys, Document.ofNat, Document.ofInt]
  have hread : Model.shape handwritten = .ok handwrittenModel := by rfl
  refine ⟨hread, hmodel.reread handwritten _ hjson hread, ?_, hdocument.read_write _ ⟨?_, ?_⟩⟩
  · exact hmodel.rewrite_rewrite handwritten _ hjson (map_eq_ok_iff.2 ⟨_, hread, rfl⟩)
  · rintro members ⟨⟩
    simp [Assoc.keys]
  · simp

end DocModel
