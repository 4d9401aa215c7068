import DocModel.Proofs.Discoverer
import Mathlib.Data.List.Forall2

set_option autoImplicit false

/-! # Root objects are all that matters

A run folds the root objects of its documents and looks at nothing else. How the objects are spread
over documents and arrays does not matter, and neither do scalars, null and deeper arrays in between.
A source is flattened on a path of its own, as its documents may be paired with an input; it is the
same as the documents in which every pair has become the input with the output as a member. -/

namespace DocModel

variable {ρ : Type}

/-! ## Pairs as documents -/

/-- The document that a document of a source stands for. The output of a pair takes the place of the
member of its name in the input; where the input has no such member, it comes last. -/
inductive SourceDocument.StandsFor (outputName : String) : SourceDocument → Document → Prop
  | data {data : Document} : StandsFor outputName ⟨none, data⟩ data
  | inPlace {before after : Members} {old output : Document} :
      outputName ∉ Assoc.keys before →
      StandsFor outputName ⟨some (before ++ (outputName, old) :: after), output⟩
        (.object (before ++ (outputName, output) :: after))
  | last {input : Members} {output : Document} :
      outputName ∉ Assoc.keys input →
      StandsFor outputName ⟨some input, output⟩ (.object (input ++ [(outputName, output)]))

/-- A key is put in the place of its first entry. -/
theorem Assoc.put_of_split {α : Type} {key : String} {old value : α}
    {before after : List (String × α)} (h : key ∉ keys before) :
    put key value (before ++ (key, old) :: after) = before ++ (key, value) :: after := by
  induction before with
  | nil => simp [put]
  | cons entry rest ih =>
    rw [keys_cons, List.mem_cons, not_or] at h
    have hne : entry.1 ≠ key := fun heq => h.1 heq.symm
    simp [put, hne, ih h.2]

/-- A list with a key has a first entry with it. -/
theorem Assoc.exists_split_of_mem_keys {α : Type} {key : String} {entries : List (String × α)}
    (h : key ∈ keys entries) :
    ∃ before old after, entries = before ++ (key, old) :: after ∧ key ∉ keys before := by
  induction entries with
  | nil => exact absurd h List.not_mem_nil
  | cons entry rest ih =>
    by_cases hkey : entry.1 = key
    · exact ⟨[], entry.2, rest, by rw [← hkey]; rfl, List.not_mem_nil⟩
    · rw [keys_cons, List.mem_cons] at h
      obtain ⟨before, old, after, rfl, hfirst⟩ := ih (h.resolve_left fun heq => hkey heq.symm)
      refine ⟨entry :: before, old, after, rfl, ?_⟩
      rw [keys_cons, List.mem_cons, not_or]
      exact ⟨fun heq => hkey heq.symm, hfirst⟩

namespace SourceDocument

/-- A source document and the document that it stands for have the same root objects. -/
theorem StandsFor.rootObjects_eq {source : Source} {document : SourceDocument} {plain : Document}
    (h : document.StandsFor source.outputName plain) :
    plain.rootObjects = source.rootsOf document := by
  cases h with
  | data => rfl
  | inPlace hfirst =>
    simp only [Document.rootObjects, Source.rootsOf, Assoc.put_of_split hfirst]
  | last hnew =>
    simp only [Document.rootObjects, Source.rootsOf, Assoc.put_of_not_mem hnew]

theorem exists_standsFor (outputName : String) (document : SourceDocument) :
    ∃ plain, document.StandsFor outputName plain := by
  obtain ⟨_ | input, data⟩ := document
  · exact ⟨data, .data⟩
  · by_cases hname : outputName ∈ Assoc.keys input
    · obtain ⟨before, old, after, rfl, hfirst⟩ := Assoc.exists_split_of_mem_keys hname
      exact ⟨_, .inPlace hfirst⟩
    · exact ⟨_, .last hname⟩

end SourceDocument

/-! ## Two ways of flattening -/

namespace Source

/-- The documents of the source, every pair merged. -/
def PlainDocuments (source : Source) (documents : List Document) : Prop :=
  List.Forall₂ (SourceDocument.StandsFor source.outputName) source.documents documents

theorem exists_plainDocuments (source : Source) :
    ∃ documents, source.PlainDocuments documents := by
  unfold PlainDocuments
  induction source.documents with
  | nil => exact ⟨[], .nil⟩
  | cons document rest ih =>
    obtain ⟨plain, hplain⟩ := document.exists_standsFor source.outputName
    obtain ⟨documents, hrest⟩ := ih
    exact ⟨plain :: documents, .cons hplain hrest⟩

theorem PlainDocuments.isEmpty_eq {source : Source} {documents : List Document}
    (h : source.PlainDocuments documents) : documents.isEmpty = source.isEmpty := by
  unfold PlainDocuments at h
  unfold isEmpty
  generalize source.documents = entries at h ⊢
  cases h <;> rfl

/-- **Both ways of flattening agree**: the roots of a source are the root objects of its documents,
in order, with nothing lost and nothing twice. -/
theorem PlainDocuments.rootObjects_eq {source : Source} {documents : List Document}
    (h : source.PlainDocuments documents) : rootObjects documents = source.roots := by
  unfold PlainDocuments at h
  unfold DocModel.rootObjects roots
  generalize source.documents = entries at h ⊢
  induction h with
  | nil => rfl
  | cons hplain _ ih => rw [List.flatMap_cons, List.flatMap_cons, hplain.rootObjects_eq, ih]

end Source

/-! ## Runs -/

/-- **Only the root objects matter.** Two lists of documents with the same root objects are
discovered with the same result, and refine every model with the same result, errors included. A
source is discovered as its documents are, with every pair merged. -/
theorem only_roots_matter [Ratio ρ] (d : Discoverer) :
    (∀ first second : List Document, first ≠ [] → second ≠ [] →
      rootObjects first = rootObjects second →
      (∀ name : String, (d.discover name first : Except Error (Model ρ)) = d.discover name second)
      ∧ ∀ model : Model ρ, d.refine model first = d.refine model second)
    ∧ ∀ source : Source, source.documents ≠ [] →
      (∃ documents, source.PlainDocuments documents)
      ∧ ∀ documents, source.PlainDocuments documents →
        rootObjects documents = source.roots
        ∧ (d.discoverSource source : Except Error (Model ρ)) = d.discover source.name documents
        ∧ ∀ model : Model ρ, d.refineSource model source = d.refine model documents := by
  refine ⟨fun first second hfirst hsecond hroots => ⟨fun name => ?_, fun model => ?_⟩,
    fun source _ => ⟨source.exists_plainDocuments, fun documents hplain => ?_⟩⟩
  · simp only [Discoverer.discover, List.isEmpty_iff, hfirst, hsecond, hroots]
  · simp only [Discoverer.refine, List.isEmpty_iff, hfirst, hsecond, hroots]
  · have hroots := hplain.rootObjects_eq
    refine ⟨hroots, ?_, fun model => ?_⟩
    · rw [Discoverer.discoverSource, Discoverer.discover, hplain.isEmpty_eq, hroots]
    · rw [Discoverer.refineSource, Discoverer.refine, hplain.isEmpty_eq, hroots]

/-- A source with two documents: an output for an input that has a member of its name already, and
objects among other items of an array. -/
def paired : Source where
  name := "A"
  documents := [⟨some [("AOutput", .null), ("k", .bool true)], .array [.object []]⟩,
    ⟨none, .array [.null, .object [("k", .null)], .array [.object []]]⟩]

/-- The output is put before the other member, and the documents have the roots of two objects. -/
theorem only_roots_matter_paired :
    (Discoverer.discoverSource ⟨.standard, .verbatim⟩ paired : Except Error (Model Rat))
        = Discoverer.discover ⟨.standard, .verbatim⟩ "A"
          [.object [("AOutput", .array [.object []]), ("k", .bool true)],
            .array [.null, .object [("k", .null)], .array [.object []]]]
      ∧ (Discoverer.discover ⟨.standard, .verbatim⟩ "A"
          [.object [("AOutput", .array [.object []]), ("k", .bool true)],
            .array [.null, .object [("k", .null)], .array [.object []]]] : Except Error (Model Rat))
        = Discoverer.discover ⟨.standard, .verbatim⟩ "A"
          [.array [.object [("AOutput", .array [.object []]), ("k", .bool true)],
            .object [("k", .null)]], .null] := by
  have hroots := only_roots_matter (ρ := Rat) ⟨.standard, .verbatim⟩
  have hplain : paired.PlainDocuments
      [.object [("AOutput", .array [.object []]), ("k", .bool true)],
        .array [.null, .object [("k", .null)], .array [.object []]]] :=
    .cons (@SourceDocument.StandsFor.inPlace _ [] _ _ _ List.not_mem_nil) (.cons .data .nil)
  constructor
  · exact ((hroots.2 paired (List.cons_ne_nil _ _)).2 _ hplain).2.1
  · exact (hroots.1 _ _ (List.cons_ne_nil _ _) (List.cons_ne_nil _ _) rfl).1 "A"

end DocModel
