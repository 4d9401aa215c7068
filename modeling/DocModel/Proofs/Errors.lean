import DocModel.Proofs.Discoverer
import DocModel.Proofs.Discovery.Failure
import DocModel.Proofs.Incremental

set_option autoImplicit false

/-! # Errors of runs

With the usual names of classes a run fails only because of what it was given: no documents, a source
or a member without a name, or documents that are nested too deeply. No run comes upon a class or a
field that it does not know, whatever model it refines. -/

namespace DocModel

variable {ρ : Type}

namespace Discovery

/-- Where the digester makes names of names, it is no reason for a failure. -/
theorem Task.Failure.of_names {policy : Policy} {task : Task} {e : Error}
    (h : task.Failure policy e) (hnames : policy.digester.Names) :
    task.Unnamed ∧ e = .emptyFieldName ∨ task.Unidentified ∧ e = .emptyId
      ∨ ∃ limit, policy.maxDepth = some limit ∧ e = .tooDeep (limit + 1) limit := by
  have hdigest : ∀ name, name ≠ "" → ∃ id, policy.digester name = .ok id ∧ id ≠ "" := hnames
  cases h with
  | unnamed hunnamed => exact Or.inl ⟨hunnamed, rfl⟩
  | unidentified hunidentified => exact Or.inr (Or.inl ⟨hunidentified, rfl⟩)
  | @undigested name _ hname herror =>
    obtain ⟨id, hid, -⟩ := hdigest name hname
    rw [hid] at herror
    exact absurd herror nofun
  | @blank name _ hname hblank =>
    obtain ⟨id, hid, hne⟩ := hdigest name hname
    rw [hid] at hblank
    exact absurd (Except.ok.inj hblank) hne
  | @tooDeep limit hlimit => exact Or.inr (Or.inr ⟨limit, hlimit, rfl⟩)

end Discovery

namespace Discoverer

variable [Ratio ρ]

/-- Folding objects fails because of a member without a name or because of the limit, if the source
has a name. -/
theorem run_error {d : Discoverer} (hnames : d.digester.Names) {name : String} (hname : name ≠ "")
    {registry : Registry ρ} {roots : List Members} {e : Error}
    (h : d.run name registry roots = .error e) :
    (∃ object ∈ roots, (Document.object object).HasMember "") ∧ e = .emptyFieldName
      ∨ ∃ max, d.config.maxDepth = some max ∧ e = .tooDeep (max + 1) max := by
  obtain ⟨root, hdigest, hroot⟩ := hnames name hname
  rw [d.run_eq_map hdigest] at h
  rcases hfold : d.fold registry root roots with ⟨cause | _, c⟩
  · obtain rfl : cause = e := by
      rw [hfold] at h
      exact Except.error.inj h
    have hruns := fold_eq_iff.1 hfold
    -- a run starts at depth zero, which every limit admits
    have hfailure := hruns.failure (fun limit _ => Nat.zero_le limit) cause rfl
    rcases hfailure.of_names hnames with hunnamed | ⟨hunidentified, -⟩ | hdeep
    · exact Or.inl hunnamed
    · exact absurd hunidentified hroot
    · exact Or.inr hdeep
  · rw [hfold] at h
    exact absurd h nofun

/-- A source without a name is refused before anything is folded. -/
theorem run_empty {d : Discoverer} (hempty : d.digester "" = .error .emptyId)
    (registry : Registry ρ) (roots : List Members) :
    d.run "" registry roots = .error .emptyId := by
  simp only [run, hempty]

end Discoverer

/-! ## The arguments to blame -/

/-- What discovery can refuse these documents of a source of this name with, and how it says so. -/
inductive Refusal (config : Config) (name : String) (documents : List Document) :
    Error → String → Prop
  | noDocuments : documents = [] →
      Refusal config name documents (.noDocuments name)
        ("Invalid argument: the source [" ++ name ++ "] must include at least one document")
  | noName : documents ≠ [] → name = "" →
      Refusal config name documents .emptyId "Invalid argument: id cannot be empty"
  | unnamedMember : documents ≠ [] → name ≠ "" → (∃ document ∈ documents, document.HasMember "") →
      Refusal config name documents .emptyFieldName "Invalid argument: field name cannot be empty"
  | tooDeep {max : Nat} : documents ≠ [] → name ≠ "" → config.maxDepth = some max →
      Refusal config name documents (.tooDeep (max + 1) max)
        ("Maximum nesting depth exceeded: " ++ toString (max + 1) ++ " > " ++ toString max)

/-- Discovery has lost track of its own classes. -/
inductive Error.Internal : Error → Prop
  | classNotRegistered (id : String) : Internal (.classNotRegistered id)
  | noSuchField (id field : String) : Internal (.noSuchField id field)
  | fieldExists (field id : String) : Internal (.fieldExists field id)

section

variable [Ratio ρ] {config : Config}

theorem refusal_of_discover_eq_error {name : String} {documents : List Document} {e : Error}
    (h : (Discoverer.discover ⟨config, .pluralStrip⟩ name documents : Except Error (Model ρ))
      = .error e) : Refusal config name documents e e.message := by
  unfold Discoverer.discover at h
  cases documents with
  | nil =>
    obtain rfl := Except.error.inj h
    exact .noDocuments rfl
  | cons document rest =>
    have hdocuments : document :: rest ≠ [] := List.cons_ne_nil _ _
    simp only [List.isEmpty_cons, Bool.false_eq_true, ↓reduceIte] at h
    by_cases hname : name = ""
    · subst hname
      rw [Discoverer.run_empty Digester.pluralStrip_empty] at h
      obtain rfl := Except.error.inj h
      exact .noName hdocuments rfl
    · rcases Discoverer.run_error Digester.names_pluralStrip hname h with
        ⟨hunnamed, rfl⟩ | ⟨max, hmax, rfl⟩
      · exact .unnamedMember hdocuments hname (hasMember_of_rootObjects hunnamed)
      · exact .tooDeep hdocuments hname hmax

theorem Refusal.not_internal {name text : String} {documents : List Document} {e : Error}
    (h : Refusal config name documents e text) : ¬ e.Internal := by
  cases h <;> exact nofun

theorem not_internal_of_refine_eq_error {model : Model ρ} {documents : List Document} {e : Error}
    (h : Discoverer.refine ⟨config, .pluralStrip⟩ model documents = .error e) : ¬ e.Internal := by
  unfold Discoverer.refine at h
  split at h
  · obtain rfl := Except.error.inj h
    exact nofun
  · by_cases hname : model.name = ""
    · rw [hname, Discoverer.run_empty Digester.pluralStrip_empty] at h
      obtain rfl := Except.error.inj h
      exact nofun
    · rcases Discoverer.run_error Digester.names_pluralStrip hname h with
        ⟨-, rfl⟩ | ⟨max, -, rfl⟩ <;> exact nofun

/-- **Only arguments make discovery fail.** With the usual names of classes every error of a run
blames the documents, the name of the source, a member or the limit. So named documents without a
limit are always discovered, and no run and no refinement, of any model, fails for a reason of its
own. -/
theorem errors_blame_arguments (config : Config) :
    (∀ (name : String) (documents : List Document) (e : Error),
      (Discoverer.discover ⟨config, .pluralStrip⟩ name documents : Except Error (Model ρ)) = .error e →
      Refusal config name documents e e.message)
    ∧ (∀ (name : String) (documents : List Document), documents ≠ [] → name ≠ "" →
      (∀ document ∈ documents, ¬ document.HasMember "") → config.maxDepth = none →
      ∃ model : Model ρ, Discoverer.discover ⟨config, .pluralStrip⟩ name documents = .ok model)
    ∧ ∀ e : Error, e.Internal →
      (∀ (name : String) (documents : List Document),
        (Discoverer.discover ⟨config, .pluralStrip⟩ name documents : Except Error (Model ρ))
          ≠ .error e)
      ∧ ∀ (model : Model ρ) (documents : List Document),
        Discoverer.refine ⟨config, .pluralStrip⟩ model documents ≠ .error e := by
  refine ⟨fun name documents e h => refusal_of_discover_eq_error h, ?_, fun e hinternal => ⟨?_, ?_⟩⟩
  · intro name documents hdocuments hname hnamed hmax
    cases hrun : (Discoverer.discover ⟨config, .pluralStrip⟩ name documents :
        Except Error (Model ρ)) with
    | ok model => exact ⟨model, rfl⟩
    | error e =>
      cases refusal_of_discover_eq_error hrun with
      | noDocuments hnone => exact absurd hnone hdocuments
      | noName _ hempty => exact absurd hempty hname
      | unnamedMember _ _ hunnamed =>
        obtain ⟨document, hdocument, hmember⟩ := hunnamed
        exact absurd hmember (hnamed document hdocument)
      | tooDeep _ _ hlimit =>
        rw [hmax] at hlimit
        exact absurd hlimit nofun
  · intro name documents h
    exact (refusal_of_discover_eq_error h).not_internal hinternal
  · intro model documents h
    exact not_internal_of_refine_eq_error h hinternal

end

/-- Two objects inside one another, the inner one with a member that has no name. -/
def unnamedInside : Members := [("as", .object [("", .null)])]

/-- The document is refused for its member, or for its depth if nothing may be nested; without the
member it is discovered. -/
theorem errors_blame_arguments_unnamedInside :
    Refusal .standard "A" [.object unnamedInside] .emptyFieldName
        "Invalid argument: field name cannot be empty"
      ∧ Refusal { Config.standard with maxDepth := some 0 } "A" [.object unnamedInside]
        (.tooDeep 1 0) "Maximum nesting depth exceeded: 1 > 0"
      ∧ (∃ model : Model Rat,
        Discoverer.discover ⟨.standard, .pluralStrip⟩ "A" [.object [("as", .null)]] = .ok model)
      ∧ (Discoverer.refine ⟨.standard, .pluralStrip⟩ (⟨"A", "", "", "A", []⟩ : Model Rat)
        [.object unnamedInside]) ≠ .error (.noSuchField "A" "as") := by
  have hstandard := errors_blame_arguments (ρ := Rat) .standard
  refine ⟨?_, ?_, ?_, ?_⟩
  · exact hstandard.1 "A" [.object unnamedInside] _ rfl
  · exact (errors_blame_arguments (ρ := Rat) { Config.standard with maxDepth := some 0 }).1 "A"
      [.object unnamedInside] _ rfl
  · refine hstandard.2.1 "A" _ (List.cons_ne_nil _ _) (by decide) ?_ rfl
    rintro document hdocument ⟨object, hobject, hname⟩
    obtain rfl := List.mem_singleton.1 hdocument
    cases hobject with
    | refl => simp [Assoc.keys] at hname
    | member hmem hpart =>
      simp only [List.mem_singleton, Prod.mk.injEq] at hmem
      obtain ⟨-, rfl⟩ := hmem
      cases hpart
  · exact (hstandard.2.2 _ (.noSuchField "A" "as")).2 _ _

end DocModel
