import DocModel.Proofs.Registry.Consistent
import Mathlib.Algebra.Order.Ring.Rat
import Mathlib.Data.List.Pairwise
import Mathlib.Data.List.Perm.Basic

set_option autoImplicit false

/-! # Violations are reported exactly

A violation is a field that breaks a rule. Where ids and names are repeated a field is not known by
them, so it is known here by its place: the position of its class in the model and its own position
in the class. A list reports a rule if its entries are those of the places that break it, each of them
once and in the order of the places. There is only one such list, and it is the one that validation
finds: nothing is missed, nothing is reported twice or without reason. -/

namespace DocModel.Model

variable {ρ : Type} {model : Model ρ}

/-! ## Places of fields -/

/-- Here is this field of this class. -/
def At (model : Model ρ) (place : Nat × Nat) (cls : Class ρ) (field : Field ρ) : Prop :=
  model.classes[place.1]? = some cls ∧ cls.fields[place.2]? = some field

/-- A place comes before another one if its class does, or its field in the same class. -/
abbrev Before : Nat × Nat → Nat × Nat → Prop := Prod.Lex (· < ·) (· < ·)

/-- At most one field is at a place. -/
theorem At.unique {place : Nat × Nat} {cls other : Class ρ} {field another : Field ρ}
    (h : model.At place cls field) (hother : model.At place other another) :
    cls = other ∧ field = another := by
  obtain rfl := Option.some.inj (h.1.symm.trans hother.1)
  exact ⟨rfl, Option.some.inj (h.2.symm.trans hother.2)⟩

/-- The places of a class with the fields there. -/
def Class.sites (cls : Class ρ) (position : Nat) : List ((Nat × Nat) × Class ρ × Field ρ) :=
  cls.fields.zipIdx.map fun entry => ((position, entry.2), cls, entry.1)

/-- The places of a model with the fields there, in order. -/
def sites (model : Model ρ) : List ((Nat × Nat) × Class ρ × Field ρ) :=
  model.classes.zipIdx.flatMap fun entry => entry.1.sites entry.2

theorem mem_sites {place : Nat × Nat} {cls : Class ρ} {field : Field ρ} :
    (place, cls, field) ∈ model.sites ↔ model.At place cls field := by
  obtain ⟨i, j⟩ := place
  simp only [sites, Class.sites, List.mem_flatMap, List.mem_map, Prod.exists, Prod.mk.injEq,
    List.mem_zipIdx_iff_getElem?, At]
  constructor
  · rintro ⟨_, _, hcls, _, _, hfield, ⟨rfl, rfl⟩, rfl, rfl⟩
    exact ⟨hcls, hfield⟩
  · rintro ⟨hcls, hfield⟩
    exact ⟨cls, i, hcls, field, j, hfield, ⟨rfl, rfl⟩, rfl, rfl⟩

theorem pairwise_zipIdx {α : Type} (xs : List α) (n : Nat) :
    (xs.zipIdx n).Pairwise fun first second => first.2 < second.2 := by
  have hpositions : ((xs.zipIdx n).map Prod.snd).Pairwise (· < ·) := by
    rw [List.zipIdx_map_snd]
    exact List.pairwise_lt_range'
  exact List.pairwise_map.1 hpositions

/-- Classes come in order, and so do the fields of a class. -/
theorem pairwise_sites (model : Model ρ) :
    model.sites.Pairwise fun first second => Before first.1 second.1 := by
  refine List.pairwise_flatMap.2 ⟨fun entry _ => ?_, (pairwise_zipIdx model.classes 0).imp ?_⟩
  · refine List.pairwise_map.2 ((pairwise_zipIdx entry.1.fields 0).imp fun hlt => ?_)
    exact .right _ hlt
  · intro first second hlt site hsite other hother
    obtain ⟨_, -, rfl⟩ := List.mem_map.1 hsite
    obtain ⟨_, -, rfl⟩ := List.mem_map.1 hother
    exact .left _ _ hlt

/-- Looking at the fields class by class is looking at the places in order. -/
theorem flatMap_filterMap_eq {α : Type} (check : Class ρ → Field ρ → Option α) :
    model.classes.flatMap (fun cls => cls.fields.filterMap (check cls))
      = model.sites.filterMap fun site => check site.2.1 site.2.2 := by
  have hfields : ∀ (cls : Class ρ) (position : Nat),
      (cls.sites position).filterMap (fun site => check site.2.1 site.2.2)
        = cls.fields.filterMap (check cls) := by
    intro cls position
    rw [Class.sites, List.filterMap_map, ← List.zipIdx_map_fst 0 cls.fields, List.filterMap_map,
      List.zipIdx_map_fst]
    rfl
  rw [sites, List.filterMap_flatMap, ← List.zipIdx_map_fst 0 model.classes, List.flatMap_map,
    List.zipIdx_map_fst]
  exact congrArg (List.flatMap · _) (funext fun entry => (hfields entry.1 entry.2).symm)

/-! ## Reports -/

/-- The entries are those of the places where the rule is broken, each once and in order. -/
def Reports {α : Type} (model : Model ρ) (broken : Class ρ → Field ρ → α → Prop)
    (entries : List α) : Prop :=
  ∃ places : List (Nat × Nat), places.Pairwise Before
    ∧ (∀ place, place ∈ places
        ↔ ∃ cls field entry, model.At place cls field ∧ broken cls field entry)
    ∧ List.Forall₂ (fun place entry => ∃ cls field, model.At place cls field ∧ broken cls field entry)
      places entries

/-- Lists of places in order are equal if they have the same places. -/
theorem eq_of_pairwise_before {places others : List (Nat × Nat)} (h : places.Pairwise Before)
    (hothers : others.Pairwise Before) (hsame : ∀ place, place ∈ places ↔ place ∈ others) :
    places = others := by
  have hirrefl : ∀ place : Nat × Nat, ¬ Before place place := fun place => irrefl place
  have hnodup : ∀ {list : List (Nat × Nat)}, list.Pairwise Before → list.Nodup := by
    refine fun hlist => hlist.imp ?_
    rintro first _ hbefore rfl
    exact hirrefl first hbefore
  have hperm := (List.perm_ext_iff_of_nodup (hnodup h) (hnodup hothers)).2 hsame
  refine hperm.eq_of_pairwise (fun first second _ _ hbefore hafter => ?_) h hothers
  exact absurd (IsTrans.trans _ _ _ hbefore hafter) (hirrefl first)

section Reports

variable {α : Type} {broken : Class ρ → Field ρ → α → Prop} {entries others : List α}

/-- There is only one list that reports a rule, if there is only one way to report a field. -/
theorem Reports.unique (h : model.Reports broken entries) (hothers : model.Reports broken others)
    (hbroken : ∀ cls field entry other, broken cls field entry → broken cls field other →
      entry = other) : entries = others := by
  obtain ⟨places, hplaces, hmem, hentries⟩ := h
  obtain ⟨places', hplaces', hmem', hentries'⟩ := hothers
  obtain rfl := eq_of_pairwise_before hplaces hplaces' fun place => (hmem place).trans (hmem' place).symm
  clear hplaces hplaces' hmem hmem'
  induction hentries generalizing others with
  | nil =>
    cases hentries'
    rfl
  | cons hfirst _ ih =>
    cases hentries' with
    | cons hother hrest =>
      obtain ⟨cls, field, hat, hentry⟩ := hfirst
      obtain ⟨_, _, hat', hentry'⟩ := hother
      obtain ⟨rfl, rfl⟩ := hat.unique hat'
      rw [hbroken _ _ _ _ hentry hentry', ih hrest]

/-- What is found in a list is found at the elements that are not passed over, in order. -/
theorem forall₂_filter_filterMap {σ : Type} {find : σ → Option α} {R : σ → α → Prop}
    {sites : List σ} (h : ∀ site ∈ sites, ∀ entry, find site = some entry → R site entry) :
    List.Forall₂ R (sites.filter fun site => (find site).isSome) (sites.filterMap find) := by
  induction sites with
  | nil => exact .nil
  | cons site rest ih =>
    have hrest := ih fun other hother => h other (List.mem_cons_of_mem _ hother)
    cases hfound : find site with
    | none => simpa [hfound] using hrest
    | some entry => simpa [hfound] using ⟨h site List.mem_cons_self entry hfound, hrest⟩

/-- What a check finds, class by class and field by field, reports the rule that it checks. -/
theorem reports_flatMap {check : Class ρ → Field ρ → Option α}
    (hcheck : ∀ cls field entry, check cls field = some entry ↔ broken cls field entry) :
    model.Reports broken (model.classes.flatMap fun cls => cls.fields.filterMap (check cls)) := by
  rw [flatMap_filterMap_eq]
  refine ⟨(model.sites.filter fun site => (check site.2.1 site.2.2).isSome).map Prod.fst, ?_, ?_, ?_⟩
  · exact List.pairwise_map.2 (model.pairwise_sites.filter _)
  · intro place
    simp only [List.mem_map, List.mem_filter, Prod.exists, mem_sites, Option.isSome_iff_exists,
      hcheck]
    constructor
    · rintro ⟨i, j, cls, field, ⟨hat, entry, hentry⟩, rfl⟩
      exact ⟨cls, field, entry, hat, hentry⟩
    · rintro ⟨cls, field, entry, hat, hentry⟩
      exact ⟨place.1, place.2, cls, field, ⟨hat, entry, hentry⟩, rfl⟩
  · refine List.forall₂_map_left_iff.2 (forall₂_filter_filterMap ?_)
    rintro ⟨place, cls, field⟩ hsite entry hfound
    exact ⟨cls, field, mem_sites.1 hsite, (hcheck ..).1 hfound⟩

/-- **The list that a check finds is the one that reports its rule.** -/
theorem reports_iff {check : Class ρ → Field ρ → Option α}
    (hcheck : ∀ cls field entry, check cls field = some entry ↔ broken cls field entry) :
    model.Reports broken entries
      ↔ entries = model.classes.flatMap fun cls => cls.fields.filterMap (check cls) := by
  have hfound := model.reports_flatMap hcheck
  constructor
  · intro h
    refine h.unique hfound fun cls field entry other hentry hother => ?_
    exact Option.some.inj (((hcheck ..).2 hentry).symm.trans ((hcheck ..).2 hother))
  · rintro rfl
    exact hfound

/-- Nothing is reported if and only if the rule is nowhere broken. -/
theorem Reports.eq_nil_iff (h : model.Reports broken entries) :
    entries = [] ↔ ∀ place cls field, model.At place cls field → ∀ entry, ¬ broken cls field entry := by
  obtain ⟨places, -, hmem, hentries⟩ := h
  constructor
  · rintro rfl place cls field hat entry hentry
    obtain rfl := List.forall₂_nil_right_iff.1 hentries
    exact List.not_mem_nil ((hmem place).2 ⟨cls, field, entry, hat, hentry⟩)
  · intro hnowhere
    have hplaces : places = [] := by
      refine List.eq_nil_iff_forall_not_mem.2 fun place hplace => ?_
      obtain ⟨cls, field, entry, hat, hentry⟩ := (hmem place).1 hplace
      exact hnowhere place cls field hat entry hentry
    rw [hplaces] at hentries
    exact List.forall₂_nil_left_iff.1 hentries

end Reports

/-! ## Rules of models -/

/-- A reference whose type is a class that no class of the model is. -/
structure Dangles (model : Model ρ) (cls : Class ρ) (field : Field ρ)
    (entry : DanglingReference) : Prop where
  kind : field.kind = .reference
  valueType : field.valueType = .instanceOf entry.target
  missing : ∀ other ∈ model.classes, other.id ≠ entry.target
  classId : entry.classId = cls.id
  name : entry.field = field.name

/-- A field that was observed more often than the class that it stands in. -/
structure Class.Exceeds (cls : Class ρ) (field : Field ρ) (entry : CountViolation) : Prop where
  more : cls.occurrences < field.occurrences
  classId : entry.classId = cls.id
  name : entry.field = field.name
  fieldCount : entry.fieldCount = field.occurrences
  classCount : entry.classCount = cls.occurrences

/-- The part of the instances of its class that a field was observed on, which is none if there is no
instance. -/
def Class.portion (cls : Class Rat) (field : Field Rat) : Rat :=
  if cls.occurrences = 0 then 0 else field.occurrences / cls.occurrences

/-- A field whose coverage is missing, no portion at all or not nearly the one that it should be. -/
structure Class.Miscovers (cls : Class Rat) (field : Field Rat)
    (entry : CoverageViolation Rat) : Prop where
  wrong : field.coverage = none ∨ ∃ ratio, field.coverage = some ratio
    ∧ (ratio < 0 ∨ 1 < ratio ∨ 1 / 1000000000 ≤ |ratio - cls.portion field|)
  classId : entry.classId = cls.id
  name : entry.field = field.name
  ratio : entry.ratio = field.coverage
  expected : entry.expected = cls.portion field

section Checks

variable (model) (cls : Class ρ) (field : Field ρ)

theorem hasClass_eq_false_iff {id : String} :
    model.hasClass id = false ↔ ∀ other ∈ model.classes, other.id ≠ id := by
  simp [hasClass, classIds]

theorem dangling_check_iff {entry : DanglingReference} :
    (field.target?.bind fun target =>
        if model.hasClass target then none else some ⟨cls.id, field.name, target⟩) = some entry
      ↔ model.Dangles cls field entry := by
  rw [Option.bind_eq_some_iff]
  constructor
  · rintro ⟨target, htarget, hfound⟩
    obtain ⟨hkind, htype⟩ := Field.target?_eq_some_iff.1 htarget
    cases hknown : model.hasClass target with
    | true => simp [hknown] at hfound
    | false =>
      obtain rfl : ⟨cls.id, field.name, target⟩ = entry := by simpa [hknown] using hfound
      exact ⟨hkind, htype, (model.hasClass_eq_false_iff).1 hknown, rfl, rfl⟩
  · rintro ⟨hkind, htype, hmissing, hid, hname⟩
    refine ⟨entry.target, Field.target?_eq_some_iff.2 ⟨hkind, htype⟩, ?_⟩
    simp [(model.hasClass_eq_false_iff).2 hmissing, ← hid, ← hname]

theorem count_check_iff {entry : CountViolation} :
    (if field.occurrences > cls.occurrences then
        some (⟨cls.id, field.name, field.occurrences, cls.occurrences⟩ : CountViolation)
      else none) = some entry
      ↔ cls.Exceeds field entry := by
  rw [Option.ite_none_right_eq_some]
  constructor
  · rintro ⟨hmore, hfound⟩
    obtain rfl := Option.some.inj hfound
    exact ⟨hmore, rfl, rfl, rfl, rfl⟩
  · rintro ⟨hmore, hid, hname, hfields, hcount⟩
    refine ⟨hmore, ?_⟩
    rw [← hid, ← hname, ← hfields, ← hcount]

end Checks

section Rationals

variable (cls : Class Rat) (field : Field Rat)

theorem share_eq_portion :
    (Ratio.share field.occurrences cls.occurrences : Rat) = cls.portion field := by
  unfold Ratio.share Class.portion
  split <;> rfl

theorem distance_eq_abs (ratio expected : Rat) :
    Ratio.distance ratio expected = |ratio - expected| := by
  show (if 0 ≤ ratio - expected then _ else _) = |ratio - expected|
  split
  · rename_i hnonneg
    exact (abs_of_nonneg hnonneg).symm
  · rename_i hneg
    exact (abs_of_neg (not_le.1 hneg)).symm

/-- A coverage is accepted between zero and one and near to what is expected. -/
theorem agrees_iff {ratio expected : Rat} : Ratio.agrees ratio expected = true
    ↔ 0 ≤ ratio ∧ ratio ≤ 1 ∧ |ratio - expected| < 1 / 1000000000 := by
  simp [Ratio.agrees, distance_eq_abs, Ratio.atMost, Ratio.below, Ratio.ofCount, Ratio.tolerance,
    and_assoc]

theorem isCovered_eq_false_iff : field.isCovered cls.occurrences = false
    ↔ field.coverage = none ∨ ∃ ratio, field.coverage = some ratio
      ∧ (ratio < 0 ∨ 1 < ratio ∨ 1 / 1000000000 ≤ |ratio - cls.portion field|) := by
  rw [← Bool.not_eq_true, Field.isCovered]
  cases field.coverage with
  | none => simp
  | some ratio =>
    simp only [agrees_iff, share_eq_portion, reduceCtorEq, Option.some.injEq, exists_eq_left',
      false_or, not_and_or, not_le, not_lt]

theorem coverage_check_iff {entry : CoverageViolation Rat} :
    (if field.isCovered cls.occurrences then none
      else some (⟨cls.id, field.name, field.coverage,
        Ratio.share field.occurrences cls.occurrences⟩ : CoverageViolation Rat)) = some entry
      ↔ cls.Miscovers field entry := by
  rw [Option.ite_none_left_eq_some, Bool.not_eq_true, isCovered_eq_false_iff, share_eq_portion]
  constructor
  · rintro ⟨hwrong, hfound⟩
    obtain rfl := Option.some.inj hfound
    exact ⟨hwrong, rfl, rfl, rfl, rfl⟩
  · rintro ⟨hwrong, hid, hname, hratio, hexpected⟩
    refine ⟨hwrong, ?_⟩
    rw [← hid, ← hname, ← hratio, ← hexpected]

end Rationals

/-! ## What a validation reports -/

/-- **Violations are reported exactly.** The dangling references, the counts and the coverage that a
validation reports are the one list that has an entry for every field that breaks the rule, with its
own class and counts, in the order of the classes and of their fields. Ids and names may be repeated,
and kinds need not be what the types say. Coverage is that of rationals, without rounding. So a model
is valid exactly if no field breaks a rule. -/
theorem violations_exact :
    (∀ (σ : Type) [Ratio σ] (model : Model σ),
      (∀ entries, model.Reports model.Dangles entries ↔ entries = model.validate.dangling)
      ∧ ∀ entries, model.Reports Class.Exceeds entries ↔ entries = model.validate.counts)
    ∧ ∀ model : Model Rat,
      (∀ entries, model.Reports Class.Miscovers entries ↔ entries = model.validate.coverage)
      ∧ (model.validate.isValid = true ↔ ∀ place cls field, model.At place cls field →
        (∀ entry, ¬ model.Dangles cls field entry) ∧ (∀ entry, ¬ cls.Exceeds field entry)
        ∧ ∀ entry, ¬ cls.Miscovers field entry) := by
  have hdangling : ∀ (σ : Type) [Ratio σ] (model : Model σ) entries,
      model.Reports model.Dangles entries ↔ entries = model.validate.dangling :=
    fun _ _ model _ => reports_iff fun cls field _ => model.dangling_check_iff cls field
  have hcounts : ∀ (σ : Type) [Ratio σ] (model : Model σ) entries,
      model.Reports Class.Exceeds entries ↔ entries = model.validate.counts :=
    fun _ _ _ _ => reports_iff fun cls field _ => count_check_iff cls field
  have hcoverage : ∀ (model : Model Rat) entries,
      model.Reports Class.Miscovers entries ↔ entries = model.validate.coverage :=
    fun _ _ => reports_iff fun cls field _ => coverage_check_iff cls field
  refine ⟨fun σ _ model => ⟨hdangling σ model, hcounts σ model⟩, fun model => ⟨hcoverage model, ?_⟩⟩
  rw [Findings.isValid, Bool.and_eq_true, Bool.and_eq_true, List.isEmpty_iff, List.isEmpty_iff,
    List.isEmpty_iff, ((hdangling Rat model _).2 rfl).eq_nil_iff, ((hcounts Rat model _).2 rfl).eq_nil_iff,
    ((hcoverage model _).2 rfl).eq_nil_iff]
  constructor
  · rintro ⟨⟨h1, h2⟩, h3⟩ place cls field hat
    exact ⟨h1 place cls field hat, h2 place cls field hat, h3 place cls field hat⟩
  · intro h
    exact ⟨⟨fun place cls field hat => (h place cls field hat).1,
      fun place cls field hat => (h place cls field hat).2.1⟩,
      fun place cls field hat => (h place cls field hat).2.2⟩

/-- Two classes of one id, of which the second one was never observed and has two fields of one name.
The types of two members are not what their kinds say. -/
def tangled : Model Rat where
  name := "tangled"
  nsUri := ""
  nsPrefix := ""
  root := "A"
  classes :=
    [⟨"A", [⟨"lost", .reference, .instanceOf "Z", .one, true, 3, some (3 / 2)⟩,
        ⟨"odd", .attribute, .instanceOf "Z", .one, true, 1, some (1 / 2)⟩,
        ⟨"text", .reference, .string, .one, true, 1, none⟩], 2⟩,
      ⟨"A", [⟨"a", .reference, .instanceOf "A", .one, true, 0, some 0⟩,
        ⟨"a", .reference, .instanceOf "Y", .one, true, 1, some (1 / 2)⟩], 0⟩]

/-- The first field breaks all rules, and each list names the classes by the id that they share. -/
example :
    tangled.validate.dangling = [⟨"A", "lost", "Z"⟩, ⟨"A", "a", "Y"⟩]
      ∧ tangled.validate.counts = [⟨"A", "lost", 3, 2⟩, ⟨"A", "a", 1, 0⟩]
      ∧ tangled.validate.coverage.map (fun entry => (entry.field, entry.ratio, entry.expected))
        = [("lost", some (3 / 2), 3 / 2), ("text", none, 1 / 2), ("a", some (1 / 2), 0)] := by
  decide +kernel

end DocModel.Model
