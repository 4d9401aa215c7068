import DocModel.Proofs.Discovery.Flat
import DocModel.Proofs.Join
import Mathlib.Data.List.Nodup

set_option autoImplicit false

/-! # Orders of flat documents

What a run has observed is said by the log of its encounters, and for the most part by the encounters
as a multiset: counts are numbers of encounters, and the type of an attribute is a join. Where values
have no objects inside there are only attributes, and the log is the list of the root objects. So a
run of the same objects in another order ends with the same observations. The order of the fields,
their multiplicities and the required ones do depend on which object comes first. -/

namespace DocModel

variable {ρ : Type}

open Discovery

/-! ## The same observations -/

/-- The field without what the first object of its name decides. -/
def Model.Field.unordered (field : Model.Field ρ) : Model.Field ρ :=
  { field with multiplicity := .one, required := false }

/-- Both models have a single class, the one of the root objects, and the two classes have counted the
same number of objects and have the same fields: their names, kinds, types, counts and coverage are
the same, in some order. -/
structure Model.SameObservations (model other : Model ρ) : Prop where
  name : other.name = model.name
  nsUri : other.nsUri = model.nsUri
  nsPrefix : other.nsPrefix = model.nsPrefix
  root : other.root = model.root
  classes : ∃ cls twin : Model.Class ρ, model.classes = [cls] ∧ other.classes = [twin]
    ∧ cls.id = model.root ∧ twin.id = model.root ∧ twin.occurrences = cls.occurrences
    ∧ (cls.fields.map Field.unordered).Perm (twin.fields.map Field.unordered)

/-- The other class has counted as many objects, and for every field of the first one it has a field
with the same observations. -/
structure Model.Class.SeenIn (cls twin : Model.Class ρ) : Prop where
  id : twin.id = cls.id
  occurrences : twin.occurrences = cls.occurrences
  fields : ∀ field ∈ cls.fields, ∃ other ∈ twin.fields, other.name = field.name
    ∧ other.kind = field.kind ∧ other.valueType = field.valueType
    ∧ other.occurrences = field.occurrences

/-- Two attributes that are joins of the same values have the same type. -/
theorem Model.Field.IsJoin.valueType_eq {policy : Policy} {observed seen : Document → Prop}
    {field other : Model.Field ρ} (h : field.IsJoin policy observed)
    (hother : other.IsJoin policy seen) (hsame : ∀ value, observed value ↔ seen value)
    (hname : other.name = field.name) (hkind : field.kind = .attribute)
    (hkind' : other.kind = .attribute) : other.valueType = field.valueType := by
  have hinteger : other.valueType = .scalar .integer ↔ field.valueType = .scalar .integer := by
    simp only [h.integer hkind, hother.integer hkind', hsame, hname]
  have hboolean : other.valueType = .scalar .boolean ↔ field.valueType = .scalar .boolean := by
    simp only [h.boolean hkind, hother.boolean hkind', hsame, hname]
  by_cases hint : field.valueType = .scalar .integer
  · rw [hint, hinteger.2 hint]
  · by_cases hbool : field.valueType = .scalar .boolean
    · rw [hbool, hboolean.2 hbool]
    · -- everything else is a string
      rw [h.string hkind hint hbool, hother.string hkind' (mt hinteger.1 hint) (mt hboolean.1 hbool)]

namespace Discovery

/-! ## Runs that have met the same -/

section Roots

variable {policy : Policy} {id : String} {roots reordered : List Members} {c d : Context ρ}

theorem Runs.isJoin_of_field? (h : Runs policy (.roots id roots) (.of .empty) (.ok ()) c)
    {label name : String} {field : Model.Field ρ}
    (hfield : c.registry.field? label name = some field) :
    field.name = name ∧ field.IsJoin policy (Observed c.encounters label name) := by
  obtain ⟨cls, hcls, hin⟩ := Option.bind_eq_some_iff.1 hfield
  obtain rfl := Registry.id_of_get? hcls
  obtain rfl := Model.Class.name_of_field? hin
  exact ⟨rfl, h.isJoin trivial (Registry.mem_of_get? hcls) (Model.Class.mem_of_field? hin)⟩

variable (h : Runs policy (.roots id roots) (.of .empty) (.ok ()) c)
  (hother : Runs policy (.roots id reordered) (.of .empty) (.ok ()) d)
  (hperm : c.encounters.Perm d.encounters) (hattributes : c.registry.AllAttributes)
  (hattributes' : d.registry.AllAttributes)

include h hother hperm hattributes hattributes'

/-- An attribute of one run is there in the other one, with the same observations. -/
theorem Runs.exists_field_twin {label name : String} {field : Model.Field ρ}
    (hfield : c.registry.field? label name = some field) :
    ∃ other, d.registry.field? label name = some other ∧ other.name = field.name
      ∧ other.kind = field.kind ∧ other.valueType = field.valueType
      ∧ other.occurrences = field.occurrences := by
  have hcount : d.registry.fieldCount label name = c.registry.fieldCount label name := by
    rw [h.fieldCount_roots, hother.fieldCount_roots, timesObserved, timesObserved,
      (hperm.map _).sum_nat]
  obtain ⟨other, hfield'⟩ : ∃ other, d.registry.field? label name = some other := by
    rw [← Option.isSome_iff_exists, hother.field?_roots_iff, hcount, ← h.field?_roots_iff, hfield]
    rfl
  obtain ⟨hname, hjoin⟩ := h.isJoin_of_field? hfield
  obtain ⟨hname', hjoin'⟩ := hother.isJoin_of_field? hfield'
  have hkind := Model.Field.isReference_eq_false_iff.1 (hattributes _ _ _ hfield)
  have hkind' := Model.Field.isReference_eq_false_iff.1 (hattributes' _ _ _ hfield')
  have hsame := hname'.trans hname.symm
  -- the values that were observed are the same, and a join does not ask for their order
  have hobserved : ∀ value, Observed c.encounters label name value
      ↔ Observed d.encounters label name value :=
    fun _ => exists_congr fun _ => and_congr_left fun _ => hperm.mem_iff
  refine ⟨other, hfield', hsame, hkind'.trans hkind.symm,
    hjoin.valueType_eq hjoin' hobserved hsame hkind hkind', ?_⟩
  rwa [Registry.fieldCount_of_field? hfield, Registry.fieldCount_of_field? hfield'] at hcount

/-- **Runs with the same encounters have the same classes**, in whatever order they have met them. A
class of attributes has the same fields in both, but for what depends on the first object. -/
theorem Runs.exists_twin {cls : Model.Class ρ} (hcls : cls ∈ c.registry.classes) :
    ∃ twin ∈ d.registry.classes, cls.SeenIn twin := by
  have hcount : d.registry.classCount cls.id = c.registry.classCount cls.id := by
    rw [h.classCount_roots, hother.classCount_roots, timesEntered, timesEntered, hperm.countP_eq]
  have hcontains : d.registry.contains cls.id = true := by
    rw [hother.contains_roots_iff, hcount, ← h.contains_roots_iff]
    exact Registry.contains_iff_mem_ids.2 (List.mem_map_of_mem hcls)
  obtain ⟨twin, htwin, hid⟩ := List.mem_map.1 (Registry.contains_iff_mem_ids.1 hcontains)
  refine ⟨twin, htwin, hid, ?_, fun field hfield => ?_⟩
  · rwa [Registry.classCount_of_mem hcls, ← hid, Registry.classCount_of_mem htwin] at hcount
  · have hfound := (h.distinctNames (Registry.each_empty _)).field?_of_mem hcls hfield
    obtain ⟨other, hfield', hsame⟩ :=
      h.exists_field_twin hother hperm hattributes hattributes' hfound
    rw [← hid, Registry.field?, Registry.get?_of_mem htwin, Option.bind_some] at hfield'
    exact ⟨other, Model.Class.mem_of_field? hfield', hsame⟩

omit hother hperm hattributes hattributes'

/-- Only one class is there if the root objects are all that was met. -/
theorem Runs.exists_classes_eq (hroots : roots ≠ [])
    (hlog : c.encounters = (roots.map (⟨id, ·⟩)).reverse) :
    ∃ cls, c.registry.classes = [cls] ∧ cls.id = id := by
  have honly : ∀ label, label ∈ c.registry.ids ↔ label = id := by
    intro label
    rw [← Registry.contains_iff_mem_ids, h.contains_roots_iff, h.classCount_roots,
      timesEntered_pos, hlog]
    obtain ⟨root, hroot⟩ := List.exists_mem_of_ne_nil roots hroots
    simp only [List.mem_reverse, List.mem_map, exists_exists_and_eq_and]
    exact ⟨fun ⟨_, _, hid⟩ => hid.symm, fun hid => ⟨root, hroot, hid.symm⟩⟩
  have hperm : c.registry.ids.Perm [id] :=
    (List.perm_ext_iff_of_nodup c.registry.nodup_ids (List.pairwise_singleton _ id)).2
      fun label => (honly label).trans List.mem_singleton.symm
  obtain ⟨cls, hcls, hid⟩ := List.map_eq_singleton_iff.1 (List.perm_singleton.1 hperm)
  exact ⟨cls, hcls, hid⟩

end Roots

end Discovery

/-! ## Classes with coverage -/

namespace Model.Class

variable [Ratio ρ]

/-- Fields with the same observations have the same coverage. -/
theorem SeenIn.mem_unordered {cls twin : Model.Class ρ} (h : cls.SeenIn twin)
    {shown : Model.Field ρ} (hshown : shown ∈ cls.computeCoverage.fields.map Field.unordered) :
    shown ∈ twin.computeCoverage.fields.map Field.unordered := by
  simp only [computeCoverage, mapFields, List.map_map, List.mem_map] at hshown ⊢
  obtain ⟨field, hfield, rfl⟩ := hshown
  obtain ⟨other, hother, hname, hkind, htype, hoccurrences⟩ := h.fields field hfield
  refine ⟨other, hother, ?_⟩
  simp only [Function.comp_apply, Field.unordered, Field.withCoverage, hname, hkind, htype,
    hoccurrences, h.occurrences]

theorem DistinctNames.nodup_unordered {cls : Model.Class ρ} (h : cls.DistinctNames) :
    (cls.computeCoverage.fields.map Field.unordered).Nodup := by
  refine List.Nodup.of_map Field.name ?_
  rw [List.map_map]
  exact cls.names_computeCoverage ▸ h

/-- Two classes that are seen in each other have the same fields, in some order. -/
theorem SeenIn.perm_unordered {cls twin : Model.Class ρ} (h : cls.SeenIn twin)
    (hback : twin.SeenIn cls) (hnames : cls.DistinctNames) (hnames' : twin.DistinctNames) :
    (cls.computeCoverage.fields.map Field.unordered).Perm
      (twin.computeCoverage.fields.map Field.unordered) :=
  (List.perm_ext_iff_of_nodup hnames.nodup_unordered hnames'.nodup_unordered).2
    fun _ => ⟨h.mem_unordered, hback.mem_unordered⟩

end Model.Class

/-! ## Permutations of root objects -/

namespace Discovery

section Reordered

variable {policy : Policy} {id : String} {roots reordered : List Members} {c d : Context ρ}

/-- What succeeds in one order succeeds in every other one. -/
theorem Runs.exists_reordered (h : Runs policy (.roots id roots) (.of .empty) (.ok ()) c)
    (hflat : ∀ root ∈ roots, ∀ member ∈ root, member.2.Flat) (hperm : roots.Perm reordered) :
    ∃ d : Context ρ, Runs policy (.roots id reordered) (.of .empty) (.ok ()) d := by
  obtain ⟨outcome, d, hother⟩ :=
    exists_runs_roots policy id reordered (.of (.empty : Registry ρ))
  have hflat' := fun root hroot => hflat root (hperm.mem_iff.2 hroot)
  -- the same values can be typed, so the outcome is no error
  obtain ⟨-, -, hok⟩ := h.roots_flat hflat .empty
  obtain ⟨-, -, hok'⟩ := hother.roots_flat hflat' .empty
  have hsucceeds := hok'.2 fun root hroot => hok.1 rfl root (hperm.mem_iff.2 hroot)
  cases outcome with
  | error e => exact absurd hsucceeds nofun
  | ok => exact ⟨d, hother⟩

/-- Runs of the same flat objects in two orders make models with the same observations. -/
theorem Runs.sameObservations [Ratio ρ]
    (h : Runs policy (.roots id roots) (.of .empty) (.ok ()) c)
    (hother : Runs policy (.roots id reordered) (.of .empty) (.ok ()) d)
    (hflat : ∀ root ∈ roots, ∀ member ∈ root, member.2.Flat) (hperm : roots.Perm reordered)
    (hroots : roots ≠ []) (discoverer : Discoverer) (name : String) :
    (discoverer.modelOf name id c.registry).SameObservations
      (discoverer.modelOf name id d.registry) := by
  obtain ⟨hattributes, hlog, -⟩ := h.roots_flat hflat .empty
  obtain ⟨hattributes', hlog', -⟩ :=
    hother.roots_flat (fun root hroot => hflat root (hperm.mem_iff.2 hroot)) .empty
  have hmet := (hlog rfl).trans (List.append_nil _)
  have hmet' := (hlog' rfl).trans (List.append_nil _)
  have hencounters : c.encounters.Perm d.encounters := by
    rw [hmet, hmet']
    exact (List.reverse_perm _).trans ((hperm.map _).trans (List.reverse_perm _).symm)
  have hreordered : reordered ≠ [] := fun hnone => hroots (hnone ▸ hperm).eq_nil
  obtain ⟨cls, hcls, hid⟩ := h.exists_classes_eq hroots hmet
  obtain ⟨twin, htwin, hid'⟩ := hother.exists_classes_eq hreordered hmet'
  have hin : cls ∈ c.registry.classes := hcls ▸ List.mem_singleton_self cls
  have hin' : twin ∈ d.registry.classes := htwin ▸ List.mem_singleton_self twin
  obtain ⟨_, hseen, htwins⟩ := h.exists_twin hother hencounters hattributes hattributes' hin
  obtain ⟨_, hback, htwins'⟩ :=
    hother.exists_twin h hencounters.symm hattributes' hattributes hin'
  -- both registries have one class, so each is the twin of the other
  obtain rfl := (List.mem_singleton.1 (htwin ▸ hseen)).symm
  obtain rfl := (List.mem_singleton.1 (hcls ▸ hback)).symm
  refine ⟨rfl, rfl, rfl, rfl, cls.computeCoverage, twin.computeCoverage,
    congrArg (List.map Model.Class.computeCoverage) hcls,
    congrArg (List.map Model.Class.computeCoverage) htwin, hid, hid', htwins.occurrences, ?_⟩
  exact htwins.perm_unordered htwins' (h.distinctNames (Registry.each_empty _) cls hin)
    (hother.distinctNames (Registry.each_empty _) twin hin')

end Reordered

end Discovery

theorem rootObjects_map_object (roots : List Members) :
    rootObjects (roots.map .object) = roots := by
  simp [rootObjects, List.flatMap_map, Document.rootObjects]

/-- **The order of flat documents does not matter for what is observed.** If root objects without
objects in their members are discovered, then they are in every other order too, with the same
observations. -/
theorem reordered_same_observations [Ratio ρ] (d : Discoverer) (name : String)
    (roots reordered : List Members) (model : Model ρ)
    (hflat : ∀ root ∈ roots, ∀ member ∈ root, member.2.Flat) (hperm : roots.Perm reordered)
    (h : d.discover name (roots.map .object) = .ok model) :
    ∃ other : Model ρ, d.discover name (reordered.map .object) = .ok other
      ∧ model.SameObservations other := by
  obtain ⟨root, c, hdigest, hruns, rfl⟩ := Discoverer.exists_runs_of_discover h
  rw [rootObjects_map_object] at hruns
  have hroots : roots ≠ [] := by
    rintro rfl
    exact (Discoverer.discover_eq_ok_iff.1 h).1 rfl
  obtain ⟨c', hother⟩ := hruns.exists_reordered hflat hperm
  refine ⟨d.modelOf name root c'.registry, Discoverer.discover_eq_ok_iff.2 ⟨?_, ?_⟩,
    hruns.sameObservations hother hflat hperm hroots d name⟩
  · intro hnone
    rw [List.map_eq_nil_iff] at hnone
    exact hroots (hnone ▸ hperm).eq_nil
  · rw [rootObjects_map_object]
    exact Discoverer.run_eq_ok_iff.2 ⟨root, c', hdigest, Discoverer.fold_eq_iff.2 hother, rfl⟩

/-- Objects of which every two have a member in common. -/
def flatRoots : List Members :=
  [[("ks", .array [.array [.bool true]]), ("m", .ofInt 1)], [("m", .bool true)],
    [("z", .null), ("ks", .bool false), ("m", .ofInt 2)]]

/-- What is told apart of the fields of the classes. -/
def Model.shown (model : Model Rat) : List (List (String × ValueType × Multiplicity × Bool)) :=
  model.classes.map (·.fields.map fun field =>
    (field.name, field.valueType, field.multiplicity, field.required))

/-- In both orders there are the same types, and all that differs is the order of the fields, which of
them are required and a multiplicity. -/
theorem reordered_same_observations_flatRoots : ∃ model other : Model Rat,
    Discoverer.discover ⟨.standard, .pluralStrip⟩ "As" (flatRoots.map .object) = .ok model
      ∧ Discoverer.discover ⟨.standard, .pluralStrip⟩ "As" (flatRoots.reverse.map .object)
        = .ok other
      ∧ model.shown = [[("ks", .scalar .boolean, .many, true), ("m", .string, .one, true),
        ("z", .string, .one, false)]]
      ∧ other.shown = [[("z", .string, .one, true), ("ks", .scalar .boolean, .one, true),
        ("m", .string, .one, true)]]
      ∧ model.SameObservations other := by
  have hflat : ∀ root ∈ flatRoots, ∀ member ∈ root, member.2.Flat := by
    simp [flatRoots, Document.ofInt, -Prod.forall]
  obtain ⟨model, hmodel, hfields⟩ : ∃ model : Model Rat,
      Discoverer.discover ⟨.standard, .pluralStrip⟩ "As" (flatRoots.map .object) = .ok model
        ∧ model.shown = [[("ks", .scalar .boolean, .many, true), ("m", .string, .one, true),
          ("z", .string, .one, false)]] := exists_eq_ok_of_toOption_map (by decide +kernel)
  obtain ⟨reversed, hreversed, hfields'⟩ : ∃ other : Model Rat,
      Discoverer.discover ⟨.standard, .pluralStrip⟩ "As" (flatRoots.reverse.map .object)
          = .ok other
        ∧ other.shown = [[("z", .string, .one, true), ("ks", .scalar .boolean, .one, true),
          ("m", .string, .one, true)]] := exists_eq_ok_of_toOption_map (by decide +kernel)
  obtain ⟨other, hother, hsame⟩ := reordered_same_observations ⟨.standard, .pluralStrip⟩ "As"
    flatRoots flatRoots.reverse model hflat (List.reverse_perm _).symm hmodel
  obtain rfl := Except.ok.inj (hreversed.symm.trans hother)
  exact ⟨model, reversed, hmodel, hreversed, hfields, hfields', hsame⟩

end DocModel
