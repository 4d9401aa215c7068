import DocModel.Model.Stats
import DocModel.Proofs.Incremental
import DocModel.Proofs.RootClass

set_option autoImplicit false

/-! # What statistics count

Statistics are taken over the fields of all classes. Every field is counted with its class, either as
an attribute or as a reference. A refinement keeps every class and every field of its model, a field
with its kind, its multiplicity and its flag, so what was counted before is counted again
(`Model.Retains`). The class of the root objects counts all of these, besides the objects of the
class that are nested in them. -/

namespace DocModel

variable {ρ : Type}

/-! ## Every field is counted -/

namespace Model

/-- How many fields with this property the classes have, added up class by class. -/
def countFields (model : Model ρ) (p : Field ρ → Bool) : Nat :=
  (model.classes.map fun cls => cls.fields.countP p).sum

theorem countP_allFields (model : Model ρ) (p : Field ρ → Bool) :
    model.allFields.countP p = model.countFields p := List.countP_flatMap

/-- The statistics are what the fields of the classes add up to. -/
structure Accounted (model : Model ρ) : Prop where
  kinds : model.stats.attributes + model.stats.references = model.stats.fields
  fields : model.stats.fields = (model.classes.map (·.fields.length)).sum
  attributes : model.stats.attributes = model.countFields (·.kind = .attribute)
  references : model.stats.references = model.countFields (·.kind = .reference)
  many : model.stats.manyValuedFields = model.countFields (·.multiplicity = .many)
  optional : model.stats.optionalFields = model.countFields (·.required = false)

theorem accounted (model : Model ρ) : model.Accounted where
  kinds := by
    have hsplit := model.allFields.length_eq_countP_add_countP Field.isReference
    simp only [Bool.not_eq_true, Bool.decide_eq_false] at hsplit
    exact (Nat.add_comm _ _).trans hsplit.symm
  fields := List.length_flatMap
  attributes := by
    rw [← countP_allFields]
    refine List.countP_congr fun field _ => ?_
    simp [Field.isReference_eq_false_iff]
  references := by
    rw [← countP_allFields]
    exact List.countP_congr fun field _ => by simp [Field.isReference]
  many := by
    rw [← countP_allFields]
    refine List.countP_congr fun field _ => ?_
    cases hmany : field.multiplicity <;> simp [Multiplicity.isMany]
  optional := by
    rw [← countP_allFields]
    exact List.countP_congr fun field _ => by simp

end Model

/-! ## What is retained is counted again -/

/-- No component is larger than that of the other statistics. -/
structure Stats.AtMost (before after : Stats) : Prop where
  rootInstances : before.rootInstances ≤ after.rootInstances
  classes : before.classes ≤ after.classes
  fields : before.fields ≤ after.fields
  attributes : before.attributes ≤ after.attributes
  references : before.references ≤ after.references
  manyValuedFields : before.manyValuedFields ≤ after.manyValuedFields
  optionalFields : before.optionalFields ≤ after.optionalFields

namespace Grown

variable {α : Type} {R : α → α → Prop} {x : α} {xs ys : List α}

theorem exists_cons (h : Grown R (x :: xs) ys) :
    ∃ y rest, ys = y :: rest ∧ R x y ∧ Grown R xs rest := by
  obtain ⟨y, hy, hxy⟩ := h 0 x rfl
  obtain ⟨rest, rfl⟩ := List.head?_eq_some_iff.1 (List.head?_eq_getElem?.trans hy)
  exact ⟨y, rest, rfl, hxy, fun i z hz => h (i + 1) z hz⟩

theorem sum_le {f : α → Nat} (hf : ∀ x y, R x y → f x ≤ f y) (h : Grown R xs ys) :
    (xs.map f).sum ≤ (ys.map f).sum := by
  induction xs generalizing ys with
  | nil => exact Nat.zero_le _
  | cons x xs ih =>
    obtain ⟨y, rest, rfl, hxy, hrest⟩ := h.exists_cons
    exact Nat.add_le_add (hf x y hxy) (ih hrest)

theorem countP_le {p : α → Bool} (hp : ∀ x y, R x y → p y = p x) (h : Grown R xs ys) :
    xs.countP p ≤ ys.countP p := by
  have hcount := (h.map_isPrefix hp).sublist.countP_le (p := id)
  rwa [List.countP_map, List.countP_map] at hcount

theorem length_le (h : Grown R xs ys) : xs.length ≤ ys.length := by
  have hlength := (h.map_isPrefix (f := fun _ => ()) fun _ _ _ => rfl).length_le
  rwa [List.length_map, List.length_map] at hlength

end Grown

namespace Model

/-- The field is still what statistics count it as. -/
structure Field.Retains (before after : Field ρ) : Prop where
  kind : after.kind = before.kind
  multiplicity : after.multiplicity = before.multiplicity
  required : after.required = before.required

/-- The class still has what statistics count of it. -/
structure Class.Retains (before after : Class ρ) : Prop where
  id : after.id = before.id
  occurrences : before.occurrences ≤ after.occurrences
  fields : Grown Field.Retains before.fields after.fields

/-- The model still has what statistics count. -/
structure Retains (before after : Model ρ) : Prop where
  root : after.root = before.root
  classes : Grown Class.Retains before.classes after.classes

namespace Field

theorem Retains.trans {a b c : Field ρ} (h1 : a.Retains b) (h2 : b.Retains c) : a.Retains c :=
  ⟨h2.kind.trans h1.kind, h2.multiplicity.trans h1.multiplicity, h2.required.trans h1.required⟩

/-- Coverage is not counted. -/
theorem retains_withCoverage (ratio : Option ρ) (field : Field ρ) :
    field.Retains (field.withCoverage ratio) := ⟨rfl, rfl, rfl⟩

end Field

namespace Class

theorem Retains.trans {a b c : Class ρ} (h1 : a.Retains b) (h2 : b.Retains c) : a.Retains c where
  id := h2.id.trans h1.id
  occurrences := Nat.le_trans h1.occurrences h2.occurrences
  fields := h1.fields.trans (fun _ _ _ hxy hyz => hxy.trans hyz) h2.fields

theorem Preserves.retains {before after : Class ρ} (h : before.Preserves after) :
    before.Retains after where
  id := h.id
  occurrences := h.occurrences
  fields := h.fields.imp fun _ _ _ hfield => ⟨hfield.kind, hfield.multiplicity, hfield.required⟩

theorem retains_mapFields {f : Field ρ → Field ρ} (hf : ∀ field : Field ρ, field.Retains (f field))
    (cls : Class ρ) : cls.Retains (cls.mapFields f) :=
  ⟨rfl, Nat.le_refl _, Grown.map hf cls.fields⟩

theorem retains_clearCoverage (cls : Class ρ) : cls.Retains cls.clearCoverage :=
  retains_mapFields (Field.retains_withCoverage none) cls

theorem retains_computeCoverage [Ratio ρ] (cls : Class ρ) : cls.Retains cls.computeCoverage :=
  retains_mapFields (fun field => field.retains_withCoverage _) cls

end Class

namespace Retains

variable {before after : Model ρ}

theorem countFields_le (h : before.Retains after) {p : Field ρ → Bool}
    (hp : ∀ x y : Field ρ, x.Retains y → p y = p x) :
    before.countFields p ≤ after.countFields p :=
  h.classes.sum_le fun _ _ hcls => hcls.fields.countP_le hp

theorem rootInstances_le (h : before.Retains after) :
    before.stats.rootInstances ≤ after.stats.rootInstances := by
  show (before.rootClass?.map (·.occurrences)).getD 0 ≤ (after.rootClass?.map (·.occurrences)).getD 0
  cases hroot : before.rootClass? with
  | none => exact Nat.zero_le _
  | some cls =>
    have hids : ∀ x y : Class ρ, x.Retains y →
        decide (y.id = before.root) = decide (x.id = before.root) :=
      fun x y hxy => by rw [hxy.id]
    obtain ⟨grown, hgrown, hcls⟩ := h.classes.find? hids hroot
    rw [rootClass?, class?, h.root, hgrown]
    exact hcls.occurrences

theorem stats_atMost (h : before.Retains after) : before.stats.AtMost after.stats where
  rootInstances := h.rootInstances_le
  classes := h.classes.length_le
  fields := by
    rw [before.accounted.fields, after.accounted.fields]
    exact h.classes.sum_le fun _ _ hcls => hcls.fields.length_le
  attributes := by
    rw [before.accounted.attributes, after.accounted.attributes]
    exact h.countFields_le fun x y hxy => by rw [hxy.kind]
  references := by
    rw [before.accounted.references, after.accounted.references]
    exact h.countFields_le fun x y hxy => by rw [hxy.kind]
  manyValuedFields := by
    rw [before.accounted.many, after.accounted.many]
    exact h.countFields_le fun x y hxy => by rw [hxy.multiplicity]
  optionalFields := by
    rw [before.accounted.optional, after.accounted.optional]
    exact h.countFields_le fun x y hxy => by rw [hxy.required]

end Retains

end Model

/-! ## Root objects are counted -/

namespace Discovery

variable {policy : Policy} {id : String} {c c' : Context ρ}

theorem Runs.timesEntered_entering {object : Members} {entered : String}
    (h : Runs policy (.entering id object) c (.ok entered) c') :
    timesEntered c.encounters id + 1 ≤ timesEntered c'.encounters id := by
  have hentered := c.timesEntered_enter id object id
  rw [if_pos rfl] at hentered
  rw [← hentered]
  exact h.folding_of_entering.encounters_isSuffix.sublist.countP_le

/-- Every root object is handed to the class, whatever is nested in it. -/
theorem Runs.timesEntered_roots {roots : List Members}
    (h : Runs policy (.roots id roots) c (.ok ()) c') :
    timesEntered c.encounters id + roots.length ≤ timesEntered c'.encounters id := by
  induction roots generalizing c with
  | nil =>
    cases h with
    | rootNil => exact Nat.le_refl _
  | cons root rest ih =>
    cases h with
    | rootCons hentering hrest =>
      have hfirst := hentering.timesEntered_entering
      have hlater := ih hrest
      rw [List.length_cons]
      omega

theorem Runs.classCount_roots_le {roots : List Members}
    (h : Runs policy (.roots id roots) c (.ok ()) c') :
    c.registry.classCount id + roots.length ≤ c'.registry.classCount id := by
  have hcount := h.classCount_add id
  have hentered := h.timesEntered_roots
  omega

end Discovery

/-! ## Refinements -/

namespace Registry

theorem find?_classes (r : Registry ρ) (id : String) :
    (r.classes.find? fun cls => cls.id = id) = r.get? id := by
  cases hfound : r.classes.find? fun cls => cls.id = id with
  | some cls =>
    have hid : cls.id = id := by simpa using List.find?_some hfound
    exact (get?_eq_some_iff.2 ⟨List.mem_of_find?_eq_some hfound, hid⟩).symm
  | none =>
    cases hget : r.get? id with
    | none => rfl
    | some cls =>
      have hother := List.find?_eq_none.1 hfound cls (mem_of_get? hget)
      exact absurd (decide_eq_true (id_of_get? hget)) hother

theorem Alike.classCount_eq {r s : Registry ρ} (h : r.Alike s) (id : String) :
    r.classCount id = s.classCount id := by
  have hcleared : ∀ t : Registry ρ,
      t.classCount id = (((t.get? id).map Model.Class.clearCoverage).map (·.occurrences)).getD 0 := by
    intro t
    rw [Option.map_map]
    rfl
  rw [hcleared r, hcleared s, h.get?_eq]

end Registry

namespace Discoverer

variable [Ratio ρ] (d : Discoverer) (name root : String)

theorem rootInstances_modelOf (r : Registry ρ) :
    (d.modelOf name root r).stats.rootInstances = r.classCount root := by
  have hroot : (d.modelOf name root r).rootClass?
      = (r.get? root).map Model.Class.computeCoverage := by
    rw [← r.find?_classes root]
    exact List.find?_map
  rw [Model.stats, hroot, Option.map_map]
  rfl

/-- The model of a refinement retains the model that the refinement starts from. -/
theorem retains_modelOf {model : Model ρ} (hroot : model.root = root)
    (hids : model.classIds.Nodup) {r : Registry ρ} (h : (seed model).Preserves r) :
    model.Retains (d.modelOf name root r) where
  root := hroot.symm
  classes := by
    have hseeded : Grown Model.Class.Retains model.classes (seed model).classes := by
      rw [classes_seed hids]
      exact Grown.map Model.Class.retains_clearCoverage model.classes
    have hrun : Grown Model.Class.Retains (seed model).classes r.classes :=
      h.classes.imp fun _ _ _ hcls => hcls.retains
    have hcovered : Grown Model.Class.Retains r.classes (d.modelOf name root r).classes :=
      Grown.map Model.Class.retains_computeCoverage r.classes
    have htrans := fun (x y z : Model.Class ρ) (hxy : x.Retains y) (hyz : y.Retains z) =>
      hxy.trans hyz
    exact (hseeded.trans htrans hrun).trans htrans hcovered

end Discoverer

/-- **Statistics account for every field and only grow.** In every model each field is counted once
as an attribute or as a reference, and the other counts are those of the many-valued and of the
optional fields. Where a model that was discovered is refined by the same discoverer, no count
becomes smaller, and the root class has at least one more instance for each of the root objects. -/
theorem stats_account_and_grow [Ratio ρ] :
    (∀ model : Model ρ, model.Accounted)
    ∧ ∀ (d : Discoverer) (name : String) (documents more : List Document) (before after : Model ρ),
      d.discover name documents = .ok before → d.refine before more = .ok after →
      before.stats.AtMost after.stats
        ∧ before.stats.rootInstances + (rootObjects more).length ≤ after.stats.rootInstances := by
  refine ⟨Model.accounted, fun d name documents more before after hbefore hafter => ?_⟩
  obtain ⟨root, c, hdigest, -, rfl⟩ := Discoverer.exists_runs_of_discover hbefore
  obtain ⟨-, hrun⟩ := Discoverer.refine_eq_ok_iff.1 hafter
  obtain ⟨again, c', hdigest', hfold, rfl⟩ := Discoverer.run_eq_ok_iff.1 hrun
  -- the name is digested to the same root again
  obtain rfl : root = again := Except.ok.inj (hdigest.symm.trans hdigest')
  have hruns := Discoverer.fold_eq_iff.1 hfold
  have hids := d.nodup_classIds_modelOf name root c.registry
  refine ⟨(d.retains_modelOf _ root rfl hids hruns.keeps.preserves).stats_atMost, ?_⟩
  rw [d.rootInstances_modelOf, d.rootInstances_modelOf,
    (d.alike_seed_modelOf name root c.registry).classCount_eq root]
  exact hruns.classCount_roots_le

/-- Two root objects and a third one nested in them, and then a root object that nests another one. -/
theorem stats_account_and_grow_selfNested : ∃ before after : Model Rat,
    Discoverer.discover ⟨.standard, .verbatim⟩ "A" [.object [("B", .null)], .object selfNested]
        = .ok before
      ∧ Discoverer.refine ⟨.standard, .verbatim⟩ before
        [.array [.object [("A", .object [("C", .array [.object []])])], .null]] = .ok after
      ∧ before.stats = ⟨3, 1, 2, 2, 0, 0, 1⟩ ∧ after.stats = ⟨5, 2, 3, 2, 1, 1, 2⟩
      ∧ after.Accounted ∧ before.stats.AtMost after.stats
      ∧ before.stats.rootInstances + 1 ≤ after.stats.rootInstances := by
  have hstats : (Discoverer.discover ⟨.standard, .verbatim⟩ "A"
        [.object [("B", .null)], .object selfNested]).toOption.map (fun before : Model Rat =>
      (before.stats, (Discoverer.refine ⟨.standard, .verbatim⟩ before
        [.array [.object [("A", .object [("C", .array [.object []])])], .null]]).toOption.map
          Model.stats))
      = some (⟨3, 1, 2, 2, 0, 0, 1⟩, some ⟨5, 2, 3, 2, 1, 1, 2⟩) := by decide +kernel
  obtain ⟨before, hbefore, hshown⟩ := exists_eq_ok_of_toOption_map hstats
  obtain ⟨hfirst, hsecond⟩ := Prod.ext_iff.1 hshown
  obtain ⟨after, hafter, hlater⟩ := exists_eq_ok_of_toOption_map hsecond
  obtain ⟨hgrown, hroots⟩ := stats_account_and_grow.2 ⟨.standard, .verbatim⟩ "A" _ _ before after
    hbefore hafter
  exact ⟨before, after, hbefore, hafter, hfirst, hlater, stats_account_and_grow.1 after, hgrown,
    hroots⟩

end DocModel
