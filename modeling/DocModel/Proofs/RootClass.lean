import DocModel.Proofs.Assoc
import DocModel.Proofs.Counts
import DocModel.Proofs.Independence
import DocModel.Proofs.Multiplicity
import DocModel.Proofs.Required

set_option autoImplicit false

/-! # The root class

Where no object nested in a root object belongs to the class of the root objects, this class can be
read off the root objects without a run. Whatever is done for the value of a member in between is
about other classes: it hands no object to the root class and leaves it as it is. So the objects of
the class are the root objects, in order, and what is known of the objects of a class in general,
their counts, the first one and the first holder of a name, is known of the root objects. -/

namespace DocModel

variable {ρ : Type}

/-! ## Objects of one class -/

/-- The objects that were handed to the class of this id, the first one first. -/
def handed (log : List Encounter) (id : String) : List Members :=
  (log.filter fun encounter => encounter.id = id).reverse.map (·.object)

section Handed

variable (log : List Encounter) (id name : String)

theorem handed_cons (object : Members) :
    handed (⟨id, object⟩ :: log) id = handed log id ++ [object] := by
  simp [handed]

theorem timesEntered_eq_length : timesEntered log id = (handed log id).length := by
  simp [timesEntered, handed, List.countP_eq_length_filter]

theorem timesObserved_eq_sum : timesObserved log id name
    = ((handed log id).map fun object => (Assoc.keys object).count name).sum := by
  induction log with
  | nil => rfl
  | cons encounter rest ih =>
    by_cases hid : encounter.id = id
    · obtain ⟨other, object⟩ := encounter
      obtain rfl : other = id := hid
      rw [handed_cons, List.map_append, List.sum_append, ← ih]
      simp [timesObserved, observations, Nat.add_comm]
    · have hsame : handed (encounter :: rest) id = handed rest id := by simp [handed, hid]
      rw [hsame, ← ih]
      simp [timesObserved, observations, hid]

theorem firstObject?_eq_head? : firstObject? log id = (handed log id).head? := by
  rw [firstObject?, handed, ← List.filter_reverse, List.head?_map, List.head?_filter]

theorem firstHolder?_eq_find? : firstHolder? log id name
    = (handed log id).find? fun object => name ∈ Assoc.keys object := by
  rw [firstHolder?, handed, ← List.filter_reverse, List.find?_map, List.find?_filter]
  refine congrArg (Option.map (·.object)) (congrArg (List.find? · log.reverse) ?_)
  funext encounter
  simp [Encounter.holds]

end Handed

/-! ## Names of fields -/

namespace Registry

/-- The names of the fields of the class of this id, in order. -/
def fieldNames (r : Registry ρ) (id : String) : List String :=
  ((r.get? id).map fun cls => cls.fields.map (·.name)).getD []

theorem fieldNames_of_get? {r s : Registry ρ} {id : String} (h : s.get? id = r.get? id) :
    s.fieldNames id = r.fieldNames id := by
  rw [fieldNames, fieldNames, h]

theorem fieldNames_modifyField (r : Registry ρ) (id name : String)
    {f : Model.Field ρ → Model.Field ρ} (keeps : ∀ field, (f field).name = field.name) :
    (r.modifyField id name f).fieldNames id = r.fieldNames id := by
  rw [fieldNames, modifyField, get?_modify, if_pos rfl, fieldNames]
  cases r.get? id with
  | none => rfl
  | some cls => exact Model.map_name_modifyField cls.fields name f keeps

theorem fieldNames_pushField {r : Registry ρ} {id : String} (hid : r.contains id = true)
    (field : Model.Field ρ) :
    (r.pushField id field).fieldNames id = r.fieldNames id ++ [field.name] := by
  rw [contains_eq_isSome_get?, Option.isSome_iff_exists] at hid
  obtain ⟨cls, hcls⟩ := hid
  rw [fieldNames, pushField, get?_modify, if_pos rfl, fieldNames, hcls]
  simp [Model.Class.pushField]

theorem fieldNames_enter (c : Context ρ) (id : String) (object : Members) :
    (c.enter id object).registry.fieldNames id = c.registry.fieldNames id := by
  rw [fieldNames, Context.get?_enter, if_pos rfl, fieldNames]
  cases c.registry.get? id <;> rfl

theorem field?_eq_none_iff_fieldNames {r : Registry ρ} {id name : String} :
    r.field? id name = none ↔ name ∉ r.fieldNames id := by
  rw [field?, fieldNames]
  cases r.get? id with
  | none => simp
  | some cls => exact Model.Class.field?_eq_none_iff

theorem mem_fieldNames_of_field? {r : Registry ρ} {id name : String} {field : Model.Field ρ}
    (h : r.field? id name = some field) : name ∈ r.fieldNames id := by
  refine Classical.not_not.1 fun hnot => ?_
  rw [field?_eq_none_iff_fieldNames.2 hnot] at h
  exact absurd h nofun

end Registry

/-! ## Nested objects of one class -/

section Nested

variable {digester : Digester} {id name : String} {object : Members}

theorem Document.HoldsMember.touches {label : String} {value : Document}
    (h : value.HoldsMember digester id label name) : value.Touches digester id name := by
  induction h with
  | object hdigest => exact .object _ hdigest
  | member hmember _ ih => exact .member hmember ih
  | item hdigest hitem _ ih => exact .item hdigest hitem ih

theorem nestsObject_of_nestsMember {label : String} (h : NestsMember digester id label object) :
    NestsObject digester id object := by
  obtain ⟨member, hmember, hholds⟩ := h
  exact nestsObject_of_touches hmember hholds.touches

end Nested

namespace Discovery

section Apart

variable {policy : Policy} {id : String} {creating : Bool} {c c' : Context ρ}

/-- Typing a value that is about other classes leaves the class and its objects as they are. -/
theorem Runs.typing_apart {name : String} {value : Document} {outcome : Except Error ValueType}
    (h : Runs policy (.typing name value) c outcome c')
    (hapart : ¬ value.Touches policy.digester id name) :
    c'.registry.get? id = c.registry.get? id
      ∧ handed c'.encounters id = handed c.encounters id := by
  refine ⟨h.get?_of_not_touches hapart, ?_⟩
  rw [handed, h.filter_encounters_of_not_touches hapart, handed]

/-- Folding a member that is not about the class itself hands no object to the class, and it adds the
name if it is new. -/
theorem Runs.member_apart {name : String} {value : Document}
    (h : Runs policy (.member id creating name value) c (.ok ()) c')
    (hapart : ¬ value.Touches policy.digester id name) {seen : List String}
    (hnames : c.registry.fieldNames id = seen.eraseDups) :
    handed c'.encounters id = handed c.encounters id
      ∧ c'.registry.fieldNames id = (seen ++ [name]).eraseDups := by
  rw [eraseDups_concat]
  cases h with
  | counted hfield =>
    rw [← hnames, if_pos (Registry.mem_fieldNames_of_field? hfield)]
    exact ⟨rfl, Registry.fieldNames_modifyField _ _ _ fun field =>
      (field.extends_counted creating).name⟩
  | @retyped _ _ _ _ _ type _ _ hfield _ htyping =>
    obtain ⟨hsame, hlog⟩ := htyping.typing_apart hapart
    rw [← hnames, if_pos (Registry.mem_fieldNames_of_field? hfield)]
    refine ⟨hlog, ?_⟩
    rw [Context.registry_modifyField, Registry.fieldNames_modifyField _ _ _ fun field =>
      (field.extends_retyped type creating).name, Registry.fieldNames_of_get? hsame]
    exact Registry.fieldNames_modifyField _ _ _ fun _ => rfl
  | absent _ _ hadding =>
    cases hadding with
    | addKnown _ hnone htyping hknown =>
      -- the field would have to be added by what is about other classes
      obtain ⟨hsame, -⟩ := htyping.typing_apart hapart
      rw [Registry.field?, hsame] at hknown
      exact absurd (hknown.symm.trans hnone) (Option.some_ne_none _)
    | addNew hid hnone htyping =>
      obtain ⟨hsame, hlog⟩ := htyping.typing_apart hapart
      have hnew : name ∉ seen.eraseDups := hnames ▸ Registry.field?_eq_none_iff_fieldNames.1 hnone
      rw [if_neg hnew, ← hnames, ← Registry.fieldNames_of_get? hsame]
      exact ⟨hlog, Registry.fieldNames_pushField (htyping.extends.contains hid) _⟩

theorem Runs.folding_apart {members : Members}
    (h : Runs policy (.folding id creating members) c (.ok ()) c')
    (hapart : ∀ member ∈ members, ¬ member.2.Touches policy.digester id member.1)
    {seen : List String} (hnames : c.registry.fieldNames id = seen.eraseDups) :
    handed c'.encounters id = handed c.encounters id
      ∧ c'.registry.fieldNames id = (seen ++ Assoc.keys members).eraseDups := by
  induction members generalizing c seen with
  | nil =>
    cases h with
    | foldNil => exact ⟨rfl, by rw [Assoc.keys_nil, List.append_nil, hnames]⟩
  | cons member rest ih =>
    cases h with
    | foldCons hmember hrest =>
      obtain ⟨hfirst, hlater⟩ := List.forall_mem_cons.1 hapart
      obtain ⟨hlog, hadded⟩ := hmember.member_apart hfirst hnames
      obtain ⟨hlog', hadded'⟩ := ih hrest hlater hadded
      refine ⟨hlog'.trans hlog, hadded'.trans ?_⟩
      rw [Assoc.keys_cons, List.append_assoc, List.singleton_append]

/-- Where handing an object to its class succeeds, its members were folded without an error. -/
theorem Runs.folding_of_entering {object : Members} {entered : String}
    (h : Runs policy (.entering id object) c (.ok entered) c') :
    Runs policy (.folding id (!c.registry.contains id) object) (c.enter id object) (.ok ()) c' := by
  generalize houtcome : (.ok entered : Except Error String) = outcome at h
  cases h with
  | stop => exact absurd houtcome nofun
  | @enter _ _ _ _ result _ hfolding =>
    cases result with
    | error e => exact absurd houtcome nofun
    | ok => exact hfolding

/-- An object that nests no others of its class is the only one that is handed to the class. -/
theorem Runs.entering_apart {object : Members} {entered : String}
    (h : Runs policy (.entering id object) c (.ok entered) c')
    (hapart : ¬ NestsObject policy.digester id object) {seen : List String}
    (hnames : c.registry.fieldNames id = seen.eraseDups) :
    handed c'.encounters id = handed c.encounters id ++ [object]
      ∧ c'.registry.fieldNames id = (seen ++ Assoc.keys object).eraseDups := by
  rw [← Registry.fieldNames_enter c id object] at hnames
  obtain ⟨hlog, hadded⟩ := h.folding_of_entering.folding_apart
    (fun member hmember h => hapart (nestsObject_of_touches hmember h)) hnames
  exact ⟨hlog.trans (handed_cons c.encounters id object), hadded⟩

/-- **Root objects that nest no others of their class are its objects**, in order, and the fields are
their members in the order in which they first appear. -/
theorem Runs.roots_apart {roots : List Members}
    (h : Runs policy (.roots id roots) c (.ok ()) c')
    (hapart : ∀ root ∈ roots, ¬ NestsObject policy.digester id root) {seen : List String}
    (hnames : c.registry.fieldNames id = seen.eraseDups) :
    handed c'.encounters id = handed c.encounters id ++ roots
      ∧ c'.registry.fieldNames id = (seen ++ roots.flatMap Assoc.keys).eraseDups := by
  induction roots generalizing c seen with
  | nil =>
    cases h with
    | rootNil => exact ⟨(List.append_nil _).symm, by rw [List.flatMap_nil, List.append_nil, hnames]⟩
  | cons root rest ih =>
    cases h with
    | rootCons hentering hrest =>
      obtain ⟨hfirst, hlater⟩ := List.forall_mem_cons.1 hapart
      obtain ⟨hlog, hadded⟩ := hentering.entering_apart hfirst hnames
      obtain ⟨hlog', hadded'⟩ := ih hrest hlater hadded
      rw [hlog', hadded', hlog, List.append_assoc, List.append_assoc, List.flatMap_cons,
        List.singleton_append]
      exact ⟨rfl, rfl⟩

/-- The class of the root objects is created first. -/
theorem Runs.exists_classes_cons {roots : List Members} (hroots : roots ≠ [])
    (h : Runs policy (.roots id roots) (.of .empty) (.ok ()) c) :
    ∃ cls rest, c.registry.classes = cls :: rest ∧ cls.id = id := by
  cases h with
  | rootNil => exact absurd rfl hroots
  | @rootCons _ root _ _ _ _ _ _ hentering hrest =>
    have hgrown := hentering.folding_of_entering.extends.trans hrest.extends
    have hcreated : ((Context.of .empty).enter id root).registry.classes
        = [(.new id : Model.Class ρ)] := rfl
    -- classes keep their places
    obtain ⟨cls, hfirst, hext⟩ := hgrown 0 (.new id) (by rw [hcreated]; rfl)
    obtain ⟨rest, hclasses⟩ := List.head?_eq_some_iff.1 (List.head?_eq_getElem?.trans hfirst)
    exact ⟨cls, rest, hclasses, hext.id⟩

end Apart

end Discovery

/-! ## Classes that sum up objects -/

/-- The class is what can be said of these objects, handed to it in this order. -/
structure Model.Class.SumsUp (objects : List Members) (cls : Model.Class ρ) : Prop where
  occurrences : cls.occurrences = objects.length
  /-- The members of the objects, in the order in which their names first appear. -/
  names : cls.fields.map (·.name) = (objects.flatMap Assoc.keys).eraseDups
  counts : ∀ field ∈ cls.fields,
    field.occurrences = objects.countP fun object => field.name ∈ Assoc.keys object
  required : ∀ field ∈ cls.fields, field.required = true
    ↔ ∃ first, objects.head? = some first ∧ field.name ∈ Assoc.keys first
  many : ∀ field ∈ cls.fields, ∃ holder value,
    objects.find? (fun object => field.name ∈ Assoc.keys object) = some holder
    ∧ Assoc.find? field.name holder = some value
    ∧ (field.multiplicity = .many ↔ value.isArray = true)

/-- Coverage is no part of it. -/
theorem Model.Class.SumsUp.computeCoverage [Ratio ρ] {objects : List Members}
    {cls : Model.Class ρ} (h : cls.SumsUp objects) : cls.computeCoverage.SumsUp objects where
  occurrences := h.occurrences
  names := cls.names_computeCoverage.trans h.names
  counts := List.forall_mem_map.2 h.counts
  required := List.forall_mem_map.2 h.required
  many := List.forall_mem_map.2 h.many

/-- Where names are distinct no object counts twice. -/
theorem sum_count_eq_countP {objects : List Members}
    (h : ∀ object ∈ objects, (Assoc.keys object).Nodup) (name : String) :
    (objects.map fun object => (Assoc.keys object).count name).sum
      = objects.countP fun object => name ∈ Assoc.keys object := by
  induction objects with
  | nil => rfl
  | cons object rest ih =>
    obtain ⟨hfirst, hrest⟩ := List.forall_mem_cons.1 h
    rw [List.map_cons, List.sum_cons, List.countP_cons, ih hrest, hfirst.count, Nat.add_comm]
    simp only [decide_eq_true_eq]

namespace Discovery

section SumsUp

variable {policy : Policy} {id : String} {roots : List Members} {c : Context ρ}

/-- **The root class sums up the root objects**, where these nest no others of their class. -/
theorem Runs.sumsUp (h : Runs policy (.roots id roots) (.of .empty) (.ok ()) c)
    (hdistinct : ∀ root ∈ roots, (Assoc.keys root).Nodup)
    (hapart : ∀ root ∈ roots, ¬ NestsObject policy.digester id root) {cls : Model.Class ρ}
    (hcls : cls ∈ c.registry.classes) (hid : cls.id = id) : cls.SumsUp roots := by
  obtain rfl := hid
  have hnone : (Context.of (.empty : Registry ρ)).registry.fieldNames cls.id
      = ([] : List String).eraseDups := rfl
  obtain ⟨hhanded, hnames⟩ := h.roots_apart hapart hnone
  have hlog : handed c.encounters cls.id = roots := hhanded
  have hdistinctNames := h.distinctNames (Registry.each_empty _)
  constructor
  · rw [← Registry.classCount_of_mem hcls, h.classCount_roots, timesEntered_eq_length, hlog]
  · rw [Registry.fieldNames, Registry.get?_of_mem hcls] at hnames
    exact hnames
  · intro field hfield
    rw [← Registry.fieldCount_of_field? (hdistinctNames.field?_of_mem hcls hfield),
      h.fieldCount_roots, timesObserved_eq_sum, hlog, sum_count_eq_countP hdistinct]
  · intro field hfield
    rw [← Registry.flagged_iff_of_mem hdistinctNames hcls hfield, h.flagged_iff fun _ _ => nofun,
      InFirst, firstObject?_eq_head?, hlog]
  · intro field hfield
    obtain ⟨first, hfirst, hlaw⟩ :=
      h.decided cls.id field.name field rfl (hdistinctNames.field?_of_mem hcls hfield)
    obtain ⟨holder, value, hholder, hvalue, hsame⟩ := (h.trail rfl).exists_firstHolder? hfirst
    rw [firstHolder?_eq_find?, hlog] at hholder
    refine ⟨holder, value, hholder, hvalue, ?_⟩
    -- the first holder is a root object, so its member is visited first
    rw [hlaw, multiplicityOf_eq_many_iff, hsame fun hnests =>
      hapart holder (List.mem_of_find?_eq_some hholder) (nestsObject_of_nestsMember hnests)]

end SumsUp

end Discovery

/-- **The root class is computed straight from the documents.** If a run succeeds on documents with
root objects that nest no other object of their class, the class of the root objects comes first and
counts them. Its fields are their members in the order of first appearance. A field counts the root
objects with its member, it is required exactly if the first root object has the member, and it is
many exactly if the first root object with the member has an array there. All this is so whatever the
nested objects are. Root objects have distinct member names, as they do in every document that is
read. -/
theorem rootClass_sumsUp [Ratio ρ] (d : Discoverer) (name root : String)
    (documents : List Document) (model : Model ρ) (hdigest : d.digester name = .ok root)
    (hroots : rootObjects documents ≠ [])
    (hdistinct : ∀ object ∈ rootObjects documents, (Assoc.keys object).Nodup)
    (hapart : ∀ object ∈ rootObjects documents, ¬ NestsObject d.digester root object)
    (h : d.discover name documents = .ok model) :
    ∃ cls rest, model.classes = cls :: rest ∧ cls.id = root
      ∧ cls.SumsUp (rootObjects documents) := by
  obtain ⟨entered, c, hdigest', hruns, rfl⟩ := Discoverer.exists_runs_of_discover h
  obtain rfl : root = entered := Except.ok.inj (hdigest.symm.trans hdigest')
  obtain ⟨cls, rest, hclasses, hid⟩ := hruns.exists_classes_cons hroots
  refine ⟨cls.computeCoverage, rest.map Model.Class.computeCoverage,
    congrArg (List.map Model.Class.computeCoverage) hclasses, hid, ?_⟩
  exact (hruns.sumsUp hdistinct hapart (hclasses ▸ List.mem_cons_self) hid).computeCoverage

/-- Two orders. The class of the buyers is entered from the items before the buyer of the order is
looked at. -/
def orders : List Document :=
  [.array [.object [("id", .null), ("items", .array [.object [("buyer", .object [("id", .null)])]]),
      ("buyer", .object [("name", .null)])], .null],
    .object [("total", .null), ("items", .null), ("buyer", .array [])]]

/-- The two other classes are created while the first order is folded. -/
theorem rootClass_sumsUp_orders : ∃ (model : Model Rat) (cls : Model.Class Rat)
    (rest : List (Model.Class Rat)),
    Discoverer.discover ⟨.standard, .verbatim⟩ "Order" orders = .ok model
      ∧ model.classIds = ["Order", "items", "buyer"]
      ∧ model.classes = cls :: rest ∧ cls.id = "Order" ∧ cls.SumsUp (rootObjects orders)
      ∧ (rootObjects orders).flatMap Assoc.keys
        = ["id", "items", "buyer", "total", "items", "buyer"] := by
  obtain ⟨model, hmodel, hids⟩ : ∃ model : Model Rat,
      Discoverer.discover ⟨.standard, .verbatim⟩ "Order" orders = .ok model
        ∧ model.classIds = ["Order", "items", "buyer"] :=
    exists_eq_ok_of_toOption_map (by decide +kernel)
  have hroots : ∀ object ∈ rootObjects orders, (Assoc.keys object).Nodup
      ∧ ¬ (Document.object object).HasMember "Order" := by
    simp [orders, rootObjects, Document.rootObjects, Document.members?,
      Document.hasMember_object_iff, Document.hasMember_array_iff, Document.not_hasMember_null,
      -Prod.forall, -Prod.exists]
  obtain ⟨cls, rest, hclasses, hid, hsums⟩ := rootClass_sumsUp ⟨.standard, .verbatim⟩ "Order"
    "Order" orders model rfl (List.cons_ne_nil _ _) (fun object hobject => (hroots object hobject).1)
    (fun object hobject hnests => (hroots object hobject).2 hnests.hasMember) hmodel
  exact ⟨model, cls, rest, hmodel, hids, hclasses, hid, hsums, rfl⟩

end DocModel
