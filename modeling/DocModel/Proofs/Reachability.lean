import DocModel.Proofs.Containment
import DocModel.Proofs.Discovery.Descent
import DocModel.Proofs.Join
import DocModel.Proofs.Required
import DocModel.Proofs.Validity

set_option autoImplicit false

/-! # What references lead to

References lead from the root class of a discovered model to every class, but for those that a member
has left behind: its field became a string, or it became a reference to another class. The latter
happens where a class is entered again while a member is typed. The field that comes from the inner
object is a reference then, and it stays one to its class when the outer value is of another. -/

namespace DocModel

variable {ρ : Type}

namespace Model

/-! ## Fields that leave classes behind -/

/-- The field is an attribute of type string. -/
def Field.IsText (field : Field ρ) : Prop := field.kind = .attribute ∧ field.valueType = .string

/-- The field does not lead to the class of this id: it is a string, or a reference to another
class. -/
def Field.LeadsElsewhere (id : String) (field : Field ρ) : Prop :=
  field.IsText ∨ ∃ target, field.target? = some target ∧ target ≠ id

/-- The id of this class of the model is derived from the name of a field that satisfies `P`. -/
def Named (digester : Digester) (model : Model ρ) (P : Field ρ → Prop) (id : String) : Prop :=
  model.hasClass id = true
    ∧ ∃ cls ∈ model.classes, ∃ field ∈ cls.fields, P field ∧ digester.Derives field.name id

/-- A field of the model may have been observed with objects of this class, and does not lead to
it. -/
def Strands (digester : Digester) (model : Model ρ) (id : String) : Prop :=
  model.Named digester (Field.LeadsElsewhere id) id

/-- References lead to every class, from the root class or from one of these. -/
def ReachedFrom (model : Model ρ) (source : String → Prop) : Prop :=
  ∀ cls ∈ model.classes, ∃ start, (start = model.root ∨ source start)
    ∧ model.containment.Reaches start cls.id

theorem ReachedFrom.mono {model : Model ρ} {source more : String → Prop}
    (h : model.ReachedFrom source) (hmore : ∀ id, source id → more id) :
    model.ReachedFrom more := by
  intro cls hcls
  obtain ⟨start, hstart, hpath⟩ := h cls hcls
  exact ⟨start, hstart.imp_right (hmore start), hpath⟩

/-- Where references lead to all classes from the root class alone no class is unreachable. -/
theorem ReachedFrom.unreachableClasses_eq_nil {model : Model ρ} {source : String → Prop}
    (h : model.ReachedFrom source) (hnone : ∀ id, ¬ source id) (hids : model.classIds.Nodup) :
    model.unreachableClasses = [] := by
  have hroot : ∀ cls ∈ model.classes, model.containment.Reaches model.root cls.id := by
    intro cls hcls
    obtain ⟨start, rfl | hsource, hpath⟩ := h cls hcls
    · exact hpath
    · exact absurd hsource (hnone start)
  rw [unreachableClasses_eq_filter hids, List.filter_eq_nil_iff]
  intro id hid
  obtain ⟨cls, hcls, rfl⟩ := List.mem_map.1 hid
  simpa using hroot cls hcls

end Model

/-! ## Along a trace -/

/-- What a member holds is one edge away from its object or a source of its own, so everything in the
log can be reached from the root or from a source. -/
theorem Traced.exists_reaches {digester : Digester} {root : String} {log : List Encounter}
    (h : Traced digester root log) {graph : Graph String} {source : String → Prop}
    (hstep : ∀ parent ∈ log, ∀ child ∈ log, ∀ name value, (name, value) ∈ parent.object →
      value.Holds digester child.id name → (parent.id, child.id) ∈ graph ∨ source child.id) :
    ∀ encounter ∈ log,
      ∃ start, (start = root ∨ source start) ∧ graph.Reaches start encounter.id := by
  induction log with
  | nil => exact nofun
  | cons latest earlier ih =>
    have hearlier := ih h.2 fun parent hparent child hchild =>
      hstep parent (List.mem_cons_of_mem _ hparent) child (List.mem_cons_of_mem _ hchild)
    intro encounter hencounter
    rcases List.mem_cons.1 hencounter with rfl | hin
    · rcases h.1 with hroot | ⟨parent, hparent, name, value, hmember, hholds⟩
      · exact ⟨root, Or.inl rfl, hroot ▸ .refl _⟩
      · obtain ⟨start, hstart, hpath⟩ := hearlier parent hparent
        rcases hstep parent (List.mem_cons_of_mem _ hparent) encounter List.mem_cons_self name value
          hmember hholds with hedge | hsource
        · exact ⟨start, hstart, hpath.step hedge⟩
        · exact ⟨encounter.id, Or.inr hsource, .refl _⟩
    · exact hearlier encounter hin

namespace Discovery

/-- A member that holds objects of a class settles in a reference or in a string. -/
theorem SettledIn.target?_or_isText {policy : Policy} {name id : String} {value : Document}
    {field : Model.Field ρ} (h : SettledIn policy name value field)
    (hkind : field.kind = field.valueType.kind) (hholds : value.Holds policy.digester id name) :
    (∃ target, field.target? = some target) ∨ field.IsText := by
  cases htype : field.valueType with
  | instanceOf target =>
    rw [htype] at hkind
    exact Or.inl ⟨target, Model.Field.target?_eq_some_iff.2 ⟨hkind, htype⟩⟩
  | scalar s =>
    rw [htype] at hkind
    obtain ⟨type, honly, hagrees⟩ := h.exists_type hkind
    have hforeseen := ((honly type).2 rfl).typeUnder
    rcases hholds.typeUnder hforeseen with rfl | ⟨target, rfl⟩
    · rw [or_self] at hagrees
      exact Or.inr ⟨hkind, hagrees⟩
    · -- the type of the field is no class
      rw [htype] at hagrees
      rcases hagrees with hclass | hstring
      · exact absurd hclass nofun
      · exact Or.inr ⟨hkind, htype.trans hstring⟩

/-- A reference of a model from nothing leads to a class that is derived from its name. -/
theorem Runs.derives_of_target? {policy : Policy} {task : Task} {c : Context ρ}
    {result : task.Result} (h : Runs policy task (.of .empty) (.ok result) c)
    (hlogged : task.Logged []) {cls : Model.Class ρ} (hcls : cls ∈ c.registry.classes)
    {field : Model.Field ρ} (hfield : field ∈ cls.fields) {target : String}
    (htarget : field.target? = some target) : policy.digester.Derives field.name target := by
  obtain ⟨hkind, htype⟩ := Model.Field.target?_eq_some_iff.1 htarget
  obtain ⟨id, value, hid, -, hresolves⟩ := (h.isJoin hlogged hcls hfield).reference hkind
  obtain rfl : id = target := ValueType.instanceOf.inj (hid.symm.trans htype)
  exact (Document.holds_of_typeUnder value field.name hresolves.typeUnder).derives

end Discovery

namespace Discoverer

variable [Ratio ρ] (d : Discoverer) (name root : String)

/-- A field of a class is one of the model, with coverage. -/
theorem exists_field_modelOf {registry : Registry ρ} {id label : String} {field : Model.Field ρ}
    (h : registry.field? id label = some field) :
    ∃ cls ∈ (d.modelOf name root registry).classes, cls.id = id
      ∧ field.name = label ∧ ∃ ratio, field.withCoverage ratio ∈ cls.fields := by
  obtain ⟨cls, hcls, hfield⟩ := Option.bind_eq_some_iff.1 h
  obtain ⟨hin, hid⟩ := Registry.get?_eq_some_iff.1 hcls
  exact ⟨cls.computeCoverage, List.mem_map_of_mem hin, hid, Model.Class.name_of_field? hfield, _,
    List.mem_map_of_mem (Model.Class.mem_of_field? hfield)⟩

section

variable {c : Context ρ} {task : Discovery.Task} {result : task.Result}

theorem hasClass_of_mem_encounters
    (h : Discovery.Runs d.policy task (.of .empty) (.ok result) c) {encounter : Encounter}
    (hencounter : encounter ∈ c.encounters) :
    (d.modelOf name root c.registry).hasClass encounter.id = true := by
  rw [Model.hasClass_iff, classIds_modelOf, ← Registry.contains_iff_mem_ids,
    ← h.met Discovery.met_empty, isSome_firstObject?_iff]
  exact ⟨encounter, hencounter, rfl⟩

/-- A member that holds objects of a class leads to the class or leaves it behind. -/
theorem mem_containment_or_strands
    (h : Discovery.Runs d.policy task (.of .empty) (.ok result) c) {parent child : Encounter}
    (hparent : parent ∈ c.encounters) (hchild : child ∈ c.encounters) {label : String}
    {value : Document} (hmember : (label, value) ∈ parent.object)
    (hholds : value.Holds d.digester child.id label) :
    (parent.id, child.id) ∈ (d.modelOf name root c.registry).containment
      ∨ (d.modelOf name root c.registry).Strands d.digester child.id := by
  rcases (h.settled rfl).2 parent hparent with hbefore | hsettled
  · exact absurd hbefore List.not_mem_nil
  have hknown := d.hasClass_of_mem_encounters name root h hchild
  obtain ⟨field, hfield, hin⟩ := hsettled label value hmember
  have hkind := ((h.sound (Registry.each_empty _)).field? hfield).kind
  obtain ⟨cls, hcls, hid, hlabel, ratio, hcovered⟩ := d.exists_field_modelOf name root hfield
  have hderives : d.digester.Derives field.name child.id := hlabel ▸ hholds.derives
  rcases hin.target?_or_isText hkind hholds with ⟨target, htarget⟩ | htext
  · by_cases hsame : target = child.id
    · subst hsame
      exact Or.inl (Model.mem_containment_iff.2 ⟨⟨cls, hcls, hid, _, hcovered, htarget⟩, hknown⟩)
    · have helsewhere : (field.withCoverage ratio).LeadsElsewhere child.id :=
        Or.inr ⟨target, htarget, hsame⟩
      exact Or.inr ⟨hknown, cls, hcls, _, hcovered, helsewhere, hderives⟩
  · exact Or.inr ⟨hknown, cls, hcls, _, hcovered, Or.inl htext, hderives⟩

end

/-- What is discovered is reached from the root class and from what fields leave behind. -/
theorem reachedFrom_of_discover {documents : List Document} {model : Model ρ}
    (h : d.discover name documents = .ok model) :
    model.ReachedFrom (model.Strands d.digester) := by
  obtain ⟨root, context, -, hruns, rfl⟩ := exists_runs_of_discover h
  have htraced : Traced d.digester root context.encounters := hruns.traced rfl trivial
  intro cls hcls
  obtain ⟨stored, hstored, rfl⟩ := mem_classes_modelOf.1 hcls
  obtain ⟨encounter, hencounter, hid⟩ : ∃ encounter ∈ context.encounters,
      encounter.id = stored.id := by
    rw [← isSome_firstObject?_iff, hruns.met Discovery.met_empty, Registry.contains_iff_mem_ids]
    exact List.mem_map_of_mem hstored
  show ∃ start, _ ∧ Graph.Reaches _ start stored.id
  rw [← hid]
  refine htraced.exists_reaches ?_ encounter hencounter
  intro parent hparent child hchild label value hmember hholds
  exact d.mem_containment_or_strands name root hruns hparent hchild hmember hholds

theorem nodup_classIds_of_discover {documents : List Document} {model : Model ρ}
    (h : d.discover name documents = .ok model) : model.classIds.Nodup := by
  obtain ⟨root, context, -, -, rfl⟩ := exists_runs_of_discover h
  exact d.nodup_classIds_modelOf name root context.registry

/-- Where every id is its own digest a reference leads to the only class that is derived from its
name, so only strings leave a class behind. -/
theorem named_isText_of_strands
    (hidempotent : ∀ name id, d.digester name = .ok id → d.digester id = .ok id)
    {documents : List Document} {model : Model ρ} (h : d.discover name documents = .ok model)
    {id : String} (hid : model.Strands d.digester id) :
    model.Named d.digester Model.Field.IsText id := by
  obtain ⟨hknown, cls, hcls, field, hfield, htext | ⟨target, htarget, hne⟩, hderives⟩ := hid
  · exact ⟨hknown, cls, hcls, field, hfield, htext, hderives⟩
  · obtain ⟨root, context, -, hruns, rfl⟩ := exists_runs_of_discover h
    obtain ⟨stored, hstored, rfl⟩ := mem_classes_modelOf.1 hcls
    obtain ⟨old, hold, rfl⟩ := List.mem_map.1 hfield
    have hleads := hruns.derives_of_target? trivial hstored hold htarget
    exact absurd (hleads.eq_of_derives hidempotent hderives) hne

end Discoverer

/-- **Only fields leave classes behind.** In a model that is discovered references lead to every
class, from the root class or from one that the field of a member has left behind. Where no field
does so no class is unreachable. -/
theorem reached_from_root_or_stranded [Ratio ρ] (d : Discoverer) (name : String)
    (documents : List Document) (model : Model ρ) (h : d.discover name documents = .ok model) :
    model.ReachedFrom (model.Strands d.digester)
      ∧ ((∀ id, ¬ model.Strands d.digester id) → model.unreachableClasses = []) := by
  have hreached := d.reachedFrom_of_discover name h
  refine ⟨hreached, fun hnone => ?_⟩
  exact hreached.unreachableClasses_eq_nil hnone (d.nodup_classIds_of_discover name h)

/-- Where every id is its own digest strings alone leave classes behind, so no class of a model
without strings is unreachable. -/
theorem reached_from_root_or_text [Ratio ρ] (d : Discoverer)
    (hidempotent : ∀ name id, d.digester name = .ok id → d.digester id = .ok id) (name : String)
    (documents : List Document) (model : Model ρ) (h : d.discover name documents = .ok model) :
    model.ReachedFrom (model.Named d.digester Model.Field.IsText)
      ∧ ((∀ cls ∈ model.classes, ∀ field ∈ cls.fields, ¬ field.IsText) →
        model.unreachableClasses = []) := by
  have hreached : model.ReachedFrom (model.Named d.digester Model.Field.IsText) :=
    (d.reachedFrom_of_discover name h).mono fun _ => d.named_isText_of_strands name hidempotent h
  refine ⟨hreached, fun hnone => ?_⟩
  refine hreached.unreachableClasses_eq_nil ?_ (d.nodup_classIds_of_discover name h)
  rintro id ⟨-, cls, hcls, field, hfield, htext, -⟩
  exact hnone cls hcls field hfield htext

/-! ## Classes that are left behind by references -/

/-- Three objects inside one another, the first one with a list of objects under a name that the
second one has as well. The second one is of the class `Ass`, and the items of the list are of the
class `As`. -/
def reentered : Members :=
  [("asss", .object [("root", .object [("asss", .array [.object [("x", .ofInt 1)]])])])]

/-- The field `asss` comes from the inner object, as a reference to `As`. The value of the outer one
is of the class `Ass`, to which nothing leads then. -/
theorem discover_reentered : ∃ model : Model Rat,
    Discoverer.discover ⟨.standard, .pluralStrip⟩ "root" [.object reentered] = .ok model
      ∧ model.classes.map (fun cls => (cls.id, cls.fields.map fun field =>
          (field.name, field.valueType)))
        = [("Root", [("asss", .instanceOf "As")]), ("Ass", [("root", .instanceOf "Root")]),
          ("As", [("x", .scalar .integer)])]
      ∧ model.unreachableClasses = ["Ass"] := by
  have hsummary : (Discoverer.discover ⟨.standard, .pluralStrip⟩ "root" [.object reentered] :
      Except Error (Model Rat)).toOption.map (fun model =>
        (model.classes.map (fun cls => (cls.id, cls.fields.map fun field =>
          (field.name, field.valueType))), model.unreachableClasses))
      = some ([("Root", [("asss", .instanceOf "As")]), ("Ass", [("root", .instanceOf "Root")]),
          ("As", [("x", .scalar .integer)])], ["Ass"]) := by decide +kernel
  obtain ⟨model, hmodel, hshown⟩ := exists_eq_ok_of_toOption_map hsummary
  obtain ⟨hclasses, hunreachable⟩ := Prod.mk.inj hshown
  exact ⟨model, hmodel, hclasses, hunreachable⟩

theorem reached_from_root_or_stranded_reentered : ∃ model : Model Rat,
    Discoverer.discover ⟨.standard, .pluralStrip⟩ "root" [.object reentered] = .ok model
      ∧ model.unreachableClasses = ["Ass"]
      ∧ model.ReachedFrom (model.Strands .pluralStrip)
      ∧ ∃ id, model.Strands .pluralStrip id := by
  obtain ⟨model, hmodel, -, hunreachable⟩ := discover_reentered
  obtain ⟨hreached, hnone⟩ := reached_from_root_or_stranded _ "root" _ model hmodel
  refine ⟨model, hmodel, hunreachable, hreached, Classical.byContradiction fun hnothing => ?_⟩
  rw [hnone fun id hid => hnothing ⟨id, hid⟩] at hunreachable
  exact absurd hunreachable nofun

/-- So a model without strings can have classes that cannot be reached. -/
theorem exists_unreachable_without_strings :
    ¬ ∀ (documents : List Document) (model : Model Rat),
      Discoverer.discover ⟨.standard, .pluralStrip⟩ "root" documents = .ok model →
      (∀ cls ∈ model.classes, ∀ field ∈ cls.fields, ¬ field.IsText) →
      model.unreachableClasses = [] := by
  intro hnone
  obtain ⟨model, hmodel, hclasses, hunreachable⟩ := discover_reentered
  rw [hnone [.object reentered] model hmodel ?_] at hunreachable
  · exact absurd hunreachable nofun
  · intro cls hcls field hfield htext
    -- the types of all fields are listed, and string is none of them
    have htyped : ∀ entry ∈ model.classes.map (fun cls => (cls.id, cls.fields.map fun field =>
        (field.name, field.valueType))), ∀ typed ∈ entry.2, typed.2 ≠ .string := by
      rw [hclasses]
      decide
    exact htyped _ (List.mem_map_of_mem hcls) _ (List.mem_map_of_mem hfield) htext.2

end DocModel
