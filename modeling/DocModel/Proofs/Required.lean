import DocModel.Proofs.Discoverer
import DocModel.Proofs.Discovery.Snapshot

set_option autoImplicit false

/-! # Required fields

In a model that is discovered a field is required exactly if the object that was handed to its class
first has a member of its name. What counts is the order in which objects are handed in, and not the
order in which their members are typed: an object that nests others of its class is the first one,
although they add fields before it does. -/

namespace DocModel

variable {ρ : Type}

namespace Registry

/-- Where names are distinct the flag of a field is that of the first one of its name. -/
theorem flagged_iff_of_mem {r : Registry ρ} (hnames : r.DistinctNames) {cls : Model.Class ρ}
    {field : Model.Field ρ} (hcls : cls ∈ r.classes) (hfield : field ∈ cls.fields) :
    r.Flagged cls.id field.name ↔ field.required = true := by
  unfold Flagged
  rw [hnames.field?_of_mem hcls hfield]
  simp

end Registry

namespace Discovery

theorem met_empty : Met (Context.of (.empty : Registry ρ)).encounters (.empty : Registry ρ) :=
  fun _ => rfl

/-- In a run from nothing that succeeds exactly the members of first objects are required. -/
theorem Runs.flagged_iff {policy : Policy} {task : Task} {c : Context ρ} {result : task.Result}
    (h : Runs policy task (.of .empty) (.ok result) c)
    (hrequires : ∀ id name, ¬ task.Requires id name) (id name : String) :
    c.registry.Flagged id name ↔ InFirst c.encounters id name := by
  constructor
  · rintro ⟨field, hfield, hrequired⟩
    refine h.snapshot met_empty (fun other label hreq => ?_) nofun id name field hfield hrequired
    exact absurd hreq (hrequires other label)
  · intro hfirst
    refine Classical.byContradiction fun hunflagged => ?_
    -- there is no first object that the run could have started with
    obtain ⟨⟨object, hobject, -⟩, -⟩ := h.missing rfl met_empty ⟨hfirst, hunflagged⟩
    exact absurd hobject nofun

end Discovery

/-- **Required fields are the members of the first object**, in every model that is discovered: each
field has the flag exactly if the first object of its class has a member of its name, and each
member of this object is a field. -/
theorem required_iff_mem_firstObject [Ratio ρ] (d : Discoverer) (name : String)
    (documents : List Document) (model : Model ρ) (h : d.discover name documents = .ok model) :
    ∃ (root : String) (context : Context ρ), d.digester name = .ok root
      ∧ d.fold .empty root (rootObjects documents) = (.ok (), context)
      ∧ ∀ cls ∈ model.classes, ∃ first, firstObject? context.encounters cls.id = some first
        ∧ (∀ field ∈ cls.fields, field.required = true ↔ field.name ∈ Assoc.keys first)
        ∧ ∀ label ∈ Assoc.keys first, ∃ field ∈ cls.fields, field.name = label := by
  obtain ⟨-, hrun⟩ := Discoverer.discover_eq_ok_iff.1 h
  obtain ⟨root, context, hdigest, hfold, rfl⟩ := Discoverer.run_eq_ok_iff.1 hrun
  refine ⟨root, context, hdigest, hfold, fun cls hcls => ?_⟩
  have hruns := Discoverer.fold_eq_iff.1 hfold
  obtain ⟨stored, hstored, rfl⟩ := Discoverer.mem_classes_modelOf.1 hcls
  obtain ⟨first, hfirst⟩ : ∃ first, firstObject? context.encounters stored.id = some first := by
    rw [← Option.isSome_iff_exists, hruns.met Discovery.met_empty, Registry.contains_iff_mem_ids]
    exact List.mem_map_of_mem hstored
  have hflagged : ∀ label, context.registry.Flagged stored.id label ↔ label ∈ Assoc.keys first := by
    intro label
    rw [hruns.flagged_iff (fun _ _ => nofun)]
    simp [InFirst, hfirst]
  refine ⟨first, hfirst, fun field hfield => ?_, fun label hlabel => ?_⟩
  · obtain ⟨old, hold, rfl⟩ := List.mem_map.1 hfield
    have hnames := hruns.distinctNames (Registry.each_empty _)
    exact (Registry.flagged_iff_of_mem hnames hstored hold).symm.trans (hflagged old.name)
  · obtain ⟨field, hfield, -⟩ := (hflagged label).2 hlabel
    rw [Registry.field?, Registry.get?_of_mem hstored, Option.bind_some] at hfield
    have hname := Model.Class.name_of_field? hfield
    exact ⟨_, List.mem_map_of_mem (Model.Class.mem_of_field? hfield), hname⟩

/-- An object of a class that contains another one of this class, with a member of its own. -/
def nestedFirst : Members := [("A", .object [("A", .null), ("b", .null)]), ("c", .null)]

/-- The inner object adds `A` and `b`, both as optional fields, and only `A` becomes required. -/
theorem required_iff_mem_firstObject_nestedFirst :
    ∃ (model : Model Rat) (root : String) (context : Context Rat),
      Discoverer.discover ⟨.standard, .verbatim⟩ "A" [.object nestedFirst] = .ok model
        ∧ Discoverer.fold ⟨.standard, .verbatim⟩ .empty root (rootObjects [.object nestedFirst])
          = (.ok (), context)
        ∧ model.classes.map (·.fields.map fun field => (field.name, field.required))
          = [[("A", true), ("b", false), ("c", true)]]
        ∧ ∀ cls ∈ model.classes, ∃ first, firstObject? context.encounters cls.id = some first
          ∧ (∀ field ∈ cls.fields, field.required = true ↔ field.name ∈ Assoc.keys first)
          ∧ ∀ label ∈ Assoc.keys first, ∃ field ∈ cls.fields, field.name = label := by
  obtain ⟨model, hmodel, hflags⟩ : ∃ model : Model Rat,
      Discoverer.discover ⟨.standard, .verbatim⟩ "A" [.object nestedFirst] = .ok model
        ∧ model.classes.map (·.fields.map fun field => (field.name, field.required))
          = [[("A", true), ("b", false), ("c", true)]] :=
    ⟨_, Discoverer.discover_eq_ok_iff.2
      ⟨List.cons_ne_nil _ _, Discoverer.run_eq_ok_iff.2 ⟨"A", _, rfl, rfl, rfl⟩⟩, rfl⟩
  obtain ⟨root, context, -, hfold, hfirst⟩ := required_iff_mem_firstObject _ "A" _ model hmodel
  exact ⟨model, root, context, hmodel, hfold, hflags, hfirst⟩

end DocModel
