import DocModel.Proofs.Discovery.Origin
import DocModel.Proofs.RootClass

set_option autoImplicit false

/-! # No names are invented

Every name in a model that is discovered can be found in the documents. The root class is named after
the source. Any other class is named after a member that holds objects, possibly inside of arrays:
its id is the name of the member, digested once for the objects and once more for every array that
they stand in. And a field has the name of a member. -/

namespace DocModel

variable {ρ : Type}

/-- An object in one of the documents, at any depth, has a member that names the class: an object
stands in so many arrays in the value of the member, and the id is the digest of the name of the
member, taken once more than there are arrays. -/
def MemberNames (digester : Digester) (documents : List Document) (id : String) : Prop :=
  ∃ document ∈ documents, ∃ object : Members, (Document.object object).PartOf document
    ∧ ∃ member ∈ object, ∃ depth, member.2.ObjectAt depth
      ∧ digester.repeated (depth + 1) member.1 = .ok id

/-- What names a class in a root object names it in the documents. -/
theorem memberNames_of_nestsObject {digester : Digester} {documents : List Document} {id : String}
    (h : ∃ root ∈ rootObjects documents, NestsObject digester id root) :
    MemberNames digester documents id := by
  obtain ⟨root, hroot, object, hpart, hmember⟩ := h
  obtain ⟨document, hdocument, hin⟩ := List.mem_flatMap.1 hroot
  exact ⟨document, hdocument, object, hpart.trans (Document.partOf_of_mem_rootObjects hin), hmember⟩

namespace Discovery

section Roots

variable {policy : Policy} {root : String} {roots : List Members} {c : Context ρ}
  {cls : Model.Class ρ} (h : Runs policy (.roots root roots) (.of .empty) (.ok ()) c)

include h

/-- Every object that is met stands in a root object, and its class has an id. -/
theorem Runs.forall_encounters_roots : ∀ encounter ∈ c.encounters, encounter.id ≠ ""
    ∧ ∃ given ∈ roots, (Document.object encounter.object).PartOf (.object given) := by
  refine h.forall_encounters
    (P := fun object => ∃ given ∈ roots, (Document.object object).PartOf (.object given)) ?_ nofun
  intro given hgiven object hpart
  exact ⟨given, hgiven, hpart⟩

variable (hcls : cls ∈ c.registry.classes)

include hcls

theorem Runs.id_ne_empty : cls.id ≠ "" := by
  obtain ⟨encounter, hencounter, hid⟩ : ∃ encounter ∈ c.encounters, encounter.id = cls.id := by
    rw [← isSome_firstObject?_iff, h.met Discovery.met_empty, Registry.contains_iff_mem_ids]
    exact List.mem_map_of_mem hcls
  rw [← hid]
  exact (h.forall_encounters_roots encounter hencounter).1

/-- A class is the one of the root objects, or it belongs to objects that a root object nests. -/
theorem Runs.eq_or_nestsObject :
    cls.id = root ∨ ∃ given ∈ roots, NestsObject policy.digester cls.id given := by
  have htouches : (Task.roots root roots).Touches policy.digester cls.id := by
    refine Classical.not_not.1 fun hapart => ?_
    -- the traversal leaves what it is not about as it was, and there was no class
    have hsame := h.get?_of_not_touches hapart
    rw [Registry.get?_of_mem hcls] at hsame
    exact absurd hsame nofun
  rcases htouches with hroot | ⟨given, hgiven, member, hmember, hinside⟩
  · exact Or.inl hroot
  · exact Or.inr ⟨given, hgiven, nestsObject_of_touches hmember hinside⟩

/-- A field is named after a member that some root object has, at some depth. -/
theorem Runs.hasMember_of_mem_fields {field : Model.Field ρ} (hfield : field ∈ cls.fields) :
    field.name ≠ "" ∧ ∃ given ∈ roots, (Document.object given).HasMember field.name := by
  have hfound : c.registry.field? cls.id field.name = some field :=
    (h.distinctNames (Registry.each_empty _)).field?_of_mem hcls hfield
  have hjustified : Justified policy c := h.justified trivial fun _ _ _ => nofun
  obtain ⟨hname, value, encounter, hencounter, -, hmember⟩ := hjustified.exists_observed hfound
  obtain ⟨-, given, hgiven, hpart⟩ := h.forall_encounters_roots encounter hencounter
  exact ⟨hname, given, hgiven, encounter.object, hpart, List.mem_map_of_mem hmember⟩

end Roots

end Discovery

/-- **No invented names.** The root class of a model that is discovered has the digest of the name of
the source as its id, and every other class is named by a member of the documents. Fields have the
names of members. The ids of the classes are distinct, no id and no name of a field is empty, and
where there are root objects the root class comes first. -/
theorem names_from_documents [Ratio ρ] (d : Discoverer) (name : String)
    (documents : List Document) (model : Model ρ) (h : d.discover name documents = .ok model) :
    d.digester name = .ok model.root
      ∧ (∀ cls ∈ model.classes,
        (cls.id = model.root ∨ MemberNames d.digester documents cls.id) ∧ cls.id ≠ ""
        ∧ ∀ field ∈ cls.fields,
          field.name ≠ "" ∧ ∃ document ∈ documents, document.HasMember field.name)
      ∧ model.classIds.Nodup
      ∧ (rootObjects documents ≠ [] →
        ∃ cls rest, model.classes = cls :: rest ∧ cls.id = model.root) := by
  obtain ⟨root, context, hroot, hruns, rfl⟩ := Discoverer.exists_runs_of_discover h
  refine ⟨hroot, fun cls hcls => ?_, d.nodup_classIds_modelOf name root context.registry,
    fun hroots => ?_⟩
  · obtain ⟨stored, hstored, rfl⟩ := Discoverer.mem_classes_modelOf.1 hcls
    have hid := hruns.id_ne_empty hstored
    refine ⟨?_, hid, fun field hfield => ?_⟩
    · exact (hruns.eq_or_nestsObject hstored).imp_right memberNames_of_nestsObject
    · obtain ⟨old, hold, rfl⟩ := List.mem_map.1 hfield
      exact (hruns.hasMember_of_mem_fields hstored hold).imp_right hasMember_of_rootObjects
  · obtain ⟨cls, rest, hclasses, hid⟩ := hruns.exists_classes_cons hroots
    refine ⟨cls.computeCoverage, rest.map Model.Class.computeCoverage, ?_, hid⟩
    show context.registry.classes.map Model.Class.computeCoverage = _
    rw [hclasses, List.map_cons]

/-! ## Names that shrink -/

/-- Objects in an array and in two arrays, under names that the digest makes shorter every time. -/
def shelves : Document :=
  .array [.null, .object [("glass", .array [.object [("volume", .ofInt 1)]]),
    ("racksss", .array [.array [.object []]])]]

/-- The items of `glass` are of the class `Gla`, as their name is digested twice. Three digests make
`Rack` of `racksss`. -/
theorem names_from_documents_shelves : ∃ model : Model Rat,
    Discoverer.discover ⟨.standard, .pluralStrip⟩ "shelves" [shelves] = .ok model
      ∧ model.root = "Shelve" ∧ model.classIds = ["Shelve", "Gla", "Rack"]
      ∧ MemberNames .pluralStrip [shelves] "Gla" ∧ MemberNames .pluralStrip [shelves] "Rack" := by
  obtain ⟨model, hmodel, hshown⟩ : ∃ model : Model Rat,
      Discoverer.discover ⟨.standard, .pluralStrip⟩ "shelves" [shelves] = .ok model
        ∧ (model.root, model.classIds) = ("Shelve", ["Shelve", "Gla", "Rack"]) :=
    exists_eq_ok_of_toOption_map (by decide +kernel)
  obtain ⟨hroot, hids⟩ := Prod.mk.inj hshown
  obtain ⟨-, hnamed, -, -⟩ := names_from_documents _ "shelves" [shelves] model hmodel
  have hmember : ∀ id ∈ ["Gla", "Rack"], MemberNames .pluralStrip [shelves] id := by
    intro id hid
    have hknown : id ∈ model.classIds := by
      rw [hids]
      exact List.mem_cons_of_mem _ hid
    obtain ⟨cls, hcls, rfl⟩ := List.mem_map.1 hknown
    refine (hnamed cls hcls).1.resolve_left fun heq => ?_
    -- neither of them is the root class
    rw [heq, hroot] at hid
    exact absurd hid (by decide)
  exact ⟨model, hmodel, hroot, hids, hmember _ (by decide), hmember _ (by decide)⟩

end DocModel
