import DocModel.Proofs.Discovery.Simulation
import Mathlib.Data.List.Nodup

set_option autoImplicit false

/-! # Calls that do not meet

A call writes the classes of its footprint only, and how it goes on depends on these classes only. So
two calls with disjoint footprints can be made in either order: each ends as if the other one had not
been made, also when it fails midway, and in the end the classes are the same. Only the order in
which new classes are created tells which call came first. -/

namespace DocModel

variable {ρ : Type}

/-! ## Registries with the same classes -/

namespace Registry

/-- Registries in which every id finds the same class have the same classes, in some order. -/
theorem perm_classes_of_get?_eq {r s : Registry ρ} (h : ∀ id, r.get? id = s.get? id) :
    r.classes.Perm s.classes := by
  have hnodup : ∀ t : Registry ρ, t.classes.Nodup := fun t => List.Nodup.of_map _ t.nodup_ids
  refine (List.perm_ext_iff_of_nodup (hnodup r) (hnodup s)).2 fun cls => ?_
  have hmem : ∀ t : Registry ρ, cls ∈ t.classes ↔ t.get? cls.id = some cls := by
    intro t
    rw [get?_eq_some_iff, and_iff_left rfl]
  rw [hmem, hmem, h]

end Registry

/-! ## Updates of one class -/

namespace Context

theorem get?_modifyField (c : Context ρ) (id name : String) (f : Model.Field ρ → Model.Field ρ)
    (other : String) :
    (c.modifyField id name f).registry.get? other
      = if other = id then (c.registry.get? id).map (Model.Class.modifyField name f)
        else c.registry.get? other :=
  c.registry.get?_modify id _ (Model.Class.id_modifyField name f) other

theorem get?_pushField (c : Context ρ) (id : String) (field : Model.Field ρ) (other : String) :
    (c.pushField id field).registry.get? other
      = if other = id then (c.registry.get? id).map (Model.Class.pushField field)
        else c.registry.get? other :=
  c.registry.get?_modify id _ (Model.Class.id_pushField field) other

theorem get?_enter (c : Context ρ) (id : String) (object : Members) (other : String) :
    (c.enter id object).registry.get? other
      = if other = id then
          some (((c.registry.get? id).map Model.Class.recordOccurrence).getD (.new id))
        else c.registry.get? other := by
  unfold enter
  rw [Registry.contains_eq_isSome_get?]
  cases hcls : c.registry.get? id with
  | none => simp [Registry.get?_put, Model.Class.new]
  | some cls => simp [Registry.get?_modify, hcls]

end Context

/-! ## Contexts that agree -/

/-- The depth is the same, and so are the classes of these ids. -/
structure Context.AgreeOn (ids : String → Prop) (c d : Context ρ) : Prop where
  depth : d.depth = c.depth
  get? : ∀ id, ids id → d.registry.get? id = c.registry.get? id

/-- An update that makes the class of an id of what this class was before, and leaves the other ones,
keeps contexts in agreement on the id. -/
theorem Context.AgreeOn.update {ids : String → Prop} {c d c' d' : Context ρ} {id : String}
    {f : Option (Model.Class ρ) → Option (Model.Class ρ)} (h : c.AgreeOn ids d) (hid : ids id)
    (hdepth : d'.depth = c'.depth)
    (hc : ∀ other, c'.registry.get? other
      = if other = id then f (c.registry.get? id) else c.registry.get? other)
    (hd : ∀ other, d'.registry.get? other
      = if other = id then f (d.registry.get? id) else d.registry.get? other) :
    c'.AgreeOn ids d' := by
  refine ⟨hdepth, fun other hother => ?_⟩
  rw [hc, hd, h.get? id hid, h.get? other hother]

namespace Discovery

/-- Contexts that agree look the same, and every update keeps them in agreement. -/
theorem simulation_agreeOn (ids : String → Prop) :
    Simulation (ρ := ρ) ids (Context.AgreeOn ids) where
  depth h := h.depth
  contains h hid := by
    rw [Registry.contains_eq_isSome_get?, Registry.contains_eq_isSome_get?, h.get? _ hid]
  field? name h hid := by
    rw [Registry.field?, Registry.field?, h.get? _ hid]
  inside h := ⟨congrArg (· + 1) h.depth, h.get?⟩
  outside h := ⟨congrArg (· - 1) h.depth, h.get?⟩
  enter object h hid :=
    h.update (f := fun cls => some ((cls.map _).getD _)) hid h.depth
      (Context.get?_enter _ _ object) (Context.get?_enter _ _ object)
  modifyField name _ h hid :=
    h.update (f := Option.map _) hid h.depth
      (Context.get?_modifyField _ _ name _) (Context.get?_modifyField _ _ name _)
  pushField field h hid :=
    h.update (f := Option.map _) hid h.depth
      (Context.get?_pushField _ _ field) (Context.get?_pushField _ _ field)

/-- One context is related to itself, as long as the class of an id that is not updated is there as
it was, and no more objects were handed to it. -/
theorem simulation_kept (id : String) (kept : Option (Model.Class ρ)) (log : List Encounter) :
    Simulation (· ≠ id) fun c d : Context ρ => c = d ∧ c.registry.get? id = kept
      ∧ c.encounters.filter (·.id = id) = log where
  depth := by rintro c _ ⟨rfl, -⟩; rfl
  contains := by rintro c _ _ ⟨rfl, -⟩ -; rfl
  field? name := by rintro ⟨rfl, -⟩ -; rfl
  inside := by rintro c _ ⟨rfl, hkept⟩; exact ⟨rfl, hkept⟩
  outside := by rintro c _ ⟨rfl, hkept⟩; exact ⟨rfl, hkept⟩
  enter object := by
    rintro ⟨rfl, hkept, hlog⟩ hne
    exact ⟨rfl, by rw [Context.get?_enter, if_neg hne.symm, hkept],
      (List.filter_cons_of_neg (by simpa using hne)).trans hlog⟩
  modifyField name := by
    rintro - ⟨rfl, hkept, hlog⟩ hne
    exact ⟨rfl, by rw [Context.get?_modifyField, if_neg hne.symm, hkept], hlog⟩
  pushField field := by
    rintro ⟨rfl, hkept, hlog⟩ hne
    exact ⟨rfl, by rw [Context.get?_pushField, if_neg hne.symm, hkept], hlog⟩

section Runs

variable {policy : Policy} {task : Task} {c c' : Context ρ} {outcome : Except Error task.Result}

/-- **What a task is not about stays as it is**, also when the task fails. -/
theorem Runs.get?_of_not_touches (h : Runs policy task c outcome c') {id : String}
    (hid : ¬ task.Touches policy.digester id) : c'.registry.get? id = c.registry.get? id := by
  obtain ⟨_, -, -, hkept, -⟩ := h.simulate (simulation_kept id (c.registry.get? id) _)
    (fun other hother heq => hid (heq ▸ hother)) ⟨rfl, rfl, rfl⟩
  exact hkept

/-- No object is handed to a class that the task is not about. -/
theorem Runs.filter_encounters_of_not_touches (h : Runs policy task c outcome c') {id : String}
    (hid : ¬ task.Touches policy.digester id) :
    c'.encounters.filter (·.id = id) = c.encounters.filter (·.id = id) := by
  obtain ⟨_, -, -, -, hlog⟩ := h.simulate (simulation_kept id (c.registry.get? id) _)
    (fun other hother heq => hid (heq ▸ hother)) ⟨rfl, rfl, rfl⟩
  exact hlog

/-- **What a task does depends on the classes it is about.** Where another context has the same
classes of these ids, the task has the same outcome there and leaves the same classes of them. -/
theorem Runs.agreeOn (h : Runs policy task c outcome c') {d : Context ρ}
    (hagree : c.AgreeOn (fun id => task.Touches policy.digester id) d) :
    ∃ d', Runs policy task d outcome d'
      ∧ c'.AgreeOn (fun id => task.Touches policy.digester id) d' :=
  h.simulate (simulation_agreeOn _) (fun _ hid => hid) hagree

/-- A task that is about other ids leaves the context as another task has to see it. -/
theorem Runs.agreeOn_of_disjoint (h : Runs policy task c outcome c') {other : Task}
    (hdisjoint : ∀ id, other.Touches policy.digester id → ¬ task.Touches policy.digester id) :
    c.AgreeOn (fun id => other.Touches policy.digester id) c' :=
  ⟨h.depth_eq, fun id hid => h.get?_of_not_touches (hdisjoint id hid)⟩

/-- Two tasks that are about different ids, one after the other in both orders. -/
theorem Runs.commute {other : Task} {e : Context ρ} {result : Except Error other.Result}
    (h : Runs policy task c outcome c') (hother : Runs policy other c result e)
    (hdisjoint : ∀ id, task.Touches policy.digester id → ¬ other.Touches policy.digester id) :
    ∃ d d', Runs policy other c' result d ∧ Runs policy task e outcome d'
      ∧ ∀ id, d.registry.get? id = d'.registry.get? id := by
  have hdisjoint' : ∀ id, other.Touches policy.digester id → ¬ task.Touches policy.digester id :=
    fun id hid htask => hdisjoint id htask hid
  obtain ⟨d, hsecond, hagree⟩ := hother.agreeOn (h.agreeOn_of_disjoint hdisjoint')
  obtain ⟨d', hfirst, hagree'⟩ := h.agreeOn (hother.agreeOn_of_disjoint hdisjoint)
  refine ⟨d, d', hsecond, hfirst, fun id => ?_⟩
  by_cases htask : task.Touches policy.digester id
  · rw [hsecond.get?_of_not_touches (hdisjoint id htask), hagree'.get? id htask]
  · rw [hfirst.get?_of_not_touches htask]
    by_cases hid : other.Touches policy.digester id
    · exact hagree.get? id hid
    · -- neither task is about the id
      rw [hsecond.get?_of_not_touches hid, h.get?_of_not_touches htask,
        hother.get?_of_not_touches hid]

end Runs

/-! ## Calls in either order -/

/-- Two steps from one context have the outcomes that they have one after the other, in both orders,
and in both orders the classes that they leave are the same. -/
structure Commute {α β : Type} (first : Discovery ρ α) (second : Discovery ρ β)
    (c : Context ρ) : Prop where
  first_outcome : (first.run (second.run c).2).1 = (first.run c).1
  second_outcome : (second.run (first.run c).2).1 = (second.run c).1
  get? : ∀ id, (second.run (first.run c).2).2.registry.get? id
    = (first.run (second.run c).2).2.registry.get? id
  classes : (second.run (first.run c).2).2.registry.classes.Perm
    (first.run (second.run c).2).2.registry.classes

theorem Runs.commute_step {policy : Policy} {task other : Task} {c c' e : Context ρ}
    {outcome : Except Error task.Result} {result : Except Error other.Result}
    (h : Runs policy task c outcome c') (hother : Runs policy other c result e)
    (hdisjoint : ∀ id, task.Touches policy.digester id → ¬ other.Touches policy.digester id) :
    Commute (task.step policy) (other.step policy) c := by
  obtain ⟨d, d', hsecond, hfirst, hget⟩ := h.commute hother hdisjoint
  constructor
  · rw [hother.run_eq, hfirst.run_eq, h.run_eq]
  · rw [h.run_eq, hsecond.run_eq, hother.run_eq]
  · rw [h.run_eq, hsecond.run_eq, hother.run_eq, hfirst.run_eq]
    exact hget
  · rw [h.run_eq, hsecond.run_eq, hother.run_eq, hfirst.run_eq]
    exact Registry.perm_classes_of_get?_eq hget

end Discovery

/-- **Calls with disjoint footprints commute**: in either order each has the same result or the same
error, also when it fails midway, and the same classes are left. A call leaves every class that is
not in its footprint as it was. -/
theorem disjoint_calls_commute (policy : Policy) (c : Context ρ) :
    (∀ (id other : String) (object another : Members),
      (∀ label, Footprint policy.digester id object label →
        ¬ Footprint policy.digester other another label) →
      Discovery.Commute (Discovery.discoverClass policy id object)
        (Discovery.discoverClass policy other another) c)
    ∧ ∀ (id label : String) (object : Members), ¬ Footprint policy.digester id object label →
      ((Discovery.discoverClass policy id object).run c).2.registry.get? label
        = c.registry.get? label := by
  have hruns : ∀ (id : String) (object : Members),
      Discovery.Runs policy (.entering id object) c _ _ :=
    fun _ _ => Discovery.runs_run policy trivial
  constructor
  · intro id other object another hdisjoint
    refine (hruns id object).commute_step (hruns other another) fun label hfirst hsecond => ?_
    exact hdisjoint label (Discovery.footprint_of_touches hfirst)
      (Discovery.footprint_of_touches hsecond)
  · intro id label object hlabel
    exact (hruns id object).get?_of_not_touches
      fun htouches => hlabel (Discovery.footprint_of_touches htouches)

/-! Where every name is its own id, a footprint has no other ids than the names of members. -/

theorem Digester.repeated_verbatim (n : Nat) (name : String) :
    verbatim.repeated n name = .ok name := by
  induction n with
  | zero => rfl
  | succ n ih => exact ih

theorem NestsObject.hasMember {id : String} {object : Members}
    (h : NestsObject .verbatim id object) : (Document.object object).HasMember id := by
  obtain ⟨inner, hpart, member, hmember, depth, -, hlabel⟩ := h
  rw [Digester.repeated_verbatim, Except.ok.injEq] at hlabel
  exact ⟨inner, hpart, hlabel ▸ List.mem_map_of_mem hmember⟩

theorem Footprint.eq_or_hasMember {id label : String} {object : Members}
    (h : Footprint .verbatim id object label) :
    label = id ∨ (Document.object object).HasMember label :=
  (footprint_iff.1 h).imp_right NestsObject.hasMember

/-- As an object of the class A this fails at the second member, after the first one has added a
field and the class of its value. -/
def failsMidway : Members := [("b", .object [("k", .null)]), ("", .null)]

/-- As an object of the class C this creates another class from an item of an array. -/
def holdsArray : Members := [("d", .array [.object []])]

theorem footprint_failsMidway {label : String} (h : Footprint .verbatim "A" failsMidway label) :
    label ∈ ["A", "b", "k", ""] := by
  have hlabel := h.eq_or_hasMember
  simpa [failsMidway, Document.hasMember_object_iff, Document.not_hasMember_null, or_assoc]
    using hlabel

theorem footprint_holdsArray {label : String} (h : Footprint .verbatim "C" holdsArray label) :
    label ∈ ["C", "d"] := by
  have hlabel := h.eq_or_hasMember
  simpa [holdsArray, Document.hasMember_object_iff, Document.hasMember_array_iff] using hlabel

/-- A call that fails midway and one that succeeds, from an empty registry. -/
theorem disjoint_calls_commute_failsMidway :
    ((Discovery.discoverClass ⟨.verbatim, none⟩ "A" failsMidway).run
        (.of .empty : Context Rat)).1 = .error .emptyFieldName
      ∧ Discovery.Commute (Discovery.discoverClass ⟨.verbatim, none⟩ "A" failsMidway)
        (Discovery.discoverClass ⟨.verbatim, none⟩ "C" holdsArray) (.of .empty : Context Rat)
      ∧ ((Discovery.discoverClass ⟨.verbatim, none⟩ "A" failsMidway).run
          (.of .empty : Context Rat)).2.registry.get? "C" = none := by
  have hcalls := disjoint_calls_commute (ρ := Rat) ⟨.verbatim, none⟩ (.of .empty)
  refine ⟨rfl, hcalls.1 "A" "C" failsMidway holdsArray fun label hfirst hsecond => ?_, ?_⟩
  · have hin := footprint_failsMidway hfirst
    rcases List.mem_pair.1 (footprint_holdsArray hsecond) with rfl | rfl <;> simp at hin
  · refine (hcalls.2 "A" "C" failsMidway fun h => ?_).trans rfl
    have hin := footprint_failsMidway h
    simp at hin

end DocModel
