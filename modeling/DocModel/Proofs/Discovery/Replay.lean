import DocModel.Proofs.Discovery.Rules
import DocModel.Proofs.Registry.Ticks

set_option autoImplicit false

/-! # Folding the same objects again

A task that has succeeded can be done again in every registry that extends the one it left. The
second traversal is another one: objects refine classes that they created, and a member of a
reference is only counted, so it meets some of the objects of the first traversal and no others. It
has the same result, and all it does is to count: `Runs.replays`. What it counts does not depend on
the registry, so a third traversal counts the same again. -/

namespace DocModel

variable {ρ : Type}

namespace Context

/-- The context after some ticks and encounters. -/
def replayed (c : Context ρ) (ts : List Tick) (log : List Encounter) : Context ρ where
  registry := c.registry.ticks ts
  depth := c.depth
  encounters := log ++ c.encounters

theorem replayed_nil (c : Context ρ) : c.replayed [] [] = c := by
  simp [replayed, Registry.ticks_nil]

theorem replayed_replayed (c : Context ρ) (ts more : List Tick) (log later : List Encounter) :
    (c.replayed ts log).replayed more later = c.replayed (ts ++ more) (later ++ log) := by
  simp [replayed, Registry.ticks_append]

/-- A class that is known counts an object that is handed to it. -/
theorem enter_eq_replayed {c : Context ρ} {id : String} (h : c.registry.contains id = true)
    (object : Members) : c.enter id object = c.replayed [.object id] [⟨id, object⟩] := by
  simp only [enter, h, ↓reduceIte]
  rfl

theorem modifyField_eq_self {c : Context ρ} {id name : String} {f : Model.Field ρ → Model.Field ρ}
    (h : ∀ field, c.registry.field? id name = some field → f field = field) :
    c.modifyField id name f = c := by
  simp only [modifyField, Registry.modifyField_eq_self h]

end Context

namespace Discovery

/-- In every registry that extends this one the task succeeds at this depth, and it only counts,
always the same. -/
def Again (policy : Policy) (r : Registry ρ) (depth : Nat) (task : Task) (result : task.Result) :
    Prop :=
  ∃ ts log, ∀ d : Context ρ, r.Extends d.registry → d.depth = depth →
    Runs policy task d (.ok result) (d.replayed ts log)

namespace Again

variable {policy : Policy} {r : Registry ρ} {depth : Nat}

theorem mono {task : Task} {result : task.Result} (h : Again policy r depth task result)
    {s : Registry ρ} (hext : r.Extends s) : Again policy s depth task result := by
  obtain ⟨ts, log, hruns⟩ := h
  exact ⟨ts, log, fun d hd hdepth => hruns d (hext.trans hd) hdepth⟩

/-- A task that does nothing at all. -/
theorem idle {task : Task} {result : task.Result}
    (h : ∀ d : Context ρ, d.depth = depth → Runs policy task d (.ok result) d) :
    Again policy r depth task result := by
  refine ⟨[], [], fun d _ hdepth => ?_⟩
  rw [d.replayed_nil]
  exact h d hdepth

/-- A task that does one other task. -/
theorem step {first task : Task} {a : first.Result} {result : task.Result}
    (h : Again policy r depth first a)
    (hruns : ∀ d d' : Context ρ, d.depth = depth → Runs policy first d (.ok a) d' →
      Runs policy task d (.ok result) d') : Again policy r depth task result := by
  obtain ⟨ts, log, hfirst⟩ := h
  exact ⟨ts, log, fun d hext hdepth => hruns d _ hdepth (hfirst d hext hdepth)⟩

/-- A task that does two others, one after the other. -/
theorem seq {first second task : Task} {a : first.Result} {b : second.Result}
    {result : task.Result} (h1 : Again policy r depth first a) (h2 : Again policy r depth second b)
    (hruns : ∀ d d₁ d₂ : Context ρ, d.depth = depth → Runs policy first d (.ok a) d₁ →
      Runs policy second d₁ (.ok b) d₂ → Runs policy task d (.ok result) d₂) :
    Again policy r depth task result := by
  obtain ⟨ts, log, hfirst⟩ := h1
  obtain ⟨more, later, hsecond⟩ := h2
  refine ⟨ts ++ more, later ++ log, fun d hext hdepth => ?_⟩
  have hext' := hext.trans (d.registry.extends_ticks ts)
  rw [← d.replayed_replayed]
  exact hruns d _ _ hdepth (hfirst d hext hdepth) (hsecond (d.replayed ts log) hext' hdepth)

theorem array {name element : String} {first : Document} {rest : List Document}
    {general type : ValueType} (hname : name ≠ "") (hadmits : policy.Admits (depth + 1))
    (hdigest : policy.digester name = .ok element)
    (hfirst : Again policy r (depth + 1) (.typing element first) general)
    (hrest : Again policy r (depth + 1) (.typingRest element general rest) type) :
    Again policy r depth (.typing name (.array (first :: rest))) type := by
  obtain ⟨ts, log, hfirst⟩ := hfirst
  obtain ⟨more, later, hrest⟩ := hrest
  refine ⟨ts ++ more, later ++ log, fun d hext hdepth => ?_⟩
  subst hdepth
  have hext' := hext.trans (d.registry.extends_ticks ts)
  have hruns := hfirst d.inside hext rfl
  have hruns' := hrest (d.inside.replayed ts log) hext' rfl
  rw [Context.replayed_replayed] at hruns'
  exact .array hname hadmits hdigest hruns hruns'

theorem object {name id entered : String} {object : Members} (hname : name ≠ "")
    (hdigest : policy.digester name = .ok id) (hadmits : policy.Admits (depth + 1))
    (h : Again policy r (depth + 1) (.entering id object) entered) :
    Again policy r depth (.typing name (.object object)) (.instanceOf entered) := by
  obtain ⟨ts, log, hentering⟩ := h
  refine ⟨ts, log, fun d hext hdepth => ?_⟩
  subst hdepth
  exact .object hname hdigest hadmits (hentering d.inside hext rfl)

/-- An object is handed once more to a class that is there. -/
theorem entering {id : String} {object : Members} (hne : id ≠ "")
    (hid : r.contains id = true) (h : Again policy r depth (.folding id false object) ()) :
    Again policy r depth (.entering id object) id := by
  obtain ⟨ts, log, hfolding⟩ := h
  -- the class counts the object first, and its members follow
  refine ⟨.object id :: ts, log ++ [⟨id, object⟩], fun d hext hdepth => ?_⟩
  have hknown := hext.contains hid
  have hext' := hext.trans (d.registry.extends_ticks [.object id])
  have hruns := hfolding (d.replayed [.object id] [⟨id, object⟩]) hext' hdepth
  rw [d.replayed_replayed, ← Context.enter_eq_replayed hknown] at hruns
  exact .enter hne (by rw [hknown]; exact hruns)

/-- A reference only counts a member. -/
theorem counted {id name : String} {value : Document} {field : Model.Field ρ}
    (hfield : r.field? id name = some field) (href : field.isReference = true) :
    Again policy r depth (.member id false name value) () := by
  refine ⟨[.member id name], [], fun d hext _ => ?_⟩
  obtain ⟨found, hfound, hgrown⟩ := hext.field? hfield
  exact .counted hfound (hgrown.isReference.trans href)

/-- An attribute counts a member and types it again, but it agrees with the type already. -/
theorem retyped {id name : String} {value : Document} {field : Model.Field ρ} {type : ValueType}
    (hfield : r.field? id name = some field) (hagrees : field.Agrees type)
    (h : Again policy r depth (.typing name value) type) :
    Again policy r depth (.member id false name value) () := by
  cases href : field.isReference with
  | true => exact .counted hfield href
  | false =>
    obtain ⟨ts, log, htyping⟩ := h
    refine ⟨.member id name :: ts, log, fun d hext hdepth => ?_⟩
    obtain ⟨found, hfound, hgrown⟩ := hext.field? hfield
    have hext' := hext.trans (d.registry.extends_ticks [.member id name])
    have htyped := htyping (d.replayed [.member id name] []) hext' hdepth
    have hruns : Runs policy (.member id false name value) d (.ok ()) _ :=
      .retyped hfound (hgrown.isReference.trans href) htyped
    -- the field has counted the value before, and unifying it changes nothing
    rw [Context.modifyField_eq_self, d.replayed_replayed, List.append_nil] at hruns
    · exact hruns
    · intro again hagain
      obtain ⟨grown, hgrown', hgrows⟩ := (hext'.trans htyped.extends).field? hfield
      obtain rfl : again = grown := Option.some.inj (hagain.symm.trans hgrown')
      exact (hagrees.extends hgrows).unify_eq

end Again

/-- What a task that has succeeded can do again. Classes are there by now, so objects refine them,
and so are the fields of members. Root objects can be taken one by one. -/
def Task.Replays (policy : Policy) (r : Registry ρ) (depth : Nat) :
    (task : Task) → task.Result → Prop
  | .typing name value, type => Again policy r depth (.typing name value) type
  | .typingRest name general items, type =>
    Again policy r depth (.typingRest name general items) type
  | .entering id object, entered => Again policy r depth (.entering id object) entered
  | .folding id _ members, _ => Again policy r depth (.folding id false members) ()
  | .member id _ name value, _ | .adding id name value _, _ =>
    Again policy r depth (.member id false name value) ()
  | .roots id objects, _ =>
    ∀ object ∈ objects, ∃ entered, Again policy r depth (.entering id object) entered

/-- **What has succeeded succeeds again**, and then it only counts. -/
theorem Runs.replays {policy : Policy} {task : Task} {c c' : Context ρ}
    {outcome : Except Error task.Result} (h : Runs policy task c outcome c') :
    ∀ result, outcome = .ok result → task.Replays policy c'.registry c.depth result := by
  induction h with
  | stop | arrayFails | restFails | foldFails | retypeFails | addFails | rootFails => exact nofun
  | leaf hname htype =>
    rintro _ ⟨⟩
    exact .idle fun d _ => .leaf hname htype
  | array hname hadmits hdigest hfirst hrest ih1 ih2 =>
    rintro type rfl
    have hall := ih2 _ rfl
    rw [hfirst.depth_eq] at hall
    exact .array hname hadmits hdigest ((ih1 _ rfl).mono hrest.extends) hall
  | @object _ _ _ _ _ outcome hname hdigest hadmits _ ih =>
    intro type htype
    cases outcome with
    | error e => exact absurd htype nofun
    | ok entered =>
      rw [← Except.ok.inj htype]
      exact .object hname hdigest hadmits (ih entered rfl)
  | restNil =>
    rintro _ ⟨⟩
    exact .idle fun _ _ => .restNil
  | restDiffers _ hne ih =>
    rintro _ ⟨⟩
    exact (ih _ rfl).step fun _ _ _ hitem => .restDiffers hitem hne
  | restAgrees hitem hrest ih1 ih2 =>
    rintro type rfl
    have hall := ih2 _ rfl
    rw [hitem.depth_eq] at hall
    exact ((ih1 _ rfl).mono hrest.extends).seq hall fun _ _ _ _ h1 h2 => .restAgrees h1 h2
  | @enter _ _ c _ outcome hne hfolded ih =>
    intro entered hentered
    cases outcome with
    | error e => exact absurd hentered nofun
    | ok _ =>
      rw [← Except.ok.inj hentered]
      exact .entering hne (hfolded.extends.contains (c.contains_enter _ _)) (ih () rfl)
  | foldNil =>
    rintro _ ⟨⟩
    exact .idle fun _ _ => .foldNil
  | foldCons hmember hrest ih1 ih2 =>
    rintro _ rfl
    have hall := ih2 _ rfl
    rw [hmember.depth_eq] at hall
    exact ((ih1 _ rfl).mono hrest.extends).seq hall fun _ _ _ _ h1 h2 => .foldCons h1 h2
  | @counted _ creating _ _ field _ hfield href =>
    rintro _ ⟨⟩
    have hcounted := fun field : Model.Field ρ => field.extends_counted creating
    exact .counted (Context.field?_modifyField_self (fun field => (hcounted field).name) hfield)
      ((hcounted field).isReference.trans href)
  | @retyped id creating name _ _ type _ _ hfield _ htyping ih =>
    rintro _ ⟨⟩
    have hretyped := fun field : Model.Field ρ => field.extends_retyped type creating
    obtain ⟨again, hagain⟩ := htyping.field?_of_counted hfield
    have hlater := (ih type rfl).mono (Registry.extends_modifyField _ id name hretyped)
    have hagrees := (again.agrees_unify type).extends (Model.Field.extends_requireIf creating _)
    exact .retyped (Context.field?_modifyField_self (fun field => (hretyped field).name) hagain)
      hagrees hlater
  | absent _ _ _ ih => exact ih
  | @addKnown id name _ required type _ _ _ _ _ _ hknown ih =>
    rintro _ ⟨⟩
    -- the field is there now, so the value is folded into it and not added again
    have hjoined := fun field : Model.Field ρ => field.extends_joined type required
    have hlater := (ih type rfl).mono (Registry.extends_modifyField _ id name hjoined)
    exact .retyped (Context.field?_modifyField_self (fun field => (hjoined field).name) hknown)
      (Model.Field.agrees_unify type _) hlater
  | addNew hid _ htyping hnew ih =>
    rintro _ ⟨⟩
    exact .retyped (Context.field?_pushField_self (htyping.extends.contains hid) hnew)
      (Or.inr (Or.inl rfl)) ((ih _ rfl).mono (Registry.extends_pushField _ _ _))
  | rootNil => exact fun _ _ _ h => absurd h List.not_mem_nil
  | rootCons hentered hrest ih1 ih2 =>
    rintro _ rfl object hobject
    rcases List.mem_cons.1 hobject with rfl | hlater
    · exact ⟨_, (ih1 _ rfl).mono hrest.extends⟩
    · have hall := ih2 _ rfl object hlater
      rwa [hentered.depth_eq] at hall

end Discovery

end DocModel
