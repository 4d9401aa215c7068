import DocModel.Proofs.Discovery.Typing

set_option autoImplicit false

/-! # Fields and their observations

The type of a field against the values that were observed for it, in both directions. Every
observation of a traversal that succeeds has settled in its field: the field is a reference, or it
has the type of the value, or it is a string (`Runs.settled`). And no type comes from nowhere: it is
the type of an observation, or the field is a string because two observations differ
(`Runs.justified`). Neither depends on the order of the observations or on how they nest. -/

namespace DocModel

variable {ρ : Type}

/-- The value was a member of this name of an object that was handed to the class of this id. -/
def Observed (log : List Encounter) (id name : String) (value : Document) : Prop :=
  ∃ encounter ∈ log, encounter.id = id ∧ (name, value) ∈ encounter.object

theorem Observed.mono {log more : List Encounter} {id name : String} {value : Document}
    (h : Observed log id name value) (hmore : ∀ encounter ∈ log, encounter ∈ more) :
    Observed more id name value := by
  obtain ⟨encounter, hencounter, hmember⟩ := h
  exact ⟨encounter, hmore encounter hencounter, hmember⟩

namespace Discovery

/-! ## Observations that have settled -/

section Settled

variable (policy : Policy) (name : String) (value : Document)

/-- The field agrees with this observation of its name. A reference agrees with everything, also
with what was not looked into. -/
def SettledIn (field : Model.Field ρ) : Prop :=
  field.isReference = true ∨ ∃ type, Resolves ρ policy name value type ∧ field.Agrees type

/-- The field of this name is there, and the observation has settled in it. -/
def Settled (r : Registry ρ) (id : String) : Prop :=
  ∃ field, r.field? id name = some field ∧ SettledIn policy name value field

variable {policy name value}

theorem SettledIn.extends {before after : Model.Field ρ} (h : SettledIn policy name value before)
    (hext : before.Extends after) : SettledIn policy name value after := by
  rcases h with href | ⟨type, hresolves, hagrees⟩
  · exact Or.inl (hext.isReference.trans href)
  · exact Or.inr ⟨type, hresolves, hagrees.extends hext⟩

theorem Settled.extends {before after : Registry ρ} {id : String}
    (h : Settled policy name value before id) (hext : before.Extends after) :
    Settled policy name value after id := by
  obtain ⟨field, hfield, hsettled⟩ := h
  obtain ⟨grown, hgrown, hgrows⟩ := hext.field? hfield
  exact ⟨grown, hgrown, hsettled.extends hgrows⟩

/-- A field that is unified with the type of an observation settles it. -/
theorem settledIn_unify {type : ValueType} (h : Resolves ρ policy name value type)
    (field : Model.Field ρ) : SettledIn policy name value (field.unify type) :=
  Or.inr ⟨type, h, field.agrees_unify type⟩

theorem settledIn_new {type : ValueType} (h : Resolves ρ policy name value type)
    (multiplicity : Multiplicity) (required : Bool) :
    SettledIn policy name value (.new name type multiplicity required : Model.Field ρ) :=
  Or.inr ⟨type, h, Or.inr (Or.inl rfl)⟩

/-- An update that settles the observation in the field of its name. -/
theorem settled_modifyField {c : Context ρ} {id : String} {f : Model.Field ρ → Model.Field ρ}
    {field : Model.Field ρ} (hfield : c.registry.field? id name = some field)
    (keeps : ∀ field, (f field).name = field.name) (h : SettledIn policy name value (f field)) :
    Settled policy name value (c.modifyField id name f).registry id :=
  ⟨f field, Context.field?_modifyField_self keeps hfield, h⟩

end Settled

/-- The members that a task folds have settled. -/
def Task.Settles (policy : Policy) (r : Registry ρ) : Task → Prop
  | .folding id _ members => ∀ name value, (name, value) ∈ members → Settled policy name value r id
  | .member id _ name value | .adding id name value _ => Settled policy name value r id
  | .typing .. | .typingRest .. | .entering .. | .roots .. => True

/-- All members of all objects have settled that the second context has met and the first one has
not. -/
def SettlesNew (policy : Policy) (c c' : Context ρ) : Prop :=
  ∀ encounter ∈ c'.encounters, encounter ∈ c.encounters ∨
    ∀ name value, (name, value) ∈ encounter.object →
      Settled policy name value c'.registry encounter.id

theorem SettlesNew.trans {policy : Policy} {c c₁ c₂ : Context ρ} (h1 : SettlesNew policy c c₁)
    (h2 : SettlesNew policy c₁ c₂) (hext : c₁.registry.Extends c₂.registry) :
    SettlesNew policy c c₂ := by
  intro encounter hencounter
  rcases h2 encounter hencounter with hin | hsettled
  · rcases h1 encounter hin with hold | hsettled
    · exact Or.inl hold
    · exact Or.inr fun name value hmember => (hsettled name value hmember).extends hext
  · exact Or.inr hsettled

theorem SettlesNew.enter {policy : Policy} {c c' : Context ρ} {id : String} {object : Members}
    (h : SettlesNew policy (c.enter id object) c')
    (hobject : ∀ name value, (name, value) ∈ object → Settled policy name value c'.registry id) :
    SettlesNew policy c c' := by
  intro encounter hencounter
  rcases h encounter hencounter with hin | hsettled
  · rcases List.mem_cons.1 hin with rfl | hold
    · exact Or.inr hobject
    · exact Or.inl hold
  · exact Or.inr hsettled

theorem SettlesNew.of_encounters_eq {policy : Policy} {c c' : Context ρ}
    (h : c'.encounters = c.encounters) : SettlesNew policy c c' :=
  fun _ hin => Or.inl (h ▸ hin)

/-- What changes a field leaves the encounters as they are, and loses nothing. -/
theorem SettlesNew.modifyField {policy : Policy} {c c' : Context ρ} (h : SettlesNew policy c c')
    (id name : String) {f : Model.Field ρ → Model.Field ρ}
    (hf : ∀ field : Model.Field ρ, field.Extends (f field)) :
    SettlesNew policy c (c'.modifyField id name f) :=
  h.trans (.of_encounters_eq rfl) (Registry.extends_modifyField _ _ _ hf)

/-- **No conflict is missed**: when a task succeeds, every member of every object that it has met
has settled, those of the objects that are nested in one another included. -/
theorem Runs.settled {policy : Policy} {task : Task} {c c' : Context ρ}
    {outcome : Except Error task.Result} (h : Runs policy task c outcome c')
    (hok : outcome.isOk = true) :
    task.Settles policy c'.registry ∧ SettlesNew policy c c' := by
  induction h with
  | stop | arrayFails | restFails | foldFails | retypeFails | addFails | rootFails =>
    exact absurd hok nofun
  | leaf | restNil | rootNil => exact ⟨trivial, .of_encounters_eq rfl⟩
  | foldNil => exact ⟨nofun, .of_encounters_eq rfl⟩
  | array _ _ _ _ hrest ih1 ih2 =>
    exact ⟨trivial, (ih1 rfl).2.trans (ih2 hok).2 hrest.extends⟩
  | @object _ _ _ _ _ outcome _ _ _ _ ih =>
    cases outcome with
    | error e => exact absurd hok nofun
    | ok entered => exact ⟨trivial, (ih rfl).2⟩
  | restDiffers _ _ ih => exact ⟨trivial, (ih rfl).2⟩
  | restAgrees _ hrest ih1 ih2 => exact ⟨trivial, (ih1 rfl).2.trans (ih2 hok).2 hrest.extends⟩
  | @enter _ _ _ _ outcome _ _ ih =>
    cases outcome with
    | error e => exact absurd hok nofun
    | ok _ => exact ⟨trivial, (ih rfl).2.enter (ih rfl).1⟩
  | foldCons _ hrest ih1 ih2 =>
    refine ⟨fun name value hmember => ?_, (ih1 rfl).2.trans (ih2 hok).2 hrest.extends⟩
    rcases List.mem_cons.1 hmember with heq | htail
    · obtain ⟨rfl, rfl⟩ := Prod.mk.inj heq
      exact Settled.extends (ih1 rfl).1 hrest.extends
    · exact (ih2 hok).1 name value htail
  | @counted _ creating _ _ field _ hfield href =>
    have hcounted := fun field : Model.Field ρ => field.extends_counted creating
    refine ⟨settled_modifyField hfield (fun field => (hcounted field).name) ?_,
      (SettlesNew.of_encounters_eq rfl).modifyField _ _ hcounted⟩
    -- a reference agrees with what it does not look at
    exact SettledIn.extends (Or.inl href) (hcounted field)
  | @retyped _ creating _ _ _ type _ _ hfield _ htyping ih =>
    have hretyped := fun field : Model.Field ρ => field.extends_retyped type creating
    obtain ⟨again, hagain⟩ := htyping.field?_of_counted hfield
    refine ⟨settled_modifyField hagain (fun field => (hretyped field).name) ?_,
      (ih rfl).2.modifyField _ _ hretyped⟩
    exact (settledIn_unify htyping.resolves again).extends (Model.Field.extends_requireIf _ _)
  | absent _ _ _ ih => exact ih hok
  | @addKnown _ _ _ required type field _ _ _ _ htyping hknown ih =>
    have hjoined := fun field : Model.Field ρ => field.extends_joined type required
    -- whatever the objects inside have made of the field, the value outside is unified with it
    refine ⟨settled_modifyField hknown (fun field => (hjoined field).name) ?_,
      (ih rfl).2.modifyField _ _ hjoined⟩
    exact settledIn_unify htyping.resolves _
  | addNew hid _ htyping hnew ih =>
    refine ⟨⟨_, Context.field?_pushField_self (htyping.extends.contains hid) hnew,
      settledIn_new htyping.resolves _ _⟩, (ih rfl).2.trans (.of_encounters_eq rfl) ?_⟩
    exact Registry.extends_pushField _ _ _
  | rootCons _ hrest ih1 ih2 => exact ⟨trivial, (ih1 rfl).2.trans (ih2 hok).2 hrest.extends⟩

/-! ## Types that are justified -/

section Justified

variable (policy : Policy) (name : String)

/-- The type of the field is that of an observation, or it is a string because two observations of
an attribute differ. -/
def JustifiedBy (observed : Document → Prop) (field : Model.Field ρ) : Prop :=
  (∃ value, observed value ∧ Resolves ρ policy name value field.valueType)
    ∨ field.kind = .attribute ∧ field.valueType = .string
      ∧ ∃ value type other otherType, observed value ∧ Resolves ρ policy name value type
        ∧ observed other ∧ Resolves ρ policy name other otherType ∧ type ≠ otherType

variable {policy name}

theorem JustifiedBy.mono {observed more : Document → Prop} {field : Model.Field ρ}
    (h : JustifiedBy policy name observed field) (hmore : ∀ value, observed value → more value) :
    JustifiedBy policy name more field := by
  rcases h with ⟨value, hvalue, hresolves⟩ | ⟨hkind, hstring, hdiffer⟩
  · exact Or.inl ⟨value, hmore value hvalue, hresolves⟩
  · obtain ⟨value, type, other, otherType, hvalue, hresolves, hother, hresolves', hne⟩ := hdiffer
    exact Or.inr ⟨hkind, hstring, value, type, other, otherType, hmore value hvalue, hresolves,
      hmore other hother, hresolves', hne⟩

/-! Counts and flags do not matter. -/

theorem JustifiedBy.recordOccurrence {observed : Document → Prop} {field : Model.Field ρ}
    (h : JustifiedBy policy name observed field) :
    JustifiedBy policy name observed field.recordOccurrence := h

theorem JustifiedBy.requireIf {observed : Document → Prop} {field : Model.Field ρ}
    (h : JustifiedBy policy name observed field) (required : Bool) :
    JustifiedBy policy name observed (field.requireIf required) := by
  cases required <;> exact h

/-- A field is widened only by an observation that differs from one before. -/
theorem JustifiedBy.unify {observed : Document → Prop} {field : Model.Field ρ}
    (h : JustifiedBy policy name observed field) {value : Document} {type : ValueType}
    (hvalue : observed value) (hresolves : Resolves ρ policy name value type) :
    JustifiedBy policy name observed (field.unify type) := by
  rw [Model.Field.unify, Model.Field.degradeToString]
  split
  · exact h
  · rename_i hne
    split
    · rename_i hwidenable
      simp only [Model.Field.isWidenable, Model.Field.isAttribute, Bool.and_eq_true, beq_iff_eq,
        bne_iff_ne, ne_eq] at hwidenable
      obtain ⟨hkind, hstring⟩ := hwidenable
      rcases h with ⟨earlier, hearlier, hresolves'⟩ | ⟨-, hstring', -⟩
      · exact Or.inr ⟨hkind, rfl, earlier, _, value, type, hearlier, hresolves', hvalue, hresolves,
          hne⟩
      · exact absurd hstring' hstring
    · exact h

end Justified

/-- Every field of the registry is justified by its observations. -/
def Justified (policy : Policy) (c : Context ρ) : Prop :=
  ∀ id name field, c.registry.field? id name = some field →
    JustifiedBy policy name (Observed c.encounters id name) field

/-- The members that a task has yet to fold belong to an object that was met. -/
def Task.Logged (log : List Encounter) : Task → Prop
  | .folding id _ members => ∀ name value, (name, value) ∈ members → Observed log id name value
  | .member id _ name value | .adding id name value _ => Observed log id name value
  | .typing .. | .typingRest .. | .entering .. | .roots .. => True

theorem Runs.encounters_subset {policy : Policy} {task : Task} {c c' : Context ρ}
    {outcome : Except Error task.Result} (h : Runs policy task c outcome c') :
    ∀ encounter ∈ c.encounters, encounter ∈ c'.encounters :=
  fun _ hencounter => h.encounters_isSuffix.subset hencounter

namespace Justified

variable {policy : Policy} {c : Context ρ}

theorem modifyField (h : Justified policy c) (id name : String)
    {f : Model.Field ρ → Model.Field ρ} (keeps : ∀ field, (f field).name = field.name)
    (hf : ∀ field, JustifiedBy policy name (Observed c.encounters id name) field →
      JustifiedBy policy name (Observed c.encounters id name) (f field)) :
    Justified policy (c.modifyField id name f) := by
  intro other label field hfield
  rw [Context.registry_modifyField, Registry.field?_modifyField _ _ _ _ keeps] at hfield
  split at hfield
  · rename_i heq
    obtain ⟨rfl, rfl⟩ := heq
    obtain ⟨old, hold, rfl⟩ := Option.map_eq_some_iff.1 hfield
    exact hf old (h other label old hold)
  · exact h other label field hfield

theorem pushField (h : Justified policy c) {id name : String} {field : Model.Field ρ}
    (hid : c.registry.contains id = true) (hname : field.name = name)
    (hf : JustifiedBy policy name (Observed c.encounters id name) field) :
    Justified policy (c.pushField id field) := by
  intro other label found hfound
  rw [Context.registry_pushField, Registry.field?_pushField _ _ _ hid, Option.or_eq_some_iff]
    at hfound
  rcases hfound with hold | ⟨-, hnew⟩
  · exact h other label found hold
  · split at hnew
    · rename_i heq
      obtain ⟨rfl, rfl⟩ := heq
      subst hname
      rwa [← Option.some.inj hnew]
    · exact absurd hnew nofun

theorem enter (h : Justified policy c) (id : String) (object : Members) :
    Justified policy (c.enter id object) := by
  intro other name field hfield
  rw [Context.field?_enter] at hfield
  refine (h other name field hfield).mono fun value hvalue => hvalue.mono ?_
  exact fun encounter => List.mem_cons_of_mem _

end Justified

/-- **No type comes from nowhere**, also when a task fails: typing a member may enter the class of
the member again, and whatever that changes is justified by the members met meanwhile. -/
theorem Runs.justified {policy : Policy} {task : Task} {c c' : Context ρ}
    {outcome : Except Error task.Result} (h : Runs policy task c outcome c')
    (hlogged : task.Logged c.encounters) (hjustified : Justified policy c) :
    Justified policy c' := by
  induction h with
  | stop | leaf | restNil | foldNil | rootNil => exact hjustified
  | arrayFails _ _ _ _ ih | object _ _ _ _ ih | restFails _ ih | restDiffers _ _ ih
  | addFails _ _ _ ih | rootFails _ ih => exact ih trivial hjustified
  | array _ _ _ _ _ ih1 ih2 | restAgrees _ _ ih1 ih2 | rootCons _ _ ih1 ih2 =>
    exact ih2 trivial (ih1 trivial hjustified)
  | absent _ _ _ ih => exact ih hlogged hjustified
  | @enter id object c _ _ _ _ ih =>
    -- from here on the members of the object are observations
    refine ih (fun name value hmember => ?_) (hjustified.enter id object)
    exact ⟨⟨id, object⟩, List.mem_cons_self, rfl, hmember⟩
  | foldFails _ ih => exact ih (hlogged _ _ List.mem_cons_self) hjustified
  | foldCons hmember _ ih1 ih2 =>
    refine ih2 (fun name value hin => ?_) (ih1 (hlogged _ _ List.mem_cons_self) hjustified)
    exact (hlogged name value (List.mem_cons_of_mem _ hin)).mono hmember.encounters_subset
  | @counted id creating name =>
    refine hjustified.modifyField id name (fun field => (field.extends_counted creating).name) ?_
    exact fun field h => h.recordOccurrence.requireIf creating
  | @retypeFails id _ name _ _ _ _ _ _ _ _ ih =>
    exact ih trivial (hjustified.modifyField id name (f := Model.Field.recordOccurrence)
      (fun _ => rfl) fun _ h => h.recordOccurrence)
  | @retyped id creating name _ _ type _ _ _ _ htyping ih =>
    have hcounted := hjustified.modifyField id name (f := Model.Field.recordOccurrence)
      (fun _ => rfl) fun _ h => h.recordOccurrence
    have hvalue := Observed.mono hlogged htyping.encounters_subset
    refine (ih trivial hcounted).modifyField id name
      (fun field => (field.extends_retyped type creating).name) ?_
    exact fun field h => (h.unify hvalue htyping.resolves).requireIf creating
  | @addKnown id name _ required type _ _ _ _ _ htyping _ ih =>
    have hvalue := Observed.mono hlogged htyping.encounters_subset
    refine (ih trivial hjustified).modifyField id name
      (fun field => (field.extends_joined type required).name) ?_
    intro field h
    exact (h.recordOccurrence.requireIf required).unify hvalue htyping.resolves
  | addNew hid _ htyping _ ih =>
    have hvalue := Observed.mono hlogged htyping.encounters_subset
    exact (ih trivial hjustified).pushField (htyping.extends.contains hid) rfl
      (Or.inl ⟨_, hvalue, htyping.resolves⟩)

end Discovery

end DocModel
