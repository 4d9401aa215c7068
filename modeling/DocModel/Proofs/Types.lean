import DocModel.Proofs.Discoverer
import DocModel.Proofs.Discovery.Typing

set_option autoImplicit false

/-! # Types have no history

The rules by which a value has a type speak of the value, the name it stands under and the digester,
and of nothing else. Typing discovers classes on the way, and these depend on what was discovered
before, but the type that it ends with is the one that the rules give: `types_have_no_history`. An
array is typed up to the first item that does not have the type of the first one, and what comes
after this item is not even looked at. -/

namespace DocModel

variable {ρ : Type}

namespace Document

/-- Under this name the value has this type. Items stand under the digest of the name. -/
inductive HasType (digester : Digester) : String → Document → ValueType → Prop
  | null {name : String} : HasType digester name .null .string
  | bool {name : String} {value : Bool} : HasType digester name (.bool value) (.scalar .boolean)
  | number {name : String} {value : Number} :
      HasType digester name (.number value) (.scalar .integer)
  | string {name : String} {value : String} : HasType digester name (.string value) .string
  | emptyArray {name : String} : HasType digester name (.array []) .string
  /-- All items have the type. -/
  | uniform {name element : String} {items : List Document} {type : ValueType} :
      items ≠ [] → digester name = .ok element →
      (∀ item ∈ items, HasType digester element item type) →
      HasType digester name (.array items) type
  /-- Two items differ. -/
  | mixed {name element : String} {items : List Document} {item other : Document}
      {type otherType : ValueType} :
      digester name = .ok element → item ∈ items → HasType digester element item type →
      other ∈ items → HasType digester element other otherType → type ≠ otherType →
      HasType digester name (.array items) .string
  | object {name id : String} {members : Members} :
      digester name = .ok id → HasType digester name (.object members) (.instanceOf id)

variable {digester : Digester}

/-- A value has at most one type. -/
theorem HasType.unique {name : String} {value : Document} {type other : ValueType}
    (h : value.HasType digester name type) (hother : value.HasType digester name other) :
    type = other := by
  induction h generalizing other with
  | null => cases hother; rfl
  | bool => cases hother; rfl
  | number => cases hother; rfl
  | string => cases hother; rfl
  | emptyArray =>
    cases hother with
    | emptyArray => rfl
    | uniform hne => exact absurd rfl hne
    | mixed => rfl
  | uniform hne hdigest _ ih =>
    cases hother with
    | emptyArray => exact absurd rfl hne
    | uniform _ hdigest' hall =>
      obtain rfl := Except.ok.inj (hdigest.symm.trans hdigest')
      obtain ⟨item, hitem⟩ := List.exists_mem_of_ne_nil _ hne
      exact ih item hitem (hall item hitem)
    | mixed hdigest' hitem htype hother hotherType hdiffer =>
      -- two items of the same type do not differ
      obtain rfl := Except.ok.inj (hdigest.symm.trans hdigest')
      exact absurd ((ih _ hitem htype).symm.trans (ih _ hother hotherType)) hdiffer
  | mixed hdigest hitem _ hother' _ hdiffer ih1 ih2 =>
    cases hother with
    | emptyArray => rfl
    | uniform _ hdigest' hall =>
      obtain rfl := Except.ok.inj (hdigest.symm.trans hdigest')
      exact absurd ((ih1 (hall _ hitem)).trans (ih2 (hall _ hother')).symm) hdiffer
    | mixed => rfl
  | object hdigest =>
    cases hother with
    | object hdigest' => rw [Except.ok.inj (hdigest.symm.trans hdigest')]

/-- The type that is computed for a value is one that the value has. -/
theorem hasType_of_typeUnder : ∀ (value : Document) (name : String) {type : ValueType},
    value.typeUnder digester name = some type → value.HasType digester name type
  | .null, _, _, h => by
    rw [typeUnder] at h
    exact Option.some.inj h ▸ .null
  | .bool _, _, _, h => by
    rw [typeUnder] at h
    exact Option.some.inj h ▸ .bool
  | .number _, _, _, h => by
    rw [typeUnder] at h
    exact Option.some.inj h ▸ .number
  | .string _, _, _, h => by
    rw [typeUnder] at h
    exact Option.some.inj h ▸ .string
  | .array [], _, _, h => by
    rw [typeUnder] at h
    exact Option.some.inj h ▸ .emptyArray
  | .array (first :: rest), name, type, h => by
    rw [typeUnder] at h
    cases hdigest : digester name with
    | error e => simp only [hdigest, reduceCtorEq] at h
    | ok element =>
      simp only [hdigest] at h
      cases hfirst : first.typeUnder digester element with
      | none => simp only [hfirst, reduceCtorEq] at h
      | some general =>
        simp only [hfirst] at h
        have hgeneral := hasType_of_typeUnder first element hfirst
        rcases typeUnderRest_eq_some h with ⟨rfl, hall⟩ | ⟨rfl, item, hitem, other, hother, hne⟩
        · refine .uniform (List.cons_ne_nil _ _) hdigest fun item hitem => ?_
          rcases List.mem_cons.1 hitem with rfl | hrest
          · exact hgeneral
          · exact hasType_of_typeUnder item element (hall item hrest)
        · exact .mixed hdigest List.mem_cons_self hgeneral (List.mem_cons_of_mem _ hitem)
            (hasType_of_typeUnder item element hother) hne.symm
  | .object members, name, type, h => by
    rw [typeUnder] at h
    cases hdigest : digester name with
    | error e => simp [hdigest, Except.toOption] at h
    | ok id =>
      rw [hdigest] at h
      exact Option.some.inj h ▸ .object hdigest

end Document

namespace Discovery

variable {digester : Digester} {max : Option Nat} {name : String} {c c' : Context ρ}

/-- Typing that succeeds finds the type of the value. -/
theorem hasType_of_typeOf {value : Document} {type : ValueType}
    (h : (typeOf ⟨digester, max⟩ name value).run c = (.ok type, c')) :
    value.HasType digester name type := by
  have hruns : Runs ⟨digester, max⟩ (.typing name value) c (.ok type) c' :=
    (runs_iff (.typing name value) trivial).2 h
  exact value.hasType_of_typeUnder name (hruns.foreseen type rfl)

/-! ## What comes after the first item of another type -/

/-- Typing the items ends at the one that differs, or before it. -/
theorem run_typeOfRest_append {general : ValueType} {odd : Document}
    (hodd : ¬ odd.HasType digester name general) (before after other : List Document) :
    (typeOfRest ⟨digester, max⟩ name general (before ++ odd :: after)).run c
      = (typeOfRest ⟨digester, max⟩ name general (before ++ odd :: other)).run c := by
  induction before generalizing c with
  | nil =>
    rw [List.nil_append, List.nil_append, typeOfRest, typeOfRest, run_bind, run_bind]
    rcases hitem : (typeOf ⟨digester, max⟩ name odd).run c with ⟨_ | observed, c₁⟩
    · rfl
    · have hne : observed ≠ general := fun heq => hodd (heq ▸ hasType_of_typeOf hitem)
      simp only [hne, ↓reduceIte]
  | cons item before ih =>
    rw [List.cons_append, List.cons_append, typeOfRest, typeOfRest, run_bind, run_bind]
    rcases (typeOf ⟨digester, max⟩ name item).run c with ⟨_ | observed, c₁⟩
    · rfl
    · by_cases heq : observed = general
      · simp only [heq, ↓reduceIte]
        exact ih
      · simp only [heq, ↓reduceIte]

/-- The same for the array, where the item that differs is one that has no type in common with the
first one. -/
theorem typeOf_array_append {first odd : Document}
    (hodd : ∀ element type, digester name = .ok element → first.HasType digester element type →
      ¬ odd.HasType digester element type) (before after other : List Document) :
    (typeOf ⟨digester, max⟩ name (.array (first :: (before ++ odd :: after))) : Discovery ρ _)
      = typeOf ⟨digester, max⟩ name (.array (first :: (before ++ odd :: other))) := by
  rw [typeOf, typeOf]
  congr 2
  funext c
  show Discovery.run _ c = Discovery.run _ c
  cases hdigest : digester name with
  | error e =>
    have hfails := run_ofExcept_error hdigest c
    rw [run_bind_error hfails, run_bind_error hfails]
  | ok element =>
    have hnamed := run_ofExcept_ok hdigest c
    rw [run_bind_ok hnamed, run_bind_ok hnamed, run_bind, run_bind]
    rcases hfirst : (typeOf ⟨digester, max⟩ element first).run c with ⟨_ | general, c₁⟩
    · rfl
    · exact run_typeOfRest_append (hodd element general hdigest (hasType_of_typeOf hfirst)) ..

end Discovery

/-- **The type of a value has no history.** Whatever was discovered before, however deep the value
stands and whatever the limit is, typing that succeeds ends with the one type that the value has
under its name. And an array may go on as it likes after an item that does not have the type of the
first one: the outcome is the same, error or not, and so is everything that is left behind. -/
theorem types_have_no_history (digester : Digester) (name : String) :
    (∀ (value : Document) (max limit : Option Nat) (c c' d d' : Context ρ) (type other : ValueType),
      (Discovery.typeOf ⟨digester, max⟩ name value).run c = (.ok type, c') →
      (Discovery.typeOf ⟨digester, limit⟩ name value).run d = (.ok other, d') → type = other)
    ∧ (∀ (value : Document) (max : Option Nat) (c c' : Context ρ) (type : ValueType),
      (Discovery.typeOf ⟨digester, max⟩ name value).run c = (.ok type, c') →
      ∀ other, value.HasType digester name other ↔ other = type)
    ∧ ∀ (first odd : Document),
      (∀ element type, digester name = .ok element → first.HasType digester element type →
        ¬ odd.HasType digester element type) →
      ∀ (before after other : List Document) (max : Option Nat) (c : Context ρ),
        (Discovery.typeOf ⟨digester, max⟩ name (.array (first :: (before ++ odd :: after)))).run c
          = (Discovery.typeOf ⟨digester, max⟩ name
              (.array (first :: (before ++ odd :: other)))).run c := by
  refine ⟨fun value max limit c c' d d' type other htype hother => ?_,
    fun value max c c' type htype other => ⟨fun hother => ?_, ?_⟩,
    fun first odd hodd before after other max c => ?_⟩
  · exact (Discovery.hasType_of_typeOf htype).unique (Discovery.hasType_of_typeOf hother)
  · exact hother.unique (Discovery.hasType_of_typeOf htype)
  · rintro rfl
    exact Discovery.hasType_of_typeOf htype
  · rw [Discovery.typeOf_array_append hodd before after other]

/-- Two objects in an array. -/
def pairOfObjects : Document := .array [.object [("k", .null)], .object []]

/-- A class that has got all fields of the objects before. -/
def acquainted : Registry Rat := .ofClasses [⟨"A", [.new "k" (.instanceOf "K") .one true], 1⟩]

/-- The objects make a class or find it there, under no limit or under one that is just enough. In
the other arrays a member without a name comes after an item that differs. -/
theorem types_have_no_history_pairOfObjects :
    (∃ c d : Context Rat,
      (Discovery.typeOf ⟨.pluralStrip, none⟩ "as" pairOfObjects).run (.of .empty)
        = (.ok (.instanceOf "A"), c)
      ∧ (Discovery.typeOf ⟨.pluralStrip, some 2⟩ "as" pairOfObjects).run (.of acquainted)
        = (.ok (.instanceOf "A"), d)
      ∧ ∀ other, pairOfObjects.HasType .pluralStrip "as" other ↔ other = .instanceOf "A")
    ∧ (Discovery.typeOf ⟨.pluralStrip, none⟩ "as"
        (.array [.ofInt 1, .object [], .object [("", .null)]])).run (.of acquainted)
      = (Discovery.typeOf ⟨.pluralStrip, none⟩ "as"
        (.array [.ofInt 1, .object []])).run (.of acquainted) := by
  obtain ⟨hsame, htypes, hafter⟩ := types_have_no_history (ρ := Rat) .pluralStrip "as"
  constructor
  · obtain ⟨type, hfirst, htype⟩ : ∃ type, ((Discovery.typeOf ⟨.pluralStrip, none⟩ "as"
        pairOfObjects).run (.of .empty : Context Rat)).1 = .ok type ∧ id type = .instanceOf "A" :=
      exists_eq_ok_of_toOption_map (by decide +kernel)
    obtain rfl : type = .instanceOf "A" := htype
    obtain ⟨other, hsecond, -⟩ : ∃ other, ((Discovery.typeOf ⟨.pluralStrip, some 2⟩ "as"
        pairOfObjects).run (.of acquainted)).1 = .ok other ∧ other.isScalar = false :=
      exists_eq_ok_of_toOption_map (by decide +kernel)
    obtain rfl := hsame _ none (some 2) _ _ _ _ _ _ (Prod.ext hfirst rfl) (Prod.ext hsecond rfl)
    exact ⟨_, _, Prod.ext hfirst rfl, Prod.ext hsecond rfl,
      htypes _ none _ _ _ (Prod.ext hfirst rfl)⟩
  · refine hafter (.ofInt 1) (.object []) (fun element type _ hfirst hodd => ?_) [] _ _ none _
    cases hfirst
    cases hodd

end DocModel
