import DocModel.Proofs.Discovery.Placement
import DocModel.Proofs.RootClass
import DocModel.Proofs.UpperCase
import Mathlib.Data.List.DropRight

set_option autoImplicit false

/-! # Digests settle

A digest takes one `s` off the end of a name, and the first character to upper case. Taken again and
again it takes all of them off, except for an `s` that is the first character, and then it does
nothing more: `exists_settles`. Objects in arrays are named by digests of digests, so those in many
arrays are named alike. They share one class, and a field that holds nothing but such objects has this
class as its type: `Runs.gathers`. -/

namespace DocModel

variable {ρ : Type}

namespace Digester

/-- All digests of the name from this one on are the same id. -/
def Settles (digester : Digester) (name id : String) (start : Nat) : Prop :=
  ∀ n, start ≤ n → digester.repeated n name = .ok id

/-- The first digest is there, and those of the first digest settle one earlier. -/
theorem Settles.exists_next {digester : Digester} {name id : String} {start : Nat}
    (h : digester.Settles name id (start + 1)) :
    ∃ next, digester name = .ok next ∧ digester.Settles next id start := by
  cases hdigest : digester name with
  | error e =>
    have hfirst : digester name >>= digester.repeated start = .ok id := h _ (Nat.le_refl _)
    rw [hdigest] at hfirst
    exact absurd hfirst nofun
  | ok next =>
    refine ⟨next, rfl, fun n hn => ?_⟩
    rw [← repeated_succ hdigest]
    exact h (n + 1) (Nat.succ_le_succ hn)

/-! ## Names that end in `s` -/

/-- How many `s` stand at the end of the name. -/
def trailing (name : String) : Nat := (name.toList.rtakeWhile (· = 's')).length

/-- A longer list does not end in fewer of them. -/
theorem length_rtakeWhile_le_cons (first : Char) (rest : List Char) :
    (rest.rtakeWhile (· = 's')).length ≤ ((first :: rest).rtakeWhile (· = 's')).length := by
  unfold List.rtakeWhile
  rw [List.length_reverse, List.length_reverse, List.reverse_cons, List.takeWhile_append]
  split
  · rename_i hall
    rw [hall, List.length_append]
    exact Nat.le_add_right _ _
  · exact Nat.le_refl _

/-- A name is its first character, something that does not end in `s` and then nothing but `s`. -/
theorem exists_stem {name : String} (hname : name ≠ "") :
    ∃ (first : Char) (middle : List Char) (count : Nat),
      name = String.ofList (first :: (middle ++ List.replicate count 's'))
        ∧ middle.getLast? ≠ some 's' ∧ count ≤ trailing name := by
  obtain ⟨first, rest, hchars⟩ : ∃ first rest, name.toList = first :: rest :=
    List.exists_cons_of_ne_nil (by simpa using hname)
  have hplural : rest.rtakeWhile (· = 's')
      = List.replicate (rest.rtakeWhile (· = 's')).length 's' := by
    refine List.eq_replicate_iff.2 ⟨rfl, fun c hc => ?_⟩
    simpa using List.mem_rtakeWhile_imp hc
  refine ⟨first, rest.rdropWhile (· = 's'), (rest.rtakeWhile (· = 's')).length, ?_, ?_, ?_⟩
  · rw [← hplural, List.rdropWhile_append_rtakeWhile, ← hchars, String.ofList_toList]
  · intro hlast
    obtain ⟨hne, hlast⟩ := List.mem_getLast?_eq_getLast hlast
    exact List.rdropWhile_last_not _ _ hne (decide_eq_true hlast.symm)
  · rw [trailing, hchars]
    exact length_rtakeWhile_le_cons first rest

/-- A digest takes one `s` off the end, but not the first character. -/
theorem singular_stem (first : Char) {middle : List Char} (hmiddle : middle.getLast? ≠ some 's')
    (count : Nat) : singular (first :: (middle ++ List.replicate count 's'))
      = first :: (middle ++ List.replicate (count - 1) 's') := by
  cases count with
  | zero =>
    have hkept : ¬ (1 < (first :: (middle ++ [])).length
        ∧ (first :: (middle ++ [])).getLast? = some 's') := by
      rintro ⟨hlength, hlast⟩
      cases middle with
      | nil => exact Nat.lt_irrefl 1 hlength
      | cons c rest =>
        rw [List.append_nil] at hlast
        exact hmiddle hlast
    exact if_neg hkept
  | succ count =>
    have hend : first :: (middle ++ List.replicate (count + 1) 's')
        = (first :: (middle ++ List.replicate count 's')) ++ ['s'] := by
      rw [List.replicate_succ', ← List.append_assoc, List.cons_append]
    have hlength : 1 < ((first :: (middle ++ List.replicate count 's')) ++ ['s']).length := by
      rw [List.length_append, List.length_cons, List.length_singleton]
      omega
    rw [hend, singular, if_pos ⟨hlength, List.getLast?_concat⟩, List.dropLast_concat]
    rfl

section Settling

variable {upper : Char → List Char} {first : Char} {middle : List Char}

theorem pluralStripWith_stem (upper : Char → List Char) (first : Char)
    (hmiddle : middle.getLast? ≠ some 's') (count : Nat) :
    pluralStripWith upper (String.ofList (first :: (middle ++ List.replicate count 's')))
      = .ok (String.ofList (upper first ++ (middle ++ List.replicate (count - 1) 's'))) := by
  have hname : (String.ofList (first :: (middle ++ List.replicate count 's'))).isEmpty = false := by
    simp
  rw [pluralStripWith, if_neg (by rw [hname]; exact Bool.false_ne_true), String.toList_ofList,
    singular_stem first hmiddle]
  rfl

/-- Digests take off one `s` each, until there is none any more. The first one settles the first
character, because this is upper case then. -/
theorem repeated_stem (hupper : Text.CaseMapping upper) (hmiddle : middle.getLast? ≠ some 's')
    (count n : Nat) :
    (pluralStripWith upper).repeated (n + 1)
        (String.ofList (first :: (middle ++ List.replicate count 's')))
      = .ok (String.ofList (upper first ++ (middle ++ List.replicate (count - (n + 1)) 's'))) := by
  induction n generalizing first middle count with
  | zero => rw [repeated_one, pluralStripWith_stem upper first hmiddle]
  | succ n ih =>
    rw [repeated_succ (pluralStripWith_stem upper first hmiddle count)]
    obtain ⟨capital, more, hcapital⟩ := List.exists_cons_of_ne_nil (hupper.ne_nil first)
    -- what comes after the capital does not end in `s` either
    have hlonger : (more ++ middle).getLast? ≠ some 's' := by
      cases middle with
      | nil =>
        rw [List.append_nil]
        intro hlast
        refine hupper.getLast? first ?_
        rw [hcapital, List.getLast?_cons, hlast]
        rfl
      | cons c rest =>
        rw [List.getLast?_append_of_ne_nil _ (List.cons_ne_nil c rest)]
        exact hmiddle
    have hagain := @ih capital _ hlonger (count - 1)
    rw [hupper.head first capital more hcapital, Nat.sub_sub, Nat.add_comm 1] at hagain
    rw [hcapital, List.cons_append, ← List.append_assoc, hagain, List.append_assoc]
    rfl

/-- **Digests settle.** They are the same from the one on that has taken off the last `s`. -/
theorem exists_settles (hupper : Text.CaseMapping upper) {name : String} (hname : name ≠ "") :
    ∃ id, id ≠ "" ∧ (pluralStripWith upper).Settles name id (max 1 (trailing name)) := by
  obtain ⟨first, middle, count, hstem, hmiddle, hcount⟩ := exists_stem hname
  refine ⟨String.ofList (upper first ++ middle), fun hempty => ?_, fun n hn => ?_⟩
  · rw [String.ofList_eq_empty_iff, List.append_eq_nil_iff] at hempty
    exact hupper.ne_nil first hempty.1
  · obtain ⟨n, rfl⟩ := Nat.exists_eq_succ_of_ne_zero (show n ≠ 0 by omega)
    have hnone : count - (n + 1) = 0 := by omega
    rw [hstem, repeated_stem hupper hmiddle, hnone, List.replicate_zero, List.append_nil]

end Settling

end Digester

/-! ## Values that are nothing but objects -/

/-- The value is an object, or it is an array of such values that is not empty. All objects stand in
at least this many arrays. -/
inductive Document.Gathers : Nat → Document → Prop
  | object {members : Members} : Gathers 0 (.object members)
  | array {depth : Nat} {first : Document} {rest : List Document} :
      Gathers (depth - 1) first → (∀ item ∈ rest, Gathers (depth - 1) item) →
      Gathers depth (.array (first :: rest))

/-- The encounter was noted between the two contexts. -/
def Encounter.Between (encounter : Encounter) (c c' : Context ρ) : Prop :=
  ∃ log, c'.encounters = log ++ c.encounters ∧ encounter ∈ log

namespace Encounter.Between

variable {encounter : Encounter} {c c₁ c₂ : Context ρ}

theorem earlier (h : encounter.Between c₁ c₂) (hkept : c.encounters <:+ c₁.encounters) :
    encounter.Between c c₂ := by
  obtain ⟨log, hlog, hmet⟩ := h
  obtain ⟨before, hbefore⟩ := hkept
  exact ⟨log ++ before, by rw [hlog, ← hbefore, List.append_assoc], List.mem_append_left _ hmet⟩

theorem later (h : encounter.Between c c₁) (hkept : c₁.encounters <:+ c₂.encounters) :
    encounter.Between c c₂ := by
  obtain ⟨log, hlog, hmet⟩ := h
  obtain ⟨after, hafter⟩ := hkept
  exact ⟨after ++ log, by rw [← hafter, hlog, List.append_assoc], List.mem_append_right _ hmet⟩

end Encounter.Between

namespace Discovery

section Gathers

variable {policy : Policy} {name id : String} {c c' : Context ρ} {type : ValueType}

/-- Typing an object hands it to the class that is its type. -/
theorem Runs.gathersObject {object : Members} (hdigest : policy.digester name = .ok id)
    (h : Runs policy (.typing name (.object object)) c (.ok type) c') :
    type = .instanceOf id ∧ (Encounter.mk id object).Between c c' := by
  have htype := h.foreseen type rfl
  rw [Document.typeUnder, hdigest] at htype
  refine ⟨(Option.some.inj htype).symm, ?_⟩
  generalize houtcome : (.ok type : Except Error ValueType) = outcome at h
  cases h with
  | stop => cases houtcome
  | leaf _ hleaf => cases hleaf
  | @object _ entered _ _ _ result _ hdigest' _ hentering =>
    obtain rfl : id = entered := Except.ok.inj (hdigest.symm.trans hdigest')
    cases result with
    | error e => cases houtcome
    | ok =>
      have hnoted : (Encounter.mk id object).Between c (c.inside.enter id object) :=
        ⟨[⟨id, object⟩], rfl, List.mem_cons_self⟩
      exact hnoted.later hentering.folding_of_entering.encounters_isSuffix

/-- Items that all have the type of a class leave no item out. -/
theorem Runs.gathersRest {items : List Document}
    (h : Runs policy (.typingRest name (.instanceOf id) items) c (.ok type) c')
    (hitems : ∀ item ∈ items, ∀ {d d' : Context ρ} {other : ValueType},
      Runs policy (.typing name item) d (.ok other) d' → other = .instanceOf id
        ∧ ∀ object depth, item.Stands object depth → (Encounter.mk id object).Between d d') :
    type = .instanceOf id ∧ ∀ item ∈ items, ∀ object depth, item.Stands object depth →
      (Encounter.mk id object).Between c c' := by
  induction items generalizing c with
  | nil =>
    cases h with
    | restNil => exact ⟨rfl, nofun⟩
  | cons item rest ih =>
    obtain ⟨hfirst, hlater⟩ := List.forall_mem_cons.1 hitems
    cases h with
    | restDiffers hitem hne => exact absurd (hfirst hitem).1 hne
    | restAgrees hitem hrest =>
      obtain ⟨hsame, hmet⟩ := ih hrest hlater
      refine ⟨hsame, List.forall_mem_cons.2 ⟨fun object depth hstands => ?_,
        fun other hother object depth hstands => ?_⟩⟩
      · exact ((hfirst hitem).2 object depth hstands).later hrest.encounters_isSuffix
      · exact (hmet other hother object depth hstands).earlier hitem.encounters_isSuffix

/-- **Objects in many arrays share one class**, which is the type of a value that holds nothing
else. -/
theorem Runs.gathers {depth : Nat} {value : Document} (hgathers : value.Gathers depth)
    (hsettles : policy.digester.Settles name id (depth + 1))
    (h : Runs policy (.typing name value) c (.ok type) c') :
    type = .instanceOf id
      ∧ ∀ object depth, value.Stands object depth → (Encounter.mk id object).Between c c' := by
  induction hgathers generalizing name c c' type with
  | object =>
    have hdigest : policy.digester name = .ok id :=
      (policy.digester.repeated_one name).symm.trans (hsettles 1 (Nat.le_refl 1))
    obtain ⟨htype, hmet⟩ := h.gathersObject hdigest
    refine ⟨htype, fun object depth hstands => ?_⟩
    cases hstands with
    | here => exact hmet
  | @array depth first rest _ _ ih1 ih2 =>
    obtain ⟨element, hdigest, hsettled⟩ := hsettles.exists_next
    -- the items stand in one array less, and their name is digested once
    have hinner : policy.digester.Settles element id (depth - 1 + 1) :=
      fun n hn => hsettled n (by omega)
    cases h with
    | leaf _ hleaf => cases hleaf
    | array _ _ hdigest' hfirst hrest =>
      obtain rfl := Except.ok.inj (hdigest.symm.trans hdigest')
      obtain ⟨rfl, hmet⟩ := ih1 hinner hfirst
      obtain ⟨htype, hothers⟩ := hrest.gathersRest fun item hitem => ih2 item hitem hinner
      refine ⟨htype, fun object depth hstands => ?_⟩
      cases hstands with
      | item hitem hstands =>
        rcases List.mem_cons.1 hitem with rfl | hlater
        · exact (hmet object _ hstands).later hrest.encounters_isSuffix
        · exact (hothers _ hlater object _ hstands).earlier hfirst.encounters_isSuffix

end Gathers

end Discovery

/-! ## Classes of places -/

/-- What typing a value under a name makes of its objects, where the digests of the name settle. -/
structure SharesClass (digester : Digester) (name id : String) (least : Nat) (value : Document)
    (outcome : Except Error ValueType) (log : List Encounter) : Prop where
  /-- An object that was met stands in the value and belongs to the class of its place, which is the
  one class in this many arrays or more; or it is nested in another object. -/
  placed : ∀ encounter ∈ log,
    (∃ depth, value.Stands encounter.object depth
      ∧ digester.repeated (depth + 1) name = .ok encounter.id
      ∧ (least ≤ depth → encounter.id = id))
    ∨ encounter.Nested digester log
  /-- Where all objects stand in this many arrays or more, they all belong to the one class. -/
  gathered : ∀ type, outcome = .ok type → value.Gathers least →
    type = .instanceOf id ∧ ∀ object depth, value.Stands object depth → ⟨id, object⟩ ∈ log

theorem Discovery.Runs.exists_sharesClass {policy : Policy} {name id : String} {least : Nat}
    {value : Document} {c c' : Context ρ} {outcome : Except Error ValueType}
    (h : Runs policy (.typing name value) c outcome c')
    (hsettles : policy.digester.Settles name id (least + 1)) :
    ∃ log, c'.encounters = log ++ c.encounters
      ∧ SharesClass policy.digester name id least value outcome log := by
  obtain ⟨log, hlog, haccounts⟩ := h.placed
  refine ⟨log, hlog, fun encounter hmet => ?_, ?_⟩
  · refine (haccounts encounter hmet).imp_left ?_
    rintro ⟨depth, hstands, hid⟩
    refine ⟨depth, hstands, hid, fun hleast => ?_⟩
    exact Except.ok.inj (hid.symm.trans (hsettles (depth + 1) (Nat.succ_le_succ hleast)))
  · rintro type rfl hgathers
    obtain ⟨htype, hmet⟩ := h.gathers hgathers hsettles
    refine ⟨htype, fun object depth hstands => ?_⟩
    obtain ⟨noted, hnoted, hin⟩ := hmet object depth hstands
    rwa [List.append_cancel_right (hlog.symm.trans hnoted)]

/-- **Digests of digests settle**, for every mapping to upper case, that of Unicode among them. A
name has a digest, which is not empty, and all digests from the one on that takes off the last `s` are
one id. Objects under the name belong to its class if they stand in at least as many arrays as the
name has `s` at its end, less one; so where there is one `s` or none they all do. -/
theorem repeated_digests_settle :
    Text.CaseMapping Text.upperCase
    ∧ ∀ (upper : Char → List Char) (name : String), Text.CaseMapping upper → name ≠ "" →
      ∃ next id, Digester.pluralStripWith upper name = .ok next ∧ next ≠ "" ∧ id ≠ ""
        ∧ (∀ n, max 1 (Digester.trailing name) ≤ n →
          (Digester.pluralStripWith upper).repeated n name = .ok id)
        ∧ (∀ depth, Digester.trailing name - 1 ≤ depth →
          (Digester.pluralStripWith upper).repeated (depth + 1) name = .ok id)
        ∧ ∀ (max : Option Nat) (value : Document) (c c' : Context ρ)
          (outcome : Except Error ValueType),
          (Discovery.typeOf ⟨Digester.pluralStripWith upper, max⟩ name value).run c
            = (outcome, c') →
          ∃ log, c'.encounters = log ++ c.encounters
            ∧ SharesClass (Digester.pluralStripWith upper) name id (Digester.trailing name - 1)
              value outcome log := by
  refine ⟨Text.caseMapping_upperCase, fun upper name hupper hname => ?_⟩
  obtain ⟨next, hnext, hnonempty⟩ := Digester.names_pluralStripWith hupper.ne_nil name hname
  obtain ⟨id, hid, hsettles⟩ := Digester.exists_settles hupper hname
  have hplaces : (Digester.pluralStripWith upper).Settles name id (Digester.trailing name - 1 + 1) :=
    fun n hn => hsettles n (by omega)
  refine ⟨next, id, hnext, hnonempty, hid, hsettles, fun depth hdepth => ?_,
    fun max value c c' outcome hrun => ?_⟩
  · exact hplaces (depth + 1) (Nat.succ_le_succ hdepth)
  · have hruns : Discovery.Runs ⟨Digester.pluralStripWith upper, max⟩ (.typing name value) c outcome
        c' := (Discovery.runs_iff (.typing name value) trivial).2 hrun
    exact hruns.exists_sharesClass hplaces

/-- An object in two arrays beside one in three. -/
def racks : Document :=
  .array [.array [.object [("k", .null)]], .array [.array [.object []]]]

/-- The name of the racks ends in three `s`, so two arrays are enough. -/
theorem repeated_digests_settle_racks :
    ∃ (after : Context Rat) (log : List Encounter),
      (Discovery.typeOf ⟨.pluralStrip, none⟩ "racksss" racks).run (.of .empty)
          = (.ok (.instanceOf "Rack"), after)
        ∧ after.encounters = log ++ []
        ∧ SharesClass .pluralStrip "racksss" "Rack" 2 racks (.ok (.instanceOf "Rack")) log
        ∧ ⟨"Rack", []⟩ ∈ log ∧ ⟨"Rack", [("k", .null)]⟩ ∈ log
        ∧ ∀ n, 3 ≤ n → Digester.pluralStrip.repeated n "racksss" = .ok "Rack" := by
  have htrailing : Digester.trailing "racksss" = 3 := by decide +kernel
  have husual : Digester.pluralStripWith Text.upperCase = .pluralStrip := rfl
  obtain ⟨hupper, hsettle⟩ := repeated_digests_settle (ρ := Rat)
  obtain ⟨-, rack, -, -, -, hfrom, -, htyping⟩ :=
    hsettle Text.upperCase "racksss" hupper (by decide)
  rw [htrailing, husual] at hfrom htyping
  -- the id is the third digest
  obtain ⟨third, hthird, hrack⟩ : ∃ third, Digester.pluralStrip.repeated 3 "racksss" = .ok third
      ∧ id third = "Rack" := exists_eq_ok_of_toOption_map (by decide +kernel)
  obtain rfl : third = "Rack" := hrack
  obtain rfl : rack = "Rack" := Except.ok.inj ((hfrom 3 (by decide)).symm.trans hthird)
  obtain ⟨type, htype, hinstance⟩ : ∃ type, ((Discovery.typeOf ⟨.pluralStrip, none⟩ "racksss"
      racks).run (.of .empty : Context Rat)).1 = .ok type ∧ id type = .instanceOf "Rack" :=
    exists_eq_ok_of_toOption_map (by decide +kernel)
  obtain rfl : type = .instanceOf "Rack" := hinstance
  rcases hrun : (Discovery.typeOf ⟨.pluralStrip, none⟩ "racksss" racks).run
    (.of .empty : Context Rat) with ⟨outcome, after⟩
  rw [hrun] at htype
  obtain rfl : outcome = .ok (.instanceOf "Rack") := htype
  obtain ⟨log, hlog, hshares⟩ := htyping none racks (.of .empty) after _ hrun
  have hgathers : racks.Gathers 2 :=
    .array (.array .object nofun) (List.forall_mem_singleton.2 (.array (.array .object nofun) nofun))
  obtain ⟨-, hmet⟩ := hshares.gathered _ rfl hgathers
  refine ⟨after, log, rfl, hlog, hshares, hmet [] 3 ?_, hmet [("k", .null)] 2 ?_, hfrom⟩
  · exact .item (List.mem_cons_of_mem _ List.mem_cons_self)
      (.item List.mem_cons_self (.item List.mem_cons_self .here))
  · exact .item List.mem_cons_self (.item List.mem_cons_self .here)

end DocModel
