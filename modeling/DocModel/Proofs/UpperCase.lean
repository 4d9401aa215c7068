import DocModel.Proofs.Digest
import Mathlib.Data.Nat.Bitwise

set_option autoImplicit false

/-! # Upper case stays upper case

What digests need to know of a mapping to upper case, and that the mapping of Unicode is like this.
The letters that it changes and the first letters of what it changes them to are two lists of code
points without a common entry: `letters_disjoint_images`. As there are more than a thousand of each,
the lists are compared as sets of bits. -/

namespace DocModel.Text

/-- What is assumed of a mapping to upper case. -/
structure CaseMapping (upper : Char → List Char) : Prop where
  ne_nil : ∀ c, upper c ≠ []
  /-- No upper case ends in a lower-case `s`. -/
  getLast? : ∀ c, (upper c).getLast? ≠ some 's'
  /-- What an upper case starts with is its own upper case. -/
  head : ∀ c first rest, upper c = first :: rest → upper first = [first]

/-! ## Sets of bits -/

/-- The number with the bits of these positions. -/
def bits (codes : List Nat) : Nat := codes.foldr (fun code set => set ||| 1 <<< code) 0

theorem testBit_bits {code : Nat} {codes : List Nat} (h : code ∈ codes) :
    (bits codes).testBit code = true := by
  induction codes with
  | nil => exact absurd h List.not_mem_nil
  | cons other rest ih =>
    show (bits rest ||| 1 <<< other).testBit code = true
    rw [Nat.testBit_or, Nat.one_shiftLeft]
    rcases List.mem_cons.1 h with rfl | hrest
    · rw [Nat.testBit_two_pow_self, Bool.or_true]
    · rw [ih hrest, Bool.true_or]

theorem not_mem_of_land_eq_zero {codes others : List Nat} (h : bits codes &&& bits others = 0)
    {code : Nat} (hcode : code ∈ codes) : code ∉ others := by
  intro hother
  have hboth : (bits codes &&& bits others).testBit code = true := by
    rw [Nat.testBit_and, testBit_bits hcode, testBit_bits hother, Bool.and_self]
  rw [h, Nat.zero_testBit] at hboth
  exact absurd hboth Bool.false_ne_true

/-! ## Letters and their images -/

namespace CaseRun

/-- How far the letters of the run are from the first one. -/
def offsets (run : CaseRun) : List Nat :=
  (List.range ((run.last - run.first) / run.step + 1)).map (run.step * ·)

/-- What the run maps is one of its letters, and the image is as far from the first image. -/
theorem exists_offset_of_image? {run : CaseRun} {code image : Nat}
    (h : run.image? code = some image) :
    ∃ offset ∈ run.offsets, code = run.first + offset ∧ image = run.image + offset := by
  unfold image? at h
  split at h
  · rename_i hin
    obtain ⟨hfirst, hlast, hstep⟩ := hin
    refine ⟨code - run.first, List.mem_map.2 ⟨(code - run.first) / run.step, ?_, ?_⟩, ?_, ?_⟩
    · rw [List.mem_range, Nat.lt_succ_iff]
      exact Nat.div_le_div_right (Nat.sub_le_sub_right hlast _)
    · exact Nat.mul_div_cancel' (Nat.dvd_of_mod_eq_zero hstep)
    · omega
    · exact (Option.some.inj h).symm
  · exact absurd h nofun

end CaseRun

/-- The code points that the mapping changes. -/
def letters : List Nat :=
  expansions.map (·.1) ++ caseRuns.flatMap fun run => run.offsets.map (run.first + ·)

/-- The code points that it changes them to, the first one of several. -/
def images : List Nat :=
  expansions.filterMap (·.2.head?) ++ caseRuns.flatMap fun run => run.offsets.map (run.image + ·)

/-- No letter is the image of a letter. A code that is no character stands for the code zero. -/
theorem letters_disjoint_images {code : Nat} (h : code ∈ 0 :: images) : code ∉ letters :=
  not_mem_of_land_eq_zero (by decide +kernel) h

theorem mem_of_image? {run : CaseRun} (hrun : run ∈ caseRuns) {code image : Nat}
    (h : run.image? code = some image) : code ∈ letters ∧ image ∈ images := by
  obtain ⟨offset, hoffset, rfl, rfl⟩ := CaseRun.exists_offset_of_image? h
  constructor
  · exact List.mem_append_right _ (List.mem_flatMap.2 ⟨run, hrun, List.mem_map_of_mem hoffset⟩)
  · exact List.mem_append_right _ (List.mem_flatMap.2 ⟨run, hrun, List.mem_map_of_mem hoffset⟩)

theorem upperCase_of_not_mem {c : Char} (h : c.toNat ∉ letters) : upperCase c = [c] := by
  have hexpands : expansions.lookup c.toNat = none := by
    refine List.lookup_eq_none_iff.2 fun entry hentry => ?_
    rw [bne_iff_ne]
    intro heq
    exact h (heq ▸ List.mem_append_left _ (List.mem_map_of_mem hentry))
  have hruns : caseRuns.findSome? (·.image? c.toNat) = none := by
    refine List.findSome?_eq_none_iff.2 fun run hrun => ?_
    cases himage : run.image? c.toNat with
    | none => rfl
    | some image => exact absurd (mem_of_image? hrun himage).1 h
  rw [upperCase, hexpands, hruns]

/-- An image is its own upper case. -/
theorem upperCase_of_mem_images {code : Nat} (h : code ∈ images) :
    upperCase (Char.ofNat code) = [Char.ofNat code] := by
  refine upperCase_of_not_mem (letters_disjoint_images ?_)
  by_cases hvalid : code.isValidChar
  · have hself : Char.ofNat code = Char.ofNatAux code hvalid := dif_pos hvalid
    rw [hself]
    exact List.mem_cons_of_mem _ h
  · have hzero : Char.ofNat code = '\x00' := dif_neg hvalid
    rw [hzero]
    exact List.mem_cons_self

/-- The lower-case `s` is not its own upper case. -/
theorem ne_of_upperCase_eq {c : Char} (h : upperCase c = [c]) : c ≠ 's' := by
  rintro rfl
  exact absurd h (by decide +kernel)

/-- An upper case is one of the expansions, or a single character that is its own upper case. -/
theorem upperCase_cases (c : Char) :
    (∃ entry ∈ expansions, upperCase c = entry.2.map Char.ofNat)
      ∨ ∃ image, upperCase c = [image] ∧ upperCase image = [image] := by
  cases hexpands : expansions.lookup c.toNat with
  | some codes =>
    obtain ⟨before, after, hsplit, -⟩ := List.lookup_eq_some_iff.1 hexpands
    refine Or.inl ⟨(c.toNat, codes), ?_, by rw [upperCase, hexpands]⟩
    rw [hsplit]
    exact List.mem_append_right before List.mem_cons_self
  | none =>
    cases hruns : caseRuns.findSome? (·.image? c.toNat) with
    | some code =>
      obtain ⟨run, hrun, himage⟩ := List.exists_of_findSome?_eq_some hruns
      exact Or.inr ⟨Char.ofNat code, by rw [upperCase, hexpands, hruns],
        upperCase_of_mem_images (mem_of_image? hrun himage).2⟩
    | none =>
      have hself : upperCase c = [c] := by rw [upperCase, hexpands, hruns]
      exact Or.inr ⟨c, hself, hself⟩

/-- **The mapping of Unicode is a mapping to upper case.** -/
theorem caseMapping_upperCase : CaseMapping upperCase where
  ne_nil := upperCase_ne_nil
  getLast? c := by
    have hexpansions : ∀ entry ∈ expansions, (entry.2.map Char.ofNat).getLast? ≠ some 's' := by
      decide +kernel
    rcases upperCase_cases c with ⟨entry, hentry, heq⟩ | ⟨image, heq, hself⟩
    · rw [heq]
      exact hexpansions entry hentry
    · rw [heq, List.getLast?_singleton, ne_eq, Option.some.injEq]
      exact ne_of_upperCase_eq hself
  head c first rest h := by
    rcases upperCase_cases c with ⟨entry, hentry, heq⟩ | ⟨image, heq, hself⟩
    · obtain ⟨code, codes, hcodes, rfl, -⟩ := List.map_eq_cons_iff.1 (heq.symm.trans h)
      refine upperCase_of_mem_images (List.mem_append_left _ (List.mem_filterMap.2 ?_))
      exact ⟨entry, hentry, by rw [hcodes, List.head?_cons]⟩
    · obtain ⟨rfl, -⟩ := List.cons.inj (heq.symm.trans h)
      exact hself

end DocModel.Text
