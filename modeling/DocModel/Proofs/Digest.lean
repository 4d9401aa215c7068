import DocModel.Digest

set_option autoImplicit false

/-! # Digests of names and of digests

Items of an array are named after the digest of its name, so an object that stands under several
arrays belongs to the class of a digest that was taken several times. The usual digest makes an id
of every name, and the id is a name again: no character is without an upper case, and a name is
never stripped of its only character. -/

namespace DocModel

namespace Digester

/-! ## Digests taken several times -/

/-- The digest of the digest of the name and so on, this often. -/
def repeated (digester : Digester) : Nat → Digester
  | 0 => verbatim
  | n + 1 => fun name => digester name >>= digester.repeated n

@[simp]
theorem repeated_one (digester : Digester) (name : String) :
    digester.repeated 1 name = digester name := by
  show digester name >>= verbatim = digester name
  cases digester name <;> rfl

theorem repeated_succ {digester : Digester} {name next : String} (h : digester name = .ok next)
    (n : Nat) : digester.repeated (n + 1) name = digester.repeated n next := by
  show digester name >>= digester.repeated n = digester.repeated n next
  rw [h]
  rfl

/-- The id is the digest of the name, or the digest of a digest of it. -/
def Derives (digester : Digester) (name id : String) : Prop :=
  ∃ n, digester.repeated (n + 1) name = .ok id

theorem Derives.once {digester : Digester} {name id : String} (h : digester name = .ok id) :
    digester.Derives name id := by
  refine ⟨0, ?_⟩
  rw [repeated_one]
  exact h

theorem Derives.again {digester : Digester} {name next id : String}
    (h : digester name = .ok next) (hnext : digester.Derives next id) :
    digester.Derives name id := by
  obtain ⟨n, hn⟩ := hnext
  refine ⟨n + 1, ?_⟩
  rw [repeated_succ h]
  exact hn

/-- Where every id is its own digest, only one id can be derived from a name. -/
theorem Derives.eq_of_derives {digester : Digester} {name id other : String}
    (h : digester.Derives name id)
    (hidempotent : ∀ name id, digester name = .ok id → digester id = .ok id)
    (hother : digester.Derives name other) : id = other := by
  obtain ⟨n, hn⟩ := h
  obtain ⟨m, hm⟩ := hother
  cases hfirst : digester name with
  | error e =>
    change digester name >>= digester.repeated n = .ok id at hn
    rw [hfirst] at hn
    exact absurd hn nofun
  | ok first =>
    have hfixed : ∀ k, digester.repeated k first = .ok first := by
      intro k
      induction k with
      | zero => rfl
      | succ k ih =>
        rw [repeated_succ (hidempotent name first hfirst)]
        exact ih
    rw [repeated_succ hfirst, hfixed] at hn hm
    exact Except.ok.inj (hn.symm.trans hm)

/-! ## Ids of names -/

/-- Every name has an id, and the id is a name. The empty text is no name. -/
def Names (digester : Digester) : Prop :=
  ∀ name, name ≠ "" → ∃ id, digester name = .ok id ∧ id ≠ ""

end Digester

theorem Text.upperCase_ne_nil (c : Char) : upperCase c ≠ [] := by
  unfold upperCase
  split
  · rename_i codes hcodes
    have hentries : ∀ entry ∈ expansions, entry.2 ≠ [] := by decide
    obtain ⟨before, after, hsplit, -⟩ := List.lookup_eq_some_iff.1 hcodes
    have hentry : (c.toNat, codes) ∈ expansions := by
      rw [hsplit]
      exact List.mem_append_right before List.mem_cons_self
    intro hnil
    exact hentries _ hentry (List.map_eq_nil_iff.1 hnil)
  · split <;> exact List.cons_ne_nil _ _

namespace Digester

theorem singular_ne_nil {name : List Char} (h : name ≠ []) : singular name ≠ [] := by
  unfold singular
  split
  · rename_i hplural
    -- only a name of more than one character loses one
    intro hnil
    have hlength : name.length - 1 = 0 := by
      rw [← List.length_dropLast, hnil]
      rfl
    omega
  · exact h

theorem capitalize_ne_nil {upper : Char → List Char} (hupper : ∀ c, upper c ≠ [])
    {name : List Char} (h : name ≠ []) : capitalize upper name ≠ [] := by
  cases name with
  | nil => exact absurd rfl h
  | cons first rest =>
    intro hnil
    exact hupper first (List.append_eq_nil_iff.1 hnil).1

theorem names_pluralStripWith {upper : Char → List Char} (hupper : ∀ c, upper c ≠ []) :
    (pluralStripWith upper).Names := by
  intro name hname
  have hchars : name.toList ≠ [] := by simpa using hname
  refine ⟨String.ofList (capitalize upper (singular name.toList)), ?_, ?_⟩
  · unfold pluralStripWith
    rw [if_neg (by simpa using hname)]
  · have hid := capitalize_ne_nil hupper (singular_ne_nil hchars)
    simpa using hid

/-- The usual digest makes names of names. -/
theorem names_pluralStrip : pluralStrip.Names := names_pluralStripWith Text.upperCase_ne_nil

@[simp]
theorem pluralStrip_empty : pluralStrip "" = .error .emptyId := rfl

end Digester

end DocModel
