import DocModel.Assoc
import Mathlib.Data.List.Induction

set_option autoImplicit false

/-! # Entries put one after the other

Whatever entries are put into an empty list, their keys stand in the order in which they first occur
and have the values that were put last. Both laws are by induction from the end of the list, as the
last entry is the one that is put last. -/

namespace DocModel

variable {κ α : Type}

/-- A name at the end is dropped if it is there already. -/
theorem eraseDups_concat [BEq κ] [LawfulBEq κ] (names : List κ) (name : κ) :
    (names ++ [name]).eraseDups
      = if name ∈ names.eraseDups then names.eraseDups else names.eraseDups ++ [name] := by
  rw [List.eraseDups_append]
  split <;> simp_all [List.removeAll, List.eraseDups_cons]

namespace Assoc

theorem keys_concat (entries : List (κ × α)) (entry : κ × α) :
    keys (entries ++ [entry]) = keys entries ++ [entry.1] := by
  simp [keys]

variable [BEq κ]

theorem ofEntries_concat (entries : List (κ × α)) (entry : κ × α) :
    ofEntries (entries ++ [entry]) = put entry.1 entry.2 (ofEntries entries) := by
  simp [ofEntries]

variable [LawfulBEq κ]

/-- The keys stand in the order in which they first occur. -/
theorem keys_ofEntries (entries : List (κ × α)) :
    keys (ofEntries entries) = (keys entries).eraseDups := by
  induction entries using List.reverseRecOn with
  | nil => rfl
  | append_singleton earlier entry ih =>
    rw [ofEntries_concat, keys_concat, eraseDups_concat, ← ih]
    split
    · rename_i hknown
      exact keys_put_of_mem hknown
    · rename_i hnew
      rw [put_of_not_mem hnew, keys_concat]

/-- Every key has the value that was put last. -/
theorem find?_ofEntries (key : κ) (entries : List (κ × α)) :
    find? key (ofEntries entries) = find? key entries.reverse := by
  induction entries using List.reverseRecOn with
  | nil => rfl
  | append_singleton earlier entry ih =>
    rw [ofEntries_concat, find?_put, ih, List.reverse_append, List.reverse_singleton,
      List.singleton_append, find?]

/-- Look-up among entries that are made of items. -/
theorem find?_map {β : Type} (f : β → κ) (g : β → α) (key : κ) (items : List β) :
    find? key (items.map fun item => (f item, g item))
      = (items.find? fun item => f item == key).map g := by
  induction items with
  | nil => rfl
  | cons item rest ih => by_cases hkey : f item = key <;> simp [find?, hkey, ih]

/-- Entries with distinct keys stay as they are. -/
theorem ofEntries_of_nodup {entries : List (κ × α)} (h : (keys entries).Nodup) :
    ofEntries entries = entries := by
  induction entries using List.reverseRecOn with
  | nil => rfl
  | append_singleton earlier entry ih =>
    rw [keys_concat, List.nodup_append] at h
    obtain ⟨hearlier, -, hdisjoint⟩ := h
    have hnew : entry.1 ∉ keys earlier := by
      intro hknown
      exact hdisjoint entry.1 hknown entry.1 List.mem_cons_self rfl
    rw [ofEntries_concat, ih hearlier, put_of_not_mem hnew]

end Assoc

end DocModel
