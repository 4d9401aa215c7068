set_option autoImplicit false

/-! # Association lists in order of first occurrence

Entries stay in the order in which their keys first occur, and a key that is put again keeps its
position and takes the new value. Members of a document and entries of a mapping are kept this
way, so their order is the order in which they were written. -/

namespace DocModel.Assoc

variable {κ α : Type}

/-- Replace the value of `key` where it stands, or append it. -/
def put [BEq κ] (key : κ) (value : α) : List (κ × α) → List (κ × α)
  | [] => [(key, value)]
  | entry :: rest =>
    if entry.1 == key then (entry.1, value) :: rest else entry :: put key value rest

/-- The entries put one after the other: first positions, last values. -/
def ofEntries [BEq κ] (entries : List (κ × α)) : List (κ × α) :=
  entries.foldl (fun done entry => put entry.1 entry.2 done) []

/-- The value of the first entry with this key. -/
def find? [BEq κ] (key : κ) : List (κ × α) → Option α
  | [] => none
  | entry :: rest => if entry.1 == key then some entry.2 else find? key rest

/-- The keys, in order. -/
def keys (entries : List (κ × α)) : List κ := entries.map (·.1)

/-! ## Keys and values after a put -/

@[simp]
theorem keys_nil : keys ([] : List (κ × α)) = [] := rfl

@[simp]
theorem keys_cons (entry : κ × α) (rest : List (κ × α)) :
    keys (entry :: rest) = entry.1 :: keys rest := rfl

variable [BEq κ] [LawfulBEq κ]

theorem keys_put_of_mem {key : κ} {value : α} {entries : List (κ × α)} (h : key ∈ keys entries) :
    keys (put key value entries) = keys entries := by
  induction entries with
  | nil => simp at h
  | cons entry rest ih =>
    by_cases hk : entry.1 = key
    · simp [put, hk]
    · have hrest : key ∈ keys rest := by
        rw [keys_cons, List.mem_cons] at h
        exact h.resolve_left fun heq => hk heq.symm
      simp [put, hk, ih hrest]

theorem put_of_not_mem {key : κ} {value : α} {entries : List (κ × α)} (h : key ∉ keys entries) :
    put key value entries = entries ++ [(key, value)] := by
  induction entries with
  | nil => rfl
  | cons entry rest ih =>
    rw [keys_cons, List.mem_cons, not_or] at h
    have hk : entry.1 ≠ key := fun heq => h.1 heq.symm
    simp [put, hk, ih h.2]

/-- A key that is put has the new value, and the others keep theirs. -/
theorem find?_put (key other : κ) (value : α) (entries : List (κ × α)) :
    find? other (put key value entries) =
      if key == other then some value else find? other entries := by
  induction entries with
  | nil => simp [put, find?]
  | cons entry rest ih =>
    by_cases hk : entry.1 = key
    · subst hk
      by_cases ho : entry.1 = other <;> simp [put, find?, ho]
    · rw [put, if_neg (by simpa using hk), find?, find?, ih]
      by_cases ho : entry.1 = other
      · have hne : key ≠ other := fun heq => hk (ho.trans heq.symm)
        simp [ho, hne]
      · simp [ho]

theorem nodup_keys_put {key : κ} {value : α} {entries : List (κ × α)}
    (h : (keys entries).Nodup) : (keys (put key value entries)).Nodup := by
  by_cases hk : key ∈ keys entries
  · rw [keys_put_of_mem hk]
    exact h
  · rw [put_of_not_mem hk, keys, List.map_append]
    refine List.nodup_append.2 ⟨h, by simp, ?_⟩
    intro a ha b hb heq
    simp only [List.map_cons, List.map_nil, List.mem_singleton] at hb
    subst heq hb
    exact hk ha

end DocModel.Assoc
