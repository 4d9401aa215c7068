import DocModel.Model.Basic
import Std.Data.TreeMap.Lemmas

set_option autoImplicit false

/-! # The registry of classes

The classes of one run in the order of their creation, with an index from ids to positions. The
index holds exactly the positions of the stored ids, so ids are distinct. Classes are added,
replaced in place and updated in place, never removed. -/

namespace DocModel

/-- Classes in order of creation; `index` finds them by id. -/
structure Registry (ρ : Type) where
  classes : List (Model.Class ρ)
  index : Std.TreeMap String Nat
  /-- The index holds the positions of the ids and nothing else. -/
  index_iff : ∀ (id : String) (i : Nat),
    index[id]? = some i ↔ (classes.map (·.id))[i]? = some id

namespace Registry

variable {ρ : Type}

/-! ## Look-up -/

def position? (r : Registry ρ) (id : String) : Option Nat := r.index[id]?

def contains (r : Registry ρ) (id : String) : Bool := (r.position? id).isSome

def get? (r : Registry ρ) (id : String) : Option (Model.Class ρ) :=
  (r.position? id).bind (r.classes[·]?)

def size (r : Registry ρ) : Nat := r.classes.length

def isEmpty (r : Registry ρ) : Bool := r.classes.isEmpty

/-- The ids in order of creation. -/
def ids (r : Registry ρ) : List String := r.classes.map (·.id)

/-! ## Positions and ids -/

theorem position?_eq_some_iff {r : Registry ρ} {id : String} {i : Nat} :
    r.position? id = some i ↔ r.ids[i]? = some id := r.index_iff id i

/-- No two classes have the same id. -/
theorem nodup_ids (r : Registry ρ) : r.ids.Nodup := by
  rw [List.Nodup, List.pairwise_iff_getElem]
  intro i j hi hj hij heq
  have h1 := position?_eq_some_iff.2 (List.getElem?_eq_getElem hi)
  have h2 := position?_eq_some_iff.2 (List.getElem?_eq_getElem hj)
  rw [heq, h2] at h1
  exact absurd (Option.some.inj h1) (Nat.ne_of_gt hij)

theorem contains_iff_mem_ids {r : Registry ρ} {id : String} :
    r.contains id = true ↔ id ∈ r.ids := by
  rw [contains, Option.isSome_iff_exists, List.mem_iff_getElem?]
  exact exists_congr fun _ => position?_eq_some_iff

theorem position?_eq_none_iff {r : Registry ρ} {id : String} :
    r.position? id = none ↔ id ∉ r.ids := by
  rw [← contains_iff_mem_ids, contains]
  simp

/-- Look-up finds exactly the stored class of an id. -/
theorem get?_eq_some_iff {r : Registry ρ} {id : String} {cls : Model.Class ρ} :
    r.get? id = some cls ↔ cls ∈ r.classes ∧ cls.id = id := by
  rw [get?, Option.bind_eq_some_iff]
  constructor
  · rintro ⟨i, hi, hcls⟩
    have hid := position?_eq_some_iff.1 hi
    rw [ids, List.getElem?_map, hcls] at hid
    exact ⟨List.mem_of_getElem? hcls, Option.some.inj hid⟩
  · rintro ⟨hmem, rfl⟩
    obtain ⟨i, hi⟩ := List.mem_iff_getElem?.1 hmem
    refine ⟨i, position?_eq_some_iff.2 ?_, hi⟩
    rw [ids, List.getElem?_map, hi]
    rfl

/-! ## Construction -/

def empty : Registry ρ where
  classes := []
  index := ∅
  index_iff := by simp

instance : Inhabited (Registry ρ) := ⟨empty⟩

/-- Replacing a class by one of the same id keeps the list of ids. -/
theorem map_id_set {classes : List (Model.Class ρ)} {i : Nat} {cls : Model.Class ρ}
    (h : (classes.map (·.id))[i]? = some cls.id) :
    (classes.set i cls).map (·.id) = classes.map (·.id) := by
  rw [List.map_set]
  apply List.ext_getElem?
  intro j
  by_cases hij : i = j
  · subst hij
    obtain ⟨hlt, heq⟩ := List.getElem?_eq_some_iff.mp h
    rw [List.getElem?_set_self hlt, h]
  · rw [List.getElem?_set_ne hij]

/-- Replace the class of this id in place. -/
def replaceAt (r : Registry ρ) (i : Nat) (cls : Model.Class ρ)
    (h : r.position? cls.id = some i) : Registry ρ where
  classes := r.classes.set i cls
  index := r.index
  index_iff := by
    intro id j
    rw [map_id_set ((r.index_iff cls.id i).mp h)]
    exact r.index_iff id j

/-- Append a class of a new id. -/
def append (r : Registry ρ) (cls : Model.Class ρ) (h : r.position? cls.id = none) :
    Registry ρ where
  classes := r.classes ++ [cls]
  index := r.index.insert cls.id r.classes.length
  index_iff := by
    have fresh : ∀ j : Nat, (r.classes.map (·.id))[j]? ≠ some cls.id := by
      intro j hj
      have hpos := (r.index_iff cls.id j).mpr hj
      rw [position?, hpos] at h
      simp at h
    intro id j
    rw [Std.TreeMap.getElem?_insert, List.map_append, List.map_singleton]
    by_cases hid : cls.id = id
    · subst hid
      simp only [Std.compare_self, ↓reduceIte, Option.some.injEq]
      constructor
      · rintro rfl
        simp
      · intro hj
        rw [List.getElem?_append] at hj
        split at hj
        · exact absurd hj (fresh j)
        · rename_i hlt
          obtain ⟨hj1, -⟩ := List.getElem?_eq_some_iff.mp hj
          simp at hlt hj1
          omega
    · have hcmp : compare cls.id id ≠ .eq := fun hc => hid (Std.LawfulEqCmp.eq_of_compare hc)
      rw [if_neg hcmp, r.index_iff]
      constructor
      · intro hj
        obtain ⟨hlt, -⟩ := List.getElem?_eq_some_iff.mp hj
        rw [List.getElem?_append_left hlt]
        exact hj
      · intro hj
        rw [List.getElem?_append] at hj
        split at hj
        · exact hj
        · obtain ⟨hj1, hj2⟩ := List.getElem?_eq_some_iff.mp hj
          simp at hj1
          simp [hj1] at hj2
          exact absurd hj2 hid

/-- Insert a class; a class of the same id is replaced in place. -/
def put (r : Registry ρ) (cls : Model.Class ρ) : Registry ρ :=
  match h : r.position? cls.id with
  | some i => r.replaceAt i cls h
  | none => r.append cls h

/-- A class of a known id takes the place of the old one, and a class of a new id is appended. -/
theorem classes_put (r : Registry ρ) (cls : Model.Class ρ) :
    (r.put cls).classes =
      match r.position? cls.id with
      | some i => r.classes.set i cls
      | none => r.classes ++ [cls] := by
  unfold put
  split <;> rename_i h <;> simp [h, replaceAt, append]

/-- The registry of classes put one after the other. -/
def ofClasses (classes : List (Model.Class ρ)) : Registry ρ := classes.foldl put empty

/-! ## Updates in place -/

/-- Update every class by a function that keeps ids. -/
def map (r : Registry ρ) (f : Model.Class ρ → Model.Class ρ) (keeps : ∀ cls, (f cls).id = cls.id) :
    Registry ρ where
  classes := r.classes.map f
  index := r.index
  index_iff := by
    intro id i
    have hids : (r.classes.map f).map (·.id) = r.classes.map (·.id) := by
      simp [keeps]
    rw [hids]
    exact r.index_iff id i

/-- Update the class of this id, if there is one, by a function that keeps ids. -/
def modify (r : Registry ρ) (id : String) (f : Model.Class ρ → Model.Class ρ)
    (keeps : ∀ cls, (f cls).id = cls.id) : Registry ρ :=
  r.map (fun cls => if cls.id = id then f cls else cls) (by
    intro cls
    split
    · exact keeps cls
    · rfl)

@[simp]
theorem classes_map (r : Registry ρ) (f : Model.Class ρ → Model.Class ρ)
    (keeps : ∀ cls, (f cls).id = cls.id) : (r.map f keeps).classes = r.classes.map f := rfl

@[simp]
theorem ids_map (r : Registry ρ) (f : Model.Class ρ → Model.Class ρ)
    (keeps : ∀ cls, (f cls).id = cls.id) : (r.map f keeps).ids = r.ids := by
  simp [ids, keeps]

@[simp]
theorem ids_modify (r : Registry ρ) (id : String) (f : Model.Class ρ → Model.Class ρ)
    (keeps : ∀ cls, (f cls).id = cls.id) : (r.modify id f keeps).ids = r.ids := ids_map ..

/-- Attach the coverage of every field of every class. -/
def computeCoverage [Ratio ρ] (r : Registry ρ) : Registry ρ :=
  r.map Model.Class.computeCoverage fun _ => rfl

/-- The same classes put into an empty registry. -/
def reseed (r : Registry ρ) : Registry ρ := ofClasses r.classes

end Registry

end DocModel
