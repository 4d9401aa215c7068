import DocModel.Proofs.Assoc
import DocModel.Proofs.Registry.Lookup

set_option autoImplicit false

/-! # The registry as a map

A registry is a list of classes with an index beside it, and it must never show. Whatever is asked of
it, in whatever order, it answers like the association list of its classes under their ids: a class
of a new id is appended, one of a known id takes the place of the old one, and an update in place is
a put of what was found. Each of these is shown for one request, and a sequence of requests follows
by induction. -/

namespace DocModel

variable {ρ : Type}

/-! ## Positions in association lists -/

/-- A key that is put again takes the new value at its position. -/
theorem Assoc.put_of_getElem? {κ α : Type} [BEq κ] [LawfulBEq κ] {key : κ} (value : α)
    {entries : List (κ × α)} {i : Nat} (hkeys : (keys entries).Nodup)
    (h : (keys entries)[i]? = some key) : put key value entries = entries.set i (key, value) := by
  induction entries generalizing i with
  | nil => simp at h
  | cons entry rest ih =>
    rw [keys_cons, List.nodup_cons] at hkeys
    cases i with
    | zero =>
      obtain rfl : entry.1 = key := by simpa using h
      simp [put]
    | succ i =>
      rw [keys_cons, List.getElem?_cons_succ] at h
      -- the key is one of the rest, so it is not the first one
      have hne : entry.1 ≠ key := by
        rintro rfl
        exact hkeys.1 (List.mem_of_getElem? h)
      simp [put, hne, ih hkeys.2 h]

namespace Registry

/-! ## Requests -/

/-- What can be asked of a registry, or done to it. -/
inductive Request (ρ : Type) where
  | put (cls : Model.Class ρ)
  /-- Start anew from these classes. -/
  | restart (classes : List (Model.Class ρ))
  | get (id : String)
  | contains (id : String)
  | size
  | isEmpty
  | values
  /-- Get the class of this id and update it in place, keeping its id. -/
  | update (id : String) (f : Model.Class ρ → Model.Class ρ) (keeps : ∀ cls, (f cls).id = cls.id)

/-- What a request is answered with. -/
inductive Answer (ρ : Type) where
  | done
  | found (cls : Option (Model.Class ρ))
  | flag (value : Bool)
  | count (value : Nat)
  | all (classes : List (Model.Class ρ))

/-- Classes under their ids. -/
abbrev Entries (ρ : Type) := List (String × Model.Class ρ)

/-- The answer of a registry, and the registry after it. -/
def Request.onRegistry (r : Registry ρ) : Request ρ → Answer ρ × Registry ρ
  | .put cls => (.done, r.put cls)
  | .restart classes => (.done, ofClasses classes)
  | .get id => (.found (r.get? id), r)
  | .contains id => (.flag (r.contains id), r)
  | .size => (.count r.size, r)
  | .isEmpty => (.flag r.isEmpty, r)
  | .values => (.all r.classes, r)
  | .update id f keeps => (.found (r.get? id), r.modify id f keeps)

/-- The answer of an association list, and the list after it. -/
def Request.onEntries (entries : Entries ρ) : Request ρ → Answer ρ × Entries ρ
  | .put cls => (.done, Assoc.put cls.id cls entries)
  | .restart classes => (.done, Assoc.ofEntries (classes.map fun cls => (cls.id, cls)))
  | .get id => (.found (Assoc.find? id entries), entries)
  | .contains id => (.flag (Assoc.find? id entries).isSome, entries)
  | .size => (.count entries.length, entries)
  | .isEmpty => (.flag entries.isEmpty, entries)
  | .values => (.all (entries.map (·.2)), entries)
  | .update id f _ =>
    match Assoc.find? id entries with
    | some cls => (.found (some cls), Assoc.put id (f cls) entries)
    | none => (.found none, entries)

/-- The answers to requests that are made one after the other, and the state after the last one. -/
def answerAll {σ : Type} (answer : σ → Request ρ → Answer ρ × σ) :
    List (Request ρ) → σ → List (Answer ρ) × σ
  | [], state => ([], state)
  | request :: rest, state =>
    let (first, state) := answer state request
    let (others, state) := answerAll answer rest state
    (first :: others, state)

/-! ## One request -/

/-- The association list that a registry stands for. -/
def entries (r : Registry ρ) : Entries ρ := r.classes.map fun cls => (cls.id, cls)

theorem keys_entries (r : Registry ρ) : Assoc.keys r.entries = r.ids := by
  simp [entries, Assoc.keys, ids]

theorem find?_entries (r : Registry ρ) (id : String) : Assoc.find? id r.entries = r.get? id := by
  rw [entries, Assoc.find?_map, Option.map_id']
  apply Option.ext
  intro cls
  rw [get?_eq_some_iff]
  constructor
  · intro hfound
    exact ⟨List.mem_of_find?_eq_some hfound, by simpa using List.find?_some hfound⟩
  · rintro ⟨hcls, rfl⟩
    obtain ⟨other, hother⟩ :
        ∃ other, r.classes.find? (fun item => item.id == cls.id) = some other := by
      rw [← Option.isSome_iff_exists, List.find?_isSome]
      exact ⟨cls, hcls, by simp⟩
    -- ids are distinct, so the first class of the id is the only one
    have hid : other.id = cls.id := by simpa using List.find?_some hother
    have hsame := get?_of_mem (List.mem_of_find?_eq_some hother)
    rw [hid, get?_of_mem hcls] at hsame
    rw [hother, Option.some.inj hsame]

theorem entries_put (r : Registry ρ) (cls : Model.Class ρ) :
    (r.put cls).entries = Assoc.put cls.id cls r.entries := by
  rw [entries, classes_put]
  cases hposition : r.position? cls.id with
  | none =>
    have hnew : cls.id ∉ Assoc.keys r.entries := by
      rw [keys_entries]
      exact position?_eq_none_iff.1 hposition
    rw [Assoc.put_of_not_mem hnew, entries]
    simp
  | some i =>
    have hkey : (Assoc.keys r.entries)[i]? = some cls.id := by
      rw [keys_entries]
      exact position?_eq_some_iff.1 hposition
    have hkeys : (Assoc.keys r.entries).Nodup := by
      rw [keys_entries]
      exact r.nodup_ids
    rw [Assoc.put_of_getElem? cls hkeys hkey, entries]
    simp [List.map_set]

theorem entries_ofClasses (classes : List (Model.Class ρ)) :
    (ofClasses classes).entries = Assoc.ofEntries (classes.map fun cls => (cls.id, cls)) := by
  rw [ofClasses, Assoc.ofEntries, List.foldl_map]
  exact (List.foldl_hom entries fun r cls => (entries_put r cls).symm).symm

/-- An update in place is a put of the class that was found, once it is changed. -/
theorem classes_modify_of_get? {r : Registry ρ} {id : String} {cls : Model.Class ρ}
    (h : r.get? id = some cls) {f : Model.Class ρ → Model.Class ρ}
    (keeps : ∀ cls, (f cls).id = cls.id) :
    (r.modify id f keeps).classes = (r.put (f cls)).classes := by
  obtain ⟨i, hposition, hcls⟩ := Option.bind_eq_some_iff.1 h
  have hid : (f cls).id = id := (keeps cls).trans (id_of_get? h)
  rw [classes_put, hid, hposition]
  apply List.ext_getElem?
  intro j
  rw [modify, classes_map, List.getElem?_map, List.getElem?_set]
  by_cases hij : i = j
  · subst hij
    obtain ⟨hlt, -⟩ := List.getElem?_eq_some_iff.1 hcls
    rw [hcls, Option.map_some, if_pos (id_of_get? h), if_pos rfl, if_pos hlt]
  · cases hother : r.classes[j]? with
    | none => simp [hij]
    | some other =>
      -- the index has only one position for the id
      have hne : other.id ≠ id := by
        intro heq
        have hj : r.position? id = some j := by
          rw [position?_eq_some_iff, ids, List.getElem?_map, hother]
          exact congrArg some heq
        exact hij (Option.some.inj (hposition.symm.trans hj))
      simp [hij, hne]

/-- What is not found is not updated. -/
theorem modify_of_get?_eq_none {r : Registry ρ} {id : String} (h : r.get? id = none)
    {f : Model.Class ρ → Model.Class ρ} (keeps : ∀ cls, (f cls).id = cls.id) :
    r.modify id f keeps = r := by
  unfold modify
  refine map_eq_self fun cls hcls => if_neg ?_
  rintro rfl
  exact absurd ((get?_of_mem hcls).symm.trans h) nofun

/-- **A registry answers like the association list of its classes**, and it stands for the list that
is left. -/
theorem onEntries_entries (r : Registry ρ) (request : Request ρ) :
    request.onEntries r.entries = (request.onRegistry r).map id entries := by
  cases request with
  | put cls => simp [Request.onEntries, Request.onRegistry, entries_put]
  | restart classes => simp [Request.onEntries, Request.onRegistry, entries_ofClasses]
  | get id => simp [Request.onEntries, Request.onRegistry, find?_entries]
  | contains id =>
    simp [Request.onEntries, Request.onRegistry, find?_entries, contains_eq_isSome_get?]
  | size => simp [Request.onEntries, Request.onRegistry, size, entries]
  | isEmpty => simp [Request.onEntries, Request.onRegistry, isEmpty, entries]
  | values => simp [Request.onEntries, Request.onRegistry, entries, Function.comp_def]
  | update id f keeps =>
    simp only [Request.onEntries, Request.onRegistry, find?_entries]
    cases hcls : r.get? id with
    | none => simp [modify_of_get?_eq_none hcls]
    | some cls =>
      have hid : (f cls).id = id := (keeps cls).trans (id_of_get? hcls)
      have hput : (r.modify id f keeps).entries = Assoc.put id (f cls) r.entries := by
        rw [entries, classes_modify_of_get? hcls keeps, ← hid]
        exact entries_put r (f cls)
      simp [hput]

/-! ## Sequences of requests -/

theorem answerAll_onEntries (requests : List (Request ρ)) (r : Registry ρ) :
    answerAll Request.onEntries requests r.entries
      = (answerAll Request.onRegistry requests r).map id entries := by
  induction requests generalizing r with
  | nil => rfl
  | cons request rest ih =>
    simp only [answerAll, onEntries_entries, Prod.map_fst, Prod.map_snd, id_eq, ih, Prod.map_apply]

/-- Registries with the same classes give the same answers to all requests. -/
theorem answerAll_congr {r s : Registry ρ} (h : r.classes = s.classes)
    (requests : List (Request ρ)) :
    (answerAll Request.onRegistry requests r).1 = (answerAll Request.onRegistry requests s).1 := by
  have hr := answerAll_onEntries requests r
  have hs := answerAll_onEntries requests s
  have hentries : r.entries = s.entries := by
    rw [entries, entries, h]
  rw [hentries, hs] at hr
  exact (congrArg Prod.fst hr).symm

theorem position?_congr {r s : Registry ρ} (h : r.classes = s.classes) (id : String) :
    r.position? id = s.position? id := by
  apply Option.ext
  intro i
  rw [position?_eq_some_iff, position?_eq_some_iff, ids, ids, h]

/-- Where ids are repeated the first one decides about the position and the last one about the
class. -/
theorem ids_ofClasses (classes : List (Model.Class ρ)) :
    (ofClasses classes).ids = (classes.map (·.id)).eraseDups := by
  rw [← keys_entries, entries_ofClasses, Assoc.keys_ofEntries]
  simp [Assoc.keys, Function.comp_def]

theorem get?_ofClasses (classes : List (Model.Class ρ)) (id : String) :
    (ofClasses classes).get? id = classes.reverse.find? fun cls => cls.id = id := by
  rw [← find?_entries, entries_ofClasses, Assoc.find?_ofEntries, ← List.map_reverse,
    Assoc.find?_map, Option.map_id']
  rfl

/-- **A registry is an insertion-ordered map.** To every sequence of requests it gives the answers of
an association list, and it stands for the list that is left, of which its index holds precisely the
positions of the keys. Of the classes it is started from it keeps the last one of every id, in the
order in which the ids first occur. A registry that is started from the classes of another one cannot
be told from it. -/
theorem insertion_ordered_map :
    (∀ requests : List (Request ρ),
      (answerAll Request.onRegistry requests empty).1 = (answerAll Request.onEntries requests []).1
      ∧ (answerAll Request.onRegistry requests empty).2.entries
        = (answerAll Request.onEntries requests []).2
      ∧ ∀ (id : String) (i : Nat),
        (answerAll Request.onRegistry requests empty).2.index[id]? = some i
          ↔ (Assoc.keys (answerAll Request.onEntries requests []).2)[i]? = some id)
    ∧ (∀ classes : List (Model.Class ρ),
      (ofClasses classes).ids = (classes.map (·.id)).eraseDups
      ∧ ∀ id, (ofClasses classes).get? id = classes.reverse.find? fun cls => cls.id = id)
    ∧ ∀ r : Registry ρ,
      (∀ requests : List (Request ρ), (answerAll Request.onRegistry requests r.reseed).1
        = (answerAll Request.onRegistry requests r).1)
      ∧ r.reseed.classes = r.classes
      ∧ ∀ id : String, r.reseed.index[id]? = r.index[id]? := by
  refine ⟨fun requests => ?_, fun classes => ⟨ids_ofClasses classes, get?_ofClasses classes⟩, ?_⟩
  · have hanswers := answerAll_onEntries requests (empty : Registry ρ)
    change answerAll Request.onEntries requests [] = _ at hanswers
    rw [hanswers]
    refine ⟨rfl, rfl, fun id i => ?_⟩
    rw [Prod.map_snd, keys_entries]
    exact position?_eq_some_iff
  · intro r
    exact ⟨answerAll_congr (classes_reseed r), classes_reseed r, position?_congr (classes_reseed r)⟩

/-- The second class of an id that was put before stands where the first one stood. -/
example : (ofClasses [.new "A", .new "B", (Model.Class.new "A").recordOccurrence] :
    Registry Rat).classes.map (fun cls => (cls.id, cls.occurrences)) = [("A", 2), ("B", 1)] := by
  decide +kernel

end Registry

end DocModel
