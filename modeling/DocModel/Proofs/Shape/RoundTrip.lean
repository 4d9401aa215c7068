import DocModel.Proofs.Shape.Finite
import DocModel.Shape.Reader

set_option autoImplicit false

/-! # Writing and reading

A writer and a reader belong together if a predicate on values lies between them: values that fit
are written as trees of JSON that are read as the same values, and what is read from a tree of JSON
fits. So whatever notation a value was read from, it is read again from what is written for it.

Counts fit into 64 bits and doubles that fit are finite; an integer that stands for a double is
rounded to one that fits. -/

namespace DocModel

/-! ## Trees of JSON -/

namespace Document

@[simp]
theorem isJson_null : IsJson .null := .null

@[simp]
theorem isJson_bool (value : Bool) : (Document.bool value).IsJson := .bool value

@[simp]
theorem isJson_string (value : String) : (Document.string value).IsJson := .string value

@[simp]
theorem isJson_int {value : Int} :
    (Document.number (.int value)).IsJson
      ↔ -0x8000000000000000 ≤ value ∧ value < 0x10000000000000000 :=
  ⟨fun h => by cases h; assumption, .int⟩

@[simp]
theorem isJson_float {value : Float} :
    (Document.number (.float value)).IsJson ↔ value.isFinite = true :=
  ⟨fun h => by cases h; assumption, .float⟩

@[simp]
theorem isJson_array {items : List Document} :
    (Document.array items).IsJson ↔ ∀ item ∈ items, item.IsJson :=
  ⟨fun h => by cases h; assumption, .array⟩

@[simp]
theorem isJson_object {members : Members} : (Document.object members).IsJson ↔
    (Assoc.keys members).Nodup ∧ ∀ entry ∈ members, entry.2.IsJson :=
  ⟨fun h => by cases h; exact ⟨‹_›, ‹_›⟩, fun h => .object h.1 h.2⟩

theorem isJson_ofNat {value : Nat} (h : value < 0x10000000000000000) : (ofNat value).IsJson :=
  .int (by omega)

@[simp]
theorem isJson_ofFloat (value : Float) : (ofFloat value).IsJson := by
  unfold ofFloat
  split
  · exact .float ‹_›
  · exact .null

end Document

namespace Shape

/-! ## Outcomes -/

section Outcomes

variable {ε ε' α β : Type} {outcome : Except ε α}

theorem map_eq_ok_iff {f : α → β} {result : β} :
    outcome.map f = .ok result ↔ ∃ value, outcome = .ok value ∧ f value = result := by
  cases outcome <;> simp [Except.map]

theorem mapError_eq_ok_iff {f : ε → ε'} {value : α} :
    outcome.mapError f = .ok value ↔ outcome = .ok value := by
  cases outcome with
  | ok found => exact ⟨fun h => congrArg _ (Except.ok.inj h), fun h => congrArg _ (Except.ok.inj h)⟩
  | error e => exact iff_of_false nofun nofun

theorem bind_eq_ok_iff {next : α → Except ε β} {result : β} :
    outcome.bind next = .ok result ↔ ∃ value, outcome = .ok value ∧ next value = .ok result := by
  cases outcome <;> simp [Except.bind]

end Outcomes

/-! ## Round trips -/

/-- Values that fit are written as JSON and read as they were, and what is read from JSON fits. -/
structure RoundTrips {α : Type} (write : α → Document) (read : Reader α) (Fits : α → Prop) :
    Prop where
  isJson_write : ∀ value, Fits value → (write value).IsJson
  read_write : ∀ value, Fits value → read (write value) = .ok value
  fits_read : ∀ document value, document.IsJson → read document = .ok value → Fits value

variable {α : Type} {write : α → Document} {read : Reader α} {Fits : α → Prop}

namespace RoundTrips

/-- Options that fit are written as JSON, where they are written at all. -/
theorem isJson_of_map_write (h : RoundTrips write read Fits) {value? : Option α}
    (hfits : ∀ value ∈ value?, Fits value) (document : Document)
    (hwrite : some document = value?.map write) : document.IsJson := by
  obtain ⟨value, hvalue, rfl⟩ := Option.map_eq_some_iff.1 hwrite.symm
  exact h.isJson_write value (hfits value hvalue)

/-! ## Scalars -/

protected theorem string : RoundTrips .string Shape.string fun _ => True where
  isJson_write value _ := .string value
  read_write _ _ := rfl
  fits_read _ _ _ _ := trivial

protected theorem bool : RoundTrips .bool Shape.bool fun _ => True where
  isJson_write value _ := .bool value
  read_write _ _ := rfl
  fits_read _ _ _ _ := trivial

protected theorem document :
    RoundTrips (fun document => document) Shape.document Document.IsJson where
  isJson_write _ h := h
  read_write _ _ := rfl
  fits_read _ _ hjson hread := Except.ok.inj hread ▸ hjson

protected theorem members :
    RoundTrips .object Shape.members fun members => (Document.object members).IsJson where
  isJson_write _ h := h
  read_write _ _ := rfl
  fits_read document value hjson hread := by
    cases document with
    | object members => exact Except.ok.inj hread ▸ hjson
    | _ => exact absurd hread nofun

theorem count_ofNat (value : Nat) : Shape.count (.ofNat value) = .ok value := by
  have hnonneg : ¬ (value : Int) < 0 := by omega
  simp only [Document.ofNat, Document.ofInt, Shape.count, hnonneg, ↓reduceIte, Int.toNat_natCast]

protected theorem count : RoundTrips .ofNat Shape.count fun value => value < 0x10000000000000000 where
  isJson_write _ h := Document.isJson_ofNat h
  read_write value _ := count_ofNat value
  fits_read document value hjson hread := by
    match document with
    | .number (.int found) =>
      have hrange := Document.isJson_int.1 hjson
      simp only [Shape.count] at hread
      split at hread
      · exact absurd hread nofun
      · rw [← Except.ok.inj hread]
        omega
    | .number (.float _) | .null | .bool _ | .string _ | .array _ | .object _ =>
      exact absurd hread nofun

/-- A finite double stays a double. -/
theorem read_ofFloat {value : Float} (h : value.isFinite = true) :
    Document.ofFloat value = .number (.float value) := by
  rw [Document.ofFloat, if_pos h]

protected theorem float : RoundTrips .ofFloat Shape.float fun value => value.isFinite = true where
  isJson_write value _ := Document.isJson_ofFloat value
  read_write value h := by rw [read_ofFloat h, Shape.float]
  fits_read document value hjson hread := by
    match document with
    | .number (.float found) => exact Except.ok.inj hread ▸ Document.isJson_float.1 hjson
    | .number (.int found) =>
      have hrange := Document.isJson_int.1 hjson
      rw [← Except.ok.inj hread]
      exact Double.isFinite_ofInt hrange.1 hrange.2
    | .null | .bool _ | .string _ | .array _ | .object _ => exact absurd hread nofun

theorem ofFloat_ne_null {value : Float} (h : value.isFinite = true) :
    Document.ofFloat value ≠ .null := by
  rw [read_ofFloat h]
  exact nofun

/-! ## Lists and options -/

theorem items_map_write (h : RoundTrips write read Fits) {values : List α}
    (hfits : ∀ value ∈ values, Fits value) : items read (values.map write) = .ok values := by
  induction values with
  | nil => rfl
  | cons value values ih =>
    obtain ⟨hvalue, hvalues⟩ := List.forall_mem_cons.1 hfits
    simp only [List.map_cons, items, h.read_write value hvalue, ih hvalues]
    rfl

theorem fits_items (h : RoundTrips write read Fits) {documents : List Document} {values : List α}
    (hjson : ∀ document ∈ documents, document.IsJson) (hread : items read documents = .ok values) :
    ∀ value ∈ values, Fits value := by
  induction documents generalizing values with
  | nil =>
    obtain rfl := Except.ok.inj hread
    exact nofun
  | cons document documents ih =>
    obtain ⟨hdocument, hdocuments⟩ := List.forall_mem_cons.1 hjson
    obtain ⟨head, hhead, hread⟩ := bind_eq_ok_iff.1 hread
    obtain ⟨rest, hrest, hread⟩ := bind_eq_ok_iff.1 hread
    obtain rfl := Except.ok.inj hread
    exact List.forall_mem_cons.2 ⟨h.fits_read _ _ hdocument hhead, ih hdocuments hrest⟩

protected theorem list (h : RoundTrips write read Fits) :
    RoundTrips (fun values => .array (values.map write)) (Shape.list read)
      fun values => ∀ value ∈ values, Fits value where
  isJson_write values hfits := by
    simpa using fun value hvalue => h.isJson_write value (hfits value hvalue)
  read_write values hfits := h.items_map_write hfits
  fits_read document values hjson hread := by
    cases document with
    | array documents => exact h.fits_items (Document.isJson_array.1 hjson) hread
    | _ => exact absurd hread nofun

/-- An option is written as null if there is nothing; what is there must not be written as null. -/
protected theorem optional (h : RoundTrips write read Fits)
    (hnull : ∀ value, Fits value → write value ≠ .null) :
    RoundTrips (fun value? => (value?.map write).getD .null) (Shape.optional read)
      fun value? => ∀ value ∈ value?, Fits value where
  isJson_write value? hfits := by
    cases value? with
    | none => exact .null
    | some value => exact h.isJson_write value (hfits value rfl)
  read_write value? hfits := by
    cases value? with
    | none => rfl
    | some value =>
      have hread := h.read_write value (hfits value rfl)
      have hne := hnull value (hfits value rfl)
      simp only [Option.map_some, Option.getD_some]
      unfold Shape.optional
      split
      · exact absurd ‹_› hne
      · rw [hread]
        rfl
  fits_read document value? hjson hread := by
    unfold Shape.optional at hread
    split at hread
    · obtain rfl := Except.ok.inj hread
      exact nofun
    · obtain ⟨value, hvalue, rfl⟩ := map_eq_ok_iff.1 hread
      intro found hfound
      exact Option.mem_some.1 hfound ▸ h.fits_read document value hjson hvalue

protected theorem optionalFloat :
    RoundTrips (fun value? => (value?.map .ofFloat).getD .null) (Shape.optional Shape.float)
      fun value? => ∀ value ∈ value?, value.isFinite = true :=
  RoundTrips.float.optional fun _ => ofFloat_ne_null

end RoundTrips

/-! ## Reading and writing again -/

/-- Write what is read. -/
def rewrite (write : α → Document) (read : Reader α) : Reader Document :=
  fun document => (read document).map write

/-- Nothing is lost: values that fit are written as JSON and read as they were, what is read from
JSON in whatever notation is read again from what is written for it, and so a tree that was written
once is written as the same tree again. -/
structure Lossless (write : α → Document) (read : Reader α) (Fits : α → Prop) : Prop where
  isJson_write : ∀ value, Fits value → (write value).IsJson
  read_write : ∀ value, Fits value → read (write value) = .ok value
  reread : ∀ document value, document.IsJson → read document = .ok value →
    read (write value) = .ok value
  rewrite_rewrite : ∀ document tree, document.IsJson → rewrite write read document = .ok tree →
    rewrite write read tree = .ok tree

theorem RoundTrips.lossless (h : RoundTrips write read Fits) : Lossless write read Fits where
  isJson_write := h.isJson_write
  read_write := h.read_write
  reread document value hjson hread :=
    h.read_write value (h.fits_read document value hjson hread)
  rewrite_rewrite document tree hjson hrewrite := by
    obtain ⟨value, hread, rfl⟩ := map_eq_ok_iff.1 hrewrite
    have hfits := h.fits_read document value hjson hread
    exact map_eq_ok_iff.2 ⟨value, h.read_write value hfits, rfl⟩

end Shape

end DocModel
