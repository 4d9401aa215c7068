import DocModel.Proofs.Shape.RoundTrip
import Mathlib.Data.List.Nodup

set_option autoImplicit false

/-! # Writing and reading records

A record is written as an object in which every field that is not left out stands under its name, so
each of its readers finds its own field: names are distinct. What is read from any other content of
the record is put together from documents that stand in it. Both are followed from field to field,
along the readers of a record. -/

namespace DocModel.Shape

variable {α β : Type} {read : Reader α} {record : Record}

/-! ## Members with the names of fields -/

theorem mem_of_findMember? {name : String} {position : Nat} {members : Members}
    {found : Nat × Document} (h : findMember? name position members = some found) : (name, found.2) ∈ members := by
  induction members generalizing position with
  | nil => exact absurd h nofun
  | cons entry rest ih =>
    simp only [findMember?] at h
    split at h
    · rename_i hname
      obtain rfl := Option.some.inj h
      exact hname ▸ List.mem_cons_self
    · exact List.mem_cons_of_mem _ (ih h)

theorem mem_namedMembers {fields : List String} {values : List (Option Document)}
    {entry : String × Document} (h : entry ∈ namedMembers fields values) :
    entry.1 ∈ fields ∧ some entry.2 ∈ values := by
  obtain ⟨⟨name, value?⟩, hzip, hsome⟩ := List.mem_filterMap.1 h
  obtain ⟨value, rfl, rfl⟩ := Option.map_eq_some_iff.1 hsome
  exact ⟨List.of_mem_zip hzip |>.1, List.of_mem_zip hzip |>.2⟩

theorem keys_namedMembers_sublist (fields : List String) (values : List (Option Document)) :
    (Assoc.keys (namedMembers fields values)).Sublist fields := by
  induction fields generalizing values with
  | nil => exact .slnil
  | cons name fields ih =>
    cases values with
    | nil => exact List.nil_sublist _
    | cons value? values =>
      cases value? with
      | none => exact (ih values).cons _
      | some value => exact (ih values).cons_cons _

theorem findMember?_namedMembers_eq_none {fields : List String} {values : List (Option Document)}
    {name : String} (h : name ∉ fields) (position : Nat) :
    findMember? name position (namedMembers fields values) = none := by
  rw [Option.eq_none_iff_forall_ne_some]
  intro found hfound
  exact h (mem_namedMembers (mem_of_findMember? hfound)).1

/-- The member with the name of a field holds the value of the field. -/
theorem findMember?_namedMembers {fields : List String} {values : List (Option Document)}
    (hnodup : fields.Nodup) {index : Nat} {name : String} {value? : Option Document}
    (hname : fields[index]? = some name) (hvalue : values[index]? = some value?) (position : Nat) :
    (findMember? name position (namedMembers fields values)).map (·.2) = value? := by
  induction fields generalizing values index position with
  | nil => exact absurd hname nofun
  | cons first fields ih =>
    obtain ⟨hfirst, hrest⟩ := List.nodup_cons.1 hnodup
    cases values with
    | nil => exact absurd hvalue nofun
    | cons head? values =>
      cases index with
      | zero =>
        obtain rfl := Option.some.inj hname
        obtain rfl := Option.some.inj hvalue
        cases head? with
        | none => simpa [namedMembers] using findMember?_namedMembers_eq_none hfirst position
        | some head => simp [namedMembers, findMember?]
      | succ index =>
        have hlater := ih hrest hname hvalue
        have hne : first ≠ name := fun heq => hfirst (heq ▸ List.mem_of_getElem? hname)
        cases head? with
        | none => exact hlater position
        | some head =>
          have hskip : findMember? name position
                (namedMembers (first :: fields) (some head :: values))
              = findMember? name (position + 1) (namedMembers fields values) := by
            simp [namedMembers, findMember?, hne]
          rw [hskip]
          exact hlater (position + 1)

/-! ## Content of records -/

/-- The content consists of trees of JSON. -/
def Content.IsJson : Content → Prop
  | .members entries => (Document.object entries).IsJson
  | .items documents => (Document.array documents).IsJson

/-- What is found for a field stands in the content. -/
theorem Content.IsJson.of_find? {content : Content} (h : content.IsJson) {index : Nat}
    {found : Nat × Document} (hfound : record.find? index content = some found) :
    found.2.IsJson := by
  cases content with
  | members members =>
    exact (Document.isJson_object.1 h).2 _ (mem_of_findMember? hfound)
  | items items =>
    obtain ⟨item, hitem, rfl⟩ := Option.map_eq_some_iff.1 hfound
    exact Document.isJson_array.1 h item (List.mem_of_getElem? hitem)

theorem exists_content_of_read {fields : Fields α} {document : Document} {value : α}
    (hjson : document.IsJson) (hread : record.read fields document = .ok value) :
    ∃ content : Content, content.IsJson ∧ fields.run record content = .ok value := by
  cases document with
  | object members => exact ⟨.members members, hjson, mapError_eq_ok_iff.1 hread⟩
  | array items =>
    obtain ⟨found, hrun, hlength⟩ := bind_eq_ok_iff.1 hread
    refine ⟨.items items, hjson, (mapError_eq_ok_iff.1 hrun).trans ?_⟩
    split at hlength
    · exact absurd hlength nofun
    · rw [Except.ok.inj hlength]
  | _ => exact absurd hread nofun

/-! ## What is written is found -/

namespace Fields

variable {values : List (Option Document)}

theorem both_eq_ok_iff {first : Except Fault (α → β)} {second : Except Fault α} {result : β} :
    both first second = .ok result
      ↔ ∃ f value, first = .ok f ∧ second = .ok value ∧ f value = result := by
  cases first <;> cases second <;> simp [both]

/-- From an object with a value for every field the fields read `value`. -/
def Reads (fields : Fields α) (record : Record) (values : List (Option Document)) (value : α) :
    Prop :=
  values.length = record.fields.length →
    fields.run record (.members (namedMembers record.fields values)) = .ok value

theorem Reads.map {fields : Fields α} {f : α → β} {value : α}
    (h : fields.Reads record values value) : (f <$> fields).Reads record values (f value) := by
  intro hlength
  exact map_eq_ok_iff.2 ⟨value, h hlength, rfl⟩

theorem Reads.seq {first : Fields (α → β)} {second : Fields α} {f : α → β} {value : α}
    (hfirst : first.Reads record values f) (hsecond : second.Reads record values value) :
    (first <*> second).Reads record values (f value) := by
  intro hlength
  exact both_eq_ok_iff.2 ⟨f, value, hfirst hlength, hsecond hlength, rfl⟩

/-- A field finds its value, or is absent if that was left out. -/
theorem reads_field {index : Nat} {otherwise : Record → Content → Except Fault α} {value : α}
    {value? : Option Document} (hvalue : values[index]? = some value?)
    (hsome : ∀ document, value? = some document → read document = .ok value)
    (hnone : value? = none → ∀ members, otherwise record (.members members) = .ok value) :
    (field index read otherwise).Reads record values value := by
  intro hlength
  obtain ⟨hindex, -⟩ := List.getElem?_eq_some_iff.1 hvalue
  have hname : record.fields[index]? = some (record.fields.getD index "") := by
    rw [List.getD_eq_getElem?_getD, List.getElem?_eq_getElem (hlength ▸ hindex), Option.getD_some]
  have hfound := findMember?_namedMembers record.nodup hname hvalue 0
  simp only [field, Record.find?]
  cases hmember : findMember? (record.fields.getD index "") 0
      (namedMembers record.fields values) with
  | none =>
    rw [hmember] at hfound
    exact hnone hfound.symm _
  | some found =>
    rw [hmember] at hfound
    exact mapError_eq_ok_iff.2 (hsome found.2 hfound.symm)

theorem Reads.required {index : Nat} {document : Document} {value : α}
    (hvalue : values[index]? = some (some document)) (hread : read document = .ok value) :
    (Fields.required index read).Reads record values value :=
  reads_field hvalue (fun _ h => Option.some.inj h ▸ hread) nofun

theorem Reads.defaulted {index : Nat} {value? : Option α} {document? : Option Document}
    (hvalue : values[index]? = some document?)
    (hread : Shape.optional read (document?.getD .null) = .ok value?) :
    (Fields.defaulted index read).Reads record values value? := by
  refine reads_field hvalue ?_ ?_
  · rintro document rfl
    exact hread
  · rintro rfl members
    exact congrArg Except.ok (Except.ok.inj hread)

theorem Reads.nullable {index : Nat} {value? : Option α} {document : Document}
    (hvalue : values[index]? = some (some document))
    (hread : Shape.optional read document = .ok value?) :
    (Fields.nullable index read).Reads record values value? :=
  reads_field hvalue (fun _ h => Option.some.inj h ▸ hread) nofun

/-! ## What is read has been checked -/

/-- What the fields read from JSON satisfies `P`. -/
def Ensures (fields : Fields α) (P : α → Prop) : Prop :=
  ∀ record content value, content.IsJson → fields.run record content = .ok value → P value

variable {P : β → Prop} {Q : α → Prop}

theorem Ensures.map {fields : Fields α} {f : α → β} (h : fields.Ensures Q)
    (hP : ∀ value, Q value → P (f value)) : (f <$> fields).Ensures P := by
  intro record content value hjson hrun
  obtain ⟨found, hfound, rfl⟩ := map_eq_ok_iff.1 hrun
  exact hP found (h record content found hjson hfound)

theorem Ensures.seq {first : Fields (α → β)} {second : Fields α}
    (hfirst : first.Ensures fun f => ∀ value, Q value → P (f value)) (hsecond : second.Ensures Q) :
    (first <*> second).Ensures P := by
  intro record content value hjson hrun
  obtain ⟨f, found, hf, hfound, rfl⟩ := both_eq_ok_iff.1 hrun
  exact hfirst record content f hjson hf found (hsecond record content found hjson hfound)

theorem ensures_field {index : Nat} {otherwise : Record → Content → Except Fault α}
    (hread : ∀ document value, document.IsJson → read document = .ok value → Q value)
    (habsent : ∀ record content value, otherwise record content = .ok value → Q value) :
    (field index read otherwise).Ensures Q := by
  intro record content value hjson hrun
  simp only [field] at hrun
  split at hrun
  · rename_i position found hfound
    exact hread found value (hjson.of_find? hfound) (mapError_eq_ok_iff.1 hrun)
  · exact habsent record content value hrun

variable {write : α → Document} {Fits : α → Prop}

/-- An option that is left out fits, whatever fits otherwise. -/
theorem Ensures.defaulted (h : RoundTrips write read Fits)
    (hnull : ∀ value, Fits value → write value ≠ .null) (index : Nat) :
    (Fields.defaulted index read).Ensures fun value? => ∀ value ∈ value?, Fits value :=
  ensures_field (h.optional hnull).fits_read fun _ _ _ hrun => Except.ok.inj hrun ▸ nofun

theorem Ensures.nullable (h : RoundTrips write read Fits)
    (hnull : ∀ value, Fits value → write value ≠ .null) (index : Nat) :
    (Fields.nullable index read).Ensures fun value? => ∀ value ∈ value?, Fits value := by
  refine ensures_field (h.optional hnull).fits_read fun record content value? hrun => ?_
  cases content with
  | members _ => exact Except.ok.inj hrun ▸ nofun
  | items _ => exact absurd hrun nofun

theorem Ensures.required (h : RoundTrips write read Fits) (index : Nat) :
    (Fields.required index read).Ensures Fits :=
  ensures_field h.fits_read fun _ _ _ hrun => absurd hrun nofun

end Fields

/-! ## Records -/

/-- **A record makes a round trip if its fields read what is written for them.** -/
theorem RoundTrips.ofFields {fields : Fields α} {values : α → List (Option Document)}
    {Fits : α → Prop} (hlength : ∀ value, (values value).length = record.fields.length)
    (hjson : ∀ value, Fits value → ∀ document, some document ∈ values value → document.IsJson)
    (hreads : ∀ value, Fits value → fields.Reads record (values value) value)
    (hfits : fields.Ensures Fits) :
    RoundTrips (fun value => record.write (values value)) (record.read fields) Fits where
  isJson_write value h := by
    refine Document.isJson_object.2 ⟨?_, fun entry hentry => ?_⟩
    · exact record.nodup.sublist (keys_namedMembers_sublist _ _)
    · exact hjson value h entry.2 (mem_namedMembers hentry).2
  read_write value h := mapError_eq_ok_iff.2 (hreads value h (hlength value))
  fits_read document value hdocument hread := by
    obtain ⟨content, hcontent, hrun⟩ := exists_content_of_read hdocument hread
    exact hfits _ content value hcontent hrun

end DocModel.Shape
