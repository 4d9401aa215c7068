import DocModel.Proofs.Discovery.Depth
import DocModel.Proofs.Discovery.Failure

set_option autoImplicit false

/-! # Limits only cut

A call under a limit does exactly what it does without one, or it is cut short where the limit is
exceeded by one. So what succeeds under a limit succeeds in the same way under every larger one, and
a limit that is no less than the nesting of what is handed in might as well not be there. -/

namespace DocModel

variable {ρ α : Type}

/-! ## Limits that cover depths -/

namespace Policy

variable {digester : Digester} {max depth : Nat}

theorem covers_unlimited (p : Policy) (digester : Digester) (depth : Nat) :
    p.Covers ⟨digester, none⟩ depth := by
  intro n _ _ limit hlimit
  exact absurd hlimit nofun

theorem covers_of_le (p : Policy) (h : depth ≤ max) : p.Covers ⟨digester, some max⟩ depth := by
  intro n hn _ limit hlimit
  obtain rfl := Option.some.inj hlimit
  exact Nat.le_trans hn h

theorem covers_larger {larger : Nat} (h : max ≤ larger) :
    (⟨digester, some max⟩ : Policy).Covers ⟨digester, some larger⟩ depth := by
  intro n _ hadmits limit hlimit
  obtain rfl := Option.some.inj hlimit
  exact Nat.le_trans (hadmits max rfl) h

end Policy

/-! ## Digesters that do not speak of depths -/

/-- There is no name for which the digester has this error. -/
def Digester.NeverFailsWith (digester : Digester) (e : Error) : Prop :=
  ∀ name, digester name ≠ .error e

/-- Making names singular and capitalizing them never finds them too deep. -/
theorem Digester.neverFailsWith_pluralStripWith (upper : Char → List Char) (depth limit : Nat) :
    (pluralStripWith upper).NeverFailsWith (.tooDeep depth limit) := by
  intro name hname
  unfold pluralStripWith at hname
  split at hname
  · exact absurd (Except.error.inj hname) nofun
  · exact absurd hname nofun

/-! ## Calls under limits -/

/-- The limit of a call, which is handed containers of this nesting, decides only where it is cut
short. `call none` is the call without a limit. -/
structure OnlyCuts (digester : Digester) (nesting : Nat)
    (call : Option Nat → Except Error α × Context ρ) : Prop where
  /-- A call is the unlimited one, or it is cut short. -/
  unlimited_or_cut : ∀ max,
    call (some max) = call none ∨ (call (some max)).1 = .error (.tooDeep (max + 1) max)
  /-- What succeeds also does so under larger limits and without one. -/
  succeeds : ∀ (max : Nat) (result : α) (after : Context ρ), call (some max) = (.ok result, after) →
    call none = (.ok result, after)
      ∧ ∀ larger, max ≤ larger → call (some larger) = (.ok result, after)
  /-- A limit that is no less than the nesting changes nothing. -/
  eq_unlimited : ∀ max, nesting ≤ max → call (some max) = call none
  /-- With a digester that does not say so by itself, nothing is too deep for such a limit. -/
  not_exceeded : ∀ depth limit, digester.NeverFailsWith (.tooDeep depth limit) →
    ∀ max, nesting ≤ max → (call (some max)).1 ≠ .error (.tooDeep depth limit)

/-- A call that fails before it looks at anything has nothing to cut. -/
theorem OnlyCuts.of_eq_error {digester : Digester} {nesting : Nat} {e : Error} {c : Context ρ}
    {call : Option Nat → Except Error α × Context ρ} (h : ∀ max, call max = (.error e, c))
    (he : ∀ depth limit, e ≠ .tooDeep depth limit) : OnlyCuts digester nesting call where
  unlimited_or_cut max := by
    rw [h, h]
    exact Or.inl rfl
  succeeds max result after hcall := by
    rw [h] at hcall
    exact absurd (Prod.mk.inj hcall).1 nofun
  eq_unlimited max _ := by rw [h, h]
  not_exceeded depth limit _ max _ hcall := by
    rw [h] at hcall
    exact he depth limit (Except.error.inj hcall)

namespace Discovery

variable {digester : Digester} {task : Task} {registry : Registry ρ}

/-- Under a limit that covers its nesting a task does the same, if it was not cut short. -/
theorem Task.run_eq_of_covers {before after : Option Nat} (hready : task.Ready (.of registry))
    (hcovers : (Policy.mk digester before).Covers ⟨digester, after⟩ task.nesting)
    (hcut : ¬ Policy.Cut ⟨digester, before⟩
      ((task.step ⟨digester, before⟩).run (.of registry)).1) :
    (task.step ⟨digester, after⟩).run (.of registry)
      = (task.step ⟨digester, before⟩).run (.of registry) := by
  have hruns : Runs ⟨digester, before⟩ task (.of registry) _ _ := runs_run _ hready
  -- a call starts at depth zero, so its nesting is all that comes up
  have hstart : (Policy.mk digester before).Covers ⟨digester, after⟩
      ((Context.of registry).depth + task.nesting) := by
    rw [show (Context.of registry).depth = 0 from rfl, Nat.zero_add]
    exact hcovers
  exact (hruns.transfer (q := ⟨digester, after⟩) rfl (fun limit _ => Nat.zero_le limit) hstart
    hcut).run_eq

/-- Without a limit only the digester speaks of depths. -/
theorem Task.eq_error_tooDeep (hready : task.Ready (.of registry)) {depth limit : Nat}
    (h : ((task.step ⟨digester, none⟩).run (.of registry)).1 = .error (.tooDeep depth limit)) :
    ∃ name, digester name = .error (.tooDeep depth limit) := by
  have hruns : Runs ⟨digester, none⟩ task (.of registry) _ _ := runs_run _ hready
  have hadmits : Policy.Admits ⟨digester, none⟩ (Context.of registry).depth :=
    fun limit _ => Nat.zero_le limit
  cases hruns.failure hadmits _ h with
  | undigested _ hdigest => exact ⟨_, hdigest⟩
  | blank _ _ he => rcases he with he | he <;> exact absurd he nofun
  | tooDeep hlimit => exact absurd hlimit nofun

theorem Task.onlyCuts (hready : task.Ready (.of registry)) :
    OnlyCuts digester task.nesting
      fun max => (task.step ⟨digester, max⟩).run (.of registry) := by
  have hwide : ∀ max, task.nesting ≤ max → (task.step ⟨digester, some max⟩).run (.of registry)
      = (task.step ⟨digester, none⟩).run (.of registry) := by
    intro max hnesting
    refine task.run_eq_of_covers hready (Policy.covers_of_le _ hnesting) ?_
    rintro ⟨limit, hlimit, -⟩
    exact absurd hlimit nofun
  refine ⟨fun max => ?_, fun max result after hcall => ?_, hwide, ?_⟩
  · by_cases hcut : Policy.Cut ⟨digester, some max⟩
        ((task.step ⟨digester, some max⟩).run (.of registry)).1
    · obtain ⟨limit, hlimit, hcut⟩ := hcut
      obtain rfl := Option.some.inj hlimit
      exact Or.inr hcut
    · exact Or.inl (task.run_eq_of_covers hready (Policy.covers_unlimited _ digester _) hcut).symm
  · have hcut : ¬ Policy.Cut ⟨digester, some max⟩
        ((task.step ⟨digester, some max⟩).run (.of registry)).1 := by
      rw [hcall]
      exact Policy.not_cut_ok
    refine ⟨?_, fun larger hlarger => ?_⟩
    · exact (task.run_eq_of_covers hready (Policy.covers_unlimited _ digester _) hcut).trans hcall
    · exact (task.run_eq_of_covers hready (Policy.covers_larger hlarger) hcut).trans hcall
  · intro depth limit hdigester max hnesting hcall
    rw [hwide max hnesting] at hcall
    obtain ⟨name, hname⟩ := task.eq_error_tooDeep hready hcall
    exact hdigester name hname

end Discovery

/-- **The limit of nesting only cuts.** This holds of every call of discovery on its own, whatever
the registry and the digester. The object that is handed to a class does not count, and a value that
is typed does. -/
theorem depth_limit_only_cuts (digester : Digester) (registry : Registry ρ) :
    (∀ (id : String) (object : Members), OnlyCuts digester (Document.nestingMembers object)
      fun max => (Discovery.discoverClass ⟨digester, max⟩ id object).run (.of registry))
    ∧ (∀ (id name : String) (value : Document) (required : Bool), OnlyCuts digester value.nesting
      fun max => (Discovery.createField ⟨digester, max⟩ id name value required).run (.of registry))
    ∧ ∀ (name : String) (value : Document), OnlyCuts digester value.nesting
      fun max => (Discovery.typeOf ⟨digester, max⟩ name value).run (.of registry) := by
  refine ⟨fun id object => ?_, fun id name value required => ?_, fun name value => ?_⟩
  · exact (Discovery.Task.entering id object).onlyCuts trivial
  · by_cases hready : (Discovery.Task.adding id name value required).Ready (.of registry)
    · exact Discovery.Task.onlyCuts hready
    · -- the value is not looked at, so there is nothing to cut
      obtain ⟨e, he, hrun⟩ := Discovery.exists_run_createField_eq_error hready
      refine OnlyCuts.of_eq_error (fun max => hrun ⟨digester, max⟩) ?_
      rcases he with rfl | rfl <;> exact nofun
  · exact (Discovery.Task.typing name value).onlyCuts trivial

/-- An object in an array, which are two containers. -/
def twiceNested : Members := [("as", .array [.object [("x", .null)]])]

/-- The limit two is enough for them, and so is every larger one. The limit one is not. -/
theorem depth_limit_only_cuts_twiceNested :
    ((Discovery.discoverClass ⟨.pluralStrip, some 1⟩ "A" twiceNested).run
        (.of (.empty : Registry Rat))).1 = .error (.tooDeep 2 1)
      ∧ (∀ max depth limit, 2 ≤ max →
        ((Discovery.discoverClass ⟨.pluralStrip, some max⟩ "A" twiceNested).run
          (.of (.empty : Registry Rat))).1 ≠ .error (.tooDeep depth limit))
      ∧ ∃ after : Context Rat,
        (Discovery.discoverClass ⟨.pluralStrip, some 2⟩ "A" twiceNested).run (.of .empty)
          = (.ok "A", after)
        ∧ (Discovery.discoverClass ⟨.pluralStrip, some 3⟩ "A" twiceNested).run (.of .empty)
          = (.ok "A", after)
        ∧ (Discovery.discoverClass ⟨.pluralStrip, none⟩ "A" twiceNested).run (.of .empty)
          = (.ok "A", after) := by
  have hcuts := (depth_limit_only_cuts .pluralStrip (.empty : Registry Rat)).1 "A" twiceNested
  refine ⟨?_, fun max depth limit hmax => ?_, ?_⟩
  · rcases hcuts.unlimited_or_cut 1 with heq | hcut
    · -- without a limit the inner object is handed to a class as well
      exact absurd (congrArg (·.2.encounters.length) heq) (by decide)
    · exact hcut
  · have hdigester := Digester.neverFailsWith_pluralStripWith Text.upperCase depth limit
    exact hcuts.not_exceeded depth limit hdigester max hmax
  · obtain ⟨after, hrun⟩ : ∃ after : Context Rat, (Discovery.discoverClass
        ⟨.pluralStrip, some 2⟩ "A" twiceNested).run (.of .empty) = (.ok "A", after) := ⟨_, rfl⟩
    obtain ⟨hunlimited, hlarger⟩ := hcuts.succeeds 2 "A" after hrun
    exact ⟨after, hrun, hlarger 3 (by decide), hunlimited⟩

end DocModel
