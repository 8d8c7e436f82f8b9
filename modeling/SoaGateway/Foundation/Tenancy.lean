import Mathlib.Data.List.Nodup
import Mathlib.Logic.Function.Basic
import Mathlib.Tactic.Common

/-! Who held the slots of a table. Every tenant gets the next number when it enters a free
slot, and its number is listed with the reason when it leaves. -/

set_option autoImplicit false

namespace SoaGateway.Foundation

structure Tenancy (Slot Tenant Reason : Type) where
  tenants : List Tenant
  holder : Slot → Option Nat
  departed : List (Nat × Reason)

namespace Tenancy

variable {Slot Tenant Reason : Type} {tenancy : Tenancy Slot Tenant Reason}
  {slot : Slot} {number : Nat}

def vacant : Tenancy Slot Tenant Reason :=
  { tenants := [], holder := fun _ => none, departed := [] }

/-- Every tenant holds one slot until it departs, once. -/
structure Sound (tenancy : Tenancy Slot Tenant Reason) : Prop where
  held_lt : ∀ slot number, tenancy.holder slot = some number → number < tenancy.tenants.length
  apart : ∀ left right number, tenancy.holder left = some number →
    tenancy.holder right = some number → left = right
  staying : ∀ slot number, tenancy.holder slot = some number →
    number ∉ tenancy.departed.map Prod.fst
  departed_lt : ∀ number ∈ tenancy.departed.map Prod.fst, number < tenancy.tenants.length
  once : (tenancy.departed.map Prod.fst).Nodup
  complete : ∀ number, number < tenancy.tenants.length →
    number ∈ tenancy.departed.map Prod.fst ∨ ∃ slot, tenancy.holder slot = some number

theorem vacant_sound : (vacant : Tenancy Slot Tenant Reason).Sound where
  held_lt _ _ held := by cases held
  apart _ _ _ held := by cases held
  staying _ _ held := by cases held
  departed_lt _ member := absurd member List.not_mem_nil
  once := List.nodup_nil
  complete _ inside := absurd inside (Nat.not_lt_zero _)

variable [DecidableEq Slot]

def enter (tenancy : Tenancy Slot Tenant Reason) (slot : Slot) (tenant : Tenant) :
    Tenancy Slot Tenant Reason where
  tenants := tenancy.tenants ++ [tenant]
  holder := Function.update tenancy.holder slot (some tenancy.tenants.length)
  departed := tenancy.departed

def leave (tenancy : Tenancy Slot Tenant Reason) (slot : Slot) (reason : Reason) :
    Tenancy Slot Tenant Reason :=
  match tenancy.holder slot with
  | none => tenancy
  | some number =>
      { tenancy with
        holder := Function.update tenancy.holder slot none
        departed := tenancy.departed ++ [(number, reason)] }

theorem enter_tenants (slot : Slot) (tenant : Tenant) :
    (tenancy.enter slot tenant).tenants = tenancy.tenants ++ [tenant] := rfl

theorem holder_update_cases {value : Option Nat} {other : Slot}
    (held : Function.update tenancy.holder slot value other = some number) :
    other = slot ∧ value = some number ∨ other ≠ slot ∧ tenancy.holder other = some number := by
  by_cases same : other = slot
  · subst same
    rw [Function.update_self] at held
    exact .inl ⟨rfl, held⟩
  · rw [Function.update_of_ne same] at held
    exact .inr ⟨same, held⟩

theorem Sound.enter (sound : tenancy.Sound) (free : tenancy.holder slot = none)
    (tenant : Tenant) : (tenancy.enter slot tenant).Sound where
  held_lt other number held := by
    rw [Tenancy.enter, List.length_append, List.length_singleton]
    obtain ⟨-, same⟩ | ⟨-, earlier⟩ := holder_update_cases held
    · cases same
      exact Nat.lt_succ_self _
    · exact Nat.lt_succ_of_lt (sound.held_lt other number earlier)
  apart left right number onLeft onRight := by
    obtain ⟨rfl, new⟩ | ⟨-, old⟩ := holder_update_cases onLeft
    · obtain ⟨rfl, -⟩ | ⟨-, earlier⟩ := holder_update_cases onRight
      · rfl
      · cases new
        exact absurd (sound.held_lt right _ earlier) (Nat.lt_irrefl _)
    · obtain ⟨rfl, new⟩ | ⟨-, earlier⟩ := holder_update_cases onRight
      · cases new
        exact absurd (sound.held_lt left _ old) (Nat.lt_irrefl _)
      · exact sound.apart left right number old earlier
  staying other number held := by
    obtain ⟨-, new⟩ | ⟨-, earlier⟩ := holder_update_cases held
    · cases new
      exact fun gone => absurd (sound.departed_lt _ gone) (Nat.lt_irrefl _)
    · exact sound.staying other number earlier
  departed_lt number gone := by
    rw [Tenancy.enter, List.length_append, List.length_singleton]
    exact Nat.lt_succ_of_lt (sound.departed_lt number gone)
  once := sound.once
  complete number inside := by
    rw [Tenancy.enter, List.length_append, List.length_singleton] at inside
    cases Nat.lt_succ_iff_lt_or_eq.1 inside with
    | inl earlier =>
        refine (sound.complete number earlier).imp_right fun ⟨other, held⟩ => ⟨other, ?_⟩
        have elsewhere : other ≠ slot := by
          rintro rfl
          cases free.symm.trans held
        exact (Function.update_of_ne elsewhere _ _).trans held
    | inr new =>
        subst new
        exact .inr ⟨slot, Function.update_self _ _ _⟩

theorem leave_of_holder (held : tenancy.holder slot = some number) (reason : Reason) :
    tenancy.leave slot reason =
      { tenancy with
        holder := Function.update tenancy.holder slot none
        departed := tenancy.departed ++ [(number, reason)] } := by
  rw [leave, held]

theorem leave_tenants (slot : Slot) (reason : Reason) :
    (tenancy.leave slot reason).tenants = tenancy.tenants := by
  unfold leave
  split <;> rfl

theorem leave_holder (held : tenancy.holder slot = some number) (reason : Reason) :
    (tenancy.leave slot reason).holder = Function.update tenancy.holder slot none := by
  rw [leave_of_holder held]

theorem leave_departed (held : tenancy.holder slot = some number) (reason : Reason) :
    (tenancy.leave slot reason).departed = tenancy.departed ++ [(number, reason)] := by
  rw [leave_of_holder held]

theorem Sound.leave (sound : tenancy.Sound) (held : tenancy.holder slot = some number)
    (reason : Reason) : (tenancy.leave slot reason).Sound := by
  rw [leave_of_holder held]
  have gone : (tenancy.departed ++ [(number, reason)]).map Prod.fst =
      tenancy.departed.map Prod.fst ++ [number] := by simp
  have elsewhere : ∀ other found, Function.update tenancy.holder slot none other = some found →
      other ≠ slot ∧ tenancy.holder other = some found := by
    intro other found kept
    obtain ⟨-, impossible⟩ | kept := holder_update_cases kept
    · cases impossible
    · exact kept
  refine ⟨fun other found kept => ?_, fun left right found onLeft onRight => ?_,
    fun other found kept => ?_, fun found member => ?_, ?_, fun found inside => ?_⟩
  · exact sound.held_lt other found (elsewhere other found kept).2
  · exact sound.apart left right found (elsewhere left found onLeft).2
      (elsewhere right found onRight).2
  · obtain ⟨other_slot, stays⟩ := elsewhere other found kept
    rw [gone, List.mem_append, List.mem_singleton]
    rintro (earlier | same)
    · exact sound.staying other found stays earlier
    · subst same
      exact other_slot (sound.apart other slot found stays held)
  · rw [gone, List.mem_append, List.mem_singleton] at member
    cases member with
    | inl earlier => exact sound.departed_lt found earlier
    | inr same =>
        subst same
        exact sound.held_lt slot found held
  · rw [gone]
    refine List.nodup_append.2 ⟨sound.once, List.nodup_singleton _, ?_⟩
    intro left earlier right single same
    rw [List.mem_singleton.1 single] at same
    exact sound.staying slot number held (same ▸ earlier)
  · rw [gone, List.mem_append, List.mem_singleton]
    cases sound.complete found inside with
    | inl earlier => exact .inl (.inl earlier)
    | inr stays =>
        obtain ⟨other, kept⟩ := stays
        by_cases same : other = slot
        · subst same
          exact .inl (.inr (Option.some.inj (kept.symm.trans held)))
        · exact .inr ⟨other, (Function.update_of_ne same _ _).trans kept⟩

end Tenancy

end SoaGateway.Foundation
