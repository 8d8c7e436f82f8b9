import Mathlib.Data.List.Basic
import Mathlib.Data.List.Chain
import SoaGateway.Foundation.Machine

/-! Token buckets that are credited periodically and closed when idle. An account opens
full, so the closing of an account must not give tokens away: it has to have been unseen
for as long as the credit of a whole account takes. -/

set_option autoImplicit false

namespace SoaGateway.Foundation.TokenBucket

/-- The parameters of a bucket. One credit covers at most `clamp` units of time, and an
account unseen for more than `idle` units is closed; both are long enough to fill it. -/
structure Policy where
  capacity : Nat
  rate : Nat
  clamp : Nat
  idle : Nat
  clamp_enough : capacity ≤ rate * clamp
  idle_enough : capacity ≤ rate * idle

structure Account where
  tokens : Nat
  lastRefill : Nat
  lastSeen : Nat
deriving DecidableEq, Repr

/-- What happens to one account. An account is opened by the demand that finds none. -/
inductive Event where
  | demand (opening seen : Nat)
  | refill (now : Nat)
  | sweep (now : Nat)
  | elsewhere

namespace Event

def readings : Event → List Nat
  | demand opening seen => [opening, seen]
  | refill now => [now]
  | sweep now => [now]
  | elsewhere => []

def refill? : Event → Option Nat
  | refill now => some now
  | _ => none

def within (first last : Nat) : Event → Bool
  | demand _ seen => first ≤ seen && seen ≤ last
  | _ => false

end Event

def Account.spend (account : Account) (now : Nat) : Bool × Account :=
  (0 < account.tokens, { account with tokens := account.tokens - 1, lastSeen := now })

namespace Policy

variable (policy : Policy)

def opened (now : Nat) : Account := ⟨policy.capacity, now, now⟩

def credit (account : Account) (now : Nat) : Account :=
  if now ≤ account.lastRefill then account
  else
    { account with
      tokens := min policy.capacity
        (account.tokens + policy.rate * min (now - account.lastRefill) policy.clamp)
      lastRefill := now }

def step (account : Option Account) : Event → Bool × Option Account
  | .demand opening seen =>
      let (granted, after) := (account.getD (policy.opened opening)).spend seen
      (granted, some after)
  | .refill now => (false, account.map fun held => policy.credit held now)
  | .sweep now =>
      (false, account.filter fun held => !decide (policy.idle < now - held.lastSeen))
  | .elsewhere => (false, account)

def machine : Machine (Option Account) Event Bool := ⟨policy.step⟩

end Policy

def grantedWithin (first last : Nat) (trace : List (Event × Bool)) : Nat :=
  trace.countP fun entry => entry.2 && entry.1.within first last

/-- The clamp is never felt: a credit that long fills the account anyway. -/
theorem credit_eq (policy : Policy) (account : Account) (now : Nat) :
    policy.credit account now =
      if now ≤ account.lastRefill then account
      else
        { account with
          tokens := min policy.capacity
            (account.tokens + policy.rate * (now - account.lastRefill))
          lastRefill := now } := by
  unfold Policy.credit
  split
  · rfl
  · cases Nat.le_total (now - account.lastRefill) policy.clamp with
    | inl short => rw [Nat.min_eq_left short]
    | inr long =>
        have filled := policy.clamp_enough
        have longer : policy.rate * policy.clamp ≤ policy.rate * (now - account.lastRefill) :=
          Nat.mul_le_mul_left _ long
        rw [Nat.min_eq_right long, Nat.min_eq_left (by omega), Nat.min_eq_left (by omega)]

section Credit

variable {policy : Policy} {account : Account} {earlier later : Nat}

/-- A credit on the way to another makes no difference: time is paid for once, and whatever a full
account loses at the first instant it would lose at the second. -/
theorem credit_credit (onward : earlier ≤ later) :
    policy.credit (policy.credit account earlier) later = policy.credit account later := by
  by_cases early : earlier ≤ account.lastRefill
  · rw [credit_eq policy account earlier, if_pos early]
  · have credited : policy.credit account earlier =
        { account with
          tokens := min policy.capacity
            (account.tokens + policy.rate * (earlier - account.lastRefill))
          lastRefill := earlier } := by
      rw [credit_eq, if_neg early]
    have late : ¬ later ≤ account.lastRefill := by omega
    rw [credited, credit_eq, credit_eq policy account later, if_neg late]
    by_cases again : later ≤ earlier
    · have same : later = earlier := Nat.le_antisymm again onward
      rw [if_pos again, same]
    · have whole : policy.rate * (later - account.lastRefill) =
          policy.rate * (earlier - account.lastRefill) + policy.rate * (later - earlier) := by
        rw [← Nat.mul_add]
        congr 1
        omega
      rw [if_neg again, whole]
      congr 1
      dsimp only
      omega

end Credit

section Conformance

variable {policy : Policy} {period first last : Nat}

/-- The account of a window: `count` demands have been granted between `first` and `last`,
and the clock has not passed `now`. What is left and what was granted is paid for by the
time credited since `first`, one period in advance. -/
structure Account.Balanced (policy : Policy) (period first last : Nat) (account : Account)
    (now refilled count : Nat) : Prop where
  full : account.tokens ≤ policy.capacity
  refilled_le : refilled ≤ account.lastRefill
  lastRefill_le : account.lastRefill ≤ now
  lastSeen_le : account.lastSeen ≤ now
  unseen_credited :
    min policy.capacity (policy.rate * (account.lastRefill - account.lastSeen)) ≤ account.tokens
  window_seen : count = 0 ∨ first ≤ account.lastSeen
  paid : count + account.tokens ≤
    policy.capacity + policy.rate * (account.lastRefill + period - first)
  bounded : count ≤ policy.capacity + policy.rate * (last - first + period)

/-- The same while there is no account: a full one could be opened at any time. -/
structure Closed (policy : Policy) (period first last now refilled count : Nat) : Prop where
  refilled_le : refilled ≤ now
  window_begun : count = 0 ∨ first ≤ now
  paid : count ≤ policy.rate * (now + period - first)
  bounded : count ≤ policy.capacity + policy.rate * (last - first + period)

def Ledger (policy : Policy) (period first last : Nat) :
    Option Account → Nat → Nat → Nat → Prop
  | some account, now, refilled, count =>
      account.Balanced policy period first last now refilled count
  | none, now, refilled, count => Closed policy period first last now refilled count

variable {account : Account} {now later refilled count : Nat}

theorem Closed.onward (closed : Closed policy period first last now refilled count)
    (passed : now ≤ later) : Closed policy period first last later refilled count where
  refilled_le := Nat.le_trans closed.refilled_le passed
  window_begun := closed.window_begun.imp_right fun begun => Nat.le_trans begun passed
  paid := Nat.le_trans closed.paid (Nat.mul_le_mul_left _ (by omega))
  bounded := closed.bounded

theorem Closed.credit (closed : Closed policy period first last now refilled count)
    (passed : now ≤ later) : Closed policy period first last later later count :=
  { closed.onward passed with refilled_le := Nat.le_refl _ }

theorem Closed.opened (closed : Closed policy period first last now refilled count)
    (onward : now ≤ later) :
    (policy.opened later).Balanced policy period first last later refilled count where
  full := Nat.le_refl _
  refilled_le := Nat.le_trans closed.refilled_le onward
  lastRefill_le := Nat.le_refl _
  lastSeen_le := Nat.le_refl _
  unseen_credited := Nat.min_le_left _ _
  window_seen := closed.window_begun.imp_right fun begun => Nat.le_trans begun onward
  paid := by
    have paid := (closed.onward onward).paid
    simp only [Policy.opened]
    omega
  bounded := closed.bounded

namespace Account.Balanced

theorem onward (balanced : account.Balanced policy period first last now refilled count)
    (passed : now ≤ later) : account.Balanced policy period first last later refilled count :=
  { balanced with
    lastRefill_le := Nat.le_trans balanced.lastRefill_le passed
    lastSeen_le := Nat.le_trans balanced.lastSeen_le passed }

/-- A demand is counted when it is granted inside the window. -/
theorem spend (balanced : account.Balanced policy period first last now refilled count)
    (passed : now ≤ later) {counted : Nat}
    (counts : counted = 0 ∨ counted = 1 ∧ 0 < account.tokens ∧ first ≤ later ∧ later ≤ last) :
    (account.spend later).2.Balanced policy period first last later refilled
      (count + counted) where
  full := Nat.le_trans (Nat.sub_le _ _) balanced.full
  refilled_le := balanced.refilled_le
  lastRefill_le := Nat.le_trans balanced.lastRefill_le passed
  lastSeen_le := Nat.le_refl _
  unseen_credited := by
    have seenAfter : account.lastRefill - later = 0 :=
      Nat.sub_eq_zero_of_le (Nat.le_trans balanced.lastRefill_le passed)
    simp [Account.spend, seenAfter]
  window_seen := by
    have seen := balanced.window_seen
    have before := balanced.lastSeen_le
    simp only [Account.spend]
    omega
  paid := by
    have paid := balanced.paid
    simp only [Account.spend]
    omega
  bounded := by
    obtain rfl | ⟨rfl, positive, inside, before⟩ := counts
    · exact balanced.bounded
    · have refilledBefore := balanced.lastRefill_le
      have kept : policy.rate * (account.lastRefill + period - first) ≤
          policy.rate * (last - first + period) := Nat.mul_le_mul_left _ (by omega)
      have paid := balanced.paid
      omega

/-- A credit is paid for by the time since the last one. When the window lies more than a
period ahead of that, nothing has been granted in it yet. -/
theorem credit (balanced : account.Balanced policy period first last now refilled count)
    (passed : now ≤ later) (spaced : later ≤ refilled + period) :
    (policy.credit account later).Balanced policy period first last later later count := by
  have refilledBefore := balanced.refilled_le
  have creditedBefore := balanced.lastRefill_le
  have seenBefore := balanced.lastSeen_le
  rw [credit_eq]
  split
  · next early => exact { balanced.onward passed with refilled_le := early }
  · next advanced =>
      refine
        { full := Nat.min_le_left _ _
          refilled_le := Nat.le_refl _
          lastRefill_le := Nat.le_refl _
          lastSeen_le := Nat.le_trans seenBefore passed
          unseen_credited := ?_
          window_seen := balanced.window_seen
          paid := ?_
          bounded := balanced.bounded }
      · have credited := balanced.unseen_credited
        have split : policy.rate * (later - account.lastSeen) ≤
            policy.rate * (account.lastRefill - account.lastSeen) +
              policy.rate * (later - account.lastRefill) := by
          rw [← Nat.mul_add]
          exact Nat.mul_le_mul_left _ (by omega)
        dsimp only
        omega
      · have full := balanced.full
        dsimp only
        by_cases reached : first ≤ account.lastRefill + period
        · have paid := balanced.paid
          have whole : policy.rate * (later + period - first) =
              policy.rate * (account.lastRefill + period - first) +
                policy.rate * (later - account.lastRefill) := by
            rw [← Nat.mul_add]
            congr 1
            omega
          omega
        · have none : count = 0 := by
            have seen := balanced.window_seen
            omega
          omega

/-- An account that may be closed would be full again, had it been credited. -/
theorem close (balanced : account.Balanced policy period first last now refilled count)
    (passed : now ≤ later) (idle : policy.idle < later - account.lastSeen) :
    Closed policy period first last later refilled count where
  refilled_le := Nat.le_trans balanced.refilled_le (Nat.le_trans balanced.lastRefill_le passed)
  window_begun := balanced.window_seen.imp_right fun seen =>
    Nat.le_trans seen (Nat.le_trans balanced.lastSeen_le passed)
  paid := by
    have creditedBefore := balanced.lastRefill_le
    have paid := balanced.paid
    have credited := balanced.unseen_credited
    have refills : policy.capacity ≤ policy.rate * (later - account.lastSeen) :=
      Nat.le_trans policy.idle_enough (Nat.mul_le_mul_left _ (Nat.le_of_lt idle))
    obtain none | seen := balanced.window_seen
    · omega
    · have kept : policy.rate * (account.lastRefill + period - first) ≤
          policy.rate * (later + period - first) := Nat.mul_le_mul_left _ (by omega)
      have traded : policy.rate * (later - account.lastSeen) +
            policy.rate * (account.lastRefill + period - first) ≤
          policy.rate * (later + period - first) +
            policy.rate * (account.lastRefill - account.lastSeen) := by
        rw [← Nat.mul_add, ← Nat.mul_add]
        exact Nat.mul_le_mul_left _ (by omega)
      omega
  bounded := balanced.bounded

end Account.Balanced

variable {state : Option Account}

theorem ledger_demand (ledger : Ledger policy period first last state now refilled count)
    {opening seen : Nat} (opens : now ≤ opening) (sees : opening ≤ seen) :
    Ledger policy period first last (policy.step state (.demand opening seen)).2 seen refilled
      (count + if (policy.step state (.demand opening seen)).1 &&
        (Event.demand opening seen).within first last then 1 else 0) := by
  have balanced : (state.getD (policy.opened opening)).Balanced policy period first last opening
      refilled count := by
    cases state with
    | none => exact Closed.opened ledger opens
    | some account => exact Account.Balanced.onward ledger opens
  refine balanced.spend sees ?_
  split
  · next counted =>
      simp only [Policy.step, Account.spend, Event.within, Bool.and_eq_true,
        decide_eq_true_eq] at counted
      exact .inr ⟨rfl, counted⟩
  · exact .inl rfl

theorem ledger_refill (ledger : Ledger policy period first last state now refilled count)
    (passed : now ≤ later) (spaced : later ≤ refilled + period) :
    Ledger policy period first last (policy.step state (.refill later)).2 later later count := by
  cases state with
  | none => exact Closed.credit ledger passed
  | some account => exact Account.Balanced.credit ledger passed spaced

theorem ledger_sweep (ledger : Ledger policy period first last state now refilled count)
    (passed : now ≤ later) :
    Ledger policy period first last (policy.step state (.sweep later)).2 later refilled
      count := by
  cases state with
  | none => exact Closed.onward ledger passed
  | some account =>
      by_cases idle : policy.idle < later - account.lastSeen
      · have closes : (policy.step (some account) (.sweep later)).2 = none := by
          simp only [Policy.step, idle, Option.filter_some, decide_true, Bool.not_true,
            Bool.false_eq_true, ↓reduceIte]
        rw [closes]
        exact Account.Balanced.close ledger passed idle
      · have stays : (policy.step (some account) (.sweep later)).2 = some account := by
          simp only [Policy.step, idle, Option.filter_some, decide_false, Bool.not_false,
            ↓reduceIte]
        rw [stays]
        exact Account.Balanced.onward ledger passed

theorem ledger_bounded (ledger : Ledger policy period first last state now refilled count) :
    count ≤ policy.capacity + policy.rate * (last - first + period) := by
  cases state with
  | none => exact Closed.bounded ledger
  | some account => exact Account.Balanced.bounded ledger

theorem grantedWithin_cons (event : Event) (granted : Bool) (trace : List (Event × Bool)) :
    grantedWithin first last ((event, granted) :: trace) =
      (if granted && event.within first last then 1 else 0) + grantedWithin first last trace := by
  simp only [grantedWithin, List.countP_cons]
  omega

theorem ordered_cons {rest : List Nat} (ordered : (now :: later :: rest).Pairwise (· ≤ ·)) :
    now ≤ later ∧ (later :: rest).Pairwise (· ≤ ·) := by
  obtain ⟨first, others⟩ := List.pairwise_cons.1 ordered
  exact ⟨first later List.mem_cons_self, others⟩

/-- The run rule of the ledger: the readings never go back, and the refills, starting
from the one the ledger knows, are at most a period apart. -/
theorem ledger_run (ledger : Ledger policy period first last state now refilled count)
    {events : List Event} (ordered : (now :: events.flatMap Event.readings).Pairwise (· ≤ ·))
    (spaced : (refilled :: events.filterMap Event.refill?).IsChain
      fun earlier later => later ≤ earlier + period) :
    count + grantedWithin first last (events.zip (policy.machine.outputs state events)) ≤
      policy.capacity + policy.rate * (last - first + period) := by
  induction events generalizing state now refilled count with
  | nil => exact ledger_bounded ledger
  | cons event rest ih =>
      rw [Machine.outputs_cons, List.zip_cons_cons, grantedWithin_cons, ← Nat.add_assoc]
      cases event with
      | demand opening seen =>
          obtain ⟨opens, ordered⟩ := ordered_cons ordered
          obtain ⟨sees, ordered⟩ := ordered_cons ordered
          exact ih (ledger_demand ledger opens sees) ordered spaced
      | refill later =>
          obtain ⟨passed, ordered⟩ := ordered_cons ordered
          obtain ⟨near, spaced⟩ := List.isChain_cons_cons.1 spaced
          exact ih (ledger_refill ledger passed near) ordered spaced
      | sweep later =>
          obtain ⟨passed, ordered⟩ := ordered_cons ordered
          exact ih (ledger_sweep ledger passed) ordered spaced
      | elsewhere => exact ih ledger ordered spaced

theorem closed_initially (policy : Policy) (period first last start : Nat) :
    Ledger policy period first last none start start 0 where
  refilled_le := Nat.le_refl _
  window_begun := .inl rfl
  paid := Nat.zero_le _
  bounded := Nat.zero_le _

/-- Between two instants, no more demands are granted than one capacity and the credit
for the time between them and one period. -/
theorem conformance {start : Nat} {events : List Event}
    (ordered : (start :: events.flatMap Event.readings).Pairwise (· ≤ ·))
    (spaced : (start :: events.filterMap Event.refill?).IsChain
      fun earlier later => later ≤ earlier + period) :
    grantedWithin first last (events.zip (policy.machine.outputs none events)) ≤
      policy.capacity + policy.rate * (last - first + period) := by
  have bounded := ledger_run (closed_initially policy period first last start) ordered spaced
  rwa [Nat.zero_add] at bounded

end Conformance

end SoaGateway.Foundation.TokenBucket
