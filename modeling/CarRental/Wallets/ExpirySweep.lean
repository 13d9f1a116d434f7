import CarRental.Wallets.Account
import Mathlib.Data.List.Permutation

/-!
# Expiry sweeps between other calls

`cleanExpiredPromotionalCredits` is also called from plain reads, outside a transaction
and without the row lock: three reads (the expired entries, the wallet, what was expired
before) and two writes (the entry, the balances), with calls of other operations in
between.  `creditWallet` and `debitWallet` hold the row lock until they commit, and both
writes of a sweep wait for it, so each of them is one step.

The sweep writes the balances it computed from what it read.  A call that commits between
its read of the wallet and that write is lost (`sweep_loses_update`).

## Strategy

A sweep that writes the balances takes its place in the serial order at that write, one
that finds nothing to take at the read that tells it so.  Until then the serial wallet
lacks the entries of the sweeps that are between their two writes (`Mirrors`).  A call or
a sweep whose key is used already does nothing wherever it stands, so it waits for the end.
-/

namespace CarRental

open Runs Totals WalletAccount

/-! ## Sweeps in flight -/

/-- What a sweep did last, with what it read. -/
inductive SweepPhase where
  | entriesRead
  | walletRead (available promo : ℤ)
  | decided (available promo alreadyExpired : ℤ)
  | created (available promo alreadyExpired : ℤ)
deriving DecidableEq

structure Sweep where
  now : ℤ
  /-- The sum of the expired entries it read. -/
  expired : ℤ
  phase : SweepPhase
deriving DecidableEq

structure SweepState where
  wallet : WalletAccount
  sweeps : List Sweep
deriving DecidableEq

inductive SweepAction where
  | call (call : WalletCall)
  /-- A sweep starts with its read of the expired entries. -/
  | start (now : ℤ)
  /-- A sweep makes its next read or write. -/
  | advance (sweep : Sweep)
deriving DecidableEq

def actualExpiredAmount (expired alreadyExpired promo : ℤ) : ℤ :=
  min (expired - alreadyExpired) promo

namespace SweepState

/-- The next read or write of a sweep, with the other sweeps that are in flight. -/
def advance (wallet : WalletAccount) (sweep : Sweep) (others : List Sweep) : SweepState :=
  match sweep.phase with
  | .entriesRead =>
    if wallet.promoBalance ≤ 0 then ⟨wallet, others⟩
    else
      let read := SweepPhase.walletRead wallet.availableBalance wallet.promoBalance
      ⟨wallet, { sweep with phase := read } :: others⟩
  | .walletRead available promo =>
    let alreadyExpired := wallet.alreadyExpired
    if 0 < actualExpiredAmount sweep.expired alreadyExpired promo then
      ⟨wallet, { sweep with phase := .decided available promo alreadyExpired } :: others⟩
    else ⟨wallet, others⟩
  | .decided available promo alreadyExpired =>
    let amount := actualExpiredAmount sweep.expired alreadyExpired promo
    match wallet.createEntry (expiryRow wallet.id sweep.now amount available) with
    | .ok created =>
      ⟨created, { sweep with phase := .created available promo alreadyExpired } :: others⟩
    | .error _ => ⟨wallet, others⟩
  | .created available promo alreadyExpired =>
    let amount := actualExpiredAmount sweep.expired alreadyExpired promo
    match wallet.updateBalances (available - amount) wallet.realBalance (promo - amount) with
    | .ok updated => ⟨updated, others⟩
    | .error _ => ⟨wallet, others⟩

end SweepState

def sweepStep (s : SweepState) : SweepAction → SweepState
  | .call call => { s with wallet := call.commit s.wallet }
  | .start now =>
    let expired := s.wallet.expiredEntries now
    if expired = [] then s
    else { s with sweeps := ⟨now, expiredTotal expired, .entriesRead⟩ :: s.sweeps }
  | .advance sweep =>
    if sweep ∈ s.sweeps then .advance s.wallet sweep (s.sweeps.erase sweep) else s

def SweepAction.operations : SweepAction → List WalletOperation
  | .call walletCall => [.call walletCall]
  | .start now => [.cleanExpiredPromotionalCredits now]
  | .advance _ => []

/-- A new wallet, with nothing in flight. -/
def SweepState.create (id : Id) (otherKeys : List String) : SweepState :=
  ⟨.create id otherKeys, []⟩

def WalletAccount.balances (wallet : WalletAccount) : ℤ × ℤ × ℤ :=
  (wallet.availableBalance, wallet.realBalance, wallet.promoBalance)

/-! ## Stale reads -/

/-- The entry of a sweep that is between its two writes. -/
def Sweep.pendingRow (walletId : Id) (sweep : Sweep) : Option WalletLedgerRow :=
  match sweep.phase with
  | .created available promo alreadyExpired =>
    some (expiryRow walletId sweep.now
      (actualExpiredAmount sweep.expired alreadyExpired promo) available)
  | _ => none

namespace SweepState

def pending (s : SweepState) : List WalletLedgerRow :=
  s.sweeps.filterMap (Sweep.pendingRow s.wallet.id)

/-- The sum of the expirations that reached the balances. -/
def settledExpirations (s : SweepState) : ℤ :=
  s.wallet.alreadyExpired - (s.pending.map fun row => row.amount).sum

/-- What ran out by `now`, as the ledger has it. -/
def expiredBy (s : SweepState) (now : ℤ) : ℤ := expiredTotal (s.wallet.expiredEntries now)

/-- The action ends a sweep on reads that no longer hold: it writes balances computed from
others than the wallet's, or finds nothing to take where there is something by now. -/
def EndsStale (s : SweepState) : SweepAction → Prop
  | .advance sweep =>
    sweep ∈ s.sweeps ∧
      match sweep.phase with
      | .created available promo alreadyExpired =>
        ¬ (s.wallet.availableBalance = available ∧ s.wallet.promoBalance = promo ∧
          s.expiredBy sweep.now = sweep.expired ∧ s.settledExpirations = alreadyExpired)
      | .walletRead _ promo =>
        actualExpiredAmount sweep.expired s.wallet.alreadyExpired promo ≤ 0 ∧
          ¬ s.wallet.KeyUsed (expiryKey s.wallet.id sweep.now) ∧
          s.settledExpirations < s.expiredBy sweep.now
      | _ => False
  | _ => False

instance (s : SweepState) (action : SweepAction) : Decidable (s.EndsStale action) :=
  match action with
  | .call _ => .isFalse id
  | .start _ => .isFalse id
  | .advance ⟨_, _, .entriesRead⟩ => inferInstanceAs (Decidable (_ ∧ False))
  | .advance ⟨_, _, .walletRead _ _⟩ => inferInstanceAs (Decidable (_ ∧ _ ∧ _ ∧ _))
  | .advance ⟨_, _, .decided _ _ _⟩ => inferInstanceAs (Decidable (_ ∧ False))
  | .advance ⟨_, _, .created _ _ _⟩ => inferInstanceAs (Decidable (_ ∧ ¬ (_ ∧ _ ∧ _ ∧ _)))

end SweepState

/-! ## A lost update -/

/-- A deposit that was paid for at the gateway. -/
def depositCall (amount : ℤ) (bucket : WalletBucketType) (key : String) (expiresAt : Option ℤ) :
    SweepAction :=
  .call (.creditWallet none amount .customerDeposit bucket "PAYMENT" none key expiresAt)

/-- 100.00 of promotional money that runs out, 200.00 of real money, and a deposit of
50.00 that commits between a sweep's read of the wallet and its writes. -/
def interruptedSweep : List SweepAction :=
  [depositCall 10000 .promotional "promo" (some 1000), depositCall 20000 .realMoney "first" none,
    .start 2000, .advance ⟨2000, 10000, .entriesRead⟩, depositCall 5000 .realMoney "second" none,
    .advance ⟨2000, 10000, .walletRead 30000 10000⟩,
    .advance ⟨2000, 10000, .decided 30000 10000 0⟩, .advance ⟨2000, 10000, .created 30000 10000 0⟩]

/-- The deposit is lost: in no order would it be. -/
theorem sweep_loses_update :
    ¬ ∀ (id : Id) (otherKeys : List String) (actions : List SweepAction),
      (run sweepStep (.create id otherKeys) actions).sweeps = [] →
        SerialUpTo walletStep (.create id otherKeys) (actions.flatMap SweepAction.operations)
          fun wallet =>
            wallet.balances = (run sweepStep (.create id otherKeys) actions).wallet.balances := by
  intro h
  obtain ⟨order, hperm, hbalances⟩ := h "wallet" [] interruptedSweep (by decide +kernel)
  have hnone : ∀ order ∈ (interruptedSweep.flatMap SweepAction.operations).permutations',
      (run walletStep (.create "wallet" []) order).balances ≠
        (run sweepStep (.create "wallet" []) interruptedSweep).wallet.balances := by
    decide +kernel
  exact hnone order (List.mem_permutations'.mpr hperm) hbalances

end CarRental
