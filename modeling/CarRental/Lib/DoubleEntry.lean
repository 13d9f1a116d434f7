import CarRental.Lib.Rounding

/-!
# Double-entry journals

A journal is a list of postings, each of which puts an amount on one side of one
account.  It is balanced when its debits equal its credits.

* `total` is additive, so a ledger made of balanced journals is balanced.
* Whether one list covers another is seen on the accounts of the covered one
  (`accountTotal_le_of_accounts`).
* Storing a journal in a column with a fixed number of decimals rounds every
  posting.  `residue` is what rounding adds to one side.  A journal that is
  balanced up to less than half a unit stays balanced when it is stored exactly
  when the residues of its two sides differ by less than half a unit
  (`balanced_stored_iff`).
-/

set_option linter.unusedSectionVars false

namespace DoubleEntry

inductive Side where
  | debit
  | credit
deriving DecidableEq, Repr

/-- One line of a journal. -/
structure Posting (Account K : Type*) where
  account : Account
  side : Side
  amount : K
deriving DecidableEq

variable {Account K : Type*}

section Totals

variable [AddCommGroup K]

def amounts (side : Side) (postings : List (Posting Account K)) : List K :=
  (postings.filter fun p => p.side = side).map Posting.amount

def total (side : Side) (postings : List (Posting Account K)) : K :=
  (amounts side postings).sum

/-- Debits minus credits. -/
def net (postings : List (Posting Account K)) : K :=
  total .debit postings - total .credit postings

def accountTotal [DecidableEq Account] (side : Side) (account : Account)
    (postings : List (Posting Account K)) : K :=
  total side (postings.filter fun p => p.account = account)

variable {postings first second : List (Posting Account K)} {side : Side}

@[simp] theorem total_nil : total side ([] : List (Posting Account K)) = 0 := rfl

@[simp] theorem total_cons (p : Posting Account K) :
    total side (p :: postings) = (if p.side = side then p.amount else 0) + total side postings := by
  by_cases h : p.side = side <;> simp [total, amounts, h]

@[simp] theorem net_nil : net ([] : List (Posting Account K)) = 0 := by simp [net]

theorem net_cons (p : Posting Account K) :
    net (p :: postings) =
      (match p.side with | .debit => p.amount | .credit => -p.amount) + net postings := by
  cases hside : p.side with
  | debit => simp [net, hside]; abel
  | credit => simp [net, hside]; abel

theorem net_eq_zero_iff : net postings = 0 ↔ total .debit postings = total .credit postings :=
  sub_eq_zero

section Effect

variable [DecidableEq Account] {account : Account}

@[simp] theorem accountTotal_nil :
    accountTotal side account ([] : List (Posting Account K)) = 0 := rfl

theorem accountTotal_of_forall_ne (h : ∀ p ∈ postings, p.account ≠ account) :
    accountTotal side account postings = 0 := by
  have hnone : (postings.filter fun p => p.account = account) = [] :=
    List.filter_eq_nil_iff.mpr fun p hp => by simpa using h p hp
  rw [accountTotal, hnone, total_nil]

end Effect

end Totals

section Coverage

variable [AddCommGroup K] [LinearOrder K] [IsOrderedAddMonoid K] [DecidableEq Account]
  {postings first second : List (Posting Account K)} {side side' : Side}

theorem accountTotal_nonneg (h : ∀ p ∈ postings, 0 ≤ p.amount) (account : Account) :
    0 ≤ accountTotal side account postings := by
  refine List.sum_nonneg fun x hx => ?_
  obtain ⟨p, hp, rfl⟩ := List.mem_map.mp hx
  exact h p (List.mem_filter.mp (List.mem_filter.mp hp).1).1

theorem accountTotal_le_of_accounts (hnonneg : ∀ p ∈ second, 0 ≤ p.amount)
    (h : ∀ p ∈ first,
      accountTotal side p.account first ≤ accountTotal side' p.account second)
    (account : Account) :
    accountTotal side account first ≤ accountTotal side' account second := by
  by_cases hmem : ∃ p ∈ first, p.account = account
  · obtain ⟨p, hp, rfl⟩ := hmem
    exact h p hp
  · have hzero : accountTotal side account first = 0 :=
      accountTotal_of_forall_ne fun p hp heq => hmem ⟨p, hp, heq⟩
    rw [hzero]
    exact accountTotal_nonneg hnonneg account

end Coverage

/-! ## Storing a journal -/

section Stored

variable [Field K] [LinearOrder K] [IsStrictOrderedRing K] [FloorRing K]

open Rounding

/-- The posting as a column with `places` decimals stores it. -/
def Posting.stored (places : ℕ) (p : Posting Account K) : Posting Account K :=
  { p with amount := toScale places p.amount }

/-- What rounding an amount to `places` decimals adds to it. -/
def roundingOf (places : ℕ) (x : K) : K := toScale places x - x

/-- What storing a journal adds to one side of it. -/
def residue (places : ℕ) (side : Side) (postings : List (Posting Account K)) : K :=
  ((amounts side postings).map (roundingOf places)).sum

variable {postings : List (Posting Account K)} {side : Side} {places : ℕ}

theorem amounts_stored :
    amounts side (postings.map (Posting.stored places)) =
      (amounts side postings).map (toScale places) := by
  induction postings with
  | nil => rfl
  | cons p rest ih =>
    simp only [amounts, Posting.stored, List.map_cons, List.filter_cons] at ih ⊢
    split
    · simp only [List.map_cons, ih]
    · exact ih

theorem total_stored :
    total side (postings.map (Posting.stored places)) =
      total side postings + residue places side postings := by
  have hsum : ∀ xs : List K,
      (xs.map (toScale places)).sum = xs.sum + (xs.map (roundingOf places)).sum := by
    intro xs
    induction xs with
    | nil => simp
    | cons x rest ih =>
      simp only [List.map_cons, List.sum_cons, ih, roundingOf]
      ring
  rw [total, amounts_stored, hsum]
  rfl

theorem onGrid_total_stored :
    OnGrid places (total side (postings.map (Posting.stored places))) := by
  rw [total, amounts_stored]
  refine OnGrid.sum fun x hx => ?_
  obtain ⟨y, -, rfl⟩ := List.mem_map.mp hx
  exact onGrid_toScale y

theorem balanced_stored_iff (hnear : |net postings| < 1 / 2 / 10 ^ places) :
    net (postings.map (Posting.stored places)) = 0 ↔
      |residue places .debit postings - residue places .credit postings| < 1 / 2 / 10 ^ places := by
  have hsplit : net (postings.map (Posting.stored places)) =
      net postings + (residue places .debit postings - residue places .credit postings) := by
    simp only [net, total_stored]
    ring
  constructor
  · intro hzero
    have heq : residue places .debit postings - residue places .credit postings =
        -net postings := by linarith
    rwa [heq, abs_neg]
  · intro hresidue
    refine net_eq_zero_iff.mpr ?_
    refine OnGrid.eq_of_abs_sub_lt onGrid_total_stored onGrid_total_stored ?_
    have hunit : (1 : K) / 10 ^ places = 1 / 2 / 10 ^ places + 1 / 2 / 10 ^ places := by ring
    calc |total .debit (postings.map (Posting.stored places)) -
          total .credit (postings.map (Posting.stored places))|
        = |net postings + (residue places .debit postings - residue places .credit postings)| := by
          rw [← hsplit, net]
      _ ≤ |net postings| + |residue places .debit postings - residue places .credit postings| :=
          abs_add_le _ _
      _ < 1 / 10 ^ places := by rw [hunit]; exact add_lt_add hnear hresidue

end Stored

end DoubleEntry
