import CarRental.Finance.WholePaise
import CarRental.Payments.State

/-!
# The journals of a payout

A payout that is paid moves its amount from the vendor's payable account to the
gateway's clearing account; a reversal moves it back.  Both are journals of two
lines under a key of their own, so each is booked at most once.

`keyEffect` is what the lines under one key do to the vendor's payable account.
Under an unused key a transfer is always accepted and its effect is the amount
(`recordJournal_transfer`); under a used one nothing changes.
-/

namespace CarRental

open DoubleEntry Rounding

inductive PayoutStatus where
  | pending
  | approved
  | processing
  | paid
  | failed
  | rejected
  | reversed
deriving DecidableEq, Repr

structure Payout where
  id : Id
  payoutNumber : Option String
  vendorId : Id
  amount : Money
  status : PayoutStatus
  providerTransferId : Option String
  approvedByUserId : Option Id
  providerFailureReason : Option String
deriving DecidableEq

/-! ## The journals -/

/-- A journal that moves an amount from one account to another. -/
def transferJournal (key : JournalKey) (vendorId : Id) (debited credited : LedgerAccount)
    (amount : Money) : RecordJournalInput JournalKey :=
  paiseJournal key (some vendorId) [
    ⟨debited.1, debited.2, .debit, amount.paise⟩,
    ⟨credited.1, credited.2, .credit, amount.paise⟩]

/-- `ledger_po_exec_<payoutId>` -/
def payoutJournal (payout : Payout) : RecordJournalInput JournalKey :=
  transferJournal (.payoutExec payout.id) payout.vendorId (.vendorPayable, none)
    (.gatewayClearing, some "RAZORPAY") payout.amount

/-- `ledger_po_rev_<payoutId>` -/
def payoutReversalJournal (payout : Payout) : RecordJournalInput JournalKey :=
  transferJournal (.payoutReversal payout.id) payout.vendorId (.gatewayClearing, some "RAZORPAY")
    (.vendorPayable, none) payout.amount

/-! ## Their effect -/

/-- What an entry adds to the vendor's payable account, if it has the key. -/
def PlatformLedgerEntry.payableEffect (vendorId : Id) (key : JournalKey)
    (entry : PlatformLedgerEntry JournalKey) : ℤ :=
  if entry.idempotencyKey.any (·.1 = key) ∧ entry.accountType = .vendorPayable ∧
      entry.accountEntityId = some vendorId then
    match entry.side with
    | .debit => -entry.amount.paise
    | .credit => entry.amount.paise
  else 0

def keyEffect (ledger : Ledger JournalKey) (vendorId : Id) (key : JournalKey) : ℤ :=
  (ledger.entries.map (PlatformLedgerEntry.payableEffect vendorId key)).sum

/-- What the journals of a payout do to its vendor's payable account, in paise. -/
def payoutEffect (ledger : Ledger JournalKey) (payout : Payout) : ℤ :=
  keyEffect ledger payout.vendorId (.payoutExec payout.id) +
    keyEffect ledger payout.vendorId (.payoutReversal payout.id)

/-- No line has the key. -/
def Unposted (ledger : Ledger JournalKey) (key : JournalKey) : Prop :=
  ∀ entry ∈ ledger.entries, ∀ i, entry.idempotencyKey ≠ some (key, i)

/-- The key's journal is booked, with the given effect. -/
def Posted (ledger : Ledger JournalKey) (vendorId : Id) (key : JournalKey) (paise : ℤ) : Prop :=
  (ledger.findKey key).isSome = true ∧ keyEffect ledger vendorId key = paise

section Effect

variable {ledger : Ledger JournalKey} {vendorId : Id} {key other : JournalKey}

theorem Unposted.hasKey (h : Unposted ledger key) (i : ℕ) : ledger.hasKey (key, i) = false := by
  rw [Ledger.hasKey, List.any_eq_false]
  intro entry hentry
  simpa using h entry hentry i

theorem Unposted.findKey (h : Unposted ledger key) : ledger.findKey key = none := by
  rw [Ledger.findKey, List.find?_eq_none]
  intro entry hentry
  simpa using h entry hentry 0

theorem Unposted.keyEffect_eq (h : Unposted ledger key) : keyEffect ledger vendorId key = 0 := by
  refine List.sum_eq_zero fun effect heffect => ?_
  obtain ⟨entry, hentry, rfl⟩ := List.mem_map.mp heffect
  have hnot : entry.idempotencyKey.any (·.1 = key) = false := by
    cases hkey : entry.idempotencyKey with
    | none => rfl
    | some lineKey =>
      refine decide_eq_false fun heq => h entry hentry lineKey.2 ?_
      rw [hkey, ← heq]
  rw [PlatformLedgerEntry.payableEffect, hnot, if_neg fun hand => Bool.false_ne_true hand.1]

theorem recordJournal_duplicate (vendorId : Id) {debited credited : LedgerAccount} {amount : Money}
    (h : (ledger.findKey key).isSome = true) :
    ∃ receipt, recordJournal ledger (transferJournal key vendorId debited credited amount) =
      .ok (ledger, receipt) := by
  obtain ⟨existing, hexisting⟩ := Option.isSome_iff_exists.mp h
  unfold recordJournal
  simp only [transferJournal, paiseJournal, List.length_map, List.length_cons, List.length_nil,
    Nat.lt_irrefl, if_false, Option.bind_some, hexisting]
  exact ⟨_, rfl⟩

/-- The line that a transfer books on one side. -/
def transferEntry (ledger : Ledger JournalKey) (key : JournalKey) (vendorId : Id)
    (account : LedgerAccount) (side : LedgerEntrySide) (amount : Money) (index : ℕ) :
    PlatformLedgerEntry JournalKey where
  journalId := .generated ledger.generated
  accountType := account.1
  accountEntityId := account.2 <|> some vendorId
  side
  amount := ⟨amount.paise, amount.inRange.trans (by norm_num)⟩
  idempotencyKey := some (key, index)

def transferLedger (ledger : Ledger JournalKey) (key : JournalKey) (vendorId : Id)
    (debited credited : LedgerAccount) (amount : Money) : Ledger JournalKey :=
  ⟨ledger.entries ++ [transferEntry ledger key vendorId debited .debit amount 0,
    transferEntry ledger key vendorId credited .credit amount 1], ledger.generated + 1⟩

theorem persistLine_transfer (vendorId : Id) (h : Unposted ledger key) (account : LedgerAccount)
    (side : LedgerEntrySide) (amount : Money) (line : ParsedLine) (index : ℕ)
    (hline : line.accountType = account.1 ∧ line.accountEntityId = (account.2 <|> some vendorId) ∧
      line.side = side ∧ line.amount = (amount.paise : ℚ) / 100) :
    persistLine ledger (.generated ledger.generated) (some key) line index =
      .ok (transferEntry ledger key vendorId account side amount index) := by
  obtain ⟨htype, hentity, hside, hamount⟩ := hline
  have hfits : |amount.paise| < 10 ^ 12 := amount.inRange.trans (by norm_num)
  have hround : roundAway ((amount.paise : ℚ) / 100 * 100) = amount.paise := by
    rw [div_mul_cancel₀ _ (by norm_num), roundAway_intCast]
  have hstored : (Column.ofDecimal? line.amount : Option (Column 12)) = some ⟨amount.paise, hfits⟩ := by
    rw [hamount, Column.ofDecimal?, hround, Column.ofPaise?, dif_pos hfits]
  unfold persistLine
  simp only [Option.map_some, Option.any_some, h.hasKey, Bool.false_eq_true, if_false, hstored,
    htype, hentity, hside]
  rfl

theorem recordJournal_transfer (vendorId : Id) (h : Unposted ledger key)
    {debited credited : LedgerAccount} {amount : Money} (hpositive : 0 < amount.paise) :
    ∃ receipt, recordJournal ledger (transferJournal key vendorId debited credited amount) =
      .ok (transferLedger ledger key vendorId debited credited amount, receipt) := by
  let debitLine := PaiseLine.parsed (some vendorId)
    ⟨debited.1, debited.2, .debit, amount.paise⟩ hpositive
  let creditLine := PaiseLine.parsed (some vendorId)
    ⟨credited.1, credited.2, .credit, amount.paise⟩ hpositive
  have hdebit : parseLine (some vendorId)
      (PaiseLine.input ⟨debited.1, debited.2, .debit, amount.paise⟩) = .ok debitLine :=
    parseLine_input (some vendorId) hpositive
  have hcredit : parseLine (some vendorId)
      (PaiseLine.input ⟨credited.1, credited.2, .credit, amount.paise⟩) = .ok creditLine :=
    parseLine_input (some vendorId) hpositive
  -- each side of the journal is the one line of the amount
  have hbalanced : runningTotal .debit [debitLine, creditLine] =
      runningTotal .credit [debitLine, creditLine] := rfl
  have hfirst := persistLine_transfer vendorId h debited .debit amount debitLine 0
    ⟨rfl, rfl, rfl, rfl⟩
  have hsecond := persistLine_transfer vendorId h credited .credit amount creditLine 1
    ⟨rfl, rfl, rfl, rfl⟩
  unfold recordJournal
  simp only [transferJournal, paiseJournal, List.length_cons, List.length_nil,
    Nat.lt_irrefl, if_false, Option.bind_some, h.findKey, List.map_cons, List.map_nil,
    List.mapM_cons, List.mapM_nil, hdebit, hcredit, bind, Except.bind, pure, Except.pure, hbalanced,
    ne_eq, not_true_eq_false, persistLines, Option.map_none, Option.getD_none, hfirst, hsecond]
  exact ⟨_, rfl⟩

variable {debited credited : LedgerAccount} {amount : Money} {paise : ℤ}

theorem Unposted.transfer (h : Unposted ledger other) (hne : other ≠ key) :
    Unposted (transferLedger ledger key vendorId debited credited amount) other := by
  intro entry hentry i hkey
  rcases List.mem_append.mp hentry with hentry | hentry
  · exact h entry hentry i hkey
  · rw [List.mem_cons, List.mem_singleton] at hentry
    rcases hentry with rfl | rfl
    · exact hne (congrArg Prod.fst (Option.some.inj hkey)).symm
    · exact hne (congrArg Prod.fst (Option.some.inj hkey)).symm

theorem findKey_transfer_of_ne (hne : other ≠ key) :
    (transferLedger ledger key vendorId debited credited amount).findKey other =
      ledger.findKey other := by
  have hfirst : ¬ (some (key, 0) = some (other, 0)) := fun h =>
    hne (congrArg Prod.fst (Option.some.inj h)).symm
  have hsecond : ¬ (some (key, 1) = some (other, 0)) := fun h =>
    hne (congrArg Prod.fst (Option.some.inj h)).symm
  simp [Ledger.findKey, transferLedger, transferEntry, List.find?_append, hfirst, hsecond]

theorem findKey_transfer :
    ((transferLedger ledger key vendorId debited credited amount).findKey key).isSome = true := by
  rw [Ledger.findKey, List.find?_isSome]
  exact ⟨transferEntry ledger key vendorId debited .debit amount 0,
    List.mem_append_right _ (List.mem_cons_self ..), decide_eq_true rfl⟩

theorem keyEffect_transfer (other : JournalKey) :
    keyEffect (transferLedger ledger key vendorId debited credited amount) vendorId other =
      keyEffect ledger vendorId other +
        ((transferEntry ledger key vendorId debited .debit amount 0).payableEffect vendorId other +
          (transferEntry ledger key vendorId credited .credit amount 1).payableEffect vendorId
            other) := by
  simp [keyEffect, transferLedger]

theorem Posted.transfer (h : Posted ledger vendorId other paise) (hne : other ≠ key) :
    Posted (transferLedger ledger key vendorId debited credited amount) vendorId other paise := by
  obtain ⟨hfind, heffect⟩ := h
  refine ⟨by rw [findKey_transfer_of_ne hne, hfind], ?_⟩
  rw [keyEffect_transfer, heffect]
  simp [PlatformLedgerEntry.payableEffect, transferEntry, hne.symm]

theorem posted_payment (h : Unposted ledger key) :
    Posted (transferLedger ledger key vendorId (.vendorPayable, none)
      (.gatewayClearing, some "RAZORPAY") amount) vendorId key (-amount.paise) := by
  refine ⟨findKey_transfer, ?_⟩
  rw [keyEffect_transfer, h.keyEffect_eq]
  simp [PlatformLedgerEntry.payableEffect, transferEntry]

theorem posted_reversal (h : Unposted ledger key) :
    Posted (transferLedger ledger key vendorId (.gatewayClearing, some "RAZORPAY")
      (.vendorPayable, none) amount) vendorId key amount.paise := by
  refine ⟨findKey_transfer, ?_⟩
  rw [keyEffect_transfer, h.keyEffect_eq]
  simp [PlatformLedgerEntry.payableEffect, transferEntry]

end Effect

end CarRental
