import CarRental.Lib.DoubleEntry
import CarRental.Money

/-!
# The platform ledger

`LedgerCoreService.recordJournal`, the only writer of the platform ledger, and
the two readers of it that the rest of the development uses.

The service checks `SUM(DEBITS) === SUM(CREDITS)` on the amounts as the caller
passes them, in decimal arithmetic, and then stores each line in a
`DECIMAL(12, 2)` column.

A journal's first line carries the caller's idempotency key and line `i` the key
`<key>_line_<i>`.  Line keys are therefore pairs of the caller's key and the
line's index; `κ` is the type of the callers' keys.
-/

namespace CarRental

open DoubleEntry Rounding

inductive LedgerAccountType where
  | gatewayClearing
  | customerWallet
  | customerDepositEscrow
  | vendorPayable
  | platformCommissionRevenue
  | taxGstLiability
  | corporateReceivable
  | disputeHold
deriving DecidableEq, Repr

abbrev LedgerEntrySide := DoubleEntry.Side

/-- An account: its type and, where there is one, the party it belongs to. -/
abbrev LedgerAccount := LedgerAccountType × Option Id

/-- Given by the caller, or generated from the clock and six random bytes, which
the model takes to be fresh. -/
inductive JournalId where
  | given (id : Id)
  | generated (serial : ℕ)
deriving DecidableEq

structure JournalEntryLineInput where
  accountType : LedgerAccountType
  accountEntityId : Option Id
  side : Option LedgerEntrySide
  amount : Decimal
deriving DecidableEq

structure RecordJournalInput (κ : Type) where
  lines : List JournalEntryLineInput
  idempotencyKey : Option κ
  vendorId : Option Id
  journalId : Option Id
deriving DecidableEq

structure PlatformLedgerEntry (κ : Type) where
  journalId : JournalId
  accountType : LedgerAccountType
  accountEntityId : Option Id
  side : LedgerEntrySide
  amount : Column 12
  idempotencyKey : Option (κ × ℕ)
deriving DecidableEq

structure Ledger (κ : Type) where
  entries : List (PlatformLedgerEntry κ)
  /-- How many journal ids have been generated. -/
  generated : ℕ
deriving DecidableEq

def Ledger.empty {κ : Type} : Ledger κ := ⟨[], 0⟩

inductive LedgerError where
  /-- A double-entry journal must have at least two entry lines. -/
  | tooFewLines
  /-- Ledger entry amount must be strictly positive. -/
  | notPositive (amount : Decimal) (accountType : LedgerAccountType)
  /-- Invalid ledger entry side. -/
  | invalidSide
  /-- Total debits do not equal total credits. -/
  | unbalancedJournal (totalDebit totalCredit : Decimal)
  /-- An amount does not fit the column. -/
  | numericOverflow
  /-- A line key is already in the table. -/
  | uniqueViolation
deriving DecidableEq

/-- What `recordJournal` returns. -/
structure JournalReceipt (κ : Type) where
  journalId : JournalId
  entries : List (PlatformLedgerEntry κ)
  isDuplicate : Bool

/-- The keys that the callers build, each from a prefix of its own and a row's id. -/
inductive JournalKey where
  /-- `jrn_pay_verify_<bookingId>` -/
  | payVerify (bookingId : Id)
  /-- `jrn_confirm_<bookingId>` -/
  | bookingConfirm (bookingId : Id)
  /-- `jrn_refund_intent_<bookingId>` -/
  | refundIntent (bookingId : Id)
  /-- `jrn_reconcile_refund_<bookingId>_<refundId>` -/
  | reconcileRefund (bookingId : Id) (refundId : String)
  /-- `jrn_dep_rel_<depositId>` -/
  | depositRelease (depositId : Id)
  /-- `jrn_dep_deduct_<depositId>` -/
  | depositDeduct (depositId : Id)
  /-- `jrn_ext_verify_<extensionId>` -/
  | extensionVerify (extensionId : Id)
  /-- `ledger_po_exec_<payoutId>` -/
  | payoutExec (payoutId : Id)
  /-- `ledger_po_rev_<payoutId>` -/
  | payoutReversal (payoutId : Id)
deriving DecidableEq

variable {κ : Type} [DecidableEq κ]

/-! ## Recording -/

/-- A line that passed the checks of the validation loop. -/
structure ParsedLine where
  accountType : LedgerAccountType
  accountEntityId : Option Id
  side : LedgerEntrySide
  amount : Decimal
  positive : 0 < amount

def ParsedLine.posting (line : ParsedLine) : Posting LedgerAccount Decimal where
  account := (line.accountType, line.accountEntityId)
  side := line.side
  amount := line.amount

def parseLine (vendorId : Option Id) (line : JournalEntryLineInput) :
    Except LedgerError ParsedLine :=
  if positive : 0 < line.amount then
    match line.side with
    | some side =>
      .ok {
        accountType := line.accountType
        accountEntityId := line.accountEntityId <|> vendorId
        side
        amount := line.amount
        positive }
    | none => .error .invalidSide
  else .error (.notPositive line.amount line.accountType)

/-- The running total that the validation loop keeps for one side. -/
def runningTotal (side : LedgerEntrySide) (lines : List ParsedLine) : Decimal :=
  sumDigits Decimal.precision 0 (amounts side (lines.map ParsedLine.posting))

def Ledger.hasKey (ledger : Ledger κ) (key : κ × ℕ) : Bool :=
  ledger.entries.any fun entry => entry.idempotencyKey = some key

def Ledger.findKey (ledger : Ledger κ) (key : κ) : Option (PlatformLedgerEntry κ) :=
  ledger.entries.find? fun entry => entry.idempotencyKey = some (key, 0)

def Ledger.entriesOf (ledger : Ledger κ) (journalId : JournalId) : List (PlatformLedgerEntry κ) :=
  ledger.entries.filter fun entry => entry.journalId = journalId

/-- The row that line `index` of a journal becomes. -/
def persistLine (ledger : Ledger κ) (journalId : JournalId) (idempotencyKey : Option κ)
    (line : ParsedLine) (index : ℕ) : Except LedgerError (PlatformLedgerEntry κ) :=
  let lineKey := idempotencyKey.map fun key => (key, index)
  if lineKey.any ledger.hasKey then .error .uniqueViolation
  else
    match Column.ofDecimal? line.amount with
    | none => .error .numericOverflow
    | some amount =>
      .ok {
        journalId
        accountType := line.accountType
        accountEntityId := line.accountEntityId
        side := line.side
        amount
        idempotencyKey := lineKey }

def persistLines (ledger : Ledger κ) (journalId : JournalId) (idempotencyKey : Option κ) :
    List ParsedLine → ℕ → Except LedgerError (List (PlatformLedgerEntry κ))
  | [], _ => .ok []
  | line :: rest, index => do
      let entry ← persistLine ledger journalId idempotencyKey line index
      let entries ← persistLines ledger journalId idempotencyKey rest (index + 1)
      return entry :: entries

/-- Records a balanced journal, or refuses it and leaves the ledger as it is. -/
def recordJournal (ledger : Ledger κ) (input : RecordJournalInput κ) :
    Except LedgerError (Ledger κ × JournalReceipt κ) :=
  if input.lines.length < 2 then .error .tooFewLines
  else
    match input.idempotencyKey.bind ledger.findKey with
    -- a key that was used gives back its journal, whatever the lines are now
    | some existing =>
      .ok (ledger, ⟨existing.journalId, ledger.entriesOf existing.journalId, true⟩)
    | none => do
        let lines ← input.lines.mapM (parseLine input.vendorId)
        let totalDebit := runningTotal .debit lines
        let totalCredit := runningTotal .credit lines
        if totalDebit ≠ totalCredit then .error (.unbalancedJournal totalDebit totalCredit)
        else
          let journalId := (input.journalId.map JournalId.given).getD (.generated ledger.generated)
          let entries ← persistLines ledger journalId input.idempotencyKey lines 0
          .ok (⟨ledger.entries ++ entries, ledger.generated + 1⟩, ⟨journalId, entries, false⟩)

/-! ## Reading -/

def PlatformLedgerEntry.posting (entry : PlatformLedgerEntry κ) : Posting LedgerAccount Decimal where
  account := (entry.accountType, entry.accountEntityId)
  side := entry.side
  amount := entry.amount.value

/-- Assets are debits minus credits, everything else credits minus debits. -/
def isAssetAccount : LedgerAccountType → Bool
  | .gatewayClearing | .corporateReceivable => true
  | _ => false

def getAccountBalance (ledger : Ledger κ) (accountType : LedgerAccountType)
    (accountEntityId : Option Id) : Decimal :=
  let postings := (ledger.entries.filter fun entry =>
    entry.accountType = accountType ∧
      (accountEntityId = none ∨ entry.accountEntityId = accountEntityId)).map
        PlatformLedgerEntry.posting
  let debits := sumDigits Decimal.precision 0 (amounts .debit postings)
  let credits := sumDigits Decimal.precision 0 (amounts .credit postings)
  if isAssetAccount accountType then Decimal.sub debits credits else Decimal.sub credits debits

def getVendorPayableBalance (ledger : Ledger κ) (vendorId : Id) : Decimal :=
  getAccountBalance ledger .vendorPayable (some vendorId)

/-- What an entry adds to the sum of its journal. -/
def PlatformLedgerEntry.delta (entry : PlatformLedgerEntry κ) : Decimal :=
  match entry.side with
  | .debit => entry.amount.value
  | .credit => -entry.amount.value

/-- The sum that the audit keeps for one journal. -/
def journalSum (ledger : Ledger κ) (journalId : JournalId) : Decimal :=
  sumDigits Decimal.precision 0 ((ledger.entriesOf journalId).map PlatformLedgerEntry.delta)

structure IntegrityReport where
  totalJournals : ℕ
  balancedJournals : ℕ
  unbalancedJournals : List JournalId
deriving DecidableEq

/-- Audits the whole ledger: every journal must net to zero. -/
def verifyLedgerIntegrity (ledger : Ledger κ) : IntegrityReport :=
  let journalIds := (ledger.entries.map PlatformLedgerEntry.journalId).eraseDups
  let unbalanced := journalIds.filter fun journalId => journalSum ledger journalId ≠ 0
  { totalJournals := journalIds.length
    balancedJournals := journalIds.length - unbalanced.length
    unbalancedJournals := unbalanced }

/-! ## What recording does -/

section Recording

variable {ledger ledger' : Ledger κ} {input : RecordJournalInput κ} {receipt : JournalReceipt κ}

/-- The posting a caller's line asks for, if it names a side. -/
def JournalEntryLineInput.posting? (line : JournalEntryLineInput) (vendorId : Option Id) :
    Option (Posting LedgerAccount Decimal) :=
  line.side.map fun side =>
    ⟨(line.accountType, line.accountEntityId <|> vendorId), side, line.amount⟩

theorem parseLine_eq_ok {vendorId : Option Id} {line : JournalEntryLineInput} {parsed : ParsedLine}
    (h : parseLine vendorId line = .ok parsed) :
    line.posting? vendorId = some parsed.posting := by
  unfold parseLine at h
  split at h
  · cases hside : line.side with
    | some side =>
      rw [hside] at h
      cases h
      simp [JournalEntryLineInput.posting?, ParsedLine.posting, hside]
    | none =>
      rw [hside] at h
      cases h
  · cases h

theorem mapM_parseLine_eq_ok {vendorId : Option Id} {lines : List JournalEntryLineInput}
    {parsed : List ParsedLine} (h : lines.mapM (parseLine vendorId) = .ok parsed) :
    lines.map (JournalEntryLineInput.posting? · vendorId) =
      parsed.map fun line => some line.posting := by
  induction lines generalizing parsed with
  | nil =>
    cases h
    rfl
  | cons line rest ih =>
    rw [List.mapM_cons] at h
    cases hline : parseLine vendorId line with
    | error e => rw [hline] at h; cases h
    | ok first =>
      cases hrest : rest.mapM (parseLine vendorId) with
      | error e => rw [hline, hrest] at h; cases h
      | ok others =>
        rw [hline, hrest] at h
        cases h
        rw [List.map_cons, List.map_cons, parseLine_eq_ok hline, ih hrest]

theorem persistLine_eq_ok {journalId : JournalId} {key : Option κ} {line : ParsedLine} {index : ℕ}
    {entry : PlatformLedgerEntry κ} (h : persistLine ledger journalId key line index = .ok entry) :
    entry.journalId = journalId ∧ entry.posting = line.posting.stored 2 ∧
      entry.idempotencyKey = key.map fun k => (k, index) := by
  unfold persistLine at h
  simp only at h
  split at h
  · cases h
  · split at h
    · cases h
    next amount hamount =>
      cases h
      refine ⟨rfl, ?_, rfl⟩
      rw [PlatformLedgerEntry.posting, Column.value_of_ofDecimal? hamount]
      rfl

theorem persistLines_eq_ok {journalId : JournalId} {key : Option κ} {lines : List ParsedLine}
    {index : ℕ} {entries : List (PlatformLedgerEntry κ)}
    (h : persistLines ledger journalId key lines index = .ok entries) :
    (∀ entry ∈ entries, entry.journalId = journalId) ∧
      entries.map PlatformLedgerEntry.posting =
        (lines.map ParsedLine.posting).map (Posting.stored 2) := by
  induction lines generalizing index entries with
  | nil =>
    cases h
    simp
  | cons line rest ih =>
    cases hline : persistLine ledger journalId key line index with
    | error e =>
      simp only [persistLines, hline] at h
      cases h
    | ok entry =>
      cases hrest : persistLines ledger journalId key rest (index + 1) with
      | error e =>
        simp only [persistLines, hline, hrest] at h
        cases h
      | ok others =>
        simp only [persistLines, hline, hrest] at h
        cases h
        obtain ⟨hid, hposting, -⟩ := persistLine_eq_ok hline
        obtain ⟨hids, hpostings⟩ := ih hrest
        refine ⟨?_, ?_⟩
        · rintro e (_ | ⟨_, he⟩)
          · exact hid
          · exact hids e he
        · simp only [List.map_cons, hposting, hpostings]

theorem persistLines_keys {journalId : JournalId} {key : Option κ} {lines : List ParsedLine}
    {index : ℕ} {entries : List (PlatformLedgerEntry κ)}
    (h : persistLines ledger journalId key lines index = .ok entries) :
    entries.map PlatformLedgerEntry.idempotencyKey =
      (List.range' index lines.length).map fun i => key.map fun k => (k, i) := by
  induction lines generalizing index entries with
  | nil =>
    cases h
    rfl
  | cons line rest ih =>
    cases hline : persistLine ledger journalId key line index with
    | error e =>
      simp only [persistLines, hline] at h
      cases h
    | ok entry =>
      cases hrest : persistLines ledger journalId key rest (index + 1) with
      | error e =>
        simp only [persistLines, hline, hrest] at h
        cases h
      | ok others =>
        simp only [persistLines, hline, hrest] at h
        cases h
        obtain ⟨-, -, hkey⟩ := persistLine_eq_ok hline
        rw [List.map_cons, hkey, ih hrest, List.length_cons, List.range'_succ, List.map_cons]

theorem recordJournal_eq_ok (h : recordJournal ledger input = .ok (ledger', receipt)) :
    (receipt.isDuplicate = true ∧ ledger' = ledger) ∨
      receipt.isDuplicate = false ∧
      ∃ lines : List ParsedLine,
        input.lines.map (JournalEntryLineInput.posting? · input.vendorId) =
          lines.map (fun line => some line.posting) ∧
        runningTotal .debit lines = runningTotal .credit lines ∧
        ledger' = ⟨ledger.entries ++ receipt.entries, ledger.generated + 1⟩ ∧
        (∀ entry ∈ receipt.entries, entry.journalId = receipt.journalId) ∧
        receipt.entries.map PlatformLedgerEntry.posting =
          (lines.map ParsedLine.posting).map (Posting.stored 2) := by
  unfold recordJournal at h
  split at h
  · cases h
  cases hfind : input.idempotencyKey.bind ledger.findKey with
  | some existing =>
    rw [hfind] at h
    cases h
    exact .inl ⟨rfl, rfl⟩
  | none =>
    rw [hfind] at h
    cases hparse : input.lines.mapM (parseLine input.vendorId) with
    | error e => rw [hparse] at h; cases h
    | ok lines =>
      rw [hparse] at h
      simp only [bind, Except.bind] at h
      split at h
      · cases h
      next hbalanced =>
        split at h
        · cases h
        next entries hentries =>
          cases h
          obtain ⟨hids, hpostings⟩ := persistLines_eq_ok hentries
          exact .inr ⟨rfl, lines, mapM_parseLine_eq_ok hparse, not_not.mp hbalanced, rfl,
            hids, hpostings⟩

theorem recordJournal_isDuplicate (h : recordJournal ledger input = .ok (ledger', receipt)) :
    receipt.isDuplicate = (input.idempotencyKey.bind ledger.findKey).isSome := by
  unfold recordJournal at h
  split at h
  · cases h
  cases hfind : input.idempotencyKey.bind ledger.findKey with
  | some existing =>
    rw [hfind] at h
    cases h
    rfl
  | none =>
    rw [hfind] at h
    cases hparse : input.lines.mapM (parseLine input.vendorId) with
    | error e => rw [hparse] at h; cases h
    | ok lines =>
      rw [hparse] at h
      simp only [bind, Except.bind] at h
      split at h
      · cases h
      · split at h
        · cases h
        · cases h
          rfl

theorem findKey_eq_none_of_free {key : κ} (hfree : ∀ i, ledger.hasKey (key, i) = false) :
    ledger.findKey key = none := by
  rw [Ledger.findKey, List.find?_eq_none]
  intro entry hentry hkey
  have htaken : ledger.hasKey (key, 0) = true := List.any_eq_true.mpr ⟨entry, hentry, hkey⟩
  rw [hfree 0] at htaken
  cases htaken

theorem recordJournal_keys (h : recordJournal ledger input = .ok (ledger', receipt))
    (hnew : receipt.isDuplicate = false) :
    receipt.entries.map PlatformLedgerEntry.idempotencyKey =
      (List.range' 0 input.lines.length).map fun i => input.idempotencyKey.map fun k => (k, i) := by
  unfold recordJournal at h
  split at h
  · cases h
  cases hfind : input.idempotencyKey.bind ledger.findKey with
  | some existing =>
    rw [hfind] at h
    cases h
    cases hnew
  | none =>
    rw [hfind] at h
    cases hparse : input.lines.mapM (parseLine input.vendorId) with
    | error e => rw [hparse] at h; cases h
    | ok lines =>
      rw [hparse] at h
      simp only [bind, Except.bind] at h
      split at h
      · cases h
      · split at h
        · cases h
        next entries hentries =>
          cases h
          have hlength : input.lines.length = lines.length := by
            simpa using congrArg List.length (mapM_parseLine_eq_ok hparse)
          rw [hlength]
          exact persistLines_keys hentries

theorem recordJournal_entry_key {key : κ} (hkey : input.idempotencyKey = some key)
    (h : recordJournal ledger input = .ok (ledger', receipt)) (hnew : receipt.isDuplicate = false) :
    ∀ entry ∈ receipt.entries, ∃ i, entry.idempotencyKey = some (key, i) := by
  have hkeys := recordJournal_keys h hnew
  rw [hkey] at hkeys
  intro entry hentry
  have hmem := List.mem_map_of_mem (f := PlatformLedgerEntry.idempotencyKey) hentry
  rw [hkeys] at hmem
  obtain ⟨i, -, hi⟩ := List.mem_map.mp hmem
  exact ⟨i, hi.symm⟩

/-- The postings of a caller's lines as the ledger's columns store them. -/
def storedPostings (vendorId : Option Id) (lines : List JournalEntryLineInput) :
    List (Posting LedgerAccount Decimal) :=
  (lines.filterMap fun line => line.posting? vendorId).map (Posting.stored 2)

theorem filterMap_posting? {vendorId : Option Id} {lines : List JournalEntryLineInput}
    {parsed : List ParsedLine}
    (h : lines.map (JournalEntryLineInput.posting? · vendorId) =
      parsed.map fun line => some line.posting) :
    (lines.filterMap fun line => line.posting? vendorId) = parsed.map ParsedLine.posting := by
  calc (lines.filterMap fun line => line.posting? vendorId)
      = (lines.map fun line => line.posting? vendorId).filterMap id := by
        rw [List.filterMap_map]
        rfl
    _ = parsed.map ParsedLine.posting := by
        rw [h, List.filterMap_map]
        show parsed.filterMap (some ∘ ParsedLine.posting) = _
        exact congrFun List.filterMap_eq_map parsed

theorem recordJournal_postings (h : recordJournal ledger input = .ok (ledger', receipt))
    (hnew : receipt.isDuplicate = false) :
    receipt.entries.map PlatformLedgerEntry.posting = storedPostings input.vendorId input.lines := by
  rcases recordJournal_eq_ok h with ⟨hdup, -⟩ | ⟨-, lines, hlines, -, -, -, hpostings⟩
  · rw [hnew] at hdup
    cases hdup
  · rw [hpostings, storedPostings, filterMap_posting? hlines]

/-! ## The rows of a key -/

/-- The rows of the journals under a caller's key. -/
def Ledger.rowsOf (ledger : Ledger κ) (key : κ) : List (PlatformLedgerEntry κ) :=
  ledger.entries.filter fun entry => entry.idempotencyKey.any fun k => k.1 = key

theorem Ledger.hasKey_of_rowsOf_eq_nil {key : κ} (h : ledger.rowsOf key = []) (i : ℕ) :
    ledger.hasKey (key, i) = false := by
  rw [Ledger.hasKey, List.any_eq_false]
  intro entry hentry hkey
  have hrow := List.filter_eq_nil_iff.mp h entry hentry
  rw [of_decide_eq_true hkey] at hrow
  simp at hrow

theorem recordJournal_rowsOf {key : κ} (hkey : input.idempotencyKey = some key)
    (h : recordJournal ledger input = .ok (ledger', receipt)) (other : κ) :
    ledger'.rowsOf other =
      ledger.rowsOf other ++
        if receipt.isDuplicate = false ∧ other = key then receipt.entries else [] := by
  rcases recordJournal_eq_ok h with ⟨hdup, rfl⟩ | ⟨hnew, -, -, -, hledger, -, -⟩
  · simp [hdup]
  · have hrow := recordJournal_entry_key hkey h hnew
    rw [hledger, Ledger.rowsOf, Ledger.rowsOf, List.filter_append]
    congr 1
    by_cases hother : other = key
    · rw [if_pos ⟨hnew, hother⟩, List.filter_eq_self]
      intro entry hentry
      obtain ⟨i, hi⟩ := hrow entry hentry
      simp [hi, hother]
    · rw [if_neg fun h => hother h.2, List.filter_eq_nil_iff]
      intro entry hentry
      obtain ⟨i, hi⟩ := hrow entry hentry
      simpa [hi] using Ne.symm hother

theorem recordJournal_findKey_isSome {key : κ} (hkey : input.idempotencyKey = some key)
    (h : recordJournal ledger input = .ok (ledger', receipt)) :
    (ledger'.findKey key).isSome = true := by
  have hdup := recordJournal_isDuplicate h
  rw [hkey, Option.bind_some] at hdup
  rcases recordJournal_eq_ok h with ⟨hold, rfl⟩ | ⟨hnew, -, -, -, hledger, -, -⟩
  · rw [← hdup, hold]
  · have hkeys := recordJournal_keys h hnew
    have htwo : 2 ≤ input.lines.length := by
      by_contra hlt
      rw [recordJournal, if_pos (not_le.mp hlt)] at h
      cases h
    have hfirst : some (key, 0) ∈ receipt.entries.map PlatformLedgerEntry.idempotencyKey := by
      rw [hkeys, hkey]
      exact List.mem_map.mpr ⟨0, List.mem_range'_1.mpr ⟨le_refl 0, by omega⟩, rfl⟩
    obtain ⟨entry, hentry, hentryKey⟩ := List.mem_map.mp hfirst
    rw [hledger, Ledger.findKey, List.find?_isSome]
    exact ⟨entry, List.mem_append_right _ hentry, decide_eq_true hentryKey⟩

theorem recordJournal_findKey_mono {key : κ} (h : recordJournal ledger input = .ok (ledger', receipt))
    (hfound : (ledger.findKey key).isSome = true) : (ledger'.findKey key).isSome = true := by
  rcases recordJournal_eq_ok h with ⟨-, rfl⟩ | ⟨-, -, -, -, hledger, -, -⟩
  · exact hfound
  · obtain ⟨entry, hentry, hentryKey⟩ := List.find?_isSome.mp hfound
    rw [hledger, Ledger.findKey, List.find?_isSome]
    exact ⟨entry, List.mem_append_left _ hentry, hentryKey⟩

end Recording

end CarRental
