import CarRental.Finance.LedgerCore
import CarRental.Lib.Runs

/-!
# Integrity of the stored ledger

`recordJournal` compares debits and credits before the column rounds each line,
so a journal of proportional amounts can be accepted and stored unbalanced.

## Strategy

* The running totals of the check are the exact totals up to a tenth of a paisa
  (`abs_runningTotal_sub_le`), so an accepted journal is balanced up to less than
  half a paisa (`abs_net_lt_of_runningTotal_eq`).
* By `DoubleEntry.balanced_stored_iff` it is then stored balanced exactly when
  the fractions of a paisa that the column adds to its two sides agree up to half
  a paisa (`RoundsEvenly`).
* The audit's sum of a journal is exact, because stored amounts are whole paise,
  so a clean ledger stays clean exactly under that condition
  (`ledgerClean_step_iff`).
-/

set_option linter.unusedSectionVars false

namespace CarRental

open DoubleEntry Rounding Runs

variable {κ : Type} [DecidableEq κ]

/-! ## The condition -/

/-- The postings a journal asks for; lines without a side ask for none. -/
def RecordJournalInput.postings (input : RecordJournalInput κ) :
    List (Posting LedgerAccount Decimal) :=
  input.lines.filterMap (JournalEntryLineInput.posting? · input.vendorId)

/-- The fractions of a paisa that the amount column adds to the debit lines and
to the credit lines differ by less than half a paisa. -/
def RoundsEvenly (input : RecordJournalInput κ) : Prop :=
  |residue 2 .debit input.postings - residue 2 .credit input.postings| < 1 / 2 / 10 ^ 2

instance (input : RecordJournalInput κ) : Decidable (RoundsEvenly input) :=
  inferInstanceAs (Decidable (_ < _))

def recordedEntries (ledger : Ledger κ) (input : RecordJournalInput κ) :
    List (PlatformLedgerEntry κ) :=
  match recordJournal ledger input with
  | .ok (_, receipt) => if receipt.isDuplicate then [] else receipt.entries
  | .error _ => []

/-- One call of `recordJournal`: a refused journal changes nothing. -/
def ledgerStep (ledger : Ledger κ) (input : RecordJournalInput κ) : Ledger κ :=
  match recordJournal ledger input with
  | .ok (ledger', _) => ledger'
  | .error _ => ledger

/-- Debits and credits of a list of stored entries are equal. -/
def BalancedEntries (entries : List (PlatformLedgerEntry κ)) : Prop :=
  total .debit (entries.map PlatformLedgerEntry.posting) =
    total .credit (entries.map PlatformLedgerEntry.posting)

instance (entries : List (PlatformLedgerEntry κ)) : Decidable (BalancedEntries entries) :=
  inferInstanceAs (Decidable (_ = _))

/-- The audit reports no unbalanced journal. -/
def LedgerClean (ledger : Ledger κ) : Prop :=
  (verifyLedgerIntegrity ledger).unbalancedJournals = []

instance (ledger : Ledger κ) : Decidable (LedgerClean ledger) :=
  inferInstanceAs (Decidable (_ = _))

/-! ## The balance test -/

section BalanceTest

variable {lines : List ParsedLine}

theorem length_amounts_le (side : LedgerEntrySide) (lines : List ParsedLine) :
    (amounts side (lines.map ParsedLine.posting)).length ≤ lines.length := by
  rw [amounts, List.length_map]
  exact (List.length_filter_le ..).trans_eq (List.length_map ..)

theorem mem_amounts_lines {side : LedgerEntrySide} {x : Decimal}
    (hx : x ∈ amounts side (lines.map ParsedLine.posting)) :
    ∃ line ∈ lines, line.amount = x := by
  obtain ⟨p, hp, rfl⟩ := List.mem_map.mp hx
  obtain ⟨line, hline, rfl⟩ := List.mem_map.mp (List.mem_filter.mp hp).1
  exact ⟨line, hline, rfl⟩

theorem abs_runningTotal_sub_le (side : LedgerEntrySide) (hlen : lines.length ≤ 1000)
    (hfit : ∀ line ∈ lines, line.amount ≤ 10 ^ 10 + 1) :
    |runningTotal side lines - total side (lines.map ParsedLine.posting)| ≤ 1 / 1000 := by
  set xs := amounts side (lines.map ParsedLine.posting) with hxs
  have hnonneg : ∀ x ∈ xs, 0 ≤ x := by
    intro x hx
    obtain ⟨line, -, rfl⟩ := mem_amounts_lines hx
    exact line.positive.le
  have hcount : (xs.length : ℚ) ≤ 1000 := by
    exact_mod_cast (length_amounts_le side lines).trans hlen
  have hsum : xs.sum ≤ 1000 * (10 ^ 10 + 1) := by
    have hcard : xs.sum ≤ xs.length • ((10 : ℚ) ^ 10 + 1) := by
      refine List.sum_le_card_nsmul xs _ fun x hx => ?_
      obtain ⟨line, hline, rfl⟩ := mem_amounts_lines hx
      exact hfit line hline
    rw [nsmul_eq_mul] at hcard
    exact hcard.trans (mul_le_mul_of_nonneg_right hcount (by norm_num))
  have hunit : (10 : ℚ) ^ (1 - (Decimal.precision : ℕ) : ℤ) / 2 = 5 / 10 ^ 20 := by
    norm_num [Decimal.precision]
  have herror : (xs.length : ℚ) * (2 * 10 ^ 13 * (10 ^ (1 - (Decimal.precision : ℕ) : ℤ) / 2)) ≤
      1 / 1000 := by
    rw [hunit]
    nlinarith [hcount]
  have hsumDigits := abs_sumDigits_sub_le Decimal.precision le_rfl hnonneg
    (by norm_num : (0 : ℚ) ≤ 2 * 10 ^ 13) (by linarith)
  rw [zero_add] at hsumDigits
  exact hsumDigits.trans herror

theorem abs_net_lt_of_runningTotal_eq (hlen : lines.length ≤ 1000)
    (hfit : ∀ line ∈ lines, line.amount ≤ 10 ^ 10 + 1)
    (heq : runningTotal .debit lines = runningTotal .credit lines) :
    |net (lines.map ParsedLine.posting)| < 1 / 2 / 10 ^ 2 := by
  have hdebit := abs_le.mp (abs_runningTotal_sub_le .debit hlen hfit)
  have hcredit := abs_le.mp (abs_runningTotal_sub_le .credit hlen hfit)
  rw [net, abs_lt]
  constructor <;> linarith [hdebit.1, hdebit.2, hcredit.1, hcredit.2]

end BalanceTest

/-! ## One journal -/

section OneJournal

variable {ledger : Ledger κ} {input : RecordJournalInput κ}

theorem ledgerStep_eq (ledger : Ledger κ) (input : RecordJournalInput κ) :
    (ledgerStep ledger input).entries = ledger.entries ++ recordedEntries ledger input := by
  unfold ledgerStep recordedEntries
  cases hrecord : recordJournal ledger input with
  | error e => simp
  | ok result =>
    obtain ⟨ledger', receipt⟩ := result
    rcases recordJournal_eq_ok hrecord with ⟨hdup, rfl⟩ | ⟨hnew, lines, -, -, rfl, -, -⟩
    · simp [hdup]
    · simp [hnew]

theorem recordedEntries_eq_nil_or (ledger : Ledger κ) (input : RecordJournalInput κ) :
    recordedEntries ledger input = [] ∨
      ∃ (lines : List ParsedLine) (journalId : JournalId),
        lines.length = input.lines.length ∧
        input.postings = lines.map ParsedLine.posting ∧
        runningTotal .debit lines = runningTotal .credit lines ∧
        (∀ entry ∈ recordedEntries ledger input, entry.journalId = journalId) ∧
        (recordedEntries ledger input).map PlatformLedgerEntry.posting =
          (lines.map ParsedLine.posting).map (Posting.stored 2) := by
  cases hrecord : recordJournal ledger input with
  | error e => exact .inl (by simp [recordedEntries, hrecord])
  | ok result =>
    obtain ⟨ledger', receipt⟩ := result
    rcases recordJournal_eq_ok hrecord with ⟨hdup, -⟩ | ⟨hnew, lines, hlines, heq, -, hids, hpost⟩
    · exact .inl (by simp [recordedEntries, hrecord, hdup])
    · have hentries : recordedEntries ledger input = receipt.entries := by
        simp [recordedEntries, hrecord, hnew]
      have hlength : lines.length = input.lines.length := by
        simpa using (congrArg List.length hlines).symm
      have hpostings : input.postings = lines.map ParsedLine.posting := by
        have := congrArg (List.filterMap id) hlines
        simpa [RecordJournalInput.postings, List.filterMap_map, Function.comp_def] using this
      exact .inr ⟨lines, receipt.journalId, hlength, hpostings, heq, hentries ▸ hids,
        hentries ▸ hpost⟩

theorem balancedEntries_recordedEntries_iff (hsize : input.lines.length ≤ 1000) :
    BalancedEntries (recordedEntries ledger input) ↔
      (recordedEntries ledger input ≠ [] → RoundsEvenly input) := by
  rcases recordedEntries_eq_nil_or ledger input with
    hnil | ⟨lines, journalId, hlength, hpostings, heq, -, hstored⟩
  · simp [hnil, BalancedEntries]
  have hfit : ∀ line ∈ lines, line.amount ≤ 10 ^ 10 + 1 := by
    intro line hline
    have hmem : line.posting.stored 2 ∈
        (recordedEntries ledger input).map PlatformLedgerEntry.posting := by
      rw [hstored]
      exact List.mem_map_of_mem (List.mem_map_of_mem hline)
    obtain ⟨entry, -, hentry⟩ := List.mem_map.mp hmem
    have hvalue : entry.amount.value = toScale 2 line.amount := congrArg Posting.amount hentry
    have hround := (abs_le.mp (abs_toScale_sub_le 2 line.amount)).1
    have hrange := (abs_lt.mp entry.amount.abs_value_lt).2
    rw [hvalue] at hrange
    norm_num at hround hrange ⊢
    linarith
  have hnear := abs_net_lt_of_runningTotal_eq (hlength ▸ hsize) hfit heq
  have hiff := balanced_stored_iff hnear
  rw [BalancedEntries, ← net_eq_zero_iff, hstored, hiff, ← hpostings, ← RoundsEvenly]
  refine ⟨fun h _ => h, fun h => ?_⟩
  by_cases hnil : recordedEntries ledger input = []
  · -- without lines there is nothing to round
    have hlines : lines = [] := by
      simpa [hnil] using hstored.symm
    simp [RoundsEvenly, hpostings, hlines, residue, amounts]
  · exact h hnil

end OneJournal

/-! ## The audit -/

section Audit

variable {ledger : Ledger κ} {input : RecordJournalInput κ}

theorem onGrid_delta (entry : PlatformLedgerEntry κ) : OnGrid 2 entry.delta := by
  unfold PlatformLedgerEntry.delta
  cases entry.side with
  | debit => exact entry.amount.onGrid_value
  | credit => exact entry.amount.onGrid_value.neg

theorem abs_delta_le (entry : PlatformLedgerEntry κ) : |entry.delta| ≤ 10 ^ 10 := by
  have hrange := entry.amount.abs_value_lt
  unfold PlatformLedgerEntry.delta
  cases entry.side with
  | debit => norm_num at hrange ⊢; linarith
  | credit => norm_num at hrange ⊢; linarith

theorem sum_delta_eq_net (entries : List (PlatformLedgerEntry κ)) :
    (entries.map PlatformLedgerEntry.delta).sum =
      net (entries.map PlatformLedgerEntry.posting) := by
  induction entries with
  | nil => simp
  | cons entry rest ih =>
    rw [List.map_cons, List.sum_cons, ih, List.map_cons, net_cons]
    rfl

theorem sumDigits_delta {entries : List (PlatformLedgerEntry κ)} (hlen : entries.length ≤ 1000) :
    sumDigits Decimal.precision 0 (entries.map PlatformLedgerEntry.delta) =
      net (entries.map PlatformLedgerEntry.posting) := by
  have habs : ((entries.map PlatformLedgerEntry.delta).map abs).sum ≤ 1000 * 10 ^ 10 := by
    have hcard := List.sum_le_card_nsmul ((entries.map PlatformLedgerEntry.delta).map abs)
      ((10 : ℚ) ^ 10) (by
        intro x hx
        obtain ⟨y, hy, rfl⟩ := List.mem_map.mp hx
        obtain ⟨entry, -, rfl⟩ := List.mem_map.mp hy
        exact abs_delta_le entry)
    rw [nsmul_eq_mul, List.length_map, List.length_map] at hcard
    have hcount : (entries.length : ℚ) ≤ 1000 := by exact_mod_cast hlen
    exact hcard.trans (mul_le_mul_of_nonneg_right hcount (by norm_num))
  rw [sumDigits_of_onGrid onGrid_zero, zero_add, sum_delta_eq_net]
  · intro x hx
    obtain ⟨entry, -, rfl⟩ := List.mem_map.mp hx
    exact onGrid_delta entry
  · rw [abs_zero, zero_add]
    norm_num [Decimal.precision] at habs ⊢
    linarith

theorem ledgerClean_iff : LedgerClean ledger ↔ ∀ journalId, journalSum ledger journalId = 0 := by
  have hempty : ∀ journalId, (∀ entry ∈ ledger.entries, entry.journalId ≠ journalId) →
      journalSum ledger journalId = 0 := by
    intro journalId hnone
    have hnil : ledger.entriesOf journalId = [] :=
      List.filter_eq_nil_iff.mpr fun entry hentry => by simpa using hnone entry hentry
    rw [journalSum, hnil]
    rfl
  unfold LedgerClean verifyLedgerIntegrity
  simp only [List.filter_eq_nil_iff, List.mem_eraseDups, List.mem_map, decide_not, Bool.not_eq_true',
    decide_eq_false_iff_not, not_not]
  constructor
  · intro h journalId
    by_cases hmem : ∃ entry ∈ ledger.entries, entry.journalId = journalId
    · exact h journalId hmem
    · push Not at hmem
      exact hempty journalId hmem
  · intro h journalId _
    exact h journalId

theorem entriesOf_ledgerStep (journalId : JournalId) :
    (ledgerStep ledger input).entriesOf journalId = ledger.entriesOf journalId ++
      (recordedEntries ledger input).filter fun entry => entry.journalId = journalId := by
  rw [Ledger.entriesOf, ledgerStep_eq, List.filter_append]
  rfl

theorem length_recordedEntries_le (hsize : input.lines.length ≤ 1000) :
    (recordedEntries ledger input).length ≤ 1000 := by
  rcases recordedEntries_eq_nil_or ledger input with
    hnil | ⟨lines, journalId, hlength, -, -, -, hstored⟩
  · simp [hnil]
  · have hcount : (recordedEntries ledger input).length = lines.length := by
      simpa using congrArg List.length hstored
    omega

theorem ledgerClean_ledgerStep (hsize : input.lines.length ≤ 1000) (hclean : LedgerClean ledger) :
    LedgerClean (ledgerStep ledger input) ↔ BalancedEntries (recordedEntries ledger input) := by
  rw [ledgerClean_iff] at hclean
  have hsum : ∀ journalId, journalSum (ledgerStep ledger input) journalId =
      sumDigits Decimal.precision 0 (((recordedEntries ledger input).filter
        fun entry => entry.journalId = journalId).map PlatformLedgerEntry.delta) := by
    intro journalId
    have hold : sumDigits Decimal.precision 0
        ((ledger.entriesOf journalId).map PlatformLedgerEntry.delta) = 0 := hclean journalId
    rw [journalSum, entriesOf_ledgerStep, List.map_append, sumDigits_append, hold]
  rw [ledgerClean_iff, BalancedEntries, ← net_eq_zero_iff,
    ← sumDigits_delta (length_recordedEntries_le hsize)]
  simp only [hsum]
  rcases recordedEntries_eq_nil_or ledger input with
    hnil | ⟨lines, newId, -, -, -, hids, -⟩
  · simp [hnil]
  constructor
  · intro h
    have hall : (recordedEntries ledger input).filter (fun entry => entry.journalId = newId) =
        recordedEntries ledger input :=
      List.filter_eq_self.mpr fun entry hentry => by simpa using hids entry hentry
    have hzero := h newId
    rwa [hall] at hzero
  · intro h journalId
    by_cases hid : journalId = newId
    · have hall : (recordedEntries ledger input).filter (fun entry => entry.journalId = journalId) =
          recordedEntries ledger input :=
        List.filter_eq_self.mpr fun entry hentry => by simpa [hid] using hids entry hentry
      rw [hall, h]
    · have hnone : (recordedEntries ledger input).filter (fun entry => entry.journalId = journalId) =
          [] :=
        List.filter_eq_nil_iff.mpr fun entry hentry => by
          simpa [hids entry hentry] using fun heq => hid heq.symm
      rw [hnone]
      rfl

theorem ledgerClean_empty : LedgerClean (Ledger.empty : Ledger κ) := by
  simp [LedgerClean, verifyLedgerIntegrity, Ledger.empty]

end Audit

/-! ## Runs -/

/-- **When the stored ledger stays balanced.**  Along any run of `recordJournal`
calls from the empty ledger, every recorded journal is stored balanced and every
audit is clean exactly when every recorded journal rounds evenly. -/
theorem stored_ledger_balanced_iff (inputs : List (RecordJournalInput κ))
    (hsize : ∀ input ∈ inputs, input.lines.length ≤ 1000) :
    Along ledgerStep (fun ledger input => BalancedEntries (recordedEntries ledger input))
        Ledger.empty inputs ∧
      Everywhere ledgerStep LedgerClean Ledger.empty inputs ↔
    Along ledgerStep (fun ledger input => recordedEntries ledger input ≠ [] → RoundsEvenly input)
      Ledger.empty inputs := by
  have haudit : Everywhere ledgerStep LedgerClean (Ledger.empty : Ledger κ) inputs ↔
      Along ledgerStep (fun ledger input => BalancedEntries (recordedEntries ledger input))
        Ledger.empty inputs :=
    everywhere_iff_along (fun _ input hinput => ledgerClean_ledgerStep (hsize input hinput))
      ledgerClean_empty
  have hjournals : Along ledgerStep
        (fun ledger input => BalancedEntries (recordedEntries ledger input))
        (Ledger.empty : Ledger κ) inputs ↔
      Along ledgerStep (fun ledger input => recordedEntries ledger input ≠ [] → RoundsEvenly input)
        Ledger.empty inputs :=
    along_congr (I := fun _ => True) (fun _ _ _ => trivial)
      (fun _ input hinput _ => balancedEntries_recordedEntries_iff (hsize input hinput)) trivial
  rw [haudit, and_self, hjournals]

/-- Two payouts of half a rupee each way. -/
theorem stored_ledger_balanced_halves :
    let half : RecordJournalInput JournalKey :=
      { lines := [⟨.vendorPayable, none, some .debit, 1 / 2⟩,
          ⟨.gatewayClearing, none, some .credit, 1 / 2⟩]
        idempotencyKey := none, vendorId := none, journalId := none }
    Along ledgerStep (fun ledger input => BalancedEntries (recordedEntries ledger input))
        Ledger.empty [half, half] ∧
      Everywhere ledgerStep LedgerClean Ledger.empty [half, half] :=
  (stored_ledger_balanced_iff _ (by decide +kernel)).mpr (by decide +kernel)

end CarRental
