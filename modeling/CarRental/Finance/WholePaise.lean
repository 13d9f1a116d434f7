import CarRental.Finance.LedgerCore
import Mathlib.Algebra.BigOperators.Group.List.Lemmas
import Mathlib.Data.List.Forall2

/-!
# Journals of whole paise

Most callers of `recordJournal` pass column values, so their lines are whole
numbers of paise.  For those the balance test is exact, and the journal is
accepted exactly when every line is positive and the paise of its two sides are
equal (`recordJournal_isOk_iff`).
-/

set_option linter.unusedSectionVars false

namespace CarRental

open DoubleEntry Rounding

structure PaiseLine where
  accountType : LedgerAccountType
  accountEntityId : Option Id
  side : LedgerEntrySide
  paise : ℤ
deriving DecidableEq

def PaiseLine.input (line : PaiseLine) : JournalEntryLineInput where
  accountType := line.accountType
  accountEntityId := line.accountEntityId
  side := some line.side
  amount := line.paise / 100

def paiseTotal (side : LedgerEntrySide) (lines : List PaiseLine) : ℤ :=
  ((lines.filter fun line => line.side = side).map PaiseLine.paise).sum

/-- The journal of some lines, with the fields that the callers leave out left out. -/
def paiseJournal {κ : Type} (key : κ) (vendorId : Option Id) (lines : List PaiseLine) :
    RecordJournalInput κ where
  lines := lines.map PaiseLine.input
  idempotencyKey := some key
  vendorId
  journalId := none

@[simp] theorem paiseTotal_nil (side : LedgerEntrySide) : paiseTotal side [] = 0 := rfl

@[simp] theorem paiseTotal_cons (side : LedgerEntrySide) (line : PaiseLine)
    (lines : List PaiseLine) :
    paiseTotal side (line :: lines) =
      (if line.side = side then line.paise else 0) + paiseTotal side lines := by
  by_cases h : line.side = side <;> simp [paiseTotal, h]

theorem paiseTotal_append (side : LedgerEntrySide) (first second : List PaiseLine) :
    paiseTotal side (first ++ second) = paiseTotal side first + paiseTotal side second := by
  simp [paiseTotal]

/-- A line that is left out unless its amount is positive. -/
def positiveLine (accountType : LedgerAccountType) (accountEntityId : Option Id)
    (side : LedgerEntrySide) (paise : ℤ) : List PaiseLine :=
  if 0 < paise then [⟨accountType, accountEntityId, side, paise⟩] else []

theorem paiseTotal_positiveLine (accountType : LedgerAccountType) (accountEntityId : Option Id)
    (side other : LedgerEntrySide) (paise : ℤ) :
    paiseTotal side (positiveLine accountType accountEntityId other paise) =
      if other = side then max paise 0 else 0 := by
  unfold positiveLine
  by_cases hpaise : 0 < paise
  · simp [hpaise, max_eq_left hpaise.le]
  · simp [hpaise, max_eq_right (not_lt.mp hpaise)]

theorem mem_positiveLine {accountType : LedgerAccountType} {accountEntityId : Option Id}
    {side : LedgerEntrySide} {paise : ℤ} {line : PaiseLine}
    (h : line ∈ positiveLine accountType accountEntityId side paise) :
    line = ⟨accountType, accountEntityId, side, paise⟩ ∧ 0 < paise := by
  unfold positiveLine at h
  split at h
  next hpaise => exact ⟨List.mem_singleton.mp h, hpaise⟩
  · cases h

theorem length_positiveLine (accountType : LedgerAccountType) (accountEntityId : Option Id)
    (side : LedgerEntrySide) (paise : ℤ) :
    (positiveLine accountType accountEntityId side paise).length = if 0 < paise then 1 else 0 := by
  unfold positiveLine
  split <;> rfl

/-! ## Parsing -/

section Parsing

variable (vendorId : Option Id) {lines : List PaiseLine}

def PaiseLine.parsed (line : PaiseLine) (h : 0 < line.paise) :
    ParsedLine where
  accountType := line.accountType
  accountEntityId := line.accountEntityId <|> vendorId
  side := line.side
  amount := line.paise / 100
  positive := by
    have : (0 : ℚ) < line.paise := by exact_mod_cast h
    positivity

theorem parseLine_input {line : PaiseLine} (h : 0 < line.paise) :
    parseLine vendorId line.input = .ok (line.parsed vendorId h) := by
  have hpositive : 0 < line.input.amount := (line.parsed vendorId h).positive
  unfold parseLine
  rw [dif_pos hpositive]
  rfl

theorem parseLine_input_error {line : PaiseLine} (h : line.paise ≤ 0) :
    ∃ e, parseLine vendorId line.input = .error e := by
  have hamount : ¬ 0 < line.input.amount := by
    have : (line.paise : ℚ) ≤ 0 := by exact_mod_cast h
    simp only [PaiseLine.input, not_lt]
    linarith
  exact ⟨_, by unfold parseLine; rw [dif_neg hamount]⟩

theorem mapM_parseLine_input (h : ∀ line ∈ lines, 0 < line.paise) :
    ∃ parsed, (lines.map PaiseLine.input).mapM (parseLine vendorId) = .ok parsed ∧
      parsed.map (fun line => (line.side, line.amount)) =
        lines.map fun line => (line.side, (line.paise : ℚ) / 100) := by
  induction lines with
  | nil => exact ⟨[], rfl, rfl⟩
  | cons line rest ih =>
    obtain ⟨parsed, hparsed, hmap⟩ := ih fun other hother => h other (List.mem_cons_of_mem _ hother)
    have hline := h line (List.mem_cons_self ..)
    refine ⟨line.parsed vendorId hline :: parsed, ?_, ?_⟩
    · rw [List.map_cons, List.mapM_cons, parseLine_input vendorId hline, hparsed]
      rfl
    · rw [List.map_cons, List.map_cons, hmap]
      rfl

theorem mapM_parseLine_input_error (h : ¬ ∀ line ∈ lines, 0 < line.paise) :
    ∃ e, (lines.map PaiseLine.input).mapM (parseLine vendorId) = .error e := by
  induction lines with
  | nil => simp at h
  | cons line rest ih =>
    rw [List.map_cons, List.mapM_cons]
    by_cases hline : 0 < line.paise
    · have hrest : ¬ ∀ other ∈ rest, 0 < other.paise := fun hall =>
        h fun other hother => by
          rcases List.mem_cons.mp hother with rfl | hmem
          · exact hline
          · exact hall other hmem
      obtain ⟨e, he⟩ := ih hrest
      rw [parseLine_input vendorId hline, he]
      exact ⟨e, rfl⟩
    · obtain ⟨e, he⟩ := parseLine_input_error vendorId (not_lt.mp hline)
      rw [he]
      exact ⟨e, rfl⟩

end Parsing

/-! ## The balance test -/

section Balance

variable {lines : List PaiseLine} {parsed : List ParsedLine}

/-- Fits the amount column of the ledger. -/
def PaiseLine.Fits (line : PaiseLine) : Prop := |line.paise| < 10 ^ 12

theorem amounts_parsed (side : LedgerEntrySide)
    (hmap : parsed.map (fun line => (line.side, line.amount)) =
      lines.map fun line => (line.side, (line.paise : ℚ) / 100)) :
    amounts side (parsed.map ParsedLine.posting) =
      (lines.filter fun line => line.side = side).map fun line => (line.paise : ℚ) / 100 := by
  have hparsed : amounts side (parsed.map ParsedLine.posting) =
      ((parsed.map fun line => (line.side, line.amount)).filter fun p => p.1 = side).map Prod.snd := by
    simp only [amounts, List.filter_map, List.map_map]
    rfl
  rw [hparsed, hmap, List.filter_map, List.map_map]
  rfl

theorem cast_sum_paise (lines : List PaiseLine) :
    (lines.map fun line => (line.paise : ℚ) / 100).sum =
      ((lines.map PaiseLine.paise).sum : ℤ) / 100 := by
  induction lines with
  | nil => simp
  | cons line rest ih =>
    rw [List.map_cons, List.sum_cons, ih, List.map_cons, List.sum_cons]
    push_cast
    ring

theorem runningTotal_parsed (side : LedgerEntrySide) (hlen : lines.length ≤ 1000)
    (hfits : ∀ line ∈ lines, line.Fits)
    (hmap : parsed.map (fun line => (line.side, line.amount)) =
      lines.map fun line => (line.side, (line.paise : ℚ) / 100)) :
    runningTotal side parsed = (paiseTotal side lines : ℚ) / 100 := by
  rw [runningTotal, amounts_parsed side hmap]
  set chosen := lines.filter fun line => line.side = side with hchosen
  have hcount : (chosen.length : ℚ) ≤ 1000 := by
    exact_mod_cast (List.length_filter_le ..).trans hlen
  have habs : ((chosen.map fun line => (line.paise : ℚ) / 100).map abs).sum ≤ 1000 * 10 ^ 10 := by
    have hcard := List.sum_le_card_nsmul ((chosen.map fun line => (line.paise : ℚ) / 100).map abs)
      ((10 : ℚ) ^ 10) (by
        intro x hx
        obtain ⟨y, hy, rfl⟩ := List.mem_map.mp hx
        obtain ⟨line, hline, rfl⟩ := List.mem_map.mp hy
        have hfit : |(line.paise : ℚ)| < 10 ^ 12 := by
          exact_mod_cast hfits line (List.mem_filter.mp hline).1
        rw [abs_div, abs_of_pos (by norm_num : (0 : ℚ) < 100)]
        norm_num at hfit ⊢
        linarith)
    rw [nsmul_eq_mul, List.length_map, List.length_map] at hcard
    exact hcard.trans (mul_le_mul_of_nonneg_right hcount (by norm_num))
  rw [sumDigits_of_onGrid (onGrid_zero : OnGrid 2 (0 : ℚ)), zero_add, cast_sum_paise]
  · rfl
  · intro x hx
    obtain ⟨line, -, rfl⟩ := List.mem_map.mp hx
    exact ⟨line.paise, by norm_num⟩
  · rw [abs_zero, zero_add]
    norm_num [Decimal.precision] at habs ⊢
    linarith

theorem ofDecimal?_paise {paise : ℤ} (h : |paise| < 10 ^ 12) :
    ∃ amount : Column 12, Column.ofDecimal? ((paise : ℚ) / 100) = some amount := by
  refine ⟨⟨paise, h⟩, ?_⟩
  have hround : roundAway ((paise : ℚ) / 100 * 100) = paise := by
    rw [div_mul_cancel₀ _ (by norm_num), roundAway_intCast]
  rw [Column.ofDecimal?, hround]
  exact Column.ofPaise?_eq_some.mpr rfl

theorem persistLines_isOk {κ : Type} [DecidableEq κ] {ledger : Ledger κ} {key : κ}
    (journalId : JournalId) {lines : List PaiseLine} {parsed : List ParsedLine} (index : ℕ)
    (hfree : ∀ i, ledger.hasKey (key, i) = false) (hfits : ∀ line ∈ lines, line.Fits)
    (hmap : parsed.map (fun line => (line.side, line.amount)) =
      lines.map fun line => (line.side, (line.paise : ℚ) / 100)) :
    ∃ entries, persistLines ledger journalId (some key) parsed index = .ok entries := by
  induction parsed generalizing lines index with
  | nil => exact ⟨[], rfl⟩
  | cons line rest ih =>
    cases lines with
    | nil => simp at hmap
    | cons paiseLine others =>
      rw [List.map_cons, List.map_cons, List.cons.injEq] at hmap
      obtain ⟨hhead, htail⟩ := hmap
      obtain ⟨entries, hentries⟩ := ih (index + 1)
        (fun other hother => hfits other (List.mem_cons_of_mem _ hother)) htail
      obtain ⟨amount, hamount⟩ :=
        ofDecimal?_paise (hfits paiseLine (List.mem_cons_self ..))
      have hvalue : line.amount = (paiseLine.paise : ℚ) / 100 := congrArg Prod.snd hhead
      rw [← hvalue] at hamount
      simp only [persistLines, persistLine, Option.map_some, Option.any_some, hfree,
        Bool.false_eq_true, if_false, hamount, hentries]
      exact ⟨_, rfl⟩

end Balance

/-! ## Acceptance -/

theorem recordJournal_isOk_iff {κ : Type} [DecidableEq κ] {ledger : Ledger κ} {key : κ}
    {vendorId : Option Id} {lines : List PaiseLine}
    (hfree : ∀ i, ledger.hasKey (key, i) = false) (hlen : lines.length ≤ 1000)
    (hfits : ∀ line ∈ lines, line.Fits) :
    (recordJournal ledger (paiseJournal key vendorId lines)).isOk ↔
      2 ≤ lines.length ∧ (∀ line ∈ lines, 0 < line.paise) ∧
        paiseTotal .debit lines = paiseTotal .credit lines := by
  have hnone : (some key).bind ledger.findKey = none := findKey_eq_none_of_free hfree
  unfold recordJournal
  simp only [paiseJournal, List.length_map, hnone]
  by_cases htwo : lines.length < 2
  · rw [if_pos htwo]
    simp only [Except.isOk, Except.toBool, Bool.false_eq_true, false_iff]
    omega
  rw [if_neg htwo]
  by_cases hpositive : ∀ line ∈ lines, 0 < line.paise
  · obtain ⟨parsed, hparsed, hmap⟩ := mapM_parseLine_input vendorId hpositive
    obtain ⟨entries, hentries⟩ := persistLines_isOk (.generated ledger.generated) 0
      hfree hfits hmap
    have hdebit := runningTotal_parsed .debit hlen hfits hmap
    have hcredit := runningTotal_parsed .credit hlen hfits hmap
    rw [hparsed]
    simp only [bind, Except.bind, hdebit, hcredit]
    by_cases heq : paiseTotal .debit lines = paiseTotal .credit lines
    · simp only [heq, hentries, ne_eq, not_true_eq_false, if_false, Option.map_none,
        Option.getD_none, and_true]
      exact ⟨fun _ => ⟨not_lt.mp htwo, hpositive⟩, fun _ => rfl⟩
    · have hne : (paiseTotal .debit lines : ℚ) / 100 ≠ (paiseTotal .credit lines : ℚ) / 100 := by
        intro h
        refine heq ?_
        have : (paiseTotal .debit lines : ℚ) = paiseTotal .credit lines := by linarith
        exact_mod_cast this
      simp [heq, hne, Except.isOk, Except.toBool]
  · obtain ⟨e, he⟩ := mapM_parseLine_input_error vendorId hpositive
    rw [he]
    simp [bind, Except.bind, Except.isOk, Except.toBool, hpositive]

/-! ## What is stored -/

/-- What a row says: its account, its side and its paise. -/
def PlatformLedgerEntry.paiseLine {κ : Type} (entry : PlatformLedgerEntry κ) : PaiseLine :=
  ⟨entry.accountType, entry.accountEntityId, entry.side, entry.amount.paise⟩

theorem toScale_paise (paise : ℤ) : toScale 2 ((paise : ℚ) / 100) = paise / 100 :=
  toScale_of_onGrid ⟨paise, by norm_num⟩

theorem recordJournal_stored {κ : Type} [DecidableEq κ] {ledger ledger' : Ledger κ} {key : κ}
    {vendorId : Option Id} {lines : List PaiseLine} {receipt : JournalReceipt κ}
    (hfree : ∀ i, ledger.hasKey (key, i) = false)
    (h : recordJournal ledger (paiseJournal key vendorId lines) = .ok (ledger', receipt)) :
    receipt.isDuplicate = false ∧
      (∀ entry ∈ receipt.entries, entry.journalId = receipt.journalId) ∧
      receipt.entries.map PlatformLedgerEntry.paiseLine =
        lines.map fun line =>
          { line with accountEntityId := line.accountEntityId <|> vendorId } := by
  have hnew : receipt.isDuplicate = false := by
    rw [recordJournal_isDuplicate h, paiseJournal, Option.bind_some, findKey_eq_none_of_free hfree]
    rfl
  rcases recordJournal_eq_ok h with ⟨hdup, -⟩ | ⟨-, parsed, hlines, -, -, hids, hpostings⟩
  · rw [hdup] at hnew
    cases hnew
  refine ⟨hnew, hids, ?_⟩
  -- a row is determined by its posting
  have hrow : ∀ entry : PlatformLedgerEntry κ, ∀ line : PaiseLine,
      some entry.posting = (line.input.posting? vendorId).map (Posting.stored 2) →
        entry.paiseLine = { line with accountEntityId := line.accountEntityId <|> vendorId } := by
    intro entry line heq
    simp only [JournalEntryLineInput.posting?, PaiseLine.input, Option.map_some,
      Option.some.injEq, Posting.stored, toScale_paise, PlatformLedgerEntry.posting,
      Posting.mk.injEq, Prod.mk.injEq] at heq
    obtain ⟨⟨htype, hentity⟩, hside, hamount⟩ := heq
    have hpaise : entry.amount.paise = line.paise := by
      rw [Column.value] at hamount
      have hcast : (entry.amount.paise : ℚ) = line.paise := by linarith
      exact_mod_cast hcast
    rw [PlatformLedgerEntry.paiseLine, htype, hentity, hside, hpaise]
  have hstored : receipt.entries.map (fun entry => some entry.posting) =
      lines.map fun line => (line.input.posting? vendorId).map (Posting.stored 2) := by
    have hsome := congrArg (List.map (Option.map (Posting.stored 2))) hlines
    simp only [paiseJournal, List.map_map] at hsome
    have hleft := congrArg (List.map some) hpostings
    simp only [List.map_map] at hleft
    exact hleft.trans hsome.symm
  rw [← List.forall₂_eq_eq_eq, List.forall₂_map_left_iff, List.forall₂_map_right_iff] at hstored ⊢
  exact hstored.imp hrow

end CarRental
