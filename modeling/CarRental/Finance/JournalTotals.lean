import CarRental.Finance.LedgerCore

/-!
# When a journal is accepted

Callers that leave out what is not positive pass journals whose lines all pass the checks of
the validation loop.  Under an unused key such a journal is accepted exactly if its two running
totals are equal (`recordJournal_isOk_iff_totals`).
-/

namespace CarRental

open DoubleEntry Rounding

/-- The running total of a side, from the lines as the caller passes them. -/
def inputTotal (side : LedgerEntrySide) (lines : List JournalEntryLineInput) : Decimal :=
  sumDigits Decimal.precision 0
    ((lines.filter fun line => line.side = some side).map JournalEntryLineInput.amount)

/-- A positive amount on a named side that fits the column. -/
structure JournalEntryLineInput.Valid (line : JournalEntryLineInput) : Prop where
  positive : 0 < line.amount
  sided : line.side.isSome
  fits : line.amount ≤ 10 ^ 9

section Acceptance

variable {κ : Type} [DecidableEq κ] {ledger : Ledger κ} {key : κ} {vendorId : Option Id}
  {lines : List JournalEntryLineInput}

theorem parseLine_of_valid (vendorId : Option Id) {line : JournalEntryLineInput} (h : line.Valid) :
    ∃ parsed, parseLine vendorId line = .ok parsed ∧ some parsed.side = line.side ∧
      parsed.amount = line.amount := by
  unfold parseLine
  rw [dif_pos h.positive]
  cases hside : line.side with
  | none =>
    have := h.sided
    rw [hside] at this
    cases this
  | some side => exact ⟨_, rfl, rfl, rfl⟩

theorem mapM_parseLine_of_valid (vendorId : Option Id) (h : ∀ line ∈ lines, line.Valid) :
    ∃ parsed, lines.mapM (parseLine vendorId) = .ok parsed ∧
      parsed.map (fun line => (some line.side, line.amount)) =
        lines.map fun line => (line.side, line.amount) := by
  induction lines with
  | nil => exact ⟨[], rfl, rfl⟩
  | cons line rest ih =>
    obtain ⟨others, hothers, hmap⟩ := ih fun other hother => h other (List.mem_cons_of_mem _ hother)
    obtain ⟨first, hfirst, hside, hamount⟩ :=
      parseLine_of_valid vendorId (h line (List.mem_cons_self ..))
    refine ⟨first :: others, ?_, ?_⟩
    · rw [List.mapM_cons, hfirst, hothers]
      rfl
    · rw [List.map_cons, List.map_cons, hmap, hside, hamount]

theorem runningTotal_eq_inputTotal {parsed : List ParsedLine} (side : LedgerEntrySide)
    (hmap : parsed.map (fun line => (some line.side, line.amount)) =
      lines.map fun line => (line.side, line.amount)) :
    runningTotal side parsed = inputTotal side lines := by
  have hparsed : amounts side (parsed.map ParsedLine.posting) =
      ((parsed.map fun line => (some line.side, line.amount)).filter
        fun p => p.1 = some side).map Prod.snd := by
    simp only [amounts, List.filter_map, List.map_map]
    congr 1
    exact List.filter_congr fun line _ =>
      decide_eq_decide.mpr (by simp [ParsedLine.posting])
  rw [runningTotal, inputTotal, hparsed, hmap, List.filter_map, List.map_map]
  rfl

theorem ofDecimal?_isSome {amount : Decimal} (hpositive : 0 < amount) (hfits : amount ≤ 10 ^ 9) :
    ∃ column : Column 12, Column.ofDecimal? amount = some column := by
  have hnonneg : 0 ≤ roundAway (amount * 100) := roundAway_nonneg (by linarith)
  have hle : roundAway (amount * 100) ≤ 10 ^ 11 := by
    have hmono : roundAway (amount * 100) ≤ roundAway (((10 ^ 11 : ℤ) : ℚ)) :=
      roundAway_mono (by push_cast; linarith)
    rwa [roundAway_intCast] at hmono
  have hlt : |roundAway (amount * 100)| < 10 ^ 12 := by
    rw [abs_of_nonneg hnonneg]
    exact lt_of_le_of_lt hle (by norm_num)
  exact ⟨⟨_, hlt⟩, by rw [Column.ofDecimal?, Column.ofPaise?, dif_pos hlt]⟩

theorem persistLines_of_valid (journalId : JournalId) {parsed : List ParsedLine} (index : ℕ)
    (hfree : ∀ i, ledger.hasKey (key, i) = false)
    (hfits : ∀ line ∈ parsed, line.amount ≤ 10 ^ 9) :
    ∃ entries, persistLines ledger journalId (some key) parsed index = .ok entries := by
  induction parsed generalizing index with
  | nil => exact ⟨[], rfl⟩
  | cons line rest ih =>
    obtain ⟨entries, hentries⟩ :=
      ih (index + 1) fun other hother => hfits other (List.mem_cons_of_mem _ hother)
    obtain ⟨amount, hamount⟩ :=
      ofDecimal?_isSome line.positive (hfits line (List.mem_cons_self ..))
    simp only [persistLines, persistLine, Option.map_some, Option.any_some, hfree,
      Bool.false_eq_true, if_false, hamount, hentries]
    exact ⟨_, rfl⟩

theorem recordJournal_isOk_iff_totals {journalId : Option Id}
    (hfree : ∀ i, ledger.hasKey (key, i) = false) (htwo : 2 ≤ lines.length)
    (hvalid : ∀ line ∈ lines, line.Valid) :
    (recordJournal ledger ⟨lines, some key, vendorId, journalId⟩).isOk ↔
      inputTotal .debit lines = inputTotal .credit lines := by
  obtain ⟨parsed, hparsed, hmap⟩ := mapM_parseLine_of_valid vendorId hvalid
  have hfits : ∀ line ∈ parsed, line.amount ≤ 10 ^ 9 := by
    intro line hline
    have hmem : (some line.side, line.amount) ∈ lines.map fun line => (line.side, line.amount) := by
      rw [← hmap]
      exact List.mem_map_of_mem hline
    obtain ⟨input, hinput, heq⟩ := List.mem_map.mp hmem
    have hamount : input.amount = line.amount := congrArg Prod.snd heq
    exact hamount ▸ (hvalid input hinput).fits
  have hnone : (some key).bind ledger.findKey = none := findKey_eq_none_of_free hfree
  unfold recordJournal
  dsimp only
  rw [if_neg (not_lt.mpr htwo), hnone, hparsed]
  simp only [bind, Except.bind, runningTotal_eq_inputTotal _ hmap]
  by_cases heq : inputTotal .debit lines = inputTotal .credit lines
  · obtain ⟨entries, hentries⟩ := persistLines_of_valid
      ((journalId.map JournalId.given).getD (.generated ledger.generated)) 0 hfree hfits
    simp only [heq, hentries, ne_eq, not_true_eq_false, if_false]
    exact iff_of_true rfl trivial
  · simp [heq, Except.isOk, Except.toBool]

theorem amounts_filterMap_posting? (side : LedgerEntrySide) (vendorId : Option Id)
    (lines : List JournalEntryLineInput) :
    amounts side (lines.filterMap fun line => line.posting? vendorId) =
      (lines.filter fun line => line.side = some side).map JournalEntryLineInput.amount := by
  induction lines with
  | nil => rfl
  | cons line rest ih =>
    cases hside : line.side with
    | none => simpa [JournalEntryLineInput.posting?, hside, amounts] using ih
    | some named =>
      by_cases hnamed : named = side
      · simpa [JournalEntryLineInput.posting?, hside, amounts, hnamed] using ih
      · simpa [JournalEntryLineInput.posting?, hside, amounts, hnamed] using ih

theorem recordJournal_balanced {ledger' : Ledger κ} {input : RecordJournalInput κ}
    {receipt : JournalReceipt κ} (h : recordJournal ledger input = .ok (ledger', receipt))
    (hnew : receipt.isDuplicate = false) :
    inputTotal .debit input.lines = inputTotal .credit input.lines := by
  rcases recordJournal_eq_ok h with ⟨hdup, -⟩ | ⟨-, parsed, hlines, hbalanced, -⟩
  · rw [hnew] at hdup
    cases hdup
  · have htotal : ∀ side, inputTotal side input.lines = runningTotal side parsed := by
      intro side
      rw [inputTotal, runningTotal, ← amounts_filterMap_posting? side input.vendorId,
        filterMap_posting? hlines]
    rw [htotal, htotal, hbalanced]

end Acceptance

end CarRental
