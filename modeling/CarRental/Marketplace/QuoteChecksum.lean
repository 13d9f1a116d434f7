import CarRental.Marketplace.QuoteIdentity

/-!
# The checksum of a quote

`createQuote` takes the checksum over the totals as it has added them up, `getVerifiedQuote` over
the columns in which they were stored.  Both read a number from its text, so the checksum holds when
every total is the double nearest to an amount in whole paise (`ReadBack`).

The rental, the deposit and what is payable are always of this kind.  The discounts, the fees and
the taxes are running sums of doubles, and such a sum may be next to it.
-/

namespace CarRental

open Doubles Rounding DecimalText CivilDate

/-! ## Numbers that a column gives back -/

/-- The number that stands for an amount in whole paise. -/
def ReadBack (fl : ℚ → ℚ) (x : ℚ) : Prop := ∃ c, OnGrid 2 c ∧ x = fl c

section Columns

variable {fl : ℚ → ℚ} {x : ℚ} {column column' : Money}

theorem Column.abs_value_lt' (column : Money) : |column.value| < 2 * 10 ^ 8 :=
  column.abs_value_lt.trans (by norm_num)

theorem columnNumber_inj (h : Arithmetic fl)
    (heq : columnNumber fl column = columnNumber fl column') : column = column' := by
  have hread : ∀ column : Money, toScale 2 (columnNumber fl column) = column.value := by
    intro column
    exact h.toScale_fl column.onGrid_value (column.abs_value_lt'.trans (by norm_num))
  apply Column.ext
  apply Column.value_inj.mp
  rw [← hread column, heq, hread column']

theorem abs_lt_of_storedColumn (hstored : storedColumn fl x = some column) : |x| < 10 ^ 8 + 2 := by
  have hdecimal := Column.abs_lt_of_ofDecimal? hstored
  have hread : |decimalOf fl x - x| ≤ 1 / 2 := abs_decimalOf_sub_le x
  have htriangle : |x| - |decimalOf fl x| ≤ |decimalOf fl x - x| := by
    rw [abs_sub_comm]
    exact abs_sub_abs_le_abs_sub x (decimalOf fl x)
  linarith

theorem stored_readBack (h : Arithmetic fl) (hstored : storedColumn fl x = some column) :
    ReadBack fl x ↔ x = columnNumber fl column := by
  constructor
  · rintro ⟨c, hgrid, rfl⟩
    have hlarge := abs_lt_of_storedColumn hstored
    have hbound : |c| < 2 * 10 ^ 8 := by
      have herror : |c| - |fl c| ≤ |c| / 2 ^ 53 :=
        (abs_sub_abs_le_abs_sub c (fl c)).trans (abs_sub_comm c (fl c) ▸ h.error c)
      linarith
    rw [storedColumn, h.decimalOf_fl hgrid hbound] at hstored
    rw [columnNumber, Column.value_of_ofDecimal? hstored, toScale_of_onGrid hgrid]
  · intro heq
    exact ⟨column.value, column.onGrid_value, heq⟩

theorem readBack_intCast (h : Arithmetic fl) {n : ℤ}
    (hstored : storedColumn fl (n : ℚ) = some column) : ReadBack fl n := by
  have hlarge := abs_lt_of_storedColumn hstored
  refine ⟨n, onGrid_intCast n, (h.intCast n ?_).symm⟩
  have hcast : |(n : ℚ)| < 2 ^ 53 := hlarge.trans (by norm_num)
  exact_mod_cast hcast

theorem readBack_columnNumber (column : Money) : ReadBack fl (columnNumber fl column) :=
  ⟨column.value, column.onGrid_value, rfl⟩

theorem readBack_roundedPaise (x : ℚ) : ReadBack fl (roundedPaise fl x) := by
  have hgrid : OnGrid 2 ((round (fl (x * 100)) : ℚ) / 10 ^ 2) := onGrid_div _
  refine ⟨_, hgrid, ?_⟩
  rw [roundedPaise]
  norm_num

/-! ### Lists of amounts -/

variable {amounts : List ℚ} {columns columns' : List Money}

def StoredIn (fl : ℚ → ℚ) (amounts : List ℚ) (columns : List Money) : Prop :=
  List.Forall₂ (fun x column => storedColumn fl x = some column) amounts columns

theorem StoredIn.eq_map_iff (h : Arithmetic fl) (hstored : StoredIn fl amounts columns) :
    amounts = columns.map (columnNumber fl) ↔ ∀ x ∈ amounts, ReadBack fl x := by
  induction hstored with
  | nil => simp
  | cons hfirst _ ih =>
    rw [List.map_cons, List.cons_eq_cons, List.forall_mem_cons, ih, stored_readBack h hfirst]

theorem StoredIn.eq_of_eq_map (h : Arithmetic fl) (hstored : StoredIn fl amounts columns)
    (heq : amounts = columns'.map (columnNumber fl)) : columns' = columns := by
  have hwhole : ∀ x ∈ amounts, ReadBack fl x := by
    intro x hx
    rw [heq] at hx
    obtain ⟨column, -, rfl⟩ := List.mem_map.mp hx
    exact readBack_columnNumber column
  have hread := (hstored.eq_map_iff h).mpr hwhole
  exact List.map_injective_iff.mpr (fun _ _ => columnNumber_inj h) (heq.symm.trans hread)

theorem eq_of_numberTexts (h : Arithmetic fl)
    (htexts : amounts.map (numberText fl) =
      (columns.map (columnNumber fl)).map (numberText fl)) :
    amounts = columns.map (columnNumber fl) := by
  induction amounts generalizing columns with
  | nil =>
    cases columns with
    | nil => rfl
    | cons column rest => simp at htexts
  | cons first rest ih =>
    cases columns with
    | nil => simp at htexts
    | cons column others =>
      simp only [List.map_cons, List.cons.injEq] at htexts ⊢
      obtain ⟨hfirst, hrest⟩ := htexts
      exact ⟨h.numberText_fl_inj column.onGrid_value column.abs_value_lt' hfirst, ih hrest⟩

end Columns

/-! ## The payload -/

theorem checksumPayload_toList (fl : ℚ → ℚ) (carId : Id) (startDate endDate : ℤ)
    (amounts : List ℚ) :
    (checksumPayload fl carId startDate endDate amounts).toList =
      joined ':' carId.toList ([hourText startDate, minuteText startDate, secondText startDate,
        hourText endDate, minuteText endDate, secondText endDate] ++
          amounts.map (numberText fl)) := by
  have hfold : ∀ text : String,
      (amounts.foldl (fun text amount =>
        text ++ ":" ++ String.ofList (numberText fl amount)) text).toList =
      joined ':' text.toList (amounts.map (numberText fl)) := by
    induction amounts with
    | nil => exact fun _ => rfl
    | cons first rest ih =>
      intro text
      rw [List.foldl_cons, ih, List.map_cons, joined, joined, List.foldl_cons]
      simp
  rw [checksumPayload, hfold, joined, joined, List.foldl_append]
  simp [toISOString]

theorem checksumPayload_inj {fl : ℚ → ℚ} {carId carId' : Id}
    {startDate startDate' endDate endDate' : ℤ} {amounts amounts' : List ℚ}
    (hlength : amounts.length = amounts'.length)
    (hstart : ValidTime startDate) (hstart' : ValidTime startDate') (hend : ValidTime endDate)
    (hend' : ValidTime endDate')
    (h : checksumPayload fl carId startDate endDate amounts =
      checksumPayload fl carId' startDate' endDate' amounts') :
    carId = carId' ∧ startDate = startDate' ∧ endDate = endDate' ∧
      amounts.map (numberText fl) = amounts'.map (numberText fl) := by
  have hcolon : ∀ (startDate endDate : ℤ) (amounts : List ℚ),
      ∀ piece ∈ [hourText startDate, minuteText startDate, secondText startDate,
        hourText endDate, minuteText endDate, secondText endDate] ++ amounts.map (numberText fl),
        ':' ∉ piece := by
    intro startDate endDate amounts piece hpiece
    rcases List.mem_append.mp hpiece with hdate | hamount
    · simp only [List.mem_cons, List.not_mem_nil, or_false] at hdate
      rcases hdate with rfl | rfl | rfl | rfl | rfl | rfl
      · exact colon_not_mem_hourText _
      · exact colon_not_mem_minuteText _
      · exact colon_not_mem_secondText _
      · exact colon_not_mem_hourText _
      · exact colon_not_mem_minuteText _
      · exact colon_not_mem_secondText _
    · obtain ⟨amount, -, rfl⟩ := List.mem_map.mp hamount
      exact colon_not_mem_numberText amount
  have hchars := congrArg String.toList h
  rw [checksumPayload_toList, checksumPayload_toList] at hchars
  obtain ⟨hcar, hpieces⟩ := joined_inj (by simp [hlength]) (hcolon _ _ _) (hcolon _ _ _) hchars
  simp only [List.cons_append, List.nil_append, List.cons.injEq] at hpieces
  obtain ⟨hhour, hminute, hsecond, hhour', hminute', hsecond', htexts⟩ := hpieces
  exact ⟨String.toList_inj.mp hcar, texts_inj hstart hstart' hhour hminute hsecond,
    texts_inj hend hend' hhour' hminute' hsecond', htexts⟩

/-! ## The check of a row -/

namespace MarketplaceQuote

/-- The amounts that the checksum is over. -/
def amounts (quote : MarketplaceQuote) : List Money :=
  [quote.subtotal, quote.discountTotal, quote.feesTotal, quote.taxTotal, quote.depositTotal,
    quote.totalPayable]

/-- What the checksum is over. -/
def checked (quote : MarketplaceQuote) : Id × ℤ × ℤ × List Money :=
  (quote.carId, quote.startDate, quote.endDate, quote.amounts)

/-- The car, the dates and every amount that is stored. -/
def stored (quote : MarketplaceQuote) :
    (Id × ℤ × ℤ × List Money) × Money × List (MarketplaceLine Money) :=
  (quote.checked, quote.netToVendor, quote.lineItems)

end MarketplaceQuote

namespace MarketplaceTables

variable {fl : ℚ → ℚ} {market : MarketplaceTables} {now t : ℤ}
  {input : CreateMarketplaceQuoteInput} {newId : Id} {row changed read : MarketplaceQuote}
  {car : ListedCar} {interval : ℤ × ℤ} {quote : PricedQuote} {quotes : List MarketplaceQuote}

theorem verifyQuote_eq_ok (hdigest : row.metadata.integrityChecksum ≠ "") :
    market.verifyQuote fl t row = .ok read ↔
      read = row ∧ row.status = .active ∧ t ≤ row.expiresAt ∧
        ValidTime row.startDate ∧ ValidTime row.endDate ∧
        row.metadata.integrityChecksum = market.sha256 (checksumPayload fl row.carId row.startDate
          row.endDate (row.amounts.map (columnNumber fl))) := by
  unfold verifyQuote expectedChecksum
  constructor
  · intro h
    split at h
    · cases h
    next hexpired =>
      split at h
      · cases h
      next hstatus =>
        have hactive : row.status = .active := not_not.mp hstatus
        split at h
        next hvalid =>
          rw [Except.bind] at h
          split at h
          · cases h
          next hequal =>
            cases h
            exact ⟨rfl, hactive, not_lt.mp fun hlt => hexpired ⟨hactive, hlt⟩, hvalid.1, hvalid.2,
              not_not.mp hequal⟩
        · cases h
  · rintro ⟨rfl, hactive, htime, hstart, hend, hequal⟩
    rw [if_neg (fun hexpired => absurd hexpired.2 (not_lt.mpr htime)),
      if_neg (not_not.mpr hactive), if_neg hdigest, if_pos ⟨hstart, hend⟩, Except.bind]
    exact if_neg (not_not.mpr hequal)

theorem storedIn_of_row (hrow : market.row fl now input newId car interval quote = some row) :
    StoredIn fl (quote.amounts fl) row.amounts := by
  obtain ⟨hsubtotal, hdiscounts, hfees, htax, hdeposit, htotal, -⟩ := row_eq_some hrow
  exact .cons hsubtotal (.cons hdiscounts (.cons hfees (.cons htax (.cons hdeposit
    (.cons htotal .nil)))))

theorem checksum_eq_iff (h : Arithmetic fl) (hsha : Function.Injective market.sha256)
    (hinterval : MarketplaceTables.interval input = some interval)
    (hrow : market.row fl now input newId car interval quote = some row)
    (hstart : ValidTime changed.startDate) (hend : ValidTime changed.endDate) :
    row.metadata.integrityChecksum = market.sha256 (checksumPayload fl changed.carId
        changed.startDate changed.endDate (changed.amounts.map (columnNumber fl))) ↔
      row.carId = changed.carId ∧ row.startDate = changed.startDate ∧
        row.endDate = changed.endDate ∧
        quote.amounts fl = changed.amounts.map (columnNumber fl) := by
  obtain ⟨-, -, -, -, -, -, -, hcarId, hstartDate, hendDate, -, -, hmetadata⟩ := row_eq_some hrow
  obtain ⟨hvalidStart, hvalidEnd, -⟩ := interval_eq_some hinterval
  rw [hmetadata, metadataOf, hcarId, hstartDate, hendDate, hsha.eq_iff]
  constructor
  · intro hpayload
    have hlength : (quote.amounts fl).length = (changed.amounts.map (columnNumber fl)).length := by
      simp [PricedQuote.amounts, MarketplaceQuote.amounts]
    obtain ⟨hcar, hstart', hend', htexts⟩ :=
      checksumPayload_inj hlength hvalidStart hstart hvalidEnd hend hpayload
    exact ⟨hcar, hstart', hend', eq_of_numberTexts h htexts⟩
  · rintro ⟨hcar, hstart', hend', hamounts⟩
    rw [hcar, hstart', hend', hamounts]

theorem getVerifiedQuote_append (hfresh : row.id ∉ quotes.map MarketplaceQuote.id) :
    (market.getVerifiedQuote fl t (quotes ++ [row]) row.id).2 = market.verifyQuote fl t row := by
  rw [getVerifiedQuote, find?_append_fresh hfresh]

end MarketplaceTables

/-! ## The checksum of a stored quote -/

/-- The running sums of the discounts, the fees and the taxes are each the double nearest to an
amount in whole paise. -/
structure PricedQuote.SumsInPaise (quote : PricedQuote) (fl : ℚ → ℚ) : Prop where
  discounts : ReadBack fl (quote.discountTotal fl)
  fees : ReadBack fl (quote.feesTotal fl)
  taxes : ReadBack fl (quote.taxTotal fl)

/-- Until it expires the quote is accepted, and no quote with the same checksum that differs from it
in one of the fields ever is. -/
structure ChecksumHolds {α : Type} (market : MarketplaceTables) (fields : MarketplaceQuote → α)
    (quotes : List MarketplaceQuote) (row : MarketplaceQuote) : Prop where
  accepts : ∀ t ≤ row.expiresAt,
    (market.getVerifiedQuote double t (quotes ++ [row]) row.id).2 = .ok row
  rejects : ∀ changed : MarketplaceQuote, changed.id = row.id →
    changed.metadata = row.metadata → fields changed ≠ fields row →
      ∀ t read, (market.getVerifiedQuote double t (quotes ++ [changed]) row.id).2 ≠ .ok read

namespace MarketplaceTables

variable {fl : ℚ → ℚ} {market : MarketplaceTables} {now t : ℤ}
  {input : CreateMarketplaceQuoteInput} {newId : Id} {row changed read : MarketplaceQuote}
  {car : ListedCar} {interval : ℤ × ℤ} {quote : PricedQuote} {quotes : List MarketplaceQuote}

theorem forall_readBack_iff (h : Arithmetic fl) (hinterval : interval.1 < interval.2)
    (hquote : market.priceQuote fl now input car interval = .ok quote)
    (hrow : market.row fl now input newId car interval quote = some row) :
    (∀ x ∈ quote.amounts fl, ReadBack fl x) ↔ quote.SumsInPaise fl := by
  obtain ⟨hsubtotal, -, -, -, hdeposit, -⟩ := priceQuote_eq_ok hinterval hquote
  obtain ⟨hstored, -⟩ := row_eq_some hrow
  constructor
  · intro hall
    constructor
    · exact hall _ (by simp [PricedQuote.amounts])
    · exact hall _ (by simp [PricedQuote.amounts])
    · exact hall _ (by simp [PricedQuote.amounts])
  · intro hsums x hx
    simp only [PricedQuote.amounts, List.mem_cons, List.not_mem_nil, or_false] at hx
    rcases hx with rfl | rfl | rfl | rfl | rfl | rfl
    · rw [hsubtotal] at hstored ⊢
      exact readBack_intCast h hstored
    · exact hsums.discounts
    · exact hsums.fees
    · exact hsums.taxes
    · have hcolumns : ColumnRates (market.termsOf now input car interval).rates :=
        columnRates_termsOf
      obtain ⟨deposit, hcolumn⟩ := hcolumns.deposit
      rw [hdeposit, hcolumn]
      exact readBack_columnNumber deposit
    · unfold PricedQuote.totalPayable
      rcases max_choice 0 (roundedPaise fl (fl (fl (fl (fl (quote.price.subtotal -
        quote.discountTotal fl) + quote.feesTotal fl) + quote.taxTotal fl) +
          quote.price.depositTotal))) with hzero | hpositive
      · rw [hzero]
        exact ⟨0, onGrid_zero, h.zero.symm⟩
      · rw [hpositive]
        exact readBack_roundedPaise _

theorem verifyQuote_row_iff (h : Arithmetic fl) (hsha : Function.Injective market.sha256)
    (hdigest : ∀ payload, market.sha256 payload ≠ "")
    (hinterval : MarketplaceTables.interval input = some interval)
    (hquote : market.priceQuote fl now input car interval = .ok quote)
    (hrow : market.row fl now input newId car interval quote = some row) :
    market.verifyQuote fl t row = .ok row ↔ t ≤ row.expiresAt ∧ quote.SumsInPaise fl := by
  obtain ⟨hvalidStart, hvalidEnd, horder⟩ := interval_eq_some hinterval
  obtain ⟨-, -, -, -, -, -, -, -, hstartDate, hendDate, hstatus, -, hmetadata⟩ := row_eq_some hrow
  have hne : row.metadata.integrityChecksum ≠ "" := hmetadata ▸ hdigest _
  have hstart : ValidTime row.startDate := hstartDate ▸ hvalidStart
  have hend : ValidTime row.endDate := hendDate ▸ hvalidEnd
  rw [verifyQuote_eq_ok hne, checksum_eq_iff h hsha hinterval hrow hstart hend,
    (storedIn_of_row hrow).eq_map_iff h, forall_readBack_iff h horder hquote hrow]
  constructor
  · rintro ⟨-, -, htime, -, -, -, -, -, hsums⟩
    exact ⟨htime, hsums⟩
  · rintro ⟨htime, hsums⟩
    exact ⟨rfl, hstatus, htime, hstart, hend, rfl, rfl, rfl, hsums⟩

theorem checked_of_verifyQuote (h : Arithmetic fl) (hsha : Function.Injective market.sha256)
    (hdigest : ∀ payload, market.sha256 payload ≠ "")
    (hinterval : MarketplaceTables.interval input = some interval)
    (hrow : market.row fl now input newId car interval quote = some row)
    (hmetadata : changed.metadata = row.metadata)
    (hverified : market.verifyQuote fl t changed = .ok read) : changed.checked = row.checked := by
  obtain ⟨-, -, -, -, -, -, -, -, -, -, -, -, hmade⟩ := row_eq_some hrow
  have hne : changed.metadata.integrityChecksum ≠ "" := by
    rw [hmetadata, hmade]
    exact hdigest _
  obtain ⟨-, -, -, hstart, hend, hequal⟩ := (verifyQuote_eq_ok hne).mp hverified
  rw [hmetadata] at hequal
  obtain ⟨hcar, hstartDate, hendDate, hamounts⟩ :=
    (checksum_eq_iff h hsha hinterval hrow hstart hend).mp hequal
  have hcolumns : changed.amounts = row.amounts := (storedIn_of_row hrow).eq_of_eq_map h hamounts
  rw [MarketplaceQuote.checked, MarketplaceQuote.checked, hcar, hstartDate, hendDate, hcolumns]

theorem verifyQuote_of_checked_eq (hdigest : row.metadata.integrityChecksum ≠ "")
    (hchecked : changed.checked = row.checked) (hmetadata : changed.metadata = row.metadata)
    (hstatus : changed.status = row.status) (hexpires : changed.expiresAt = row.expiresAt)
    (h : market.verifyQuote fl t row = .ok row) :
    market.verifyQuote fl t changed = .ok changed := by
  simp only [MarketplaceQuote.checked, Prod.mk.injEq] at hchecked
  obtain ⟨hcar, hstart, hend, hamounts⟩ := hchecked
  obtain ⟨-, hchecks⟩ := (verifyQuote_eq_ok hdigest).mp h
  rw [← hmetadata] at hdigest
  rw [verifyQuote_eq_ok hdigest, hcar, hstart, hend, hamounts, hmetadata, hstatus, hexpires]
  exact ⟨rfl, hchecks⟩

/-- The sums of the quote that the request gets are read back from their columns. -/
def SumsReadBack (market : MarketplaceTables) (now : ℤ) (input : CreateMarketplaceQuoteInput) :
    Prop :=
  ∃ interval ∈ MarketplaceTables.interval input, ∃ car ∈ market.cars input.carId, ∃ quote,
    market.priceQuote double now input car interval = .ok quote ∧ quote.SumsInPaise double

theorem sumsReadBack_iff (hinterval : MarketplaceTables.interval input = some interval)
    (hcar : market.cars input.carId = some car)
    (hquote : market.priceQuote double now input car interval = .ok quote) :
    market.SumsReadBack now input ↔ quote.SumsInPaise double := by
  constructor
  · rintro ⟨interval', hinterval', car', hcar', quote', hquote', hsums⟩
    cases Option.some_inj.mp ((Option.mem_def.mp hinterval').symm.trans hinterval)
    cases Option.some_inj.mp ((Option.mem_def.mp hcar').symm.trans hcar)
    cases Except.ok.inj (hquote'.symm.trans hquote)
    exact hsums
  · intro hsums
    exact ⟨interval, hinterval, car, hcar, quote, hquote, hsums⟩

end MarketplaceTables

open MarketplaceTables

/-- **When the checksum of a quote holds.**  For all tables, every request and every quote that is
stored for it, with a hash that has no collisions: the quote is accepted until it expires, and no
quote with another car, other dates or other totals is, exactly when adding up its discounts, its
fees and its taxes in doubles gives the doubles nearest to amounts in whole paise.  Counting the
vendor's amount and the lines with the stored amounts it never holds, as they are not in it. -/
theorem quote_checksum_holds_iff {market : MarketplaceTables} {now : ℤ}
    {input : CreateMarketplaceQuoteInput} {quotes : List MarketplaceQuote} {newId : Id}
    {row : MarketplaceQuote} (hsha : Function.Injective market.sha256)
    (hdigest : ∀ payload, market.sha256 payload ≠ "")
    (h : market.createQuote double now input quotes newId = .ok (quotes ++ [row], row)) :
    (ChecksumHolds market MarketplaceQuote.checked quotes row ↔ market.SumsReadBack now input) ∧
      ¬ChecksumHolds market MarketplaceQuote.stored quotes row := by
  obtain ⟨hmade, hfresh⟩ := createQuote_made h
  obtain ⟨interval, car, quote, hinterval, hcar, hquote, hrow⟩ :=
    MarketplaceTables.newQuote_eq_ok hmade
  have haccepts := fun t => verifyQuote_row_iff (t := t) arithmetic_double hsha hdigest hinterval
    hquote hrow
  constructor
  · rw [sumsReadBack_iff hinterval hcar hquote]
    constructor
    · intro hholds
      have hnow := hholds.accepts row.expiresAt le_rfl
      rw [getVerifiedQuote_append hfresh] at hnow
      exact ((haccepts _).mp hnow).2
    · intro hsums
      constructor
      · intro t htime
        rw [getVerifiedQuote_append hfresh]
        exact (haccepts t).mpr ⟨htime, hsums⟩
      · intro changed hid hmetadata hdiffers t read hverified
        rw [← hid] at hverified hfresh
        rw [getVerifiedQuote_append hfresh] at hverified
        exact hdiffers (checked_of_verifyQuote arithmetic_double hsha hdigest hinterval hrow
          hmetadata hverified)
  · intro hholds
    have hnow := hholds.accepts row.expiresAt le_rfl
    rw [getVerifiedQuote_append hfresh] at hnow
    -- the same row with another amount for the vendor
    obtain ⟨other, hother⟩ : ∃ other : Money, other ≠ row.netToVendor := by
      by_cases hzero : row.netToVendor = ⟨0, by decide⟩
      · exact ⟨⟨1, by decide⟩, by rw [hzero]; decide⟩
      · exact ⟨_, Ne.symm hzero⟩
    obtain ⟨changed, hchanged⟩ : ∃ changed, changed = { row with netToVendor := other } :=
      ⟨_, rfl⟩
    have hchecked : changed.checked = row.checked := by rw [hchanged]; rfl
    have hmetadata : changed.metadata = row.metadata := by rw [hchanged]
    have hid : changed.id = row.id := by rw [hchanged]
    have hdiffers : changed.stored ≠ row.stored := by
      intro heq
      have hnet : changed.netToVendor = row.netToVendor :=
        congrArg (fun fields => fields.2.1) heq
      rw [hchanged] at hnet
      exact hother hnet
    have hne : row.metadata.integrityChecksum ≠ "" := by
      obtain ⟨-, -, -, -, -, -, -, -, -, -, -, -, hmade⟩ := row_eq_some hrow
      exact hmade ▸ hdigest _
    have hread := verifyQuote_of_checked_eq hne hchecked hmetadata (by rw [hchanged])
      (by rw [hchanged]) hnow
    apply hholds.rejects changed hid hmetadata hdiffers row.expiresAt changed
    rw [← hid] at hfresh ⊢
    rw [getVerifiedQuote_append hfresh, hread]

/-! ## A child seat -/

/-- A hash that has the digest of one payload, and another text for every other payload. -/
def digestAt (payload digest text : String) : String :=
  if text = payload then digest else "digest of " ++ text

theorem digestAt_injective {payload digest : String} (h : digest.toList.head? ≠ some 'd') :
    Function.Injective (digestAt payload digest) := by
  have hother : ∀ text, "digest of " ++ text ≠ digest := by
    intro text heq
    apply h
    rw [← heq, String.toList_append]
    rfl
  intro a b hab
  unfold digestAt at hab
  split at hab
  next ha =>
    split at hab
    next hb => rw [ha, hb]
    next => exact absurd hab.symm (hother b)
  next =>
    split at hab
    next => exact absurd hab (hother a)
    next =>
      have hchars := congrArg String.toList hab
      rw [String.toList_append, String.toList_append] at hchars
      exact String.toList_inj.mp (List.append_cancel_left hchars)

theorem digestAt_ne_empty {payload digest : String} (h : digest ≠ "") (text : String) :
    digestAt payload digest text ≠ "" := by
  unfold digestAt
  split
  · exact h
  · intro hempty
    have hchars := congrArg String.toList hempty
    simp at hchars

/-- The hash at the payload of the rental of the hatchback for a day. -/
def dayDigest : String → String :=
  digestAt "car:2026-03-10T09:00:00.000Z:2026-03-11T09:00:00.000Z:2000:0:150:387:3000:5537"
    "c207d8e5cc994102026932a76559d1f90f38f365697af18a13f9ac433278dfe5"

def hashedHatchback : MarketplaceTables := { oneHatchback with sha256 := dayDigest }

theorem day_rental_checksum_holds : ∃ row,
    hashedHatchback.createQuote double 1773000000000 (dayRental []) [] "quote" =
        .ok ([] ++ [row], row) ∧
      ChecksumHolds hashedHatchback MarketplaceQuote.checked [] row := by
  obtain ⟨⟨quotes, row⟩, hmade, hstored⟩ := exists_ok_of_any
    (x := hashedHatchback.createQuote double 1773000000000 (dayRental []) [] "quote")
    (p := fun stored => stored.1 = [] ++ [stored.2]) (by decide +kernel)
  have hquotes : quotes = [] ++ [row] := of_decide_eq_true hstored
  subst hquotes
  refine ⟨row, hmade, (quote_checksum_holds_iff (digestAt_injective (by decide +kernel))
    (digestAt_ne_empty (by decide +kernel)) hmade).1.mpr ?_⟩
  refine ⟨(1773133200000, 1773219600000), by decide +kernel, hatchback, rfl, ?_⟩
  obtain ⟨quote, hquote, hsums⟩ := exists_ok_of_any
    (x := hashedHatchback.priceQuote double 1773000000000 (dayRental []) hatchback
      (1773133200000, 1773219600000))
    (p := fun quote => quote.discountTotal double = 0 ∧ quote.feesTotal double = 150 ∧
      quote.taxTotal double = 387) (by decide +kernel)
  obtain ⟨hdiscounts, hfees, htaxes⟩ := of_decide_eq_true hsums
  refine ⟨quote, hquote, ?_, ?_, ?_⟩
  · rw [hdiscounts]
    exact ⟨0, onGrid_zero, by decide +kernel⟩
  · rw [hfees]
    exact ⟨150, by simpa using onGrid_intCast 150, by decide +kernel⟩
  · rw [htaxes]
    exact ⟨387, by simpa using onGrid_intCast 387, by decide +kernel⟩

/-- A child seat at 187.00, with 18% tax, and the digest of what is rented with it. -/
def childSeatMarket : MarketplaceTables :=
  { oneHatchback with
    products := [⟨"seat", "CHILD_SEAT", "Child Seat", "SAFETY", .flat, ⟨18700, by decide⟩,
      ⟨18, gstRate_inRange⟩, none, true, 2⟩]
    sha256 := digestAt ("car:2026-03-10T09:00:00.000Z:2026-03-11T09:00:00.000Z:" ++
        "2000:0:337:420.65999999999997:3000:5757.66")
      "a416c6aacaf699c4b5baae35651e6d15c0936a8dce8c0030aa0e29eda146173e" }

/-- The tax is 387 + 33.66 = 420.65999999999997 in doubles and 420.66 in its column: the quote is
rejected from the start. -/
theorem child_seat_quote_is_rejected : ∃ row,
    childSeatMarket.createQuote double 1773000000000 (dayRental [⟨"CHILD_SEAT", none⟩]) []
        "quote" = .ok ([] ++ [row], row) ∧
      (childSeatMarket.getVerifiedQuote double 1773000000000 [row] "quote").2 =
        .error (.conflict ("Quote financial integrity violation: " ++
          "quote amounts or dates have been tampered with.")) ∧
      ¬ChecksumHolds childSeatMarket MarketplaceQuote.checked [] row := by
  obtain ⟨⟨quotes, row⟩, hmade, hstored⟩ := exists_ok_of_any
    (x := childSeatMarket.createQuote double 1773000000000 (dayRental [⟨"CHILD_SEAT", none⟩]) []
      "quote")
    (p := fun stored => stored.1 = [] ++ [stored.2] ∧ stored.2.id = "quote" ∧
      1773000000000 ≤ stored.2.expiresAt ∧
      (childSeatMarket.getVerifiedQuote double 1773000000000 [stored.2] "quote").2 =
        .error (.conflict ("Quote financial integrity violation: " ++
          "quote amounts or dates have been tampered with."))) (by decide +kernel)
  obtain ⟨hquotes, hid, hexpires, hrejected⟩ := of_decide_eq_true hstored
  dsimp only at hquotes hid
  subst hquotes
  refine ⟨row, hmade, hrejected, fun hholds => ?_⟩
  have haccepted := hholds.accepts 1773000000000 hexpires
  rw [hid, List.nil_append, hrejected] at haccepted
  cases haccepted

end CarRental
