import CarRental.Lib.Runs
import CarRental.Lib.Tiling
import CarRental.Bookings.TripExtensions

/-!
# What the extensions of a trip charge for

The confirmed extensions of a booking should tile the time from its original end to its
present one, the end should never move back, and each of them should have one balanced
journal of its total.

A verification applies the end that the extension was quoted with, whatever the end of the
booking has become, and a journal that is refused is only logged.  So the law holds of a
run exactly if every extension is confirmed at the end it starts from, with shares that
the ledger takes, and is confirmed again only while it is the last one
(`extension_law_iff`).

## Strategy

Only the transaction of a verification changes what the law speaks of
(`step_sameCharges`).  There it adds one interval to the tiling (`tiles_insert_iff`) and
one journal to the ledger (`recordJournal_isOk_iff`).
-/

namespace CarRental.ExtendedTrip

open KeyedRows Runs Tiling DoubleEntry

/-! ## The law -/

/-- The confirmed extensions: their ids and what they charge. -/
def charged (trip : ExtendedTrip) : Set (Id × ExtensionTerms) :=
  {charge | ∃ row ∈ trip.extensions, row.status = .confirmed ∧ (row.id, row.terms) = charge}

/-- The extension has one journal, which debits and credits its total. -/
structure HasJournal (ledger : Ledger JournalKey) (charge : Id × ExtensionTerms) : Prop where
  recorded : ledger.rowsOf (.extensionVerify charge.1) ≠ []
  single : ∃ journalId, ∀ entry ∈ ledger.rowsOf (.extensionVerify charge.1),
    entry.journalId = journalId
  total : ∀ side, paiseTotal side
    ((ledger.rowsOf (.extensionVerify charge.1)).map PlatformLedgerEntry.paiseLine) =
      charge.2.totalFare.paise

structure ExtensionLaw (originalEnd : ℤ) (trip : ExtendedTrip) : Prop where
  tiles : Tiles trip.charged (fun charge => charge.2.currentEndDate)
    (fun charge => charge.2.requestedEndDate) originalEnd trip.booking.endDate
  journals : ∀ charge ∈ trip.charged, HasJournal trip.ledger charge

/-- The step does not move the end of the booking back. -/
def KeepsEnd (trip : ExtendedTrip) (action : Action) : Prop :=
  trip.booking.endDate ≤ (step trip action).booking.endDate

instance (trip : ExtendedTrip) (action : Action) : Decidable (KeepsEnd trip action) :=
  inferInstanceAs (Decidable (_ ≤ _))

/-- The shares of the total that the ledger takes: something for the vendor, and nothing
negative for the tax or the platform. -/
def Bookable (terms : ExtensionTerms) : Prop :=
  0 < terms.netToVendor.paise ∧ 0 ≤ terms.gstAmount.paise ∧ 0 ≤ adjustedPlatformFee terms

/-- An extension is confirmed at the end it starts from, with shares that can be booked,
and is confirmed again only while the booking ends with it. -/
def ConfirmsInOrder (trip : ExtendedTrip) : Action → Prop
  | .confirmExtension row razorpayPaymentId collision =>
    (row, razorpayPaymentId) ∈ trip.verifications → collision = false →
      if ∃ other ∈ trip.extensions, other.id = row.id ∧ other.status = .confirmed then
        row.terms.requestedEndDate = trip.booking.endDate
      else row.terms.currentEndDate = trip.booking.endDate ∧ Bookable row.terms
  | _ => True

/-! ## What the reading parts find -/

theorem getQuote_eq_ok {trip : ExtendedTrip} {userId : Id} {isCustomer : Bool}
    {requestedEndDate : ℤ} {blocked occupied : Bool} {commissionPercent : Decimal}
    {quote : ExtensionQuote}
    (h : trip.getQuote userId isCustomer requestedEndDate blocked occupied commissionPercent =
      .ok quote) :
    quote.currentEndDate = trip.booking.endDate ∧
      quote.currentEndDate < quote.requestedEndDate ∧
      Rounding.OnGrid 2 quote.totalFare := by
  unfold getQuote at h
  split at h
  · cases h
  split at h
  · cases h
  split at h
  · cases h
  next hlater =>
    split at h
    · cases h
    split at h
    · cases h
    cases h
    exact ⟨rfl, not_le.mp hlater, Rounding.onGrid_toScale _⟩

theorem termsOf_eq_some {quote : ExtensionQuote} {orderId : String} {terms : ExtensionTerms}
    (h : termsOf quote orderId = some terms) :
    terms.currentEndDate = quote.currentEndDate ∧
      terms.requestedEndDate = quote.requestedEndDate ∧ terms.razorpayOrderId = orderId ∧
      Column.ofDecimal? quote.totalFare = some terms.totalFare := by
  simp only [termsOf, Option.bind_eq_bind, Option.bind_eq_some_iff, Option.pure_def,
    Option.some.injEq] at h
  obtain ⟨-, -, -, -, -, -, totalFare, hfare, -, -, rfl⟩ := h
  exact ⟨rfl, rfl, rfl, hfare⟩

theorem insertExtension_cases (trip : ExtendedTrip) (quote : ExtensionQuote) (newId : Id)
    (gatewayOrder : Option String) :
    (trip.insertExtension quote newId gatewayOrder).1 = trip ∨
      ∃ orderId terms, gatewayOrder = some orderId ∧ termsOf quote orderId = some terms ∧
        newId ∉ trip.otherExtensions ∧ newId ∉ trip.extensions.map ExtensionRow.id ∧
        (trip.insertExtension quote newId gatewayOrder).1 =
          { trip with extensions := trip.extensions ++ [⟨newId, terms, .pendingPayment, none⟩] } := by
  unfold insertExtension
  split
  · exact .inl rfl
  next orderId =>
    split
    · exact .inl rfl
    next terms hterms =>
      split
      · exact .inl rfl
      next hfresh =>
        obtain ⟨hother, hown⟩ := not_or.mp hfresh
        exact .inr ⟨orderId, terms, rfl, hterms, hother, hown, rfl⟩

theorem checkVerification_eq_ok {trip : ExtendedTrip} {extensionId customerId : Id}
    {signatureValid : Bool} {row : ExtensionRow}
    (h : trip.checkVerification extensionId customerId signatureValid = .ok (some row)) :
    row ∈ trip.extensions := by
  unfold checkVerification at h
  split at h
  · cases h
  next extension hfind =>
    split at h
    · cases h
    split at h
    · cases h
    split at h
    · cases h
    · cases h
      exact List.mem_of_find?_eq_some hfind

/-! ## What holds in every state -/

/-- Ids are unique, quotes and extensions lead from one end to a later one, what is being
verified is an extension of the booking, and only a confirmed extension has a journal. -/
structure Traced (originalEnd : ℤ) (trip : ExtendedTrip) : Prop where
  nodup : (trip.extensions.map ExtensionRow.id).Nodup
  own : ∀ row ∈ trip.extensions, row.id ∉ trip.otherExtensions
  quoted : ∀ quote ∈ trip.quotes,
    originalEnd ≤ quote.currentEndDate ∧ quote.currentEndDate < quote.requestedEndDate
  spans : ∀ row ∈ trip.extensions,
    originalEnd ≤ row.terms.currentEndDate ∧ row.terms.currentEndDate < row.terms.requestedEndDate
  read : ∀ verification ∈ trip.verifications, ∃ row ∈ trip.extensions,
    row.id = verification.1.id ∧ row.terms = verification.1.terms
  ends : originalEnd ≤ trip.booking.endDate
  booked : ∀ id ∉ trip.otherExtensions, trip.ledger.rowsOf (.extensionVerify id) = [] ∨
    (∃ row ∈ trip.extensions, row.id = id ∧ row.status = .confirmed) ∧
      (trip.ledger.findKey (.extensionVerify id)).isSome = true

/-! ## The journal -/

section Journal

variable {ledger : Ledger JournalKey}

theorem extensionLines_debit (vendorId : Id) (terms : ExtensionTerms) :
    paiseTotal .debit (extensionLines vendorId terms) = terms.totalFare.paise := by
  simp [extensionLines, paiseTotal_append, paiseTotal_positiveLine]

theorem extensionLines_credit (vendorId : Id) (terms : ExtensionTerms) :
    paiseTotal .credit (extensionLines vendorId terms) =
      terms.netToVendor.paise + max (adjustedPlatformFee terms) 0 +
        max terms.gstAmount.paise 0 := by
  simp [extensionLines, paiseTotal_append, paiseTotal_positiveLine, add_assoc]

theorem adjustedPlatformFee_eq (terms : ExtensionTerms) :
    adjustedPlatformFee terms =
      terms.totalFare.paise - terms.netToVendor.paise - terms.gstAmount.paise := by
  simp only [adjustedPlatformFee]
  ring

theorem extensionLines_fits (vendorId : Id) (terms : ExtensionTerms) :
    ∀ line ∈ extensionLines vendorId terms, line.Fits := by
  have htotal := terms.totalFare.inRange
  have hvendor := terms.netToVendor.inRange
  have hgst := terms.gstAmount.inRange
  have hplatform := adjustedPlatformFee_eq terms
  rw [abs_lt] at htotal hvendor hgst
  intro line hline
  simp only [extensionLines, List.cons_append, List.nil_append, List.mem_cons,
    List.mem_append] at hline
  rw [PaiseLine.Fits, abs_lt]
  rcases hline with rfl | rfl | hline | hline
  · constructor <;> dsimp only <;> omega
  · constructor <;> dsimp only <;> omega
  · obtain ⟨rfl, -⟩ := mem_positiveLine hline
    constructor <;> dsimp only <;> omega
  · obtain ⟨rfl, -⟩ := mem_positiveLine hline
    constructor <;> dsimp only <;> omega

theorem recordJournal_extension_isOk_iff (vendorId : Id) {row : ExtensionRow}
    (hfree : ledger.rowsOf (.extensionVerify row.id) = []) :
    (recordJournal ledger (extensionJournal vendorId row)).isOk ↔ Bookable row.terms := by
  have hplatform := adjustedPlatformFee_eq row.terms
  have hlength : 2 ≤ (extensionLines vendorId row.terms).length := by
    simp [extensionLines]
  have hshort : (extensionLines vendorId row.terms).length ≤ 1000 := by
    simp only [extensionLines, List.length_append, length_positiveLine, List.length_cons,
      List.length_nil]
    split <;> split <;> omega
  rw [extensionJournal, recordJournal_isOk_iff (Ledger.hasKey_of_rowsOf_eq_nil hfree) hshort
    (extensionLines_fits vendorId row.terms), extensionLines_debit, extensionLines_credit]
  constructor
  · rintro ⟨-, hpositive, hbalance⟩
    have hvendor : 0 < row.terms.netToVendor.paise :=
      hpositive ⟨.vendorPayable, some vendorId, .credit, row.terms.netToVendor.paise⟩ (by
        simp [extensionLines])
    refine ⟨hvendor, ?_, ?_⟩ <;> omega
  · rintro ⟨hvendor, hgst, hfee⟩
    refine ⟨hlength, ?_, by omega⟩
    intro line hline
    simp only [extensionLines, List.cons_append, List.nil_append, List.mem_cons,
      List.mem_append] at hline
    rcases hline with rfl | rfl | hline | hline
    · dsimp only
      omega
    · exact hvendor
    · obtain ⟨rfl, hpositive⟩ := mem_positiveLine hline
      exact hpositive
    · obtain ⟨rfl, hpositive⟩ := mem_positiveLine hline
      exact hpositive

theorem hasJournal_of_recordJournal {vendorId : Id} {row : ExtensionRow} {ledger' : Ledger JournalKey}
    {receipt : JournalReceipt JournalKey}
    (hfree : ledger.rowsOf (.extensionVerify row.id) = [])
    (h : recordJournal ledger (extensionJournal vendorId row) = .ok (ledger', receipt)) :
    HasJournal ledger' (row.id, row.terms) := by
  have hbookable : Bookable row.terms :=
    (recordJournal_extension_isOk_iff vendorId hfree).mp (by rw [h]; rfl)
  obtain ⟨hnew, hids, hlines⟩ :=
    recordJournal_stored (Ledger.hasKey_of_rowsOf_eq_nil hfree) h
  have hrows : ledger'.rowsOf (.extensionVerify row.id) = receipt.entries := by
    rw [recordJournal_rowsOf rfl h, hfree, if_pos ⟨hnew, rfl⟩, List.nil_append]
  have hside : ∀ side, paiseTotal side (receipt.entries.map PlatformLedgerEntry.paiseLine) =
      paiseTotal side (extensionLines vendorId row.terms) := by
    intro side
    rw [hlines, paiseTotal, paiseTotal, List.filter_map, List.map_map]
    rfl
  constructor
  · rw [hrows]
    intro hempty
    rw [hempty, List.map_nil] at hlines
    simp [extensionLines] at hlines
  · rw [hrows]
    exact ⟨receipt.journalId, hids⟩
  · intro side
    rw [hrows, hside]
    cases side with
    | debit => exact extensionLines_debit vendorId row.terms
    | credit =>
      have hplatform := adjustedPlatformFee_eq row.terms
      obtain ⟨hvendor, hgst, hfee⟩ := hbookable
      rw [extensionLines_credit]
      dsimp only
      omega

end Journal

/-! ## The transaction of a verification -/

section Confirm

variable {trip : ExtendedTrip} {originalEnd : ℤ} {row : ExtensionRow}

theorem bookJournal_rowsOf {id : Id} (hid : id ≠ row.id) :
    (bookJournal trip row).ledger.rowsOf (.extensionVerify id) =
      trip.ledger.rowsOf (.extensionVerify id) := by
  unfold bookJournal
  split
  next ledger receipt h =>
    rw [recordJournal_rowsOf rfl h, if_neg fun hkey => hid (JournalKey.extensionVerify.inj hkey.2),
      List.append_nil]
  · rfl

theorem bookJournal_findKey_mono {key : JournalKey}
    (hfound : (trip.ledger.findKey key).isSome = true) :
    ((bookJournal trip row).ledger.findKey key).isSome = true := by
  unfold bookJournal
  split
  next ledger receipt h => exact recordJournal_findKey_mono h hfound
  · exact hfound

theorem bookJournal_of_found
    (hfound : (trip.ledger.findKey (.extensionVerify row.id)).isSome = true) :
    (bookJournal trip row).ledger = trip.ledger := by
  unfold bookJournal
  split
  next ledger receipt h =>
    have hdup := recordJournal_isDuplicate h
    rcases recordJournal_eq_ok h with ⟨-, heq⟩ | ⟨hnew, -⟩
    · exact heq
    · rw [hnew, extensionJournal, paiseJournal, Option.bind_some, hfound] at hdup
      cases hdup
  · rfl

theorem bookJournal_of_free (hfree : trip.ledger.rowsOf (.extensionVerify row.id) = []) :
    Bookable row.terms ∧ HasJournal (bookJournal trip row).ledger (row.id, row.terms) ∧
        ((bookJournal trip row).ledger.findKey (.extensionVerify row.id)).isSome = true ∨
      ¬ Bookable row.terms ∧ (bookJournal trip row).ledger = trip.ledger := by
  have hiff := recordJournal_extension_isOk_iff trip.vendorId hfree
  unfold bookJournal
  cases h : recordJournal trip.ledger (extensionJournal trip.vendorId row) with
  | ok result =>
    have hok := hiff.mp (by rw [h]; rfl)
    exact .inl ⟨hok, hasJournal_of_recordJournal hfree h, recordJournal_findKey_isSome rfl h⟩
  | error e =>
    refine .inr ⟨fun hbookable => ?_, rfl⟩
    have hok := hiff.mpr hbookable
    rw [h] at hok
    cases hok

theorem HasJournal.congr {ledger ledger' : Ledger JournalKey} {charge : Id × ExtensionTerms}
    (h : HasJournal ledger charge)
    (heq : ledger'.rowsOf (.extensionVerify charge.1) = ledger.rowsOf (.extensionVerify charge.1)) :
    HasJournal ledger' charge := by
  constructor
  · rw [heq]
    exact h.recorded
  · rw [heq]
    exact h.single
  · rw [heq]
    exact h.total

theorem charged_confirmExtension (h : (trip.extensions.map ExtensionRow.id).Nodup)
    (hread : ∃ other ∈ trip.extensions, other.id = row.id ∧ other.terms = row.terms)
    (razorpayPaymentId : String) :
    (trip.confirmExtension row razorpayPaymentId false).charged =
      insert (row.id, row.terms) trip.charged := by
  obtain ⟨read, hmem, hid, hterms⟩ := hread
  rw [confirmExtension_eq]
  ext charge
  simp only [charged, Set.mem_ofPred_eq, Set.mem_insert_iff, mem_updateKey]
  constructor
  · rintro ⟨_, ⟨other, hother, hkey, rfl⟩ | ⟨hother, -⟩, hstatus, rfl⟩
    · have hsame := eq_of_key_eq h hother hmem (hkey.trans hid.symm)
      exact .inl (by rw [hsame, hid, hterms])
    · exact .inr ⟨_, hother, hstatus, rfl⟩
  · rintro (rfl | ⟨other, hother, hstatus, rfl⟩)
    · refine ⟨_, .inl ⟨read, hmem, hid, rfl⟩, rfl, ?_⟩
      rw [← hid, ← hterms]
    · by_cases hkey : other.id = row.id
      · exact ⟨_, .inl ⟨other, hother, hkey, rfl⟩, rfl, rfl⟩
      · exact ⟨other, .inr ⟨hother, hkey⟩, hstatus, rfl⟩

theorem mem_charged_iff (h : (trip.extensions.map ExtensionRow.id).Nodup)
    (hread : ∃ other ∈ trip.extensions, other.id = row.id ∧ other.terms = row.terms) :
    (row.id, row.terms) ∈ trip.charged ↔
      ∃ other ∈ trip.extensions, other.id = row.id ∧ other.status = .confirmed := by
  obtain ⟨read, hmem, hid, hterms⟩ := hread
  constructor
  · rintro ⟨other, hother, hstatus, heq⟩
    exact ⟨other, hother, congrArg Prod.fst heq, hstatus⟩
  · rintro ⟨other, hother, hkey, hstatus⟩
    have hsame := eq_of_key_eq h hother hmem (hkey.trans hid.symm)
    exact ⟨other, hother, hstatus, by rw [hsame, hid, hterms]⟩

theorem Traced.confirmExtension (h : Traced originalEnd trip)
    (hread : ∃ other ∈ trip.extensions, other.id = row.id ∧ other.terms = row.terms)
    (razorpayPaymentId : String) :
    Traced originalEnd (trip.confirmExtension row razorpayPaymentId false) := by
  obtain ⟨read, hin, hid, hterms⟩ := hread
  obtain ⟨hfrom, hto⟩ := h.spans read hin
  rw [confirmExtension_eq]
  -- an updated row is an old one as far as ids and terms go
  have hold : ∀ row' ∈ updateKey ExtensionRow.id row.id
      (fun row => { row with status := .confirmed, razorpayPaymentId := some razorpayPaymentId })
      trip.extensions, ∃ other ∈ trip.extensions, other.id = row'.id ∧ other.terms = row'.terms := by
    intro row' hrow'
    rcases mem_updateKey.mp hrow' with ⟨other, hother, -, rfl⟩ | ⟨hother, -⟩
    · exact ⟨other, hother, rfl, rfl⟩
    · exact ⟨row', hother, rfl, rfl⟩
  -- and every old row is still there, confirmed if it was or if it is the one that was read
  have hkept : ∀ other ∈ trip.extensions, ∃ row' ∈ updateKey ExtensionRow.id row.id
      (fun row => { row with status := .confirmed, razorpayPaymentId := some razorpayPaymentId })
      trip.extensions, row'.id = other.id ∧ row'.terms = other.terms ∧
        (other.status = .confirmed ∨ other.id = row.id → row'.status = .confirmed) := by
    intro other hother
    by_cases hkey : other.id = row.id
    · exact ⟨_, mem_updateKey.mpr (.inl ⟨other, hother, hkey, rfl⟩), rfl, rfl, fun _ => rfl⟩
    · exact ⟨other, mem_updateKey.mpr (.inr ⟨hother, hkey⟩), rfl, rfl,
        fun hor => hor.resolve_right hkey⟩
  constructor
  case nodup =>
    have hid : ∀ other : ExtensionRow, ExtensionRow.id { other with
        status := .confirmed, razorpayPaymentId := some razorpayPaymentId } = other.id :=
      fun _ => rfl
    dsimp only
    rw [map_key_updateKey hid]
    exact h.nodup
  case own =>
    intro row' hrow'
    obtain ⟨other, hother, hkey, -⟩ := hold row' hrow'
    exact hkey ▸ h.own other hother
  case quoted => exact h.quoted
  case spans =>
    intro row' hrow'
    obtain ⟨other, hother, -, heq⟩ := hold row' hrow'
    exact heq ▸ h.spans other hother
  case read =>
    intro verification hverification
    obtain ⟨other, hother, hkey, heq⟩ := h.read verification hverification
    obtain ⟨row', hrow', hkey', heq', -⟩ := hkept other hother
    exact ⟨row', hrow', hkey'.trans hkey, heq'.trans heq⟩
  case ends =>
    rw [hterms] at hfrom hto
    exact hfrom.trans hto.le
  -- the journal of an extension is keyed by its id, so that only one of them can have changed
  case booked =>
    intro id hother
    by_cases hsame : id = row.id
    · subst hsame
      rcases h.booked row.id hother with hfree | ⟨-, hfound⟩
      · rcases bookJournal_of_free hfree with ⟨-, -, hfound⟩ | ⟨-, hrefused⟩
        · obtain ⟨row', hrow', hkey', -, hconfirmed⟩ := hkept read hin
          exact .inr ⟨⟨row', hrow', hkey'.trans hid, hconfirmed (.inr hid)⟩, hfound⟩
        · refine .inl ?_
          dsimp only
          rw [hrefused]
          exact hfree
      · obtain ⟨row', hrow', hkey', -, hconfirmed⟩ := hkept read hin
        exact .inr ⟨⟨row', hrow', hkey'.trans hid, hconfirmed (.inr hid)⟩,
          bookJournal_findKey_mono hfound⟩
    · rcases h.booked id hother with hfree | ⟨⟨other, hmem, hkey, hstatus⟩, hfound⟩
      · refine .inl ?_
        dsimp only
        rw [bookJournal_rowsOf hsame]
        exact hfree
      · obtain ⟨row', hrow', hkey', -, hconfirmed⟩ := hkept other hmem
        exact .inr ⟨⟨row', hrow', hkey'.trans hkey, hconfirmed (.inl hstatus)⟩,
          bookJournal_findKey_mono hfound⟩

theorem confirmExtension_law_iff (h : Traced originalEnd trip)
    (hlaw : ExtensionLaw originalEnd trip)
    (hread : ∃ other ∈ trip.extensions, other.id = row.id ∧ other.terms = row.terms)
    (razorpayPaymentId : String) :
    ExtensionLaw originalEnd (trip.confirmExtension row razorpayPaymentId false) ∧
        trip.booking.endDate ≤
          (trip.confirmExtension row razorpayPaymentId false).booking.endDate ↔
      if ∃ other ∈ trip.extensions, other.id = row.id ∧ other.status = .confirmed then
        row.terms.requestedEndDate = trip.booking.endDate
      else row.terms.currentEndDate = trip.booking.endDate ∧ Bookable row.terms := by
  have hcharged := charged_confirmExtension h.nodup hread razorpayPaymentId
  have hmem := mem_charged_iff h.nodup hread
  have hnew : (trip.confirmExtension row razorpayPaymentId false).booking.endDate =
      row.terms.requestedEndDate := by rw [confirmExtension_eq]
  have hledger : (trip.confirmExtension row razorpayPaymentId false).ledger =
      (bookJournal trip row).ledger := by rw [confirmExtension_eq]
  obtain ⟨read, hin, hid, hterms⟩ := hread
  obtain ⟨hfrom, hto⟩ := h.spans read hin
  have hbooked := h.booked row.id (hid ▸ h.own read hin)
  rw [hterms] at hfrom hto
  rw [hnew]
  split
  next hconfirmed =>
    -- a second confirmation: the same tiles, and the journal is there
    have hsame : insert (row.id, row.terms) trip.charged = trip.charged :=
      Set.insert_eq_of_mem (hmem.mpr hconfirmed)
    have hrows := (hlaw.journals _ (hmem.mpr hconfirmed)).recorded
    have hfound := (hbooked.resolve_left hrows).2
    rw [hsame] at hcharged
    rw [bookJournal_of_found hfound] at hledger
    constructor
    · rintro ⟨hlaw', -⟩
      have htiles := hlaw'.tiles
      rw [hcharged, hnew] at htiles
      exact htiles.end_eq (hfrom.trans hto.le) hlaw.tiles h.ends
    · intro hend
      refine ⟨⟨?_, ?_⟩, hend.ge⟩
      · rw [hcharged, hnew, hend]
        exact hlaw.tiles
      · rw [hcharged, hledger]
        exact hlaw.journals
  -- a first confirmation adds one tile, and its journal if it is accepted
  next hfirst =>
    have hout := fun hcharge => hfirst (hmem.mp hcharge)
    have hfree := hbooked.resolve_right fun hother => hfirst hother.1
    have htiles := tiles_insert_iff hlaw.tiles h.ends hout hto hfrom
    constructor
    · rintro ⟨hlaw', -⟩
      have htiles' := hlaw'.tiles
      rw [hcharged, hnew] at htiles'
      refine ⟨htiles.mp htiles', ?_⟩
      have hjournal := hlaw'.journals (row.id, row.terms) (by
        rw [hcharged]
        exact Set.mem_insert _ _)
      rw [hledger] at hjournal
      rcases bookJournal_of_free hfree with ⟨hbookable, -⟩ | ⟨-, hrefused⟩
      · exact hbookable
      · rw [hrefused] at hjournal
        exact absurd hfree hjournal.recorded
    · rintro ⟨hstart, hbookable⟩
      refine ⟨⟨?_, ?_⟩, hstart ▸ hto.le⟩
      · rw [hcharged, hnew]
        exact htiles.mpr hstart
      · rw [hcharged, hledger]
        rintro charge (rfl | hcharge)
        · exact ((bookJournal_of_free hfree).resolve_right fun hother => hother.1 hbookable).2.1
        · obtain ⟨other, hother, hstatus, rfl⟩ := hcharge
          have hne : other.id ≠ row.id := fun hkey => hfirst ⟨other, hother, hkey, hstatus⟩
          exact (hlaw.journals _ ⟨other, hother, hstatus, rfl⟩).congr (bookJournal_rowsOf hne)

end Confirm

/-! ## Steps -/

section Steps

variable {trip : ExtendedTrip} {originalEnd : ℤ}

theorem Traced.erase (h : Traced originalEnd trip) (verification : ExtensionRow × String) :
    Traced originalEnd
      { trip with verifications := trip.verifications.erase verification } where
  nodup := h.nodup
  own := h.own
  quoted := h.quoted
  spans := h.spans
  read := fun other hother => h.read other (List.mem_of_mem_erase hother)
  ends := h.ends
  booked := h.booked

theorem Traced.insertExtension (h : Traced originalEnd trip) {quote : ExtensionQuote}
    (hquote : quote ∈ trip.quotes) (newId : Id) (gatewayOrder : Option String) :
    Traced originalEnd ({ trip with quotes := trip.quotes.erase quote }.insertExtension quote newId
      gatewayOrder).1 := by
  have herase : Traced originalEnd { trip with quotes := trip.quotes.erase quote } :=
    { h with quoted := fun other hother => h.quoted other (List.mem_of_mem_erase hother) }
  rcases insertExtension_cases { trip with quotes := trip.quotes.erase quote } quote newId
    gatewayOrder with heq | ⟨orderId, terms, -, hterms, hforeign, hown, heq⟩
  · rw [heq]
    exact herase
  · obtain ⟨hcurrent, hrequested, -⟩ := termsOf_eq_some hterms
    rw [heq]
    constructor
    case nodup => exact nodup_map_concat h.nodup hown
    case own =>
      intro row hrow
      rcases List.mem_append.mp hrow with hrow | hrow
      · exact h.own row hrow
      · rw [List.mem_singleton.mp hrow]
        exact hforeign
    case quoted => exact herase.quoted
    case spans =>
      intro row hrow
      rcases List.mem_append.mp hrow with hrow | hrow
      · exact h.spans row hrow
      · rw [List.mem_singleton.mp hrow]
        dsimp only
        rw [hcurrent, hrequested]
        exact h.quoted quote hquote
    case read =>
      intro verification hverification
      obtain ⟨row, hrow, hrest⟩ := h.read verification hverification
      exact ⟨row, List.mem_append_left _ hrow, hrest⟩
    case ends => exact h.ends
    case booked =>
      intro id hid
      rcases h.booked id hid with hfree | ⟨⟨row, hrow, hrest⟩, hfound⟩
      · exact .inl hfree
      · exact .inr ⟨⟨row, List.mem_append_left _ hrow, hrest⟩, hfound⟩

theorem step_traced (h : Traced originalEnd trip) (action : Action) :
    Traced originalEnd (step trip action) := by
  cases action with
  | quoteExtension customerId requestedEndDate blocked occupied commissionPercent =>
    simp only [step]
    split
    next quote hok =>
      obtain ⟨hcurrent, hlater, -⟩ := getQuote_eq_ok hok
      refine { h with quoted := fun other hother => ?_ }
      rcases List.mem_cons.mp hother with rfl | hmem
      · exact ⟨hcurrent ▸ h.ends, hlater⟩
      · exact h.quoted other hmem
    · exact h
  | insertExtension quote newId gatewayOrder =>
    simp only [step]
    split
    next hquote => exact h.insertExtension hquote newId gatewayOrder
    · exact h
  | startVerification extensionId customerId razorpayPaymentId signatureValid =>
    simp only [step]
    split
    next row hok =>
      refine { h with read := fun verification hmem => ?_ }
      rcases List.mem_cons.mp hmem with rfl | hmem
      · exact ⟨row, checkVerification_eq_ok hok, rfl, rfl⟩
      · exact h.read verification hmem
    · exact h
    · exact h
  | confirmExtension row razorpayPaymentId collision =>
    simp only [step]
    split
    next hmem =>
      have herase := h.erase (row, razorpayPaymentId)
      cases collision with
      | true => exact herase
      | false => exact herase.confirmExtension (h.read _ hmem) razorpayPaymentId
    · exact h
  | setStatus status => exact { h with }

/-- The confirmed extensions, the end and the ledger are the same. -/
def SameCharges (trip trip' : ExtendedTrip) : Prop :=
  trip'.charged = trip.charged ∧ trip'.booking.endDate = trip.booking.endDate ∧
    trip'.ledger = trip.ledger

theorem SameCharges.law_iff {trip' : ExtendedTrip} (h : SameCharges trip trip') :
    ExtensionLaw originalEnd trip' ↔ ExtensionLaw originalEnd trip := by
  obtain ⟨hcharged, hend, hledger⟩ := h
  constructor
  · rintro ⟨htiles, hjournals⟩
    rw [hcharged, hend] at htiles
    rw [hcharged, hledger] at hjournals
    exact ⟨htiles, hjournals⟩
  · rintro ⟨htiles, hjournals⟩
    constructor
    · rw [hcharged, hend]
      exact htiles
    · rw [hcharged, hledger]
      exact hjournals

theorem insertExtension_sameCharges (quote : ExtensionQuote) (newId : Id)
    (gatewayOrder : Option String) :
    SameCharges trip (trip.insertExtension quote newId gatewayOrder).1 := by
  rcases insertExtension_cases trip quote newId gatewayOrder with heq | ⟨-, terms, -, -, -, -, heq⟩
  · rw [heq]
    exact ⟨rfl, rfl, rfl⟩
  · rw [heq]
    refine ⟨?_, rfl, rfl⟩
    ext charge
    constructor
    · rintro ⟨row, hrow, hstatus, hcharge⟩
      rcases List.mem_append.mp hrow with hrow | hrow
      · exact ⟨row, hrow, hstatus, hcharge⟩
      · rw [List.mem_singleton.mp hrow] at hstatus
        cases hstatus
    · rintro ⟨row, hrow, hrest⟩
      exact ⟨row, List.mem_append_left _ hrow, hrest⟩

theorem step_sameCharges {action : Action}
    (h : ∀ row razorpayPaymentId, action = .confirmExtension row razorpayPaymentId false →
      (row, razorpayPaymentId) ∉ trip.verifications) :
    SameCharges trip (step trip action) := by
  cases action with
  | quoteExtension customerId requestedEndDate blocked occupied commissionPercent =>
    simp only [step]
    split <;> exact ⟨rfl, rfl, rfl⟩
  | insertExtension quote newId gatewayOrder =>
    simp only [step]
    split
    · exact (insertExtension_sameCharges quote newId gatewayOrder :)
    · exact ⟨rfl, rfl, rfl⟩
  | startVerification extensionId customerId razorpayPaymentId signatureValid =>
    simp only [step]
    split <;> exact ⟨rfl, rfl, rfl⟩
  | confirmExtension row razorpayPaymentId collision =>
    simp only [step]
    split
    next hmem =>
      cases collision with
      | true => exact ⟨rfl, rfl, rfl⟩
      | false => exact absurd hmem (h row razorpayPaymentId rfl)
    · exact ⟨rfl, rfl, rfl⟩
  | setStatus status => exact ⟨rfl, rfl, rfl⟩

theorem step_law_iff (h : Traced originalEnd trip) (hlaw : ExtensionLaw originalEnd trip)
    (action : Action) :
    ExtensionLaw originalEnd (step trip action) ∧ KeepsEnd trip action ↔
      ConfirmsInOrder trip action := by
  by_cases hconfirms : ∃ row razorpayPaymentId,
      action = .confirmExtension row razorpayPaymentId false ∧
        (row, razorpayPaymentId) ∈ trip.verifications
  · obtain ⟨row, razorpayPaymentId, rfl, hmem⟩ := hconfirms
    have hsame : SameCharges trip
        { trip with verifications := trip.verifications.erase (row, razorpayPaymentId) } :=
      ⟨rfl, rfl, rfl⟩
    have hiff := confirmExtension_law_iff (h.erase (row, razorpayPaymentId))
      (hsame.law_iff.mpr hlaw) (h.read _ hmem) razorpayPaymentId
    simp only [ConfirmsInOrder, KeepsEnd, step, hmem, if_true, forall_const]
    exact hiff
  · have hsame : SameCharges trip (step trip action) :=
      step_sameCharges fun row razorpayPaymentId heq hmem =>
        hconfirms ⟨row, razorpayPaymentId, heq, hmem⟩
    refine iff_of_true ⟨hsame.law_iff.mpr hlaw, hsame.2.1.ge⟩ ?_
    cases action with
    | confirmExtension row razorpayPaymentId collision =>
      rintro hmem rfl
      exact absurd ⟨row, razorpayPaymentId, rfl, hmem⟩ hconfirms
    | _ => trivial

end Steps

/-! ## Runs -/

/-- A booking without extensions, and a ledger without journals of extensions that it does
not know from other bookings. -/
structure UnextendedTrip where
  booking : FleetBooking
  vendorId : Id
  tripType : TripType
  pricePerHour : Money
  pricePerDay : Money
  otherExtensions : List Id
  ledger : Ledger JournalKey
  unbooked : ∀ id ∉ otherExtensions, ledger.rowsOf (.extensionVerify id) = []

def UnextendedTrip.start (trip : UnextendedTrip) : ExtendedTrip where
  booking := trip.booking
  vendorId := trip.vendorId
  tripType := trip.tripType
  pricePerHour := trip.pricePerHour
  pricePerDay := trip.pricePerDay
  extensions := []
  otherExtensions := trip.otherExtensions
  ledger := trip.ledger
  quotes := []
  verifications := []

theorem UnextendedTrip.start_traced (trip : UnextendedTrip) :
    Traced trip.booking.endDate trip.start where
  nodup := List.nodup_nil
  own := fun _ hrow => absurd hrow List.not_mem_nil
  quoted := fun _ hquote => absurd hquote List.not_mem_nil
  spans := fun _ hrow => absurd hrow List.not_mem_nil
  read := fun _ hverification => absurd hverification List.not_mem_nil
  ends := le_refl _
  booked := fun id hid => .inl (trip.unbooked id hid)

theorem UnextendedTrip.start_law (trip : UnextendedTrip) :
    ExtensionLaw trip.booking.endDate trip.start := by
  have hnone : trip.start.charged = ∅ := by
    rw [Set.eq_empty_iff_forall_notMem]
    rintro charge ⟨row, hrow, -⟩
    cases hrow
  constructor
  · rw [hnone]
    exact tiles_empty _ _ _
  · rw [hnone]
    exact fun _ hcharge => absurd hcharge (Set.notMem_empty _)

/-- A booking keeps the law of its extensions exactly along the runs that confirm them in
order. -/
theorem extension_law_iff (trip : UnextendedTrip) (actions : List Action) :
    Everywhere step (ExtensionLaw trip.booking.endDate) trip.start actions ∧
        Along step KeepsEnd trip.start actions ↔
      Along step ConfirmsInOrder trip.start actions :=
  everywhere_and_along_iff (I := Traced trip.booking.endDate)
    (fun _ action h => step_traced h action)
    (fun _ action _ h hlaw => step_law_iff h hlaw action) trip.start_traced trip.start_law

/-! ### Two extensions of the same end -/

def day : ℤ := 86400000

/-- A trip of one day, at 1168.00 a day. -/
def sampleTrip : UnextendedTrip where
  booking := ⟨"booking", "customer", "car", 0, day, .ongoing⟩
  vendorId := "vendor"
  tripType := .selfDrive
  pricePerHour := sampleDeposit
  pricePerDay := sampleTotal
  otherExtensions := []
  ledger := Ledger.empty
  unbooked := fun _ _ => rfl

def shorterQuote : ExtensionQuote :=
  ⟨day, 2 * day, 1, 24, 1168, 584 / 5, 1051 / 50, 65291 / 50, 1168⟩

def longerQuote : ExtensionQuote :=
  ⟨day, 3 * day, 2, 48, 2336, 1168 / 5, 841 / 20, 52233 / 20, 2336⟩

def quoted (requestedEndDate : ℤ) (quote : ExtensionQuote) (newId : Id) : List Action :=
  [.quoteExtension "customer" requestedEndDate false false 10,
    .insertExtension quote newId (some "order")]

def verified (quote : ExtensionQuote) (extensionId : Id) : List Action :=
  .startVerification extensionId "customer" "payment" true ::
    (termsOf quote "order").toList.map fun terms =>
      .confirmExtension ⟨extensionId, terms, .pendingPayment, none⟩ "payment" false

/-- Both extensions are created from the same end, and the shorter one is paid last. -/
def overtakenRun : List Action :=
  quoted (2 * day) shorterQuote "shorter" ++ quoted (3 * day) longerQuote "longer" ++
    verified longerQuote "longer" ++ verified shorterQuote "shorter"

/-- The booking loses the day that was paid first. -/
theorem overtaken_extension_moves_end_back :
    ¬ (Everywhere step (ExtensionLaw sampleTrip.booking.endDate) sampleTrip.start overtakenRun ∧
      Along step KeepsEnd sampleTrip.start overtakenRun) := by
  have hback : ¬ Along step KeepsEnd sampleTrip.start overtakenRun := by decide +kernel
  exact fun h => hback h.2

end CarRental.ExtendedTrip
