import CarRental.Lib.KeyedRows
import CarRental.Lib.Runs
import CarRental.Lib.Totals
import CarRental.Money

/-!
# Numbers of invoices and credit notes

`generateInvoiceForBooking` and `createCreditNote` take the number of rows for the last number.
Calls that count at the same time get the same number, and only one can insert it.  Another then
answers with the booking's invoice, which need not exist; inside a payment's transaction its
failed insert aborts the transaction.  Nobody adds up the credit notes of an invoice.

A call goes on step by step, and other calls come in between (`invoices_right_iff`).  What a
transaction inserts is seen when it commits, and who inserts the same number waits for that: insert
and commit are one step.
-/

namespace CarRental

open KeyedRows Runs Totals

/-! ## The tables -/

/-- The booking with its payment and deposit, as far as an invoice has it. -/
structure BilledBooking where
  id : Id
  customerId : Id
  vendorId : Id
  paymentId : Option Id
  baseFare : Money
  platformFee : Money
  protectionFee : Money
  gstAmount : Money
  discountAmount : Option Money
  totalFare : Money
  depositAmount : Option Money
deriving DecidableEq

/-- The text `INV-YYYY-MM-XXXXX` (or `CN-…`), in its parts. -/
structure SerialNumber where
  year : ℕ
  month : ℕ
  sequence : ℕ
deriving DecidableEq

structure Invoice where
  id : Id
  invoiceNumber : SerialNumber
  bookingId : Id
  paymentId : Id
  customerId : Id
  vendorId : Id
  baseFare : Money
  platformFee : Money
  protectionFee : Money
  gstRate : Decimal
  gstAmount : Money
  discountAmount : Money
  totalFare : Money
  depositAmount : Money
  issuedAt : ℤ
deriving DecidableEq

structure CreditNote where
  creditNoteNumber : SerialNumber
  invoiceId : Id
  bookingId : Id
  amount : Money
  reason : String
  issuedAt : ℤ
deriving DecidableEq

def BilledBooking.invoice (booking : BilledBooking) (id : Id) (invoiceNumber : SerialNumber)
    (issuedAt : ℤ) : Invoice where
  id
  invoiceNumber
  bookingId := booking.id
  paymentId := booking.paymentId.getD "PAY-PENDING"
  customerId := booking.customerId
  vendorId := booking.vendorId
  baseFare := booking.baseFare
  platformFee := booking.platformFee
  protectionFee := booking.protectionFee
  gstRate := 18
  gstAmount := booking.gstAmount
  discountAmount := booking.discountAmount.getD .zero
  totalFare := booking.totalFare
  depositAmount := booking.depositAmount.getD .zero
  issuedAt

/-! ## The calls -/

/-- What a call has read and still does; `enclosed` are those of a payment's transaction. -/
inductive BillingCall where
  | counting (booking : BilledBooking) (enclosed : Bool)
  | creating (booking : BilledBooking) (enclosed : Bool) (invoiceNumber : SerialNumber)
  | rereading (bookingId : Id)
  | noteCounting (invoice : Invoice) (amount : Decimal) (reason : String)
  | noteCreating (invoice : Invoice) (amount : Decimal) (reason : String) (number : SerialNumber)
deriving DecidableEq

/-- The tables, the calls under way, what they have answered for which booking, and how many
payments were aborted over a number. -/
structure BillingDesk where
  bookings : List BilledBooking
  invoices : List Invoice
  creditNotes : List CreditNote
  calls : List BillingCall
  answers : List (Id × Option Invoice)
  aborted : ℕ

/-- The clock, and the id of a new row. -/
structure BillingClock where
  year : ℕ
  month : ℕ
  now : ℤ
  newId : Id

inductive BillingAction where
  | generateInvoiceForBooking (bookingId : Id) (enclosed : Bool)
  | createCreditNote (invoiceId : Id) (amount : Decimal) (reason : String)
  | advance (call : BillingCall) (clock : BillingClock)
  /-- A call, or the transaction around it, fails for another reason. -/
  | fail (call : BillingCall)

namespace BillingDesk

def invoice? (desk : BillingDesk) (bookingId : Id) : Option Invoice :=
  desk.invoices.find? (·.bookingId = bookingId)

def NumberTaken (desk : BillingDesk) (number : SerialNumber) : Prop :=
  number ∈ desk.invoices.map Invoice.invoiceNumber

/-- The sum of the credit notes of an invoice, in paise. -/
def credited (desk : BillingDesk) (invoiceId : Id) : ℤ :=
  total (·.invoiceId = invoiceId) (·.amount.paise) desk.creditNotes

instance (desk : BillingDesk) (number : SerialNumber) : Decidable (desk.NumberTaken number) :=
  inferInstanceAs (Decidable (_ ∈ _))

def answer (desk : BillingDesk) (bookingId : Id) (invoice : Option Invoice) : BillingDesk :=
  { desk with answers := desk.answers ++ [(bookingId, invoice)] }

/-- The next step of a call; ids of rows are drawn anew. -/
def advance (desk : BillingDesk) (clock : BillingClock) : BillingCall → BillingDesk
  | .counting booking enclosed =>
    { desk with calls := desk.calls ++
        [.creating booking enclosed ⟨clock.year, clock.month, desk.invoices.length + 1⟩] }
  | .creating booking enclosed number =>
    if desk.NumberTaken number ∨ (desk.invoice? booking.id).isSome then
      if enclosed then
        { desk with aborted := if desk.NumberTaken number then desk.aborted + 1 else desk.aborted }
      else { desk with calls := desk.calls ++ [.rereading booking.id] }
    else if clock.newId ∈ desk.invoices.map Invoice.id then desk
    else
      let invoice := booking.invoice clock.newId number clock.now
      { desk with invoices := desk.invoices ++ [invoice] }.answer booking.id (some invoice)
  | .rereading bookingId => desk.answer bookingId (desk.invoice? bookingId)
  | .noteCounting invoice amount reason =>
    { desk with calls := desk.calls ++ [.noteCreating invoice amount reason
        ⟨clock.year, clock.month, desk.creditNotes.length + 1⟩] }
  | .noteCreating invoice amount reason number =>
    match Column.ofDecimal? amount with
    | none => desk
    | some amount =>
      if number ∈ desk.creditNotes.map CreditNote.creditNoteNumber ∨
          invoice.id ∉ desk.invoices.map Invoice.id then desk
      else { desk with creditNotes := desk.creditNotes ++
        [⟨number, invoice.id, invoice.bookingId, amount, reason, clock.now⟩] }

end BillingDesk

def billingStep (desk : BillingDesk) : BillingAction → BillingDesk
  | .generateInvoiceForBooking bookingId enclosed =>
    match desk.bookings.find? (·.id = bookingId) with
    | none => desk
    | some booking =>
      match desk.invoice? booking.id with
      | some invoice => desk.answer bookingId (some invoice)
      | none => { desk with calls := desk.calls ++ [.counting booking enclosed] }
  | .createCreditNote invoiceId amount reason =>
    match desk.invoices.find? (·.id = invoiceId) with
    | none => desk
    | some invoice => { desk with calls := desk.calls ++ [.noteCounting invoice amount reason] }
  | .advance call clock =>
    if call ∈ desk.calls then { desk with calls := desk.calls.erase call }.advance clock call
    else desk
  | .fail call => { desk with calls := desk.calls.erase call }

/-! ## The law -/

/-- Every answer is the invoice of its booking, nothing occurs twice, no payment was aborted, and no
credit note is of an invoice that is credited beyond its total. -/
structure BillingLaw (desk : BillingDesk) : Prop where
  answered : ∀ answer ∈ desk.answers, ∃ invoice ∈ desk.invoices,
    answer.2 = some invoice ∧ invoice.bookingId = answer.1
  oneEach : (desk.invoices.map Invoice.bookingId).Nodup
  numbers : (desk.invoices.map Invoice.invoiceNumber).Nodup
  noteNumbers : (desk.creditNotes.map CreditNote.creditNoteNumber).Nodup
  notAborted : desk.aborted = 0
  bounded : ∀ note ∈ desk.creditNotes, ∃ invoice ∈ desk.invoices, invoice.id = note.invoiceId ∧
    desk.credited invoice.id ≤ invoice.totalFare.paise

/-- A payment's transaction inserts no number that is taken, a booking that is read again has an
invoice, and a credit note that is written is for no more than what is left of its invoice. -/
def CallUndisturbed (desk : BillingDesk) : BillingCall → Prop
  | .creating _ enclosed number => enclosed = true → ¬ desk.NumberTaken number
  | .rereading bookingId => (desk.invoice? bookingId).isSome
  | .noteCreating invoice amount _ number =>
    number ∉ desk.creditNotes.map CreditNote.creditNoteNumber →
      invoice.id ∈ desk.invoices.map Invoice.id →
      ∀ paid : Money, Column.ofDecimal? amount = some paid →
        ∃ other ∈ desk.invoices, other.id = invoice.id ∧
          desk.credited invoice.id + paid.paise ≤ other.totalFare.paise
  | _ => True

def Undisturbed (desk : BillingDesk) : BillingAction → Prop
  | .advance call _ => call ∈ desk.calls → CallUndisturbed desk call
  | _ => True

section

variable {desk : BillingDesk} {bookingId : Id} {booking : BilledBooking} {invoice : Invoice}
  {number : SerialNumber}

theorem invoice?_eq_some (h : desk.invoice? bookingId = some invoice) :
    invoice ∈ desk.invoices ∧ invoice.bookingId = bookingId :=
  ⟨List.mem_of_find?_eq_some h, of_decide_eq_true (List.find?_some h :)⟩

theorem BillingLaw.setCalls (h : BillingLaw desk) (calls : List BillingCall) :
    BillingLaw { desk with calls } :=
  ⟨h.answered, h.oneEach, h.numbers, h.noteNumbers, h.notAborted, h.bounded⟩

theorem law_answer_iff (h : BillingLaw desk) :
    BillingLaw (desk.answer bookingId (desk.invoice? bookingId)) ↔
      (desk.invoice? bookingId).isSome := by
  constructor
  · intro hlaw
    obtain ⟨invoice, -, hsome, -⟩ :=
      hlaw.answered _ (List.mem_append_right _ (List.mem_singleton_self _))
    exact Option.isSome_iff_exists.mpr ⟨invoice, hsome⟩
  · intro hsome
    obtain ⟨invoice, hinvoice⟩ := Option.isSome_iff_exists.mp hsome
    refine ⟨?_, h.oneEach, h.numbers, h.noteNumbers, h.notAborted, h.bounded⟩
    intro answer hanswer
    rcases List.mem_append.mp hanswer with hold | hnew
    · exact h.answered answer hold
    · obtain rfl := List.mem_singleton.mp hnew
      obtain ⟨hmem, hbooking⟩ := invoice?_eq_some hinvoice
      exact ⟨invoice, hmem, hinvoice, hbooking⟩

theorem BillingLaw.insertInvoice (h : BillingLaw desk) (hnumber : ¬ desk.NumberTaken number)
    (hnone : desk.invoice? booking.id = none) (id : Id) (now : ℤ) :
    BillingLaw ({ desk with invoices := desk.invoices ++ [booking.invoice id number now] }.answer
      booking.id (some (booking.invoice id number now))) where
  answered := by
    intro answer hanswer
    rcases List.mem_append.mp hanswer with hold | hnew
    · obtain ⟨invoice, hmem, hsome⟩ := h.answered answer hold
      exact ⟨invoice, List.mem_append_left _ hmem, hsome⟩
    · obtain rfl := List.mem_singleton.mp hnew
      exact ⟨_, List.mem_append_right _ (List.mem_singleton_self _), rfl, rfl⟩
  oneEach := by
    apply nodup_map_concat h.oneEach
    intro hmem
    obtain ⟨other, hother, heq⟩ := List.mem_map.mp hmem
    exact absurd (decide_eq_true heq) (List.find?_eq_none.mp hnone other hother)
  numbers := nodup_map_concat h.numbers hnumber
  noteNumbers := h.noteNumbers
  notAborted := h.notAborted
  bounded := by
    intro note hnote
    obtain ⟨invoice, hmem, hbound⟩ := h.bounded note hnote
    exact ⟨invoice, List.mem_append_left _ hmem, hbound⟩

theorem law_insertNote_iff (h : BillingLaw desk) {note : CreditNote}
    (hnumber : note.creditNoteNumber ∉ desk.creditNotes.map CreditNote.creditNoteNumber) :
    BillingLaw { desk with creditNotes := desk.creditNotes ++ [note] } ↔
      ∃ invoice ∈ desk.invoices, invoice.id = note.invoiceId ∧
        desk.credited note.invoiceId + note.amount.paise ≤ invoice.totalFare.paise := by
  have hcredited : ∀ id, BillingDesk.credited
      { desk with creditNotes := desk.creditNotes ++ [note] } id =
        desk.credited id + if note.invoiceId = id then note.amount.paise else 0 := by
    intro id
    simp [BillingDesk.credited, total_concat]
  constructor
  · intro hlaw
    obtain ⟨invoice, hmem, hid, hbound⟩ :=
      hlaw.bounded note (List.mem_append_right _ (List.mem_singleton_self _))
    rw [hcredited, if_pos hid.symm, hid] at hbound
    exact ⟨invoice, hmem, hid, hbound⟩
  · rintro ⟨invoice, hmem, hid, hbound⟩
    refine ⟨h.answered, h.oneEach, h.numbers, nodup_map_concat h.noteNumbers hnumber, h.notAborted,
      fun other hother => ?_⟩
    by_cases hsame : other.invoiceId = note.invoiceId
    · refine ⟨invoice, hmem, hid.trans hsame.symm, ?_⟩
      rwa [hcredited, if_pos hid.symm, hid]
    · rcases List.mem_append.mp hother with hold | hnew
      · obtain ⟨found, hfound, hfoundId, hfits⟩ := h.bounded other hold
        refine ⟨found, hfound, hfoundId, ?_⟩
        rwa [hcredited, if_neg (fun heq => hsame (hfoundId.symm.trans heq.symm)), add_zero]
      · exact absurd (congrArg _ (List.mem_singleton.mp hnew)) hsame

end

theorem advance_law_iff {desk : BillingDesk} (h : BillingLaw desk) (clock : BillingClock)
    (call : BillingCall) : BillingLaw (desk.advance clock call) ↔ CallUndisturbed desk call := by
  cases call with
  | counting booking enclosed => exact iff_of_true (h.setCalls _) trivial
  | noteCounting invoice amount reason => exact iff_of_true (h.setCalls _) trivial
  | rereading bookingId => exact law_answer_iff h
  | creating booking enclosed number =>
    unfold BillingDesk.advance CallUndisturbed
    dsimp only
    by_cases htaken : desk.NumberTaken number
    · rw [if_pos (.inl htaken), if_pos htaken]
      cases enclosed with
      | true =>
        refine iff_of_false (fun hlaw => ?_) (fun hfree => hfree rfl htaken)
        exact absurd hlaw.notAborted (Nat.succ_ne_zero _)
      | false => exact iff_of_true (h.setCalls _) nofun
    · refine iff_of_true ?_ (fun _ => htaken)
      cases hinvoice : desk.invoice? booking.id with
      | some invoice =>
        rw [if_pos (.inr rfl), if_neg htaken]
        cases enclosed with
        | true => exact ⟨h.answered, h.oneEach, h.numbers, h.noteNumbers, h.notAborted, h.bounded⟩
        | false => exact h.setCalls _
      | none =>
        rw [if_neg (by simp [htaken])]
        split
        · exact h
        · exact h.insertInvoice htaken hinvoice _ _
  | noteCreating invoice amount reason number =>
    unfold BillingDesk.advance CallUndisturbed
    dsimp only
    cases hamount : (Column.ofDecimal? amount : Option Money) with
    | none => exact iff_of_true h (fun _ _ paid hpaid => by cases hpaid)
    | some paid =>
      dsimp only
      split
      next hrefused =>
        refine iff_of_true h (fun hnumber hmem => ?_)
        exact absurd hmem (hrefused.resolve_left hnumber)
      next hwritten =>
        obtain ⟨hnumber, hmem⟩ := not_or.mp hwritten
        rw [law_insertNote_iff h hnumber]
        constructor
        · rintro hfits - - paid' hpaid
          obtain rfl := Option.some.inj hpaid
          exact hfits
        · exact fun hfits => hfits hnumber (not_not.mp hmem) paid rfl

theorem billingStep_law_iff {desk : BillingDesk} (h : BillingLaw desk) (action : BillingAction) :
    BillingLaw (billingStep desk action) ↔ Undisturbed desk action := by
  cases action with
  | generateInvoiceForBooking bookingId enclosed =>
    refine iff_of_true ?_ trivial
    unfold billingStep
    dsimp only
    split
    · exact h
    next booking hbooking =>
      have hid : booking.id = bookingId := of_decide_eq_true (List.find?_some hbooking :)
      split
      next invoice hinvoice =>
        rw [hid] at hinvoice
        rw [← hinvoice]
        exact (law_answer_iff h).mpr (by simp [hinvoice])
      · exact h.setCalls _
  | createCreditNote invoiceId amount reason =>
    refine iff_of_true ?_ trivial
    unfold billingStep
    dsimp only
    split
    · exact h
    · exact h.setCalls _
  | fail call => exact iff_of_true (h.setCalls _) trivial
  | advance call clock =>
    unfold billingStep Undisturbed
    dsimp only
    split
    next hcall =>
      have hsame : CallUndisturbed { desk with calls := desk.calls.erase call } call ↔
          CallUndisturbed desk call := by cases call <;> exact Iff.rfl
      rw [advance_law_iff (h.setCalls _), hsame]
      exact ⟨fun hgoes _ => hgoes, fun hgoes => hgoes hcall⟩
    next hcall => exact iff_of_true h (fun hmem => absurd hmem hcall)

/-- No invoices yet. -/
def BillingDesk.opened (bookings : List BilledBooking) : BillingDesk :=
  ⟨bookings, [], [], [], [], 0⟩

theorem law_opened (bookings : List BilledBooking) : BillingLaw (.opened bookings) :=
  ⟨by simp [BillingDesk.opened], List.nodup_nil, List.nodup_nil, List.nodup_nil, rfl,
    by simp [BillingDesk.opened]⟩

/-- The runs in which invoices and credit notes stay right. -/
theorem invoices_right_iff (bookings : List BilledBooking) (actions : List BillingAction) :
    Everywhere billingStep BillingLaw (.opened bookings) actions ↔
      Along billingStep Undisturbed (.opened bookings) actions :=
  everywhere_iff_along (fun _ action _ h => billingStep_law_iff h action) (law_opened bookings)

def billed (id : Id) : BilledBooking where
  id
  customerId := "customer"
  vendorId := "vendor"
  paymentId := none
  baseFare := .zero
  platformFee := .zero
  protectionFee := .zero
  gstAmount := .zero
  discountAmount := none
  totalFare := .zero
  depositAmount := none

/-- Two bookings are counted for at the same time, and the second is answered with nothing. -/
theorem second_booking_without_invoice : ¬ ∀ bookings actions,
    Everywhere billingStep BillingLaw (.opened bookings) actions := by
  intro h
  have hlast := (h [billed "first", billed "second"]
    [.generateInvoiceForBooking "first" false, .generateInvoiceForBooking "second" false,
      .advance (.counting (billed "first") false) ⟨2026, 3, 0, "a"⟩,
      .advance (.counting (billed "second") false) ⟨2026, 3, 0, "b"⟩,
      .advance (.creating (billed "first") false ⟨2026, 3, 1⟩) ⟨2026, 3, 0, "a"⟩,
      .advance (.creating (billed "second") false ⟨2026, 3, 1⟩) ⟨2026, 3, 0, "b"⟩,
      .advance (.rereading "second") ⟨2026, 3, 0, "b"⟩]).last
  obtain ⟨invoice, -, hsome, -⟩ := hlast.answered ("second", none) (by decide +kernel)
  cases hsome

end CarRental
