import CarRental.Bookings.CreateBooking
import CarRental.Bookings.FleetCalendar

/-!
# Extending a trip

`TripExtensionsService` for one booking: the quote for a later end, the extension that is
created from it, and the verification of its payment, which moves the booking's end and
books the extension's journal.

A creation is two steps, the quote and the insert; so is a verification, the checks on
the extension it has read and the transaction.  Other steps may come in between, so what
was quoted or read is kept in flight.  What the calendar of the other bookings and the
blocked dates say is an argument, as is the commission.

The calendar (`Fleet`) sees the same transaction.  Dates are
milliseconds.
-/

namespace CarRental

open KeyedRows

structure ExtensionQuote where
  currentEndDate : ℤ
  requestedEndDate : ℤ
  extraDays : ℤ
  extraHours : ℤ
  baseFare : Decimal
  platformFee : Decimal
  gstAmount : Decimal
  totalFare : Decimal
  netToVendor : Decimal
deriving DecidableEq

/-- The columns of an extension that its creation fills. -/
structure ExtensionTerms where
  currentEndDate : ℤ
  requestedEndDate : ℤ
  extraDays : ℤ
  extraHours : ℤ
  baseFare : Money
  platformFee : Money
  gstAmount : Money
  totalFare : Money
  netToVendor : Money
  razorpayOrderId : String
deriving DecidableEq

structure ExtensionRow where
  id : Id
  terms : ExtensionTerms
  status : ExtensionStatus
  razorpayPaymentId : Option String
deriving DecidableEq

/-- A booking, the prices of its car, its extensions, the ids of the extensions of other
bookings, the ledger, and what is in flight: quotes to create an extension from, and
extensions whose payment is being verified. -/
structure ExtendedTrip where
  booking : FleetBooking
  vendorId : Id
  tripType : TripType
  pricePerHour : Money
  pricePerDay : Money
  extensions : List ExtensionRow
  otherExtensions : List Id
  ledger : Ledger JournalKey
  quotes : List ExtensionQuote
  verifications : List (ExtensionRow × String)
deriving DecidableEq

namespace ExtendedTrip

/-! ## Quotes -/

/-- `Math.ceil(duration / unit)` -/
def ceilDiv (duration unit : ℤ) : ℤ := -(-duration / unit)

def extraHours (trip : ExtendedTrip) (requestedEndDate : ℤ) : ℤ :=
  ceilDiv (requestedEndDate - trip.booking.endDate) (1000 * 60 * 60)

def extraDays (trip : ExtendedTrip) (requestedEndDate : ℤ) : ℤ :=
  max 1 (ceilDiv (requestedEndDate - trip.booking.endDate) (1000 * 60 * 60 * 24))

def extraBasePrice (trip : ExtendedTrip) (requestedEndDate : ℤ) : Decimal :=
  if trip.tripType = .localTrip ∨ trip.tripType = .airportTransfer then
    Decimal.mul trip.pricePerHour.value (trip.extraHours requestedEndDate)
  else Decimal.mul trip.pricePerDay.value (trip.extraDays requestedEndDate)

/-- The request to the fare calculator: the extra time as a package, without discounts, at
the default GST rate. -/
def fareRequest (trip : ExtendedTrip) (requestedEndDate : ℤ) (commissionPercent : Decimal) :
    FareRequest where
  distanceKm := 0
  basePackagePrice := trip.extraBasePrice requestedEndDate
  pricePerKm := 0
  commissionPercent := commissionPercent
  durationDays := (trip.extraDays requestedEndDate).toNat
  weeklyDiscountPercent := 0
  monthlyDiscountPercent := 0
  gstRatePercent := 18
  durationDiscounts := []

def getQuote (trip : ExtendedTrip) (userId : Id) (isCustomer : Bool) (requestedEndDate : ℤ)
    (blocked occupied : Bool) (commissionPercent : Decimal) : Except HttpError ExtensionQuote :=
  if isCustomer ∧ trip.booking.customerId ≠ userId then
    .error (.forbidden "Access denied: You do not own this booking.")
  else if trip.booking.status ≠ .ongoing then
    .error (.badRequest "Extension is only permitted for ONGOING trips.")
  else if requestedEndDate ≤ trip.booking.endDate then
    .error (.badRequest
      "Requested extension end date must be after the current booking end date.")
  else if blocked then
    .error (.conflict
      "The vehicle is blocked by the fleet partner during the requested extension dates.")
  else if occupied then
    .error (.conflict
      "The vehicle has an upcoming confirmed booking during the requested extension period.")
  else
    let fare := calculateFare (trip.fareRequest requestedEndDate commissionPercent)
    .ok {
      currentEndDate := trip.booking.endDate
      requestedEndDate
      extraDays := trip.extraDays requestedEndDate
      extraHours := trip.extraHours requestedEndDate
      baseFare := fare.baseFare
      platformFee := fare.platformFee
      gstAmount := fare.gst
      totalFare := fare.total
      netToVendor := fare.netToVendor }

/-! ## Creations -/

/-- The columns that a quote and its order are stored in, if the amounts fit. -/
def termsOf (quote : ExtensionQuote) (razorpayOrderId : String) : Option ExtensionTerms := do
  let baseFare ← Column.ofDecimal? quote.baseFare
  let platformFee ← Column.ofDecimal? quote.platformFee
  let gstAmount ← Column.ofDecimal? quote.gstAmount
  let totalFare ← Column.ofDecimal? quote.totalFare
  let netToVendor ← Column.ofDecimal? quote.netToVendor
  return {
    currentEndDate := quote.currentEndDate
    requestedEndDate := quote.requestedEndDate
    extraDays := quote.extraDays
    extraHours := quote.extraHours
    baseFare, platformFee, gstAmount, totalFare, netToVendor, razorpayOrderId }

/-- The second part of `createExtension`: the order at the gateway and the new row, with an
id that the database makes up. -/
def insertExtension (trip : ExtendedTrip) (quote : ExtensionQuote) (newId : Id)
    (gatewayOrder : Option String) : ExtendedTrip × Except HttpError ExtensionRow :=
  match gatewayOrder with
  | none => (trip, .error (.badRequest "Failed to initialize extension payment gateway."))
  | some orderId =>
    match termsOf quote orderId with
    | none => (trip, .error (.internal "numeric field overflow"))
    | some terms =>
      let row : ExtensionRow := ⟨newId, terms, .pendingPayment, none⟩
      if newId ∈ trip.otherExtensions ∨ newId ∈ trip.extensions.map ExtensionRow.id then
        (trip, .error (.internal "Unique constraint failed on id"))
      else ({ trip with extensions := trip.extensions ++ [row] }, .ok row)

/-! ## Verifications -/

/-- The first part of `verifyExtensionPayment`: the extension it goes on with, unless it is
confirmed already. -/
def checkVerification (trip : ExtendedTrip) (extensionId customerId : Id)
    (signatureValid : Bool) : Except HttpError (Option ExtensionRow) :=
  match trip.extensions.find? fun extension => extension.id = extensionId with
  | none => .error (.notFound "Trip extension record not found.")
  | some extension =>
    if trip.booking.customerId ≠ customerId then
      .error (.forbidden "Access denied: Unauthorized customer.")
    else if extension.status = .confirmed then .ok none
    else if !signatureValid then
      .error (.badRequest "Invalid payment signature verification.")
    else .ok (some extension)

/-- The platform's share: what the vendor's and the tax leave of the total. -/
def adjustedPlatformFee (terms : ExtensionTerms) : ℤ :=
  let delta := terms.totalFare.paise -
    (terms.netToVendor.paise + terms.platformFee.paise + terms.gstAmount.paise)
  terms.platformFee.paise + delta

def extensionLines (vendorId : Id) (terms : ExtensionTerms) : List PaiseLine :=
  [⟨.gatewayClearing, some "RAZORPAY", .debit, terms.totalFare.paise⟩,
    ⟨.vendorPayable, some vendorId, .credit, terms.netToVendor.paise⟩] ++
  positiveLine .platformCommissionRevenue none .credit (adjustedPlatformFee terms) ++
  positiveLine .taxGstLiability none .credit terms.gstAmount.paise

def extensionJournal (vendorId : Id) (row : ExtensionRow) : RecordJournalInput JournalKey :=
  paiseJournal (.extensionVerify row.id) (some vendorId) (extensionLines vendorId row.terms)

/-- The journal is best effort: a refused one is only logged. -/
def bookJournal (trip : ExtendedTrip) (row : ExtensionRow) : ExtendedTrip :=
  match recordJournal trip.ledger (extensionJournal trip.vendorId row) with
  | .ok (ledger, _) => { trip with ledger }
  | .error _ => trip

/-- The transaction of `verifyExtensionPayment`, for the extension as it was read.  Neither
the status of its row nor the end of the booking is read again. -/
def confirmExtension (trip : ExtendedTrip) (row : ExtensionRow) (razorpayPaymentId : String)
    (collision : Bool) : ExtendedTrip :=
  if collision then trip
  else
    bookJournal { trip with
      extensions := updateKey ExtensionRow.id row.id
        (fun row =>
          { row with status := .confirmed, razorpayPaymentId := some razorpayPaymentId })
        trip.extensions
      booking := { trip.booking with endDate := row.terms.requestedEndDate } } row

theorem confirmExtension_eq (trip : ExtendedTrip) (row : ExtensionRow)
    (razorpayPaymentId : String) :
    trip.confirmExtension row razorpayPaymentId false =
      { trip with
        extensions := updateKey ExtensionRow.id row.id
          (fun row =>
            { row with status := .confirmed, razorpayPaymentId := some razorpayPaymentId })
          trip.extensions
        booking := { trip.booking with endDate := row.terms.requestedEndDate }
        ledger := (bookJournal trip row).ledger } := by
  simp only [confirmExtension, bookJournal, Bool.false_eq_true, if_false]
  cases recordJournal trip.ledger (extensionJournal trip.vendorId row) <;> rfl

/-! ## Steps -/

inductive Action where
  | quoteExtension (customerId : Id) (requestedEndDate : ℤ) (blocked occupied : Bool)
      (commissionPercent : Decimal)
  | insertExtension (quote : ExtensionQuote) (newId : Id) (gatewayOrder : Option String)
  | startVerification (extensionId customerId : Id) (razorpayPaymentId : String)
      (signatureValid : Bool)
  | confirmExtension (row : ExtensionRow) (razorpayPaymentId : String) (collision : Bool)
  /-- The booking goes on through its statuses. -/
  | setStatus (status : BookingStatus)
deriving DecidableEq

def step (trip : ExtendedTrip) : Action → ExtendedTrip
  | .quoteExtension customerId requestedEndDate blocked occupied commissionPercent =>
    match trip.getQuote customerId true requestedEndDate blocked occupied commissionPercent with
    | .ok quote => { trip with quotes := quote :: trip.quotes }
    | .error _ => trip
  | .insertExtension quote newId gatewayOrder =>
    if quote ∈ trip.quotes then
      ({ trip with quotes := trip.quotes.erase quote }.insertExtension quote newId
        gatewayOrder).1
    else trip
  | .startVerification extensionId customerId razorpayPaymentId signatureValid =>
    match trip.checkVerification extensionId customerId signatureValid with
    | .ok (some row) => { trip with verifications := (row, razorpayPaymentId) :: trip.verifications }
    | .ok none => trip
    | .error _ => trip
  | .confirmExtension row razorpayPaymentId collision =>
    if (row, razorpayPaymentId) ∈ trip.verifications then
      { trip with
        verifications := trip.verifications.erase (row, razorpayPaymentId) }.confirmExtension row
          razorpayPaymentId collision
    else trip
  | .setStatus status => { trip with booking := { trip.booking with status } }

/-! ## What the calendar sees -/

end ExtendedTrip

end CarRental
