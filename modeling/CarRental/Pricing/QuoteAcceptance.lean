import CarRental.Bookings.FleetCalendar
import CarRental.Lib.Runs

/-!
# Accepting a quote

A booking request may name a quote.  `verifyAndAcceptQuote` checks it inside the transaction of
`createBooking`, marks it `ACCEPTED`, and the booking takes its prices.  A checkout session of
the marketplace holds a quote as well: `verifyAndConfirmPayment` accepts it with no check and
creates the booking, already confirmed.

A quote should be accepted by the customer it was issued to, by one booking, for its car, its
interval and its price.  Neither path looks at the customer: `createBooking` even rewrites the
quote to belong to whoever books with it.  Its dates may be off by two minutes.  Two
acceptances by `createBooking` never meet, as both would lock the row of the car; a checkout
takes no lock (`quotes_held_iff`).

Both paths are two steps, one that reads and one that writes.  Quotes may be retired by other
services at any time, as those read a status before they write it.  `issuedTo` remembers what
`customerId` was when the quote was made.
-/

namespace CarRental

open KeyedRows Runs

/-! ## The tables -/

inductive QuoteStatus where
  | active
  | accepted
  | expired
  | superseded
deriving DecidableEq, Repr

def QuoteStatus.text : QuoteStatus → String
  | .active => "ACTIVE"
  | .accepted => "ACCEPTED"
  | .expired => "EXPIRED"
  | .superseded => "SUPERSEDED"

/-- The amounts of a quote, with that of its platform fee's line. -/
structure QuotePrice where
  subtotal : Money
  discountTotal : Money
  feesTotal : Money
  taxTotal : Money
  depositTotal : Money
  totalPayable : Money
  netToVendor : Money
  platformFee : Money
deriving DecidableEq

structure BookingQuote where
  id : Id
  customerId : Option Id
  issuedTo : Option Id
  carId : Id
  tripType : TripType
  startDate : ℤ
  endDate : ℤ
  price : QuotePrice
  status : QuoteStatus
  expiresAt : ℤ
deriving DecidableEq

/-- The amounts of a booking and of its deposit's row. -/
structure BookedPrice where
  baseFare : Money
  platformFee : Money
  gstAmount : Money
  totalFare : Money
  netToVendor : Money
  discountAmount : Option Money
  securityDeposit : Option Money
deriving DecidableEq

/-- A booking with a quote; `fromCheckout` when a checkout session has created it. -/
structure QuotedBooking where
  id : Id
  quoteId : Id
  fromCheckout : Bool
  customerId : Id
  carId : Id
  startDate : ℤ
  endDate : ℤ
  price : BookedPrice
deriving DecidableEq

structure QuotedRequest where
  customerId : Id
  quoteId : Id
  carId : Id
  tripType : TripType
  startDate : ℤ
  endDate : ℤ
deriving DecidableEq

structure CheckoutSession where
  sessionId : Id
  customerId : Id
  quoteId : Id
  expiresAt : ℤ
  bookingId : Option Id
deriving DecidableEq

/-- A transaction of `createBooking` that has passed the checks, with the quote as it was
read. -/
structure OpenAcceptance where
  request : QuotedRequest
  quote : BookingQuote
deriving DecidableEq

/-- A confirmation that has read its session and verified the payment. -/
structure OpenCheckout where
  session : CheckoutSession
  quote : BookingQuote
deriving DecidableEq

structure QuoteDesk where
  quotes : List BookingQuote
  sessions : List CheckoutSession
  bookings : List QuotedBooking
  now : ℤ
  transactions : List OpenAcceptance
  checkouts : List OpenCheckout
deriving DecidableEq

def QuoteDesk.quote? (desk : QuoteDesk) (quoteId : Id) : Option BookingQuote :=
  desk.quotes.find? fun quote => quote.id = quoteId

/-- A booking is inserted, and its quote rewritten. -/
def QuoteDesk.accept (desk : QuoteDesk) (booking : QuotedBooking)
    (rewrite : BookingQuote → BookingQuote) : QuoteDesk :=
  { desk with
    quotes := updateKey BookingQuote.id booking.quoteId rewrite desk.quotes
    bookings := desk.bookings ++ [booking] }

/-! ## Quotes -/

/-- A quote is stored active, for the customer who asked. -/
def issueQuote (desk : QuoteDesk) (quote : BookingQuote) : QuoteDesk :=
  if quote.id ∈ desk.quotes.map BookingQuote.id then desk
  else { desk with
    quotes := desk.quotes ++ [{ quote with status := .active, issuedTo := quote.customerId }] }

def expireQuote (quote : BookingQuote) : BookingQuote :=
  { quote with status := .expired }

def supersedeQuote (quote : BookingQuote) : BookingQuote :=
  { quote with status := .superseded }

/-! ## Booking with a quote -/

/-- The checks of `verifyAndAcceptQuote`. -/
def verifyQuote (desk : QuoteDesk) (request : QuotedRequest) : Except HttpError BookingQuote :=
  match desk.quote? request.quoteId with
  | none => .error (.notFound "Specified quoteId not found.")
  | some quote =>
    if quote.status = .expired ∨ quote.expiresAt < desk.now then
      .error (.conflict
        "The accepted quote has expired. Please refresh the quote before booking.")
    else if quote.status ≠ .active then
      .error (.conflict ("This quote is no longer active (current status: " ++
        quote.status.text ++ ")."))
    else if quote.carId ≠ request.carId then
      .error (.badRequest "Quote does not match the selected car.")
    else if quote.tripType ≠ request.tripType then
      .error (.badRequest "Quote does not match the selected trip type.")
    else if 120000 < |request.startDate - quote.startDate| ∨
        120000 < |request.endDate - quote.endDate| then
      .error (.conflict "Requested booking dates do not match the accepted quote.")
    else .ok quote

/-- What the quote says that the trip costs, in paise. -/
def QuotePrice.tripFare (price : QuotePrice) : ℤ :=
  price.subtotal.paise - price.discountTotal.paise + price.feesTotal.paise + price.taxTotal.paise

/-- The columns of a booking that takes the prices of a quote, if its total fits. -/
def QuotePrice.booked (price : QuotePrice) : Option BookedPrice :=
  (Column.ofPaise? price.tripFare).map fun tripFare =>
    { baseFare := price.subtotal
      platformFee := price.platformFee
      gstAmount := price.taxTotal
      totalFare := tripFare
      netToVendor := price.netToVendor
      discountAmount := some price.discountTotal
      securityDeposit := some price.depositTotal }

/-- The row that the transaction inserts. -/
def OpenAcceptance.booking (transaction : OpenAcceptance) (newId : Id) (price : BookedPrice) :
    QuotedBooking where
  id := newId
  quoteId := transaction.quote.id
  fromCheckout := false
  customerId := transaction.request.customerId
  carId := transaction.request.carId
  startDate := transaction.request.startDate
  endDate := transaction.request.endDate
  price := price

def QuoteDesk.rowLocked (desk : QuoteDesk) (carId : Id) : Bool :=
  desk.transactions.any fun transaction => transaction.request.carId = carId

/-- The checks, once the row of the car is free; `admitted` is what the others say. -/
def beginAcceptance (desk : QuoteDesk) (request : QuotedRequest) (admitted : Bool) : QuoteDesk :=
  if desk.rowLocked request.carId ∨ !admitted then desk
  else
    -- read under the lock of the row of the car, which a checkout does not take
    match verifyQuote desk request with
    | .error _ => desk
    | .ok quote => { desk with transactions := ⟨request, quote⟩ :: desk.transactions }

def acceptQuote (customerId : Id) (quote : BookingQuote) : BookingQuote :=
  { quote with status := .accepted, customerId := some customerId }

/-- The commit, or the rollback when something fails in the transaction. -/
def commitAcceptance (desk : QuoteDesk) (transaction : OpenAcceptance) (newId : Id)
    (failed : Bool) : QuoteDesk :=
  let closed := { desk with transactions := desk.transactions.erase transaction }
  match transaction.quote.price.booked with
  | none => closed
  | some price =>
    if failed ∨ newId ∈ desk.bookings.map QuotedBooking.id then closed
    else closed.accept (transaction.booking newId price)
      (acceptQuote transaction.request.customerId)

/-! ## Checkout -/

/-- A session holds an active quote, whoever it was issued to. -/
def createCheckoutSession (desk : QuoteDesk) (sessionId customerId quoteId : Id) : QuoteDesk :=
  match desk.quote? quoteId with
  | none => desk
  | some quote =>
    if quote.status ≠ .active then desk
    -- an expired quote is marked as such where it is met
    else if quote.expiresAt < desk.now then
      { desk with quotes := updateKey BookingQuote.id quoteId expireQuote desk.quotes }
    else if sessionId ∈ desk.sessions.map CheckoutSession.sessionId then desk
    else { desk with
      sessions := desk.sessions ++ [⟨sessionId, customerId, quoteId, quote.expiresAt, none⟩] }

def QuoteDesk.session? (desk : QuoteDesk) (sessionId customerId : Id) : Option CheckoutSession :=
  desk.sessions.find? fun session =>
    session.sessionId = sessionId ∧ session.customerId = customerId

/-- `refreshQuote` of the marketplace: `renewed` has the new id, price and expiry. -/
def refreshQuote (desk : QuoteDesk) (oldQuote : BookingQuote) (customerId : Id)
    (renewed : BookingQuote) : QuoteDesk :=
  let superseded :=
    if oldQuote.status = .active ∨ oldQuote.status = .expired then
      { desk with quotes := updateKey BookingQuote.id oldQuote.id supersedeQuote desk.quotes }
    else desk
  issueQuote superseded
    { renewed with
      customerId := some customerId
      carId := oldQuote.carId
      tripType := oldQuote.tripType
      startDate := oldQuote.startDate
      endDate := oldQuote.endDate }

/-- The session moves to a new quote. -/
def configureAddons (desk : QuoteDesk) (sessionId customerId : Id) (renewed : BookingQuote) :
    QuoteDesk :=
  match desk.session? sessionId customerId with
  | none => desk
  | some session =>
    match desk.quote? session.quoteId with
    | none => desk
    | some oldQuote =>
      if session.bookingId.isSome ∨ session.expiresAt < desk.now ∨
          renewed.id ∈ desk.quotes.map BookingQuote.id then desk
      else { refreshQuote desk oldQuote customerId renewed with
        sessions := updateKey CheckoutSession.sessionId sessionId
          (fun session => { session with quoteId := renewed.id }) desk.sessions }

/-- `verifyAndConfirmPayment` up to its transaction; `verified` is the answer of the gateway. -/
def beginCheckout (desk : QuoteDesk) (sessionId customerId : Id) (verified : Bool) : QuoteDesk :=
  match desk.session? sessionId customerId with
  | none => desk
  | some session =>
    match desk.quote? session.quoteId with
    | none => desk
    | some quote =>
      if session.bookingId.isSome ∨ !verified then desk
      else { desk with checkouts := ⟨session, quote⟩ :: desk.checkouts }

def markAccepted (quote : BookingQuote) : BookingQuote :=
  { quote with status := .accepted }

/-- The columns of a booking that a checkout creates.  Its total includes the deposit. -/
def QuotePrice.checkedOut (price : QuotePrice) : BookedPrice where
  baseFare := price.subtotal
  platformFee := price.feesTotal
  gstAmount := price.taxTotal
  totalFare := price.totalPayable
  netToVendor := price.netToVendor
  discountAmount := none
  securityDeposit := if 0 < price.depositTotal.paise then some price.depositTotal else none

def OpenCheckout.booking (checkout : OpenCheckout) (newId : Id) : QuotedBooking where
  id := newId
  quoteId := checkout.quote.id
  fromCheckout := true
  customerId := checkout.session.customerId
  carId := checkout.quote.carId
  startDate := checkout.quote.startDate
  endDate := checkout.quote.endDate
  price := checkout.quote.price.checkedOut

/-- The transaction of `verifyAndConfirmPayment`.  It writes nothing when the payment is already
recorded. -/
def confirmCheckout (desk : QuoteDesk) (checkout : OpenCheckout) (newId : Id)
    (failed recorded : Bool) : QuoteDesk :=
  let closed := { desk with checkouts := desk.checkouts.erase checkout }
  if failed ∨ recorded ∨ newId ∈ desk.bookings.map QuotedBooking.id then closed
  else { closed.accept (checkout.booking newId) markAccepted with
    sessions := updateKey CheckoutSession.sessionId checkout.session.sessionId
      (fun session => { session with bookingId := some newId }) desk.sessions }

/-! ## Steps -/

inductive QuoteAction where
  | issueQuote (quote : BookingQuote)
  | beginAcceptance (request : QuotedRequest) (admitted : Bool)
  | commitAcceptance (transaction : OpenAcceptance) (newId : Id) (failed : Bool)
  | createCheckoutSession (sessionId customerId quoteId : Id)
  | configureAddons (sessionId customerId : Id) (renewed : BookingQuote)
  | beginCheckout (sessionId customerId : Id) (verified : Bool)
  | confirmCheckout (checkout : OpenCheckout) (newId : Id) (failed recorded : Bool)
  | expireQuote (quoteId : Id)
  | supersedeQuote (quoteId : Id)
  | advance (milliseconds : ℕ)

def quoteStep (desk : QuoteDesk) : QuoteAction → QuoteDesk
  | .issueQuote quote => issueQuote desk quote
  | .beginAcceptance request admitted => beginAcceptance desk request admitted
  | .commitAcceptance transaction newId failed =>
    if transaction ∈ desk.transactions then commitAcceptance desk transaction newId failed
    else desk
  | .createCheckoutSession sessionId customerId quoteId =>
    createCheckoutSession desk sessionId customerId quoteId
  | .configureAddons sessionId customerId renewed =>
    configureAddons desk sessionId customerId renewed
  | .beginCheckout sessionId customerId verified =>
    beginCheckout desk sessionId customerId verified
  | .confirmCheckout checkout newId failed recorded =>
    if checkout ∈ desk.checkouts then confirmCheckout desk checkout newId failed recorded
    else desk
  | .expireQuote quoteId =>
    { desk with quotes := updateKey BookingQuote.id quoteId expireQuote desk.quotes }
  | .supersedeQuote quoteId =>
    { desk with quotes := updateKey BookingQuote.id quoteId supersedeQuote desk.quotes }
  | .advance milliseconds => { desk with now := desk.now + milliseconds }

/-! ## The law -/

/-- The booking costs what the quote says. -/
def PricedAs (booking : QuotedBooking) (price : QuotePrice) : Prop :=
  booking.price.baseFare = price.subtotal ∧ booking.price.gstAmount = price.taxTotal ∧
    booking.price.netToVendor = price.netToVendor ∧
    if booking.fromCheckout then booking.price.totalFare = price.totalPayable
    else booking.price.totalFare.paise = price.tripFare ∧
      booking.price.discountAmount = some price.discountTotal ∧
      booking.price.securityDeposit = some price.depositTotal

/-- The booking is that of the quote's customer, for its car, interval and price. -/
def BoundTo (booking : QuotedBooking) (quote : BookingQuote) : Prop :=
  (∀ customerId ∈ quote.issuedTo, booking.customerId = customerId) ∧
    booking.carId = quote.carId ∧ booking.startDate = quote.startDate ∧
    booking.endDate = quote.endDate ∧ PricedAs booking quote.price

instance (booking : QuotedBooking) (price : QuotePrice) : Decidable (PricedAs booking price) :=
  inferInstanceAs (Decidable (booking.price.baseFare = _ ∧ booking.price.gstAmount = _ ∧
    booking.price.netToVendor = _ ∧
    if booking.fromCheckout then booking.price.totalFare = _
    else booking.price.totalFare.paise = _ ∧ booking.price.discountAmount = _ ∧
      booking.price.securityDeposit = _))

instance (booking : QuotedBooking) (quote : BookingQuote) : Decidable (BoundTo booking quote) :=
  inferInstanceAs (Decidable ((∀ customerId ∈ quote.issuedTo, _) ∧ _ ∧ _ ∧ _ ∧ PricedAs _ _))

/-- Quotes are kept by the bookings that accept them, and each is accepted by one. -/
structure QuotesHeld (desk : QuoteDesk) : Prop where
  bound : ∀ booking ∈ desk.bookings, ∀ quote ∈ desk.quotes, booking.quoteId = quote.id →
    BoundTo booking quote
  once : ∀ booking ∈ desk.bookings, ∀ other ∈ desk.bookings, booking.quoteId = other.quoteId →
    booking = other
  booked : ∀ quote ∈ desk.quotes, quote.status = .accepted →
    ∃ booking ∈ desk.bookings, booking.quoteId = quote.id

instance (desk : QuoteDesk) : Decidable (QuotesHeld desk) :=
  decidable_of_iff
    ((∀ booking ∈ desk.bookings, ∀ quote ∈ desk.quotes, booking.quoteId = quote.id →
        BoundTo booking quote) ∧
      (∀ booking ∈ desk.bookings, ∀ other ∈ desk.bookings, booking.quoteId = other.quoteId →
        booking = other) ∧
      ∀ quote ∈ desk.quotes, quote.status = .accepted →
        ∃ booking ∈ desk.bookings, booking.quoteId = quote.id)
    ⟨fun h => ⟨h.1, h.2.1, h.2.2⟩, fun h => ⟨h.bound, h.once, h.booked⟩⟩

/-- An acceptance is for the customer that the quote was issued to, at its very dates.  No
checkout has accepted the quote before, nor a booking when it is a checkout itself. -/
def AcceptsOwnQuote (desk : QuoteDesk) : QuoteAction → Prop
  | .commitAcceptance transaction newId failed =>
    transaction ∈ desk.transactions → failed = false →
      newId ∉ desk.bookings.map QuotedBooking.id →
      transaction.quote.price.booked.isSome = true →
        (∀ customerId ∈ transaction.quote.issuedTo,
          transaction.request.customerId = customerId) ∧
        transaction.request.startDate = transaction.quote.startDate ∧
        transaction.request.endDate = transaction.quote.endDate ∧
        ∀ booking ∈ desk.bookings, booking.quoteId = transaction.quote.id →
          booking.fromCheckout = false
  | .confirmCheckout checkout newId failed recorded =>
    checkout ∈ desk.checkouts → failed = false → recorded = false →
      newId ∉ desk.bookings.map QuotedBooking.id →
        (∀ customerId ∈ checkout.quote.issuedTo, checkout.session.customerId = customerId) ∧
        ∀ booking ∈ desk.bookings, booking.quoteId ≠ checkout.quote.id
  | _ => True

/-! ## What holds in every state -/

/-- What a quote was issued as, which no service changes. -/
def SameOffer (quote other : BookingQuote) : Prop :=
  other.id = quote.id ∧ other.issuedTo = quote.issuedTo ∧ other.carId = quote.carId ∧
    other.startDate = quote.startDate ∧ other.endDate = quote.endDate ∧ other.price = quote.price

theorem SameOffer.trans {quote other third : BookingQuote} (h : SameOffer quote other)
    (h' : SameOffer other third) : SameOffer quote third := by
  obtain ⟨hid, hissued, hcar, hstart, hend, hprice⟩ := h
  obtain ⟨hid', hissued', hcar', hstart', hend', hprice'⟩ := h'
  exact ⟨hid'.trans hid, hissued'.trans hissued, hcar'.trans hcar, hstart'.trans hstart,
    hend'.trans hend, hprice'.trans hprice⟩

theorem BoundTo.congr {booking : QuotedBooking} {quote other : BookingQuote}
    (hsame : SameOffer quote other) : BoundTo booking other ↔ BoundTo booking quote := by
  obtain ⟨-, hissued, hcar, hstart, hend, hprice⟩ := hsame
  rw [BoundTo, BoundTo, hissued, hcar, hstart, hend, hprice]

def QuoteDesk.Offers (desk : QuoteDesk) (offered : BookingQuote) : Prop :=
  ∃ quote ∈ desk.quotes, SameOffer offered quote

/-- A quote that a booking has accepted is not active any more, and one that is accepted has a
booking.  Transactions work on different cars, and none has a quote that another booking request
has accepted. -/
structure SoundQuotes (desk : QuoteDesk) : Prop where
  ids : (desk.quotes.map BookingQuote.id).Nodup
  known : ∀ booking ∈ desk.bookings, booking.quoteId ∈ desk.quotes.map BookingQuote.id
  settled : ∀ booking ∈ desk.bookings, ∀ quote ∈ desk.quotes, booking.quoteId = quote.id →
    quote.status ≠ .active
  booked : ∀ quote ∈ desk.quotes, quote.status = .accepted →
    ∃ booking ∈ desk.bookings, booking.quoteId = quote.id
  cars : (desk.transactions.map fun transaction => transaction.request.carId).Nodup
  read : ∀ transaction ∈ desk.transactions, desk.Offers transaction.quote ∧
    transaction.quote.carId = transaction.request.carId
  unclaimed : ∀ transaction ∈ desk.transactions, ∀ booking ∈ desk.bookings,
    booking.quoteId = transaction.quote.id → booking.fromCheckout = true
  held : ∀ checkout ∈ desk.checkouts, desk.Offers checkout.quote

section Laws

variable {desk : QuoteDesk}

variable {quote : BookingQuote}

theorem quote?_eq_some {quoteId : Id} (h : desk.quote? quoteId = some quote)
    : quote ∈ desk.quotes :=
  List.mem_of_find?_eq_some h

theorem verifyQuote_eq_ok {request : QuotedRequest} (h : verifyQuote desk request = .ok quote) :
    quote ∈ desk.quotes ∧ quote.status = .active ∧ quote.carId = request.carId := by
  unfold verifyQuote at h
  split at h
  · cases h
  next found hfind =>
    split at h
    · cases h
    split at h
    · cases h
    next hactive =>
      split at h
      · cases h
      next hcar =>
        split at h
        · cases h
        split at h
        · cases h
        cases h
        exact ⟨quote?_eq_some hfind, not_not.mp hactive, not_not.mp hcar⟩

/-! ### A quote is rewritten -/

section Update

variable {quoteId : Id} {f : BookingQuote → BookingQuote}

theorem QuoteDesk.Offers.update {offered : BookingQuote} (hf : ∀ quote, SameOffer quote (f quote))
    (h : desk.Offers offered) :
    ∃ quote ∈ updateKey BookingQuote.id quoteId f desk.quotes, SameOffer offered quote := by
  obtain ⟨quote, hquote, hsame⟩ := h
  by_cases hid : quote.id = quoteId
  · exact ⟨f quote, mem_updateKey.mpr (.inl ⟨quote, hquote, hid, rfl⟩), hsame.trans (hf quote)⟩
  · exact ⟨quote, mem_updateKey.mpr (.inr ⟨hquote, hid⟩), hsame⟩

theorem map_id_update (hf : ∀ quote, SameOffer quote (f quote)) :
    (updateKey BookingQuote.id quoteId f desk.quotes).map BookingQuote.id =
      desk.quotes.map BookingQuote.id := map_key_updateKey fun quote => (hf quote).1

theorem SoundQuotes.retire (h : SoundQuotes desk) (hf : ∀ quote, SameOffer quote (f quote))
    (hactive : ∀ quote, (f quote).status ≠ .active)
    (haccepted : ∀ quote, (f quote).status ≠ .accepted) :
    SoundQuotes { desk with quotes := updateKey BookingQuote.id quoteId f desk.quotes } := by
  refine { h with ids := ?_, known := ?_, settled := ?_, booked := ?_, read := ?_, held := ?_ }
  · rw [map_id_update hf]
    exact h.ids
  · rw [map_id_update hf]
    exact h.known
  · intro booking hbooking quote hquote hid
    rcases mem_updateKey.mp hquote with ⟨old, -, -, rfl⟩ | ⟨hold, -⟩
    · exact hactive old
    · exact h.settled booking hbooking quote hold hid
  · intro quote hquote hstatus
    rcases mem_updateKey.mp hquote with ⟨old, -, -, rfl⟩ | ⟨hold, -⟩
    · exact absurd hstatus (haccepted old)
    · exact h.booked quote hold hstatus
  · intro transaction htransaction
    exact ⟨(h.read transaction htransaction).1.update hf, (h.read transaction htransaction).2⟩
  · exact fun checkout hcheckout => (h.held checkout hcheckout).update hf

theorem SoundQuotes.accept (h : SoundQuotes desk) (hf : ∀ quote, SameOffer quote (f quote))
    (hstatus : ∀ quote, (f quote).status = .accepted) {booking : QuotedBooking}
    {offered : BookingQuote} (hoffers : desk.Offers offered) (hid : booking.quoteId = offered.id)
    (hopen : ∀ transaction ∈ desk.transactions, booking.quoteId = transaction.quote.id →
      booking.fromCheckout = true) :
    SoundQuotes (desk.accept booking f) := by
  have hids : ((desk.accept booking f).quotes).map BookingQuote.id =
      desk.quotes.map BookingQuote.id := map_id_update hf
  refine
    { h with
      ids := ?_
      known := ?_
      settled := ?_
      booked := ?_
      read := ?_
      unclaimed := ?_
      held := ?_ }
  · rw [hids]
    exact h.ids
  · intro other hother
    rw [hids]
    rcases List.mem_append.mp hother with hold | hnew
    · exact h.known other hold
    · obtain ⟨quote, hquote, hsame⟩ := hoffers
      rw [List.mem_singleton.mp hnew, hid]
      exact List.mem_map.mpr ⟨quote, hquote, hsame.1⟩
  · intro other hother quote hquote hkey
    rcases mem_updateKey.mp hquote with ⟨old, -, -, rfl⟩ | ⟨hold, hne⟩
    -- the accepted quote itself is settled by the update
    · rw [hstatus old]
      decide
    · rcases List.mem_append.mp hother with hold' | hnew
      · exact h.settled other hold' quote hold hkey
      · rw [List.mem_singleton.mp hnew] at hkey
        exact absurd hkey.symm hne
  · intro quote hquote haccepted
    rcases mem_updateKey.mp hquote with ⟨old, -, hkey, rfl⟩ | ⟨hold, -⟩
    · exact ⟨booking, List.mem_append_right _ (List.mem_singleton_self booking),
        hkey.symm.trans (hf old).1.symm⟩
    · obtain ⟨other, hother, hkey⟩ := h.booked quote hold haccepted
      exact ⟨other, List.mem_append_left _ hother, hkey⟩
  · intro transaction htransaction
    exact ⟨(h.read transaction htransaction).1.update hf, (h.read transaction htransaction).2⟩
  · intro transaction htransaction other hother hkey
    rcases List.mem_append.mp hother with hold | hnew
    · exact h.unclaimed transaction htransaction other hold hkey
    -- an open transaction keeps its quote from everyone but a checkout
    · rw [List.mem_singleton.mp hnew] at hkey ⊢
      exact hopen transaction htransaction hkey
  · exact fun checkout hcheckout => (h.held checkout hcheckout).update hf

end Update

theorem expireQuote_sameOffer (quote : BookingQuote) : SameOffer quote (expireQuote quote) :=
  ⟨rfl, rfl, rfl, rfl, rfl, rfl⟩

theorem supersedeQuote_sameOffer (quote : BookingQuote) :
    SameOffer quote (supersedeQuote quote) := ⟨rfl, rfl, rfl, rfl, rfl, rfl⟩

theorem acceptQuote_sameOffer (customerId : Id) (quote : BookingQuote) :
    SameOffer quote (acceptQuote customerId quote) := ⟨rfl, rfl, rfl, rfl, rfl, rfl⟩

theorem markAccepted_sameOffer (quote : BookingQuote) : SameOffer quote (markAccepted quote) :=
  ⟨rfl, rfl, rfl, rfl, rfl, rfl⟩

theorem SoundQuotes.expire (h : SoundQuotes desk) (quoteId : Id) :
    SoundQuotes
      { desk with quotes := updateKey BookingQuote.id quoteId expireQuote desk.quotes } :=
  h.retire expireQuote_sameOffer (fun _ hactive => by cases hactive)
    fun _ haccepted => by cases haccepted

theorem SoundQuotes.supersede (h : SoundQuotes desk) (quoteId : Id) :
    SoundQuotes
      { desk with quotes := updateKey BookingQuote.id quoteId supersedeQuote desk.quotes } :=
  h.retire supersedeQuote_sameOffer (fun _ hactive => by cases hactive)
    fun _ haccepted => by cases haccepted

theorem SoundQuotes.issue (h : SoundQuotes desk) (quote : BookingQuote) :
    SoundQuotes (issueQuote desk quote) := by
  unfold issueQuote
  split
  · exact h
  next hfresh =>
    have hoffers : ∀ {offered : BookingQuote}, desk.Offers offered →
        ∃ other ∈ desk.quotes ++ [{ quote with status := .active, issuedTo := quote.customerId }],
          SameOffer offered other := by
      rintro offered ⟨other, hother, hsame⟩
      exact ⟨other, List.mem_append_left _ hother, hsame⟩
    refine { h with ids := ?_, known := ?_, settled := ?_, booked := ?_, read := ?_, held := ?_ }
    · exact nodup_map_concat h.ids hfresh
    · intro booking hbooking
      rw [List.map_append]
      exact List.mem_append_left _ (h.known booking hbooking)
    · intro booking hbooking other hother hid
      rcases List.mem_append.mp hother with hold | hnew
      · exact h.settled booking hbooking other hold hid
      -- a quote that is new is named by no booking yet
      · rw [List.mem_singleton.mp hnew] at hid
        exact absurd (hid ▸ h.known booking hbooking) hfresh
    · intro other hother haccepted
      rcases List.mem_append.mp hother with hold | hnew
      · exact h.booked other hold haccepted
      · rw [List.mem_singleton.mp hnew] at haccepted
        cases haccepted
    · intro transaction htransaction
      exact ⟨hoffers (h.read transaction htransaction).1, (h.read transaction htransaction).2⟩
    · exact fun checkout hcheckout => hoffers (h.held checkout hcheckout)

/-! ### A booking request -/

theorem SoundQuotes.begin (h : SoundQuotes desk) (request : QuotedRequest) (admitted : Bool) :
    SoundQuotes (beginAcceptance desk request admitted) := by
  unfold beginAcceptance
  split
  · exact h
  next hfree =>
    split
    · exact h
    next quote hok =>
      obtain ⟨hquote, hactive, hcar⟩ := verifyQuote_eq_ok hok
      have hunlocked : request.carId ∉ desk.transactions.map fun other => other.request.carId := by
        intro hmem
        obtain ⟨other, hother, heq⟩ := List.mem_map.mp hmem
        exact hfree (.inl (List.any_eq_true.mpr ⟨other, hother, decide_eq_true heq⟩))
      refine { h with cars := ?_, read := ?_, unclaimed := ?_ }
      · exact List.nodup_cons.mpr ⟨hunlocked, h.cars⟩
      · intro transaction htransaction
        rcases List.mem_cons.mp htransaction with rfl | hold
        · exact ⟨⟨quote, hquote, rfl, rfl, rfl, rfl, rfl, rfl⟩, hcar⟩
        · exact h.read transaction hold
      · intro transaction htransaction booking hbooking hid
        rcases List.mem_cons.mp htransaction with rfl | hold
        · exact absurd hactive (h.settled booking hbooking quote hquote hid)
        · exact h.unclaimed transaction hold booking hbooking hid

variable {transaction : OpenAcceptance}

theorem SoundQuotes.carId_eq (h : SoundQuotes desk) {other : OpenAcceptance}
    (htransaction : transaction ∈ desk.transactions) (hother : other ∈ desk.transactions)
    (hid : transaction.quote.id = other.quote.id) :
    transaction.request.carId = other.request.carId := by
  obtain ⟨⟨quote, hquote, hsame⟩, hcar⟩ := h.read transaction htransaction
  obtain ⟨⟨quote', hquote', hsame'⟩, hcar'⟩ := h.read other hother
  have hone : quote = quote' :=
    eq_of_key_eq h.ids hquote hquote' (hsame.1.trans (hid.trans hsame'.1.symm))
  rw [← hcar, ← hcar', ← hsame.2.2.1, ← hsame'.2.2.1, hone]

theorem SoundQuotes.close (h : SoundQuotes desk) (transaction : OpenAcceptance) :
    SoundQuotes { desk with transactions := desk.transactions.erase transaction } :=
  { h with
    cars := h.cars.sublist ((List.erase_sublist).map _)
    read := fun other hother => h.read other (List.mem_of_mem_erase hother)
    unclaimed := fun other hother => h.unclaimed other (List.mem_of_mem_erase hother) }

theorem SoundQuotes.alone (h : SoundQuotes desk) {other : OpenAcceptance}
    (htransaction : transaction ∈ desk.transactions)
    (hother : other ∈ desk.transactions.erase transaction) :
    transaction.quote.id ≠ other.quote.id := by
  intro hid
  have hnodup : desk.transactions.Nodup := h.cars.of_map _
  obtain ⟨hne, hmem⟩ := hnodup.mem_erase_iff.mp hother
  exact hne (eq_of_key_eq h.cars hmem htransaction (h.carId_eq htransaction hmem hid).symm)

theorem SoundQuotes.commit (h : SoundQuotes desk) (htransaction : transaction ∈ desk.transactions)
    (newId : Id) (failed : Bool) :
    SoundQuotes (commitAcceptance desk transaction newId failed) := by
  unfold commitAcceptance
  split
  · exact h.close transaction
  · split
    · exact h.close transaction
    · refine (h.close transaction).accept (acceptQuote_sameOffer _) (fun _ => rfl)
        (h.read transaction htransaction).1 rfl ?_
      exact fun other hother hid => absurd hid (h.alone htransaction hother)

/-! ### A checkout -/

theorem SoundQuotes.session (h : SoundQuotes desk) (sessions : List CheckoutSession) :
    SoundQuotes { desk with sessions } :=
  { h with }

theorem SoundQuotes.createSession (h : SoundQuotes desk) (sessionId customerId quoteId : Id) :
    SoundQuotes (createCheckoutSession desk sessionId customerId quoteId) := by
  unfold createCheckoutSession
  split
  · exact h
  · split
    · exact h
    · split
      · exact h.expire quoteId
      · split
        · exact h
        · exact h.session _

theorem SoundQuotes.configure (h : SoundQuotes desk) (sessionId customerId : Id)
    (renewed : BookingQuote) :
    SoundQuotes (configureAddons desk sessionId customerId renewed) := by
  unfold configureAddons
  split
  · exact h
  · split
    · exact h
    next oldQuote _ =>
      split
      · exact h
      · refine SoundQuotes.session ?_ _
        unfold refreshQuote
        refine SoundQuotes.issue ?_ _
        split
        · exact h.supersede oldQuote.id
        · exact h

theorem SoundQuotes.openCheckout (h : SoundQuotes desk) (sessionId customerId : Id)
    (verified : Bool) : SoundQuotes (beginCheckout desk sessionId customerId verified) := by
  unfold beginCheckout
  split
  · exact h
  · split
    · exact h
    next quote hquote =>
      split
      · exact h
      · refine { h with held := fun checkout hcheckout => ?_ }
        rcases List.mem_cons.mp hcheckout with rfl | hold
        · exact ⟨quote, quote?_eq_some hquote, rfl, rfl, rfl, rfl, rfl, rfl⟩
        · exact h.held checkout hold

theorem SoundQuotes.closeCheckout (h : SoundQuotes desk) (checkout : OpenCheckout) :
    SoundQuotes { desk with checkouts := desk.checkouts.erase checkout } :=
  { h with held := fun other hother => h.held other (List.mem_of_mem_erase hother) }

theorem SoundQuotes.confirm (h : SoundQuotes desk) {checkout : OpenCheckout}
    (hcheckout : checkout ∈ desk.checkouts) (newId : Id) (failed recorded : Bool) :
    SoundQuotes (confirmCheckout desk checkout newId failed recorded) := by
  unfold confirmCheckout
  split
  · exact h.closeCheckout checkout
  · refine SoundQuotes.session ?_ _
    exact (h.closeCheckout checkout).accept markAccepted_sameOffer (fun _ => rfl)
      (h.held checkout hcheckout) rfl fun _ _ _ => rfl

theorem quoteStep_sound (h : SoundQuotes desk) (action : QuoteAction) :
    SoundQuotes (quoteStep desk action) := by
  cases action with
  | issueQuote quote => exact h.issue quote
  | beginAcceptance request admitted => exact h.begin request admitted
  | commitAcceptance transaction newId failed =>
    simp only [quoteStep]
    split
    next htransaction => exact h.commit htransaction newId failed
    · exact h
  | createCheckoutSession sessionId customerId quoteId =>
    exact h.createSession sessionId customerId quoteId
  | configureAddons sessionId customerId renewed => exact h.configure sessionId customerId renewed
  | beginCheckout sessionId customerId verified =>
    exact h.openCheckout sessionId customerId verified
  | confirmCheckout checkout newId failed recorded =>
    simp only [quoteStep]
    split
    next hcheckout => exact h.confirm hcheckout newId failed recorded
    · exact h
  | expireQuote quoteId => exact h.expire quoteId
  | supersedeQuote quoteId => exact h.supersede quoteId
  | advance milliseconds => exact { h with }

/-! ### The law in one step -/

/-- The bookings stay, and the offers of the quotes that they may have. -/
structure KeepsOffers (desk next : QuoteDesk) : Prop where
  bookings : next.bookings = desk.bookings
  quotes : ∀ quote ∈ next.quotes, (∃ old ∈ desk.quotes, SameOffer old quote) ∨
    quote.id ∉ desk.bookings.map QuotedBooking.quoteId

theorem KeepsOffers.of_eq {next : QuoteDesk} (hbookings : next.bookings = desk.bookings)
    (hquotes : next.quotes = desk.quotes) : KeepsOffers desk next where
  bookings := hbookings
  quotes quote hquote := .inl ⟨quote, hquotes ▸ hquote, rfl, rfl, rfl, rfl, rfl, rfl⟩

theorem KeepsOffers.trans {next last : QuoteDesk} (h : KeepsOffers desk next)
    (h' : KeepsOffers next last) : KeepsOffers desk last := by
  refine ⟨h'.bookings.trans h.bookings, fun quote hquote => ?_⟩
  rcases h'.quotes quote hquote with ⟨middle, hmiddle, hsame⟩ | hfree
  · rcases h.quotes middle hmiddle with ⟨old, hold, hsame'⟩ | hfree
    · exact .inl ⟨old, hold, hsame'.trans hsame⟩
    · exact .inr (by rwa [hsame.1])
  · exact .inr (by rwa [h.bookings] at hfree)

variable {f : BookingQuote → BookingQuote}

theorem exists_of_update (hf : ∀ quote, SameOffer quote (f quote)) {quoteId : Id}
    (hquote : quote ∈ updateKey BookingQuote.id quoteId f desk.quotes) :
    ∃ old ∈ desk.quotes, SameOffer old quote := by
  rcases mem_updateKey.mp hquote with ⟨old, hold, -, rfl⟩ | ⟨hold, -⟩
  · exact ⟨old, hold, hf old⟩
  · exact ⟨quote, hold, rfl, rfl, rfl, rfl, rfl, rfl⟩

theorem keepsOffers_update (hf : ∀ quote, SameOffer quote (f quote)) (quoteId : Id) :
    KeepsOffers desk
      { desk with quotes := updateKey BookingQuote.id quoteId f desk.quotes } :=
  ⟨rfl, fun _ hquote => .inl (exists_of_update hf hquote)⟩

theorem SoundQuotes.issue_keeps (h : SoundQuotes desk) (quote : BookingQuote) :
    KeepsOffers desk (issueQuote desk quote) := by
  unfold issueQuote
  split
  · exact .of_eq rfl rfl
  next hfresh =>
    refine ⟨rfl, fun other hother => ?_⟩
    rcases List.mem_append.mp hother with hold | hnew
    · exact .inl ⟨other, hold, rfl, rfl, rfl, rfl, rfl, rfl⟩
    · refine .inr fun hmem => hfresh ?_
      obtain ⟨booking, hbooking, hid⟩ := List.mem_map.mp hmem
      rw [List.mem_singleton.mp hnew] at hid
      exact hid ▸ h.known booking hbooking

theorem createCheckoutSession_keeps (sessionId customerId quoteId : Id) :
    KeepsOffers desk (createCheckoutSession desk sessionId customerId quoteId) := by
  unfold createCheckoutSession
  split
  · exact .of_eq rfl rfl
  · split
    · exact .of_eq rfl rfl
    · split
      · exact keepsOffers_update expireQuote_sameOffer quoteId
      · split <;> exact .of_eq rfl rfl

theorem SoundQuotes.configure_keeps (h : SoundQuotes desk) (sessionId customerId : Id)
    (renewed : BookingQuote) :
    KeepsOffers desk (configureAddons desk sessionId customerId renewed) := by
  unfold configureAddons
  split
  · exact .of_eq rfl rfl
  · split
    · exact .of_eq rfl rfl
    next oldQuote _ =>
      split
      · exact .of_eq rfl rfl
      · refine KeepsOffers.trans (?_ : KeepsOffers desk (refreshQuote desk oldQuote customerId renewed))
          (.of_eq rfl rfl)
        unfold refreshQuote
        split
        · exact (keepsOffers_update supersedeQuote_sameOffer oldQuote.id).trans
            ((h.supersede oldQuote.id).issue_keeps _)
        · exact h.issue_keeps _

theorem beginAcceptance_keeps (request : QuotedRequest) (admitted : Bool) :
    KeepsOffers desk (beginAcceptance desk request admitted) := by
  unfold beginAcceptance
  split
  · exact .of_eq rfl rfl
  · split <;> exact .of_eq rfl rfl

theorem beginCheckout_keeps (sessionId customerId : Id) (verified : Bool) :
    KeepsOffers desk (beginCheckout desk sessionId customerId verified) := by
  unfold beginCheckout
  split
  · exact .of_eq rfl rfl
  · split
    · exact .of_eq rfl rfl
    · split <;> exact .of_eq rfl rfl

theorem QuotesHeld.keep {next : QuoteDesk} (h : QuotesHeld desk) (hkeeps : KeepsOffers desk next)
    (hnext : SoundQuotes next) : QuotesHeld next := by
  refine ⟨fun booking hbooking quote hquote hid => ?_, ?_, hnext.booked⟩
  · rw [hkeeps.bookings] at hbooking
    rcases hkeeps.quotes quote hquote with ⟨old, hold, hsame⟩ | hfree
    · exact (BoundTo.congr hsame).mpr (h.bound booking hbooking old hold (hid.trans hsame.1))
    · exact absurd (List.mem_map.mpr ⟨booking, hbooking, hid⟩) hfree
  · rw [hkeeps.bookings]
    exact h.once

theorem SoundQuotes.accept_held_iff (h : SoundQuotes desk) (hheld : QuotesHeld desk)
    (hf : ∀ quote, SameOffer quote (f quote)) {booking : QuotedBooking}
    (hfresh : booking.id ∉ desk.bookings.map QuotedBooking.id) {offered : BookingQuote}
    (hoffers : desk.Offers offered) (hid : booking.quoteId = offered.id)
    (hnext : SoundQuotes (desk.accept booking f)) :
    QuotesHeld (desk.accept booking f) ↔
      BoundTo booking offered ∧ ∀ old ∈ desk.bookings, old.quoteId ≠ booking.quoteId := by
  have hnew : booking ∈ (desk.accept booking f).bookings :=
    List.mem_append_right _ (List.mem_singleton_self booking)
  constructor
  · intro hafter
    constructor
    · obtain ⟨quote, hquote, hsame⟩ := hoffers.update hf
      exact (BoundTo.congr hsame).mp
        (hafter.bound booking hnew quote hquote (hid.trans hsame.1.symm))
    · intro old hold hkey
      have heq := hafter.once old (List.mem_append_left _ hold) booking hnew hkey
      exact hfresh (List.mem_map.mpr ⟨old, hold, by rw [heq]⟩)
  · rintro ⟨hbound, hfirst⟩
    refine ⟨fun other hother quote hquote hkey => ?_, fun first hone second htwo hkey => ?_,
      hnext.booked⟩
    · obtain ⟨old, hold, hsame⟩ := exists_of_update hf hquote
      rcases List.mem_append.mp hother with hearlier | hlast
      · exact (BoundTo.congr hsame).mpr
          (hheld.bound other hearlier old hold (hkey.trans hsame.1))
      -- the new booking is held to the one offer with its quote's id
      · rw [List.mem_singleton.mp hlast] at hkey ⊢
        obtain ⟨origin, horigin, hsame'⟩ := hoffers
        have hone : old = origin := eq_of_key_eq h.ids hold horigin
          (hsame.1.symm.trans (hkey.symm.trans (hid.trans hsame'.1.symm)))
        rw [hone] at hsame
        exact (BoundTo.congr (hsame'.trans hsame)).mpr hbound
    · rcases List.mem_append.mp hone with hearlier | hlast
      · rcases List.mem_append.mp htwo with hearlier' | hlast'
        · exact hheld.once first hearlier second hearlier' hkey
        · rw [List.mem_singleton.mp hlast'] at hkey
          exact absurd hkey (hfirst first hearlier)
      · rcases List.mem_append.mp htwo with hearlier' | hlast'
        · rw [List.mem_singleton.mp hlast] at hkey
          exact absurd hkey.symm (hfirst second hearlier')
        · rw [List.mem_singleton.mp hlast, List.mem_singleton.mp hlast']

theorem pricedAs_booked {price : QuotePrice} {columns : BookedPrice}
    (hcolumns : price.booked = some columns) (transaction : OpenAcceptance) (newId : Id) :
    PricedAs (transaction.booking newId columns) price := by
  obtain ⟨tripFare, hfare, rfl⟩ := Option.map_eq_some_iff.mp hcolumns
  exact ⟨rfl, rfl, rfl, Column.ofPaise?_eq_some.mp hfare, rfl, rfl⟩

theorem pricedAs_checkedOut (checkout : OpenCheckout) (newId : Id) :
    PricedAs (checkout.booking newId) checkout.quote.price := ⟨rfl, rfl, rfl, rfl⟩

theorem commitAcceptance_cases (desk : QuoteDesk) (transaction : OpenAcceptance) (newId : Id)
    (failed : Bool) :
    let closed := { desk with transactions := desk.transactions.erase transaction }
    let next := commitAcceptance desk transaction newId failed
    (next = closed ∧ (failed = false → newId ∉ desk.bookings.map QuotedBooking.id →
        transaction.quote.price.booked.isSome = true → False)) ∨
      ∃ columns, transaction.quote.price.booked = some columns ∧ failed = false ∧
        newId ∉ desk.bookings.map QuotedBooking.id ∧
        next = closed.accept (transaction.booking newId columns)
          (acceptQuote transaction.request.customerId) := by
  intro closed next
  have hnext : next = commitAcceptance desk transaction newId failed := rfl
  unfold commitAcceptance at hnext
  cases hcolumns : transaction.quote.price.booked with
  | none =>
    rw [hcolumns] at hnext
    exact .inl ⟨hnext, by simp⟩
  | some columns =>
    rw [hcolumns] at hnext
    dsimp only at hnext
    by_cases hrefused : failed ∨ newId ∈ desk.bookings.map QuotedBooking.id
    · rw [if_pos hrefused] at hnext
      refine .inl ⟨hnext, fun hok hfresh _ => ?_⟩
      rcases hrefused with hfailed | hclash
      · exact Bool.false_ne_true (hok.symm.trans hfailed)
      · exact hfresh hclash
    · rw [if_neg hrefused] at hnext
      obtain ⟨hfailed, hfresh⟩ := not_or.mp hrefused
      exact .inr ⟨columns, rfl, Bool.eq_false_iff.mpr hfailed, hfresh, hnext⟩

theorem commitAcceptance_held_iff (h : SoundQuotes desk) (hheld : QuotesHeld desk)
    (htransaction : transaction ∈ desk.transactions) (newId : Id) (failed : Bool) :
    QuotesHeld (commitAcceptance desk transaction newId failed) ↔
      AcceptsOwnQuote desk (.commitAcceptance transaction newId failed) := by
  have hnext := h.commit htransaction newId failed
  have hclosed : QuotesHeld { desk with transactions := desk.transactions.erase transaction } :=
    ⟨hheld.bound, hheld.once, hheld.booked⟩
  rcases commitAcceptance_cases desk transaction newId failed with
    ⟨heq, hrefused⟩ | ⟨columns, hcolumns, hfailed, hfresh, heq⟩
  · rw [heq]
    exact iff_of_true hclosed fun _ hok hnew hsome => (hrefused hok hnew hsome).elim
  · rw [heq] at hnext ⊢
    obtain ⟨hoffers, hcar⟩ := h.read transaction htransaction
    rw [(h.close transaction).accept_held_iff hclosed (acceptQuote_sameOffer _) hfresh hoffers
      rfl hnext]
    constructor
    · rintro ⟨⟨hcustomer, -, hstart, hend, -⟩, hfirst⟩ - - - -
      exact ⟨hcustomer, hstart, hend, fun booking hbooking hid =>
        absurd hid (hfirst booking hbooking)⟩
    · intro hown
      obtain ⟨hcustomer, hstart, hend, hclaimed⟩ :=
        hown htransaction hfailed hfresh (by rw [hcolumns]; rfl)
      refine ⟨⟨hcustomer, hcar.symm, hstart, hend, pricedAs_booked hcolumns transaction newId⟩,
        fun old hold hid => ?_⟩
      -- The row lock leaves only a checkout that can have come between.
      have hcheckout := h.unclaimed transaction htransaction old hold hid
      rw [hclaimed old hold hid] at hcheckout
      cases hcheckout

theorem confirmCheckout_held_iff (h : SoundQuotes desk) (hheld : QuotesHeld desk)
    {checkout : OpenCheckout} (hcheckout : checkout ∈ desk.checkouts) (newId : Id)
    (failed recorded : Bool) :
    QuotesHeld (confirmCheckout desk checkout newId failed recorded) ↔
      AcceptsOwnQuote desk (.confirmCheckout checkout newId failed recorded) := by
  have hclosed : QuotesHeld { desk with checkouts := desk.checkouts.erase checkout } :=
    ⟨hheld.bound, hheld.once, hheld.booked⟩
  unfold confirmCheckout
  split
  next hrefused =>
    refine iff_of_true hclosed fun _ hok hnew hfresh => ?_
    rcases hrefused with hfailed | hrecorded | hclash
    · rw [hok] at hfailed
      cases hfailed
    · rw [hnew] at hrecorded
      cases hrecorded
    · exact absurd hclash hfresh
  next haccepted =>
    obtain ⟨hfailed, hrest⟩ := not_or.mp haccepted
    obtain ⟨hrecorded, hfresh⟩ := not_or.mp hrest
    -- the booking of a checkout may overtake an open transaction on its quote
    have hopen : ∀ transaction ∈ desk.transactions,
        (checkout.booking newId).quoteId = transaction.quote.id →
          (checkout.booking newId).fromCheckout = true := fun _ _ _ => rfl
    have hnext := (h.closeCheckout checkout).accept markAccepted_sameOffer (fun _ => rfl)
      (h.held checkout hcheckout) rfl hopen
    have hiff := (h.closeCheckout checkout).accept_held_iff hclosed markAccepted_sameOffer
      hfresh (h.held checkout hcheckout) rfl hnext
    constructor
    · intro hafter
      obtain ⟨⟨hcustomer, -⟩, hfirst⟩ := hiff.mp ⟨hafter.bound, hafter.once, hafter.booked⟩
      exact fun _ _ _ _ => ⟨hcustomer, hfirst⟩
    · intro hown
      obtain ⟨hcustomer, hfirst⟩ :=
        hown hcheckout (by simpa using hfailed) (by simpa using hrecorded) hfresh
      have hafter := hiff.mpr
        ⟨⟨hcustomer, rfl, rfl, rfl, pricedAs_checkedOut checkout newId⟩, hfirst⟩
      exact ⟨hafter.bound, hafter.once, hafter.booked⟩

theorem quoteStep_held_iff (h : SoundQuotes desk) (hheld : QuotesHeld desk)
    (action : QuoteAction) :
    QuotesHeld (quoteStep desk action) ↔ AcceptsOwnQuote desk action := by
  have hnext := quoteStep_sound h action
  have hkeep : KeepsOffers desk (quoteStep desk action) → QuotesHeld (quoteStep desk action) :=
    fun hkeeps => hheld.keep hkeeps hnext
  -- only the two commits write a booking; every other step keeps the offers
  cases action with
  | issueQuote quote => exact iff_of_true (hkeep (h.issue_keeps quote)) trivial
  | beginAcceptance request admitted =>
    exact iff_of_true (hkeep (beginAcceptance_keeps request admitted)) trivial
  | commitAcceptance transaction newId failed =>
    by_cases htransaction : transaction ∈ desk.transactions
    · rw [quoteStep, if_pos htransaction]
      exact commitAcceptance_held_iff h hheld htransaction newId failed
    · rw [quoteStep, if_neg htransaction]
      exact iff_of_true hheld fun hmem => absurd hmem htransaction
  | createCheckoutSession sessionId customerId quoteId =>
    exact iff_of_true
      (hkeep (createCheckoutSession_keeps sessionId customerId quoteId)) trivial
  | configureAddons sessionId customerId renewed =>
    exact iff_of_true (hkeep (h.configure_keeps sessionId customerId renewed)) trivial
  | beginCheckout sessionId customerId verified =>
    exact iff_of_true (hkeep (beginCheckout_keeps sessionId customerId verified)) trivial
  | confirmCheckout checkout newId failed recorded =>
    by_cases hcheckout : checkout ∈ desk.checkouts
    · rw [quoteStep, if_pos hcheckout]
      exact confirmCheckout_held_iff h hheld hcheckout newId failed recorded
    · rw [quoteStep, if_neg hcheckout]
      exact iff_of_true hheld fun hmem => absurd hmem hcheckout
  | expireQuote quoteId =>
    exact iff_of_true (hkeep (keepsOffers_update expireQuote_sameOffer quoteId)) trivial
  | supersedeQuote quoteId =>
    exact iff_of_true (hkeep (keepsOffers_update supersedeQuote_sameOffer quoteId)) trivial
  | advance milliseconds => exact iff_of_true (hkeep (.of_eq rfl rfl)) trivial

end Laws

/-! ## Runs -/

def QuoteDesk.opening (now : ℤ) : QuoteDesk := ⟨[], [], [], now, [], []⟩

theorem soundQuotes_opening (now : ℤ) : SoundQuotes (.opening now) := by
  constructor <;> simp [QuoteDesk.opening]

theorem quotesHeld_opening (now : ℤ) : QuotesHeld (.opening now) := by
  constructor <;> simp [QuoteDesk.opening]

/-- The law holds all through exactly the runs in which each acceptance is for the quote's
customer at its dates, and checkouts do not meet another acceptance. -/
theorem quotes_held_iff (now : ℤ) (actions : List QuoteAction) :
    Everywhere quoteStep QuotesHeld (.opening now) actions ↔
      Along quoteStep AcceptsOwnQuote (.opening now) actions :=
  everywhere_iff_along_of_invariant (fun _ action hsound => quoteStep_sound hsound action)
    (fun _ action _ hsound hheld => quoteStep_held_iff hsound hheld action)
    (soundQuotes_opening now) (quotesHeld_opening now)

def sampleQuote : BookingQuote where
  id := "quote"
  customerId := some "customer"
  issuedTo := some "customer"
  carId := "car"
  tripType := .selfDrive
  startDate := 86400000
  endDate := 172800000
  price := ⟨sampleTotal, ⟨0, by decide⟩, ⟨0, by decide⟩, ⟨0, by decide⟩, sampleDeposit, sampleTotal,
    sampleTotal, ⟨0, by decide⟩⟩
  status := .active
  expiresAt := 900000

def strangersRequest : QuotedRequest where
  customerId := "stranger"
  quoteId := "quote"
  carId := "car"
  tripType := .selfDrive
  startDate := 86400000
  endDate := 172800000

/-- A stranger books with the quote of the customer. -/
theorem stranger_takes_quote :
    ¬ Everywhere quoteStep QuotesHeld (.opening 0)
      [.issueQuote sampleQuote, .beginAcceptance strangersRequest true,
        .commitAcceptance ⟨strangersRequest, sampleQuote⟩ "booking" false] := by
  decide

end CarRental
