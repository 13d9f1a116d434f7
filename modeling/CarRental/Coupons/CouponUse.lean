import CarRental.Lib.KeyedRows
import CarRental.Payments.Orders

/-!
# Where coupons are used

A coupon's discount comes into the price of a booking with the booking request, which names its
code, or with a quote that was made with it.  `createBooking` keeps as `couponId` the coupon of
the code in the request, whatever the quote has; the checkout of the marketplace keeps none.

The use of a coupon is counted when the booking is paid, by `couponId`: `verifyPayment` redeems
the coupon or refuses the payment, the reconciliation redeems it if it can, and a captured
payment's webhook does not redeem it.

A booking is the row of `Booking` with `discountedBy`, the coupon whose discount is in its
price.  `eligible` and `discount` are what a coupon's other rules say of a request; `admitted` is
every other check.
-/

namespace CarRental

open KeyedRows

/-! ## The tables -/

/-- A coupon with its code and the time it can be used in. -/
structure ListedCoupon where
  coupon : Coupon
  code : String
  startDate : Option ℤ
  expiresAt : Option ℤ
deriving DecidableEq

def ListedCoupon.id (row : ListedCoupon) : Id := row.coupon.id

def withUsageCount (usageCount : ℕ) (row : ListedCoupon) : ListedCoupon :=
  { row with coupon := { row.coupon with usageCount } }

/-- A quote, with the coupon whose discount is among its lines. -/
structure CouponQuote where
  id : Id
  couponId : Option Id
  discountTotal : Money
  active : Bool
deriving DecidableEq

def CouponQuote.deactivate (quote : CouponQuote) : CouponQuote := { quote with active := false }

structure DiscountedBooking where
  booking : Booking
  discountedBy : Option Id
  payment : Option PaymentStatus
deriving DecidableEq

def DiscountedBooking.id (row : DiscountedBooking) : Id := row.booking.id

structure CouponDesk where
  coupons : List ListedCoupon
  quotes : List CouponQuote
  bookings : List DiscountedBooking
  couponUsages : List CouponUsage
  now : ℤ
deriving DecidableEq

namespace CouponDesk

variable (desk : CouponDesk)

def coupon? (couponId : Id) : Option ListedCoupon :=
  desk.coupons.find? fun row => row.id = couponId

def booking? (bookingId : Id) : Option DiscountedBooking :=
  desk.bookings.find? fun row => row.id = bookingId

def quote? (quoteId : Id) : Option CouponQuote :=
  desk.quotes.find? fun quote => quote.id = quoteId

def usageCount (couponId customerId : Id) : ℕ :=
  (desk.couponUsages.filter fun usage =>
    usage.couponId = couponId ∧ usage.customerId = customerId).length

/-! ## Checking a code -/

def validateCoupon (customerId : Id) (code : String) (eligible : Bool) :
    Except HttpError Coupon :=
  match desk.coupons.find? fun row => row.code = code with
  | none => .error (.notFound "Invalid coupon code.")
  | some row =>
    if !row.coupon.isActive then .error (.badRequest "This coupon is currently inactive.")
    else if ∃ startDate ∈ row.startDate, desk.now < startDate then
      .error (.badRequest "This coupon is not active yet.")
    else if ∃ expiresAt ∈ row.expiresAt, expiresAt < desk.now then
      .error (.badRequest "This coupon has expired.")
    else if row.coupon.globalUsageLimit.any (· ≤ row.coupon.usageCount) then
      .error (.badRequest "This coupon has reached its global usage limit.")
    else if row.coupon.perCustomerLimit.getD 1 ≤ desk.usageCount row.id customerId then
      .error (.badRequest "You have reached the maximum redemptions for this coupon.")
    else if !eligible then .error (.badRequest "This coupon is not valid for this booking.")
    else .ok row.coupon

/-- The coupon of a code that the marketplace's promotions accept.  A customer has no limit where
the coupon has none. -/
def evaluatePromotion (customerId : Option Id) (code : String) (eligible : Bool) :
    Option Coupon :=
  match desk.coupons.find? fun row => row.code = code with
  | none => none
  | some row =>
    if !row.coupon.isActive ∨ (∃ startDate ∈ row.startDate, desk.now < startDate) ∨
        (∃ expiresAt ∈ row.expiresAt, expiresAt < desk.now) ∨
        row.coupon.globalUsageLimit.any (· ≤ row.coupon.usageCount) ∨
        (∃ customer ∈ customerId, ∃ max ∈ row.coupon.perCustomerLimit,
          0 < max ∧ max ≤ desk.usageCount row.id customer) ∨ !eligible then none
    else some row.coupon

/-! ## Quotes -/

def discounting (coupon : Option Coupon) (discount : Money) : Option Id :=
  if 0 < discount.paise then coupon.map Coupon.id else none

def addQuote (id : Id) (coupon : Option Coupon) (discount discountTotal : Money) : CouponDesk :=
  if id ∈ desk.quotes.map CouponQuote.id then desk
  else { desk with
    quotes := desk.quotes ++ [⟨id, discounting coupon discount, discountTotal, true⟩] }

/-- The quote of the pricing service: a code that is refused refuses the quote. -/
def generateQuote (id : Id) (customerId : Option Id) (couponCode : Option String)
    (eligible : Bool) (discount discountTotal : Money) : CouponDesk :=
  match couponCode with
  | none => desk.addQuote id none discount discountTotal
  | some code =>
    match desk.validateCoupon (customerId.getD "anonymous-quote") code eligible with
    | .error _ => desk
    | .ok coupon => desk.addQuote id (some coupon) discount discountTotal

def createMarketplaceQuote (id : Id) (customerId : Option Id) (couponCode : Option String)
    (eligible : Bool) (discount discountTotal : Money) : CouponDesk :=
  desk.addQuote id
    (couponCode.bind fun code => desk.evaluatePromotion customerId code eligible) discount
    discountTotal

/-! ## Bookings -/

/-- The coupon of the code in a booking request. -/
def sentCoupon (customerId : Id) (couponCode : Option String) (eligible : Bool) :
    Except HttpError (Option Coupon) :=
  match couponCode with
  | none => .ok none
  | some code => (desk.validateCoupon customerId code eligible).map some

/-- The quote of a booking request, which must be active. -/
def sentQuote (quoteId : Option Id) : Except HttpError (Option CouponQuote) :=
  match quoteId with
  | none => .ok none
  | some quoteId =>
    match desk.quote? quoteId with
    | none => .error (.notFound "Specified quoteId not found.")
    | some quote =>
      if quote.active then .ok (some quote)
      else .error (.conflict "This quote is no longer active.")

def insertBooking (quoteId : Option Id) (row : DiscountedBooking) : CouponDesk :=
  { desk with
    quotes := quoteId.elim desk.quotes fun quoteId =>
      updateKey CouponQuote.id quoteId CouponQuote.deactivate desk.quotes
    bookings := desk.bookings ++ [row] }

/-- The row of `createBooking`; `draft` has what does not depend on the coupon. -/
def requestedBooking (draft : Booking) (coupon : Option Coupon) (discount : Money)
    (quote : Option CouponQuote) : DiscountedBooking where
  booking :=
    { draft with
      couponId := coupon.map Coupon.id
      discountAmount :=
        match quote with
        | some quote => some quote.discountTotal
        | none => coupon.map fun _ => discount }
  discountedBy :=
    match quote with
    | some quote => quote.couponId
    | none => discounting coupon discount
  payment := none

/-- `createBooking`: a code that is refused, or a quote, refuses the booking. -/
def createBooking (draft : Booking) (couponCode : Option String) (eligible : Bool)
    (discount : Money) (quoteId : Option Id) (admitted : Bool) : CouponDesk :=
  match desk.sentCoupon draft.customerId couponCode eligible, desk.sentQuote quoteId with
  | .ok coupon, .ok quote =>
    if !admitted ∨ draft.id ∈ desk.bookings.map DiscountedBooking.id then desk
    else desk.insertBooking quoteId (requestedBooking draft coupon discount quote)
  | _, _ => desk

/-- The row of a checkout, paid and without a coupon. -/
def checkoutBooking (draft : Booking) (quote : CouponQuote) : DiscountedBooking where
  booking := { draft with couponId := none, discountAmount := none }
  discountedBy := quote.couponId
  payment := some .paid

/-- `verifyAndConfirmPayment` of a checkout session with this quote. -/
def confirmCheckout (draft : Booking) (quoteId : Id) (admitted : Bool) : CouponDesk :=
  match desk.quote? quoteId with
  | none => desk
  | some quote =>
    if !admitted ∨ draft.id ∈ desk.bookings.map DiscountedBooking.id then desk
    else desk.insertBooking (some quoteId) (checkoutBooking draft quote)

/-! ## Payments -/

def setPayment (bookingId : Id) (payment : PaymentStatus) : CouponDesk :=
  { desk with
    bookings := updateKey DiscountedBooking.id bookingId
      (fun row => { row with payment := some payment }) desk.bookings }

/-- The redemption of a booking's coupon. -/
def redeem (row : DiscountedBooking) : Except HttpError (Option Coupon × List CouponUsage) :=
  couponAfterRedemption row.booking
    (row.booking.couponId.bind fun couponId => (desk.coupon? couponId).map ListedCoupon.coupon)
    desk.couponUsages

/-- The coupon's counter and the uses are written. -/
def writeUse (coupon : Option Coupon) (couponUsages : List CouponUsage) : CouponDesk :=
  { desk with
    coupons := coupon.elim desk.coupons fun coupon =>
      updateKey ListedCoupon.id coupon.id (withUsageCount coupon.usageCount) desk.coupons
    couponUsages }

/-- The payment of the booking, if it is to be recorded as `PAID` now. -/
def payable (bookingId : Id) (admitted : Bool) : Option DiscountedBooking :=
  (desk.booking? bookingId).filter fun row => admitted ∧ row.payment ≠ some .paid

def verifyPayment (bookingId : Id) (admitted : Bool) : CouponDesk :=
  match desk.payable bookingId admitted with
  | none => desk
  | some row =>
    match desk.redeem row with
    | .error _ => desk
    | .ok (coupon, couponUsages) =>
      (desk.writeUse coupon couponUsages).setPayment bookingId .paid

/-- The webhook of a captured payment, and the settlement report that heals one. -/
def capturePayment (bookingId : Id) (admitted : Bool) : CouponDesk :=
  match desk.payable bookingId admitted with
  | none => desk
  | some _ => desk.setPayment bookingId .paid

/-- The reconciliation goes on without the coupon when it cannot be redeemed. -/
def reconcilePayment (bookingId : Id) (admitted : Bool) : CouponDesk :=
  match desk.payable bookingId admitted with
  | none => desk
  | some row =>
    match desk.redeem row with
    | .ok (coupon, couponUsages) =>
      (desk.writeUse coupon couponUsages).setPayment bookingId .paid
    | .error (.badRequest _) => desk.setPayment bookingId .paid
    | .error _ => desk

end CouponDesk

/-! ## Steps -/

inductive CouponAction where
  | createCoupon (row : ListedCoupon)
  | generateQuote (id : Id) (customerId : Option Id) (couponCode : Option String)
      (eligible : Bool) (discount discountTotal : Money)
  | createMarketplaceQuote (id : Id) (customerId : Option Id) (couponCode : Option String)
      (eligible : Bool) (discount discountTotal : Money)
  | retireQuote (quoteId : Id)
  | createBooking (draft : Booking) (couponCode : Option String) (eligible : Bool)
      (discount : Money) (quoteId : Option Id) (admitted : Bool)
  | confirmCheckout (draft : Booking) (quoteId : Id) (admitted : Bool)
  | verifyPayment (bookingId : Id) (admitted : Bool)
  | capturePayment (bookingId : Id) (admitted : Bool)
  | reconcilePayment (bookingId : Id) (admitted : Bool)
  /-- Any other change of a payment: an order, a failure, a refund. -/
  | changePayment (bookingId : Id) (payment : PaymentStatus)
  | setStatus (bookingId : Id) (status : BookingStatus)
  | advance (milliseconds : ℕ)

def withStatus (status : BookingStatus) (row : DiscountedBooking) : DiscountedBooking :=
  { row with booking := { row.booking with status } }

def couponStep (desk : CouponDesk) : CouponAction → CouponDesk
  | .createCoupon row =>
    if desk.coupons.any fun other => other.code = row.code ∨ other.id = row.id then desk
    else { desk with coupons := desk.coupons ++ [withUsageCount 0 row] }
  | .generateQuote id customerId couponCode eligible discount discountTotal =>
    desk.generateQuote id customerId couponCode eligible discount discountTotal
  | .createMarketplaceQuote id customerId couponCode eligible discount discountTotal =>
    desk.createMarketplaceQuote id customerId couponCode eligible discount discountTotal
  | .retireQuote quoteId =>
    { desk with quotes := updateKey CouponQuote.id quoteId CouponQuote.deactivate desk.quotes }
  | .createBooking draft couponCode eligible discount quoteId admitted =>
    desk.createBooking draft couponCode eligible discount quoteId admitted
  | .confirmCheckout draft quoteId admitted => desk.confirmCheckout draft quoteId admitted
  | .verifyPayment bookingId admitted => desk.verifyPayment bookingId admitted
  | .capturePayment bookingId admitted => desk.capturePayment bookingId admitted
  | .reconcilePayment bookingId admitted => desk.reconcilePayment bookingId admitted
  | .changePayment bookingId payment =>
    if payment = .paid then desk else desk.setPayment bookingId payment
  | .setStatus bookingId status =>
    { desk with
      bookings := updateKey DiscountedBooking.id bookingId (withStatus status) desk.bookings }
  | .advance milliseconds => { desk with now := desk.now + milliseconds }

end CarRental
