import CarRental.Bookings.HandoverOtp
import CarRental.Cars.VehicleAvailability
import CarRental.Text

/-!
# Delivery quotes

`LocationsService.calculateDeliveryQuote`: the fee for a delivery to an address, the fees of the
hubs and the surcharge for a return elsewhere, and whether the vendor offers all of it.

The distance between two points and the point of an address are arguments, and so is the calendar of
the server.  Numbers are exact.
-/

namespace CarRental

/-! ## The tables -/

structure GeoPoint where
  latitude : ℚ
  longitude : ℚ
deriving DecidableEq

structure PickupHub where
  id : Id
  point : GeoPoint
  allowsPickup : Bool
  allowsReturn : Bool
  pickupFee : Money
  returnFee : Money
  oneWayFee : Money
deriving DecidableEq

inductive DeliveryPricingModel where
  | free
  | fixed
  | distanceBased
deriving DecidableEq, Repr

structure VendorDeliveryPolicy where
  deliveryEnabled : Bool
  maxDeliveryRadiusKm : ℚ
  pricingModel : DeliveryPricingModel
  baseDeliveryFee : Money
  perKmDeliveryFee : Money
  freeDeliveryWithinKm : ℚ
deriving DecidableEq

def defaultDeliveryPolicy : VendorDeliveryPolicy where
  deliveryEnabled := true
  maxDeliveryRadiusKm := 25
  pricingModel := .distanceBased
  baseDeliveryFee := ⟨100 * 100, by decide +kernel⟩
  perKmDeliveryFee := ⟨20 * 100, by decide +kernel⟩
  freeDeliveryWithinKm := 5

/-- A vendor with the active hubs. -/
structure LocatedVendor where
  id : Id
  userId : Option Id
  latitude : Option ℚ
  longitude : Option ℚ
  pickupHubs : List PickupHub
  deliveryPolicy : Option VendorDeliveryPolicy

structure LocationMatrixItem where
  vendorId : Id
  pickupLocationId : Id
  returnLocationId : Id
  isSupported : Bool
  oneWaySurcharge : Money
deriving DecidableEq

structure LocationTables where
  vendors : List LocatedVendor
  matrix : List LocationMatrixItem
  exceptions : List LocationException
  /-- The distance as it is computed, in kilometres. -/
  calculateDistanceKm : GeoPoint → GeoPoint → ℚ
  /-- The point of an address, if it is found. -/
  forwardGeocode : String → Option GeoPoint
  calendar : ServerCalendar
  /-- A number as text. -/
  numberText : ℚ → String

structure CalculateDeliveryQuoteDto where
  vendorId : Id
  customerLatitude : Option ℚ
  customerLongitude : Option ℚ
  deliveryAddress : Option String
  pickupLocationId : Option Id
  returnLocationId : Option Id
  pickupDate : ℤ
  returnDate : ℤ
deriving DecidableEq

structure LocationQuote where
  isAvailable : Bool
  distanceKm : ℚ
  deliveryFee : ℚ
  pickupFee : ℚ
  returnFee : ℚ
  oneWaySurcharge : ℚ
  totalFulfillmentFee : ℚ
  pricingModel : DeliveryPricingModel
  maxDeliveryRadiusKm : ℚ
  estimatedMinutes : ℤ
  reason : Option String
deriving DecidableEq

/-! ## The fee of a delivery -/

/-- A coordinate that is zero counts as missing. -/
def coordinateOr (first second : Option ℚ) (fallback : ℚ) : ℚ :=
  ((first.filter (· ≠ 0)) <|> second.filter (· ≠ 0)).getD fallback

def deliveryOrigin (vendor : LocatedVendor) (pickupHub : Option PickupHub) : GeoPoint where
  latitude := coordinateOr (pickupHub.map (·.point.latitude)) vendor.latitude 17.4483
  longitude := coordinateOr (pickupHub.map (·.point.longitude)) vendor.longitude 78.3915

/-- The coordinates that are given, or else those of the address. -/
def customerPoint (tables : LocationTables) (dto : CalculateDeliveryQuoteDto) : Option GeoPoint :=
  match dto.customerLatitude, dto.customerLongitude with
  | some latitude, some longitude => some ⟨latitude, longitude⟩
  | _, _ => (dto.deliveryAddress.filter fun address => trim address ≠ "").bind tables.forwardGeocode

/-- The range that `validateCoordinates` checks. -/
def GeoPoint.Valid (point : GeoPoint) : Prop :=
  -90 ≤ point.latitude ∧ point.latitude ≤ 90 ∧ -180 ≤ point.longitude ∧ point.longitude ≤ 180

instance (point : GeoPoint) : Decidable point.Valid := inferInstanceAs (Decidable (_ ∧ _))

/-- The fee of the policy for a distance within its radius. -/
def policyFee (policy : VendorDeliveryPolicy) (distanceKm : ℚ) : ℚ :=
  match policy.pricingModel with
  | .free => 0
  | .fixed => orDefault policy.baseDeliveryFee.value 300
  | .distanceBased =>
    if distanceKm ≤ policy.freeDeliveryWithinKm then 0
    else orDefault policy.baseDeliveryFee.value 100 +
      (distanceKm - policy.freeDeliveryWithinKm) * orDefault policy.perKmDeliveryFee.value 20

/-- Why a delivery over a distance is not offered. -/
def deliveryRefusal (numberText : ℚ → String) (policy : VendorDeliveryPolicy) (distanceKm : ℚ) :
    Option String :=
  if !policy.deliveryEnabled then
    some "Vendor does not currently offer customer address delivery."
  else if policy.maxDeliveryRadiusKm < distanceKm then
    some ("Customer address (" ++ numberText distanceKm ++
      " km) exceeds vendor's maximum delivery radius of " ++
      numberText policy.maxDeliveryRadiusKm ++ " km.")
  else none

/-- The distance to a customer, the fee and the refusal. -/
structure DeliveryLeg where
  distanceKm : ℚ
  deliveryFee : ℚ
  refusal : Option String

def deliveryLeg (tables : LocationTables) (policy : VendorDeliveryPolicy) (origin : GeoPoint) :
    Option GeoPoint → Except HttpError DeliveryLeg
  | none => .ok ⟨0, 0, none⟩
  | some point =>
    if ¬ point.Valid then
      .error (.badRequest ("Invalid coordinates: latitude must be in [-90, 90] and longitude " ++
        "in [-180, 180]. Received: (" ++ tables.numberText point.latitude ++ ", " ++
        tables.numberText point.longitude ++ ")"))
    else
      let distanceKm : ℚ := round (tables.calculateDistanceKm origin point * 10) / 10
      let refusal := deliveryRefusal tables.numberText policy distanceKm
      .ok ⟨distanceKm, if refusal.isNone then policyFee policy distanceKm else 0, refusal⟩

/-! ## A return elsewhere -/

def matrixItem? (tables : LocationTables) (vendorId pickupLocationId returnLocationId : Id) :
    Option LocationMatrixItem :=
  tables.matrix.find? fun item => item.vendorId = vendorId ∧
    item.pickupLocationId = pickupLocationId ∧ item.returnLocationId = returnLocationId

/-- The locations of a return elsewhere. -/
def differentLocation (dto : CalculateDeliveryQuoteDto) : Option (Id × Id) :=
  match given dto.pickupLocationId, given dto.returnLocationId with
  | some pickup, some return' => if pickup ≠ return' then some (pickup, return') else none
  | _, _ => none

/-- The surcharge and the refusal of a return elsewhere. -/
def oneWayLeg (tables : LocationTables) (vendor : LocatedVendor) (returnHub : Option PickupHub)
    (dto : CalculateDeliveryQuoteDto) : ℚ × Option String :=
  match differentLocation dto with
  | none => (0, none)
  | some (pickup, return') =>
    match matrixItem? tables vendor.id pickup return' with
    | some item =>
      if item.isSupported then (item.oneWaySurcharge.value, none)
      else (0, some "One-way return between these locations is not supported.")
    | none => ((returnHub.map (·.oneWayFee.value)).getD 250, none)

/-! ## The quote -/

/-- The hub with an id, if it is one of the vendor's. -/
def hubOr (hubs : List PickupHub) (locationId : Option Id) (fallback : Option PickupHub) :
    Option PickupHub :=
  ((given locationId).bind fun id => hubs.find? fun hub => hub.id = id) <|> fallback

/-- The location is closed on the day. -/
def closure? (tables : LocationTables) (locationId : Option Id) (date : ℤ) :
    Option LocationException :=
  (given locationId).bind fun id => tables.exceptions.find?
    (·.closes id (tables.calendar.startOfDay date) (tables.calendar.lastSecond date + 999))

def closureText (place : String) (exception : LocationException) : String :=
  place ++ " location is closed on this date: " ++
    orText exception.reason "Holiday/Closure" ++ "."

/-- The last refusal counts; a closure is looked for when there is none. -/
def fulfillmentRefusal (tables : LocationTables) (dto : CalculateDeliveryQuoteDto)
    (pickupHub returnHub : Option PickupHub) (delivery oneWay : Option String) : Option String :=
  let refusal := oneWay <|> delivery
  let refusal := if pickupHub.any (!·.allowsPickup) then
    some "Selected location does not allow vehicle pickup." else refusal
  let refusal := if returnHub.any (!·.allowsReturn) then
    some "Selected return location does not allow vehicle return." else refusal
  let refusal := refusal <|>
    (closure? tables dto.pickupLocationId dto.pickupDate).map (closureText "Pickup")
  refusal <|> (closure? tables dto.returnLocationId dto.returnDate).map (closureText "Return")

/-- The vendor's policy, which is looked up by the user. -/
def getVendorDeliveryPolicy (tables : LocationTables) (userId : Id) :
    Except HttpError VendorDeliveryPolicy :=
  match tables.vendors.find? fun vendor => vendor.userId = some userId with
  | none => .error (.forbidden "User is not registered as a vendor.")
  | some vendor => .ok (vendor.deliveryPolicy.getD defaultDeliveryPolicy)

def calculateDeliveryQuote (tables : LocationTables) (dto : CalculateDeliveryQuoteDto) :
    Except HttpError LocationQuote :=
  match tables.vendors.find? fun vendor => vendor.id = dto.vendorId with
  | none => .error (.notFound "Vendor not found.")
  | some vendor =>
    (getVendorDeliveryPolicy tables ((given vendor.userId).getD vendor.id)).bind fun policy =>
      let pickupHub := hubOr vendor.pickupHubs dto.pickupLocationId vendor.pickupHubs.head?
      let returnHub := hubOr vendor.pickupHubs dto.returnLocationId pickupHub
      (deliveryLeg tables policy (deliveryOrigin vendor pickupHub)
        (customerPoint tables dto)).bind fun delivery =>
          let oneWay := oneWayLeg tables vendor returnHub dto
          let pickupFee := pickupHub.elim 0 (·.pickupFee.value)
          let returnFee := returnHub.elim 0 (·.returnFee.value)
          let reason := fulfillmentRefusal tables dto pickupHub returnHub delivery.refusal
            oneWay.2
          .ok {
            isAvailable := reason.isNone
            distanceKm := delivery.distanceKm
            deliveryFee := (round delivery.deliveryFee : ℤ)
            pickupFee
            returnFee
            oneWaySurcharge := (round oneWay.1 : ℤ)
            totalFulfillmentFee :=
              (round (delivery.deliveryFee + oneWay.1 + pickupFee + returnFee) : ℤ)
            pricingModel := policy.pricingModel
            maxDeliveryRadiusKm := policy.maxDeliveryRadiusKm
            estimatedMinutes :=
              if 0 < delivery.distanceKm then round (delivery.distanceKm * 2.5) + 15 else 0
            reason }

end CarRental
