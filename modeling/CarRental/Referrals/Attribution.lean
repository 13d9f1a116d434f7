import CarRental.Lib.Quotas
import CarRental.Lib.Runs
import CarRental.Payments.State

/-!
# Referrals

A user applies the referral code of another and becomes its referee.  The first bookings
of a referee are discounted, and when one is completed the referrer is rewarded, up to
`maxReferralsPerUser` times in a campaign.

Every operation reads in one step and writes in a later one: the first puts its write
`inFlight`, and `commit` makes it, or rolls it back.  The handlers run after the request
that has changed the booking, whenever they come to it.

An attribution has the key `refereeId`, which is unique in its table.  Codes, phones and licence
numbers are trimmed already, and the former and the latter in capitals.  What else a booking
is checked for, and how its status and its payment change, is left open.
-/

namespace CarRental

open KeyedRows Quotas

/-! ## The tables -/

inductive ReferralStatus where
  | invited
  | registered
  | qualified
  | rewarded
  | cancelled
  | expired
  | fraudBlocked
deriving DecidableEq, Repr

structure ReferralUser where
  id : Id
  referralCode : Option String
  phone : Option String
  licenceNumber : Option String
deriving DecidableEq

structure ReferralCampaign where
  id : Id
  code : String
  referrerRewardAmount : Money
  refereeRewardAmount : Money
  minBookingAmount : Money
  city : Option String
  startDate : Option ℤ
  endDate : Option ℤ
  isActive : Bool
  maxReferralsPerUser : ℕ
deriving DecidableEq

structure ReferralAttribution where
  referrerId : Id
  refereeId : Id
  campaignId : Id
  referralCodeUsed : String
  status : ReferralStatus
  qualifyingBookingId : Option Id
  referrerRewardAmount : Money
  refereeRewardAmount : Money
deriving DecidableEq

/-- A booking; `referralDiscount` is its discount if it is that of a referee. -/
structure ReferredBooking where
  id : Id
  customerId : Id
  status : BookingStatus
  totalFare : Money
  payment : Option (PaymentStatus × RefundStatus)
  referralDiscount : Option Money
deriving DecidableEq

/-- A write of an operation that has read what it needs. -/
inductive ReferralWrite where
  | register (attribution : ReferralAttribution)
  | book (booking : ReferredBooking)
  | reward (refereeId bookingId : Id)
  | reverse (refereeId : Id)
deriving DecidableEq

structure ReferralDesk where
  users : List ReferralUser
  campaigns : List ReferralCampaign
  attributions : List ReferralAttribution
  bookings : List ReferredBooking
  inFlight : List ReferralWrite
  now : ℤ
deriving DecidableEq

structure ReferralConfig where
  defaultReferrerReward : Money
  defaultRefereeReward : Money
  minBookingAmount : Money
  maxReferralsPerUser : ℕ
  isReferralsEnabled : Bool
deriving DecidableEq

/-- In paise. -/
def DEFAULT_MIN_BOOKING_AMOUNT : ℤ := 100000

/-- How a request is priced: with a coupon or a quote, which bring a total of their own, or from
the fare and what is added to it in paise. -/
inductive ReferralPricing where
  | given (totalFare : Money)
  | plain (total : Money) (addons : ℤ)
deriving DecidableEq

/-- Both have it, and it is the same. -/
def sameIdentity (first second : Option String) : Bool := first.isSome ∧ first = second

/-! ## Quotas -/

/-- The rewards of one referrer in one campaign. -/
structure RewardQuota where
  referrerId : Id
  campaignId : Id
deriving DecidableEq

def countsReward (quota : RewardQuota) (attribution : ReferralAttribution) : Bool :=
  attribution.referrerId = quota.referrerId ∧ attribution.campaignId = quota.campaignId ∧
    attribution.status = .rewarded

def countsGrant (customerId : Id) (booking : ReferredBooking) : Bool :=
  booking.customerId = customerId ∧ booking.referralDiscount.isSome

namespace ReferralDesk

variable (desk : ReferralDesk)

def campaign? (campaignId : Id) : Option ReferralCampaign :=
  desk.campaigns.find? fun campaign => campaign.id = campaignId

def attribution? (refereeId : Id) : Option ReferralAttribution :=
  desk.attributions.find? fun attribution => attribution.refereeId = refereeId

def user? (userId : Id) : Option ReferralUser :=
  desk.users.find? fun user => user.id = userId

def rewardedCount (referrerId campaignId : Id) : ℕ :=
  used countsReward ⟨referrerId, campaignId⟩ desk.attributions

def maxReferrals (quota : RewardQuota) : Option ℕ :=
  (desk.campaign? quota.campaignId).map ReferralCampaign.maxReferralsPerUser

/-- In paise. -/
def minBookingAmount (attribution : ReferralAttribution) : ℤ :=
  match desk.campaign? attribution.campaignId with
  | none => DEFAULT_MIN_BOOKING_AMOUNT
  | some campaign => campaign.minBookingAmount.paise

def hasCompleted (customerId : Id) : Bool :=
  desk.bookings.any fun booking => booking.customerId = customerId ∧ booking.status = .completed

/-! ## Applying a code -/

/-- The campaign for a city.  In descending order of the cities, those without one come first. -/
def activeCampaign? (city : Option String) : Option ReferralCampaign :=
  let active := desk.campaigns.filter fun campaign => campaign.isActive
  (active.find? fun campaign => campaign.city = none).or
    (city.bind fun city => active.find? fun campaign => campaign.city = some city)

def getOrCreateDefaultCampaign (config : ReferralConfig) (newId : Id) :
    Except HttpError (ReferralDesk × ReferralCampaign) :=
  match desk.campaigns.find? fun campaign =>
      campaign.code = "DEFAULT_GLOBAL" ∧ campaign.isActive with
  | some campaign => .ok (desk, campaign)
  | none =>
    if desk.campaigns.any (fun campaign => campaign.code = "DEFAULT_GLOBAL" ∨ campaign.id = newId)
    then .error (.internal "Unique constraint failed")
    else
      let campaign : ReferralCampaign :=
        { id := newId
          code := "DEFAULT_GLOBAL"
          referrerRewardAmount := config.defaultReferrerReward
          refereeRewardAmount := config.defaultRefereeReward
          minBookingAmount := config.minBookingAmount
          city := none
          startDate := none
          endDate := none
          isActive := config.isReferralsEnabled
          maxReferralsPerUser := config.maxReferralsPerUser }
      .ok ({ desk with campaigns := desk.campaigns ++ [campaign] }, campaign)

def checkReferee (refereeId : Id) (cleanCode : String) : Except HttpError ReferralUser :=
  match desk.users.find? fun user => user.referralCode = some cleanCode with
  | none => .error (.badRequest "Invalid referral code. Please check and try again.")
  | some referrer =>
    match desk.user? refereeId with
    | none => .error (.notFound "Customer profile not found.")
    | some referee =>
      if referrer.id = referee.id then
        .error (.badRequest "Self-referral is strictly prohibited.")
      else if sameIdentity referrer.phone referee.phone then
        .error (.badRequest
          "Referral code cannot be shared between the same phone identity.")
      else if sameIdentity referrer.licenceNumber referee.licenceNumber then
        .error (.badRequest
          "Referral code cannot be shared with the same verified KYC identity.")
      else if (desk.attribution? refereeId).isSome then
        .error (.conflict "You have already applied a referral code.")
      else if desk.hasCompleted refereeId then
        .error (.badRequest
          "Referral benefits are only applicable for first-time customers.")
      else .ok referrer

def checkCampaign (referrerId : Id) (campaign : ReferralCampaign) (city : Option String) :
    Except HttpError Unit :=
  if !campaign.isActive then
    .error (.badRequest "This referral campaign is currently inactive.")
  else if ∃ startDate ∈ campaign.startDate, desk.now < startDate then
    .error (.badRequest "This referral campaign has not started yet.")
  else if ∃ endDate ∈ campaign.endDate, endDate < desk.now then
    .error (.badRequest "This referral campaign has expired.")
  else if ∃ theirs ∈ campaign.city, ∃ ours ∈ city, theirs.toLower ≠ ours.toLower then
    .error (.badRequest ("This referral campaign is only applicable in " ++
      campaign.city.getD "" ++ "."))
  else if campaign.maxReferralsPerUser ≤ desk.rewardedCount referrerId campaign.id then
    .error (.badRequest ("Referrer has reached the maximum rewarded referrals limit (" ++
      toString campaign.maxReferralsPerUser ++ ") for this campaign."))
  else .ok ()

/-- `applyReferralCode` up to the insert, with the attribution that is to be inserted. -/
def applyReferralCode (config : ReferralConfig) (newCampaignId refereeId : Id)
    (cleanCode : String) (city : Option String) :
    ReferralDesk × Except HttpError ReferralAttribution :=
  match desk.checkReferee refereeId cleanCode with
  | .error e => (desk, .error e)
  | .ok referrer =>
    let resolved : Except HttpError (ReferralDesk × ReferralCampaign) :=
      match desk.activeCampaign? city with
      | some campaign => .ok (desk, campaign)
      | none => desk.getOrCreateDefaultCampaign config newCampaignId
    match resolved with
    | .error e => (desk, .error e)
    | .ok (next, campaign) =>
      match next.checkCampaign referrer.id campaign city with
      -- the default campaign that was made for it stays
      | .error e => (next, .error e)
      | .ok () =>
        (next, .ok
          { referrerId := referrer.id
            refereeId := refereeId
            campaignId := campaign.id
            referralCodeUsed := cleanCode
            status := .registered
            qualifyingBookingId := none
            referrerRewardAmount := campaign.referrerRewardAmount
            refereeRewardAmount := campaign.refereeRewardAmount })

/-! ## The discount of a referee -/

/-- The discount of `getRefereeEligibility`, and the fare in paise from which it is given. -/
def getRefereeEligibility (refereeId : Id) : Option (Money × ℤ) :=
  match desk.attribution? refereeId with
  | none => none
  | some attribution =>
    if attribution.status ≠ .registered ∨ desk.hasCompleted refereeId then none
    else some (attribution.refereeRewardAmount, desk.minBookingAmount attribution)

def refereeDiscount (customerId : Id) (total : Money) : Option Money :=
  match desk.getRefereeEligibility customerId with
  | none => none
  | some (discountAmount, minBookingAmount) =>
    if minBookingAmount ≤ total.paise then some discountAmount else none

/-- The booking of `createBooking`, if its total fits. -/
def newBooking (customerId newId : Id) (pricing : ReferralPricing) : Option ReferredBooking :=
  match pricing with
  | .given totalFare => some ⟨newId, customerId, .pending, totalFare, none, none⟩
  | .plain total addons =>
    match desk.refereeDiscount customerId total with
    | none =>
      (Column.ofPaise? (total.paise + addons)).map fun totalFare =>
        ⟨newId, customerId, .pending, totalFare, none, none⟩
    | some discountAmount =>
      (Column.ofPaise? (max 0 (total.paise - discountAmount.paise) + addons)).map
        fun totalFare => ⟨newId, customerId, .pending, totalFare, none, some discountAmount⟩

/-! ## Rewards -/

/-- `handleBookingCompleted` up to the lock: the referee of a booking that qualifies. -/
def qualifies (bookingId : Id) : Option Id :=
  match desk.bookings.find? fun booking => booking.id = bookingId with
  | none => none
  | some booking =>
    if booking.status ≠ .completed then none
    else
      match desk.attribution? booking.customerId with
      | none => none
      | some attribution =>
        match attribution.status with
        | .rewarded | .fraudBlocked | .cancelled | .expired => none
        | .invited | .registered | .qualified =>
          if booking.totalFare.paise < desk.minBookingAmount attribution then none
          else if booking.payment ≠ some (.paid, .none) then none
          else some booking.customerId

/-- `handleBookingCancelled` up to the write: the referee whose reward is taken back. -/
def reverses (bookingId : Id) : Option Id :=
  (desk.attributions.find? fun attribution =>
    attribution.qualifyingBookingId = some bookingId ∧
      (attribution.status = .qualified ∨ attribution.status = .rewarded)).map
    ReferralAttribution.refereeId

end ReferralDesk

/-- The locked row is rewarded unless it is already. -/
def rewardAttribution (bookingId : Id) (attribution : ReferralAttribution) :
    ReferralAttribution :=
  if attribution.status = .rewarded then attribution
  else { attribution with status := .rewarded, qualifyingBookingId := some bookingId }

def cancelAttribution (attribution : ReferralAttribution) : ReferralAttribution :=
  { attribution with status := .cancelled }

/-! ## Steps -/

namespace ReferralDesk

variable (desk : ReferralDesk)

/-- An attribution for a referee who has one, or a booking with a known id, is not inserted. -/
def write : ReferralWrite → ReferralDesk
  | .register attribution =>
    if attribution.refereeId ∈ desk.attributions.map ReferralAttribution.refereeId then desk
    else { desk with attributions := desk.attributions ++ [attribution] }
  | .book booking =>
    if booking.id ∈ desk.bookings.map ReferredBooking.id then desk
    else { desk with bookings := desk.bookings ++ [booking] }
  | .reward refereeId bookingId =>
    { desk with
      attributions := updateKey ReferralAttribution.refereeId refereeId
        (rewardAttribution bookingId) desk.attributions }
  | .reverse refereeId =>
    { desk with
      attributions := updateKey ReferralAttribution.refereeId refereeId
        cancelAttribution desk.attributions }

/-- A write is put in flight, if there is one. -/
def await (pending : Option ReferralWrite) : ReferralDesk :=
  { desk with inFlight := desk.inFlight ++ pending.toList }

end ReferralDesk

inductive ReferralAction where
  /-- A user registers, or changes its profile. -/
  | saveUser (user : ReferralUser)
  | createAdminCampaign (campaign : ReferralCampaign)
  | applyReferralCode (config : ReferralConfig) (newCampaignId refereeId : Id)
      (cleanCode : String) (city : Option String)
  | createBooking (customerId newId : Id) (pricing : ReferralPricing)
  | setStatus (bookingId : Id) (status : BookingStatus)
  | setPayment (bookingId : Id) (payment : Option (PaymentStatus × RefundStatus))
  | handleBookingCompleted (bookingId : Id)
  | handleBookingCancelled (bookingId : Id)
  /-- The write is made, or nothing when the operation fails. -/
  | commit (pending : ReferralWrite) (failed : Bool)
  | advance (milliseconds : ℕ)

def referralStep (desk : ReferralDesk) : ReferralAction → ReferralDesk
  | .saveUser user =>
    { desk with users := user :: desk.users.filter fun other => other.id ≠ user.id }
  | .createAdminCampaign campaign =>
    if desk.campaigns.any fun other => other.code = campaign.code ∨ other.id = campaign.id
    then desk
    else { desk with campaigns := desk.campaigns ++ [campaign] }
  | .applyReferralCode config newCampaignId refereeId cleanCode city =>
    let (next, reply) := desk.applyReferralCode config newCampaignId refereeId cleanCode city
    next.await (reply.toOption.map .register)
  | .createBooking customerId newId pricing =>
    desk.await ((desk.newBooking customerId newId pricing).map .book)
  | .setStatus bookingId status =>
    { desk with
      bookings := updateKey ReferredBooking.id bookingId
        (fun booking => { booking with status }) desk.bookings }
  | .setPayment bookingId payment =>
    { desk with
      bookings := updateKey ReferredBooking.id bookingId
        (fun booking => { booking with payment }) desk.bookings }
  | .handleBookingCompleted bookingId =>
    desk.await ((desk.qualifies bookingId).map (.reward · bookingId))
  | .handleBookingCancelled bookingId => desk.await ((desk.reverses bookingId).map .reverse)
  | .commit pending failed =>
    if pending ∈ desk.inFlight then
      let closed := { desk with inFlight := desk.inFlight.erase pending }
      if failed then closed else closed.write pending
    else desk
  | .advance milliseconds => { desk with now := desk.now + milliseconds }

end CarRental
