import CarRental.Lib.KeyedRows
import CarRental.Lib.Runs
import CarRental.Lib.Totals
import CarRental.Payments.State

/-!
# Loyalty points

The operations of `LoyaltyService` that write points: the points earned by a completed booking
and their reversal, the redemption to the wallet, and the adjustment by an admin.  Each of them
is one transaction, which locks the account, writes it and adds a row to its history.

The points of a row are stored without a sign, which its type stands for, or for an adjustment
the direction of its balances (`signedPoints`).

A database integer has 32 bits, and takes no fraction.  The tiers are the ones that
`ensureTiersExist` writes at every start.
-/

namespace CarRental

open KeyedRows Runs Totals

/-! ## The tables -/

inductive LoyaltyTierCode where
  | bronze
  | silver
  | gold
  | platinum
deriving DecidableEq, Repr

structure LoyaltyTier where
  code : LoyaltyTierCode
  minPointsRequired : ℤ
  pointsMultiplier : Decimal
deriving DecidableEq

/-- The default tiers, in the order of their thresholds. -/
def defaultTiers : List LoyaltyTier :=
  [⟨.bronze, 0, 1⟩, ⟨.silver, 500, 5 / 4⟩, ⟨.gold, 2000, 3 / 2⟩, ⟨.platinum, 5000, 2⟩]

inductive LoyaltyTransactionType where
  | tripCompletionEarned
  | redemptionToWallet
  | adminAdjustment
  | cancellationReversal
deriving DecidableEq, Repr

structure LoyaltyAccount where
  id : Id
  userId : Id
  tier : LoyaltyTierCode
  pointsBalance : ℤ
  lifetimePoints : ℤ
deriving DecidableEq

structure LoyaltyTransaction where
  accountId : Id
  type : LoyaltyTransactionType
  points : ℤ
  balanceBefore : ℤ
  balanceAfter : ℤ
  referenceType : String
  referenceId : Option Id
  idempotencyKey : String
deriving DecidableEq

structure LoyaltyStore where
  accounts : List LoyaltyAccount
  transactions : List LoyaltyTransaction
deriving DecidableEq

structure LoyaltyConfig where
  isEnabled : Bool
  rupeesPerPointEarned : Decimal
  pointsToRupeeRatio : Decimal
  minPointsToRedeem : Decimal
  maxPointsPerBooking : Option Decimal
deriving DecidableEq

/-- What the service reads of a booking. -/
structure LoyaltyBooking where
  customerId : Id
  status : BookingStatus
  payment : Option (PaymentStatus × RefundStatus)
  baseFare : Money
deriving DecidableEq

/-- What a call says: nothing to do, done before, or done. -/
inductive LoyaltyReply where
  | skipped (reason : String)
  | already (points : ℤ)
  | posted (points newPointsBalance newLifetimePoints : ℤ)
deriving DecidableEq

/-! ## Points and tiers -/

def calculateEligiblePoints (eligibleBaseFare tierMultiplier rupeesPerPoint : Decimal)
    (maxPointsCap : Option Decimal) : Decimal :=
  if eligibleBaseFare ≤ 0 then 0
  else
    let basePoints : ℤ := ⌊eligibleBaseFare / rupeesPerPoint⌋
    let finalPoints : ℤ := ⌊basePoints * tierMultiplier⌋
    let positivePoints : Decimal := max 0 (finalPoints : Decimal)
    match maxPointsCap with
    | none => positivePoints
    | some cap => if cap = 0 then positivePoints else min positivePoints cap

/-- The tiers have different thresholds, so sorting them from the top reverses the list. -/
def determineTierForLifetimePoints (lifetimePoints : ℤ) : LoyaltyTierCode :=
  match defaultTiers.reverse.find? fun tier => tier.minPointsRequired ≤ lifetimePoints with
  | some tier => tier.code
  | none => .bronze

def tierMultiplier (code : LoyaltyTierCode) : Decimal :=
  match defaultTiers.find? fun tier => tier.code = code with
  | some tier => tier.pointsMultiplier
  | none => 1

/-! ## Writing points -/

def fitsInt (n : ℤ) : Bool := -2147483648 ≤ n && n ≤ 2147483647

/-- A number as an integer of the database. -/
def toInt? (x : Decimal) : Option ℤ := if x.den = 1 then some x.num else none

namespace LoyaltyStore

def findAccount (store : LoyaltyStore) (userId : Id) : Option LoyaltyAccount :=
  store.accounts.find? fun account => account.userId = userId

def findKey (store : LoyaltyStore) (idempotencyKey : String) : Option LoyaltyTransaction :=
  store.transactions.find? fun transaction => transaction.idempotencyKey = idempotencyKey

/-- `getOrCreateLoyaltyAccount`, with the id that the database would give a new account. -/
def getOrCreate (store : LoyaltyStore) (userId newId : Id) :
    Option (LoyaltyStore × LoyaltyAccount) :=
  match store.findAccount userId with
  | some account => some (store, account)
  | none =>
    if newId ∈ store.accounts.map LoyaltyAccount.id then none
    else
      let account : LoyaltyAccount := ⟨newId, userId, .bronze, 0, 0⟩
      some ({ store with accounts := store.accounts ++ [account] }, account)

/-- The new values of an account and the row of its history. -/
def post (store : LoyaltyStore) (account : LoyaltyAccount) (transaction : LoyaltyTransaction) :
    Option LoyaltyStore :=
  if fitsInt account.pointsBalance ∧ fitsInt account.lifetimePoints ∧ fitsInt transaction.points ∧
      (store.findKey transaction.idempotencyKey).isNone then
    some {
      accounts := updateKey LoyaltyAccount.id account.id (fun _ => account) store.accounts
      transactions := store.transactions ++ [transaction] }
  else none

end LoyaltyStore

/-- The writes of a transaction, or the database's refusal. -/
def finishPost (before : LoyaltyStore) (after : Option LoyaltyStore) (reply : LoyaltyReply) :
    LoyaltyStore × Except HttpError LoyaltyReply :=
  match after with
  | some store => (store, .ok reply)
  | none => (before, .error (.internal "Write refused by the database"))

/-! ## The operations -/

def creditBooking (store : LoyaltyStore) (config : LoyaltyConfig) (bookingId : Id)
    (booking : LoyaltyBooking) (newAccountId : Id) : LoyaltyStore × Except HttpError LoyaltyReply :=
  match store.getOrCreate booking.customerId newAccountId with
  | none => (store, .error (.internal "Write refused by the database"))
  | some (opened, account) =>
    let points := calculateEligiblePoints booking.baseFare.value (tierMultiplier account.tier)
      (orDefault config.rupeesPerPointEarned 10) config.maxPointsPerBooking
    if points ≤ 0 then (opened, .ok (.skipped "No points earned"))
    else
      match toInt? points with
      | none => (store, .error (.internal "Write refused by the database"))
      | some points =>
        let newLifetimePoints := account.lifetimePoints + points
        let newPointsBalance := account.pointsBalance + points
        finishPost store
          (opened.post
            { account with
              pointsBalance := newPointsBalance
              lifetimePoints := newLifetimePoints
              tier := determineTierForLifetimePoints newLifetimePoints }
            ⟨account.id, .tripCompletionEarned, points, account.pointsBalance,
              newPointsBalance, "BOOKING", some bookingId, "loyalty_booking_" ++ bookingId⟩)
          (.posted points newPointsBalance newLifetimePoints)

def handleBookingCompleted (store : LoyaltyStore) (config : LoyaltyConfig) (bookingId : Id)
    (booking : Option LoyaltyBooking) (newAccountId : Id) :
    LoyaltyStore × Except HttpError LoyaltyReply :=
  if !config.isEnabled then (store, .ok (.skipped "Loyalty program disabled"))
  else
    match store.findKey ("loyalty_booking_" ++ bookingId) with
    | some existing => (store, .ok (.already existing.points))
    | none =>
      match booking with
      | none => (store, .ok (.skipped "Booking not found"))
      | some booking =>
        if booking.status ≠ .completed then (store, .ok (.skipped "Booking not completed"))
        else if booking.payment ≠ some (.paid, .none) then
          (store, .ok (.skipped "Booking payment not paid/valid"))
        else if booking.baseFare.value ≤ 0 then (store, .ok (.skipped "Base fare is 0"))
        else creditBooking store config bookingId booking newAccountId

/-- The points that a booking has earned, their account, and that they are not reversed yet. -/
def reversalOf (store : LoyaltyStore) (bookingId : Id) :
    Except LoyaltyReply (LoyaltyTransaction × LoyaltyAccount) :=
  match store.transactions.find? fun transaction =>
      transaction.referenceType = "BOOKING" ∧ transaction.referenceId = some bookingId ∧
        transaction.type = .tripCompletionEarned with
  | none => .error (.skipped "No loyalty points earned for this booking")
  | some earning =>
    match store.findKey ("loyalty_reversal_booking_" ++ bookingId) with
    | some existing => .error (.already existing.points)
    | none =>
      match store.accounts.find? fun account => account.id = earning.accountId with
      | none => .error (.skipped "Loyalty account not found")
      | some account => .ok (earning, account)

def handleBookingCancelled (store : LoyaltyStore) (bookingId : Id) :
    LoyaltyStore × Except HttpError LoyaltyReply :=
  match reversalOf store bookingId with
  | .error reply => (store, .ok reply)
  | .ok (earning, account) =>
    let pointsToReverse := earning.points
    let newPointsBalance := max 0 (account.pointsBalance - pointsToReverse)
    let newLifetimePoints := max 0 (account.lifetimePoints - pointsToReverse)
    finishPost store
      (store.post
        { account with
          pointsBalance := newPointsBalance
          lifetimePoints := newLifetimePoints
          tier := determineTierForLifetimePoints newLifetimePoints }
        ⟨account.id, .cancellationReversal, pointsToReverse, account.pointsBalance,
          newPointsBalance, "BOOKING_CANCELLATION", some bookingId,
          "loyalty_reversal_booking_" ++ bookingId⟩)
      (.posted pointsToReverse newPointsBalance newLifetimePoints)

/-- What the controller lets through. -/
structure RedeemPointsDto where
  points : ℤ
  atLeast : 2 ≤ points
  idempotencyKey : Option String

/-- A request without a key gets a generated one.  The wallet may refuse its credit. -/
def redeemPointsToWallet (store : LoyaltyStore) (config : LoyaltyConfig) (userId : Id)
    (dto : RedeemPointsDto) (generatedKey : String) (newAccountId : Id) (walletCredits : Bool) :
    LoyaltyStore × Except HttpError LoyaltyReply :=
  if !config.isEnabled then
    (store, .error (.badRequest
      "Loyalty rewards program is currently disabled by administrator."))
  else
    let ratio := orDefault config.pointsToRupeeRatio 2
    let idempotencyKey := dto.idempotencyKey.getD generatedKey
    if (dto.points : Decimal) < orDefault config.minPointsToRedeem 2 then
      (store, .error (.badRequest "Points to redeem must be an integer of at least the minimum"))
    else if (store.findKey idempotencyKey).isSome then
      (store, .error (.conflict
        "Redemption request with this idempotency key was already processed"))
    else
      match store.getOrCreate userId newAccountId with
      | none => (store, .error (.internal "Write refused by the database"))
      | some (opened, account) =>
        let walletCreditAmount : ℤ := ⌊(dto.points : Decimal) / ratio⌋
        if account.pointsBalance < dto.points then
          (store, .error (.badRequest ("Insufficient loyalty points. Available: " ++
            toString account.pointsBalance ++ ", Requested: " ++ toString dto.points)))
        else if walletCreditAmount ≤ 0 then
          (store, .error (.badRequest "Redemption must yield at least ₹1 wallet credit"))
        else
          match toInt? (walletCreditAmount * ratio) with
          | none => (store, .error (.internal "Write refused by the database"))
          | some redeemed =>
            if !walletCredits then (store, .error (.internal "Wallet credit failed"))
            else
              let newPointsBalance := account.pointsBalance - redeemed
              finishPost store
                (opened.post { account with pointsBalance := newPointsBalance }
                  ⟨account.id, .redemptionToWallet, redeemed, account.pointsBalance,
                    newPointsBalance, "WALLET", none, idempotencyKey⟩)
                (.posted redeemed newPointsBalance account.lifetimePoints)

def adminAdjustPoints (store : LoyaltyStore) (adminUserId userId : Id) (points : ℤ)
    (idempotencyKey : String) (newAccountId : Id) : LoyaltyStore × Except HttpError LoyaltyReply :=
  if points = 0 then (store, .error (.badRequest "Adjustment points cannot be zero"))
  else if (store.findKey idempotencyKey).isSome then
    (store, .error (.conflict "Adjustment with this idempotency key has already been processed"))
  else
    match store.getOrCreate userId newAccountId with
    | none => (store, .error (.internal "Write refused by the database"))
    | some (opened, account) =>
      if points < 0 ∧ account.pointsBalance + points < 0 then
        (store, .error (.badRequest ("Deduction of " ++ toString |points| ++
          " points exceeds available balance " ++ toString account.pointsBalance)))
      else
        let newPointsBalance := account.pointsBalance + points
        let newLifetimePoints :=
          if 0 < points then account.lifetimePoints + points else account.lifetimePoints
        finishPost store
          (opened.post
            { account with
              pointsBalance := newPointsBalance
              lifetimePoints := newLifetimePoints
              tier := determineTierForLifetimePoints newLifetimePoints }
            ⟨account.id, .adminAdjustment, |points|, account.pointsBalance, newPointsBalance,
              "ADMIN", some adminUserId, idempotencyKey⟩)
          (.posted points newPointsBalance newLifetimePoints)

/-! ## Steps -/

inductive LoyaltyAction where
  | bookingCompleted (config : LoyaltyConfig) (bookingId : Id) (booking : Option LoyaltyBooking)
      (newAccountId : Id)
  | bookingCancelled (bookingId : Id)
  | redeem (config : LoyaltyConfig) (userId : Id) (dto : RedeemPointsDto) (generatedKey : String)
      (newAccountId : Id) (walletCredits : Bool)
  | adminAdjust (adminUserId userId : Id) (points : ℤ) (idempotencyKey : String)
      (newAccountId : Id)

def loyaltyStep (store : LoyaltyStore) : LoyaltyAction → LoyaltyStore
  | .bookingCompleted config bookingId booking newAccountId =>
    (handleBookingCompleted store config bookingId booking newAccountId).1
  | .bookingCancelled bookingId => (handleBookingCancelled store bookingId).1
  | .redeem config userId dto generatedKey newAccountId walletCredits =>
    (redeemPointsToWallet store config userId dto generatedKey newAccountId walletCredits).1
  | .adminAdjust adminUserId userId points idempotencyKey newAccountId =>
    (adminAdjustPoints store adminUserId userId points idempotencyKey newAccountId).1

end CarRental
