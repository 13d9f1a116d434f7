import Mathlib.Logic.Function.Basic
import CarRental.Bookings.Admission
import CarRental.Wallets.Account
import CarRental.Loyalty.PointsLaw

/-!
# Points redeemed to the wallet

`LoyaltyService.redeemPointsToWallet` over both ledgers, with what else writes them: the other
operations on points, and the calls of the wallet service.

The points and the wallet are written in one transaction, which hands its client to
`creditWallet`.  So wherever a call breaks off before the commit (`RedemptionPoint`), nothing of it
stays.

The entry of the wallet has the id of the row of points in its key.  The wallet service answers a
key that is used with the entry that has it, so that the points would be gone for nothing if another
entry had the key; the other callers write keys of their own (`WalletEntryKey`).

Points are integers, amounts of the wallet are in paise.
-/

namespace CarRental

open KeyedRows Runs WalletAccount

/-! ## The tables -/

/-- The tables of points with the ids of their rows, the wallets of the users, and the keys of all
entries of wallets. -/
structure RedemptionDesk where
  store : LoyaltyStore
  transactionIds : List Id
  wallets : Id → Option WalletAccount
  entryKeys : List String

/-- `idempotencyKey` of the entry, for the id of the row of points. -/
def redemptionKey (transactionId : Id) : String := "wallet_loyalty_redeem_" ++ transactionId

/-- The keys of the other callers of the wallet service. -/
inductive WalletEntryKey where
  | deposit (razorpayPaymentId : Id)
  | adminAdjustment (adminUserId walletId : Id) (nonce : String)
  | checkoutDebit (bookingId : Id)
  | refund (bookingId paymentId : Id)
  | referralReward (attributionId : Id)
  | referralReversal (attributionId bookingId : Id)

def WalletEntryKey.text : WalletEntryKey → String
  | .deposit razorpayPaymentId => "wallet_deposit_" ++ razorpayPaymentId
  | .adminAdjustment adminUserId walletId nonce =>
    "wallet_admin_adj_" ++ (adminUserId ++ "_" ++ walletId ++ "_" ++ nonce)
  | .checkoutDebit bookingId => "wallet_checkout_debit_" ++ bookingId
  | .refund bookingId paymentId => "refund_wallet_" ++ (bookingId ++ "_" ++ paymentId)
  | .referralReward attributionId => "ref_reward_" ++ (attributionId ++ "_referrer")
  | .referralReversal attributionId bookingId =>
    "ref_reversal_" ++ (attributionId ++ "_" ++ bookingId)

namespace RedemptionDesk

def empty : RedemptionDesk := ⟨⟨[], []⟩, [], fun _ => none, []⟩

/-- `getOrCreateWallet`: the wallet of a user, with the keys that are used. -/
def walletOf (desk : RedemptionDesk) (userId newWalletId : Id) : WalletAccount :=
  match desk.wallets userId with
  | some wallet => { wallet with otherKeys := desk.entryKeys }
  | none => .create newWalletId desk.entryKeys

/-- The wallet of a user is written, with the keys of its entries. -/
def saveWallet (desk : RedemptionDesk) (userId : Id) (wallet : WalletAccount) : RedemptionDesk :=
  { desk with
    wallets := Function.update desk.wallets userId (some wallet)
    entryKeys := wallet.ledger.map (·.idempotencyKey) ++ desk.entryKeys }

end RedemptionDesk

/-! ## A redemption -/

/-- Where a call may break off: a query that fails, a wallet service that throws, a crash. -/
inductive RedemptionPoint where
  | readConfig
  | findKey
  | openAccount
  | lockAccount
  | debitPoints
  | recordPoints
  | openWallet
  /-- Any query of the wallet service: the look for the key, the lock, the settings, the entry,
  the balances. -/
  | creditWallet
  | commit
  /-- After the commit: only the reply is lost. -/
  | reply
deriving DecidableEq, Repr

/-- The call gets past a point. -/
def passes (failure : Option RedemptionPoint) (point : RedemptionPoint) : Except HttpError Unit :=
  require (failure ≠ some point) (.internal "Connection lost")

/-- A value that the database may refuse. -/
def accepted {α : Type} (value : Option α) : Except HttpError α :=
  match value with
  | some value => .ok value
  | none => .error (.internal "Write refused by the database")

/-- A call with the ids that the database gives, and the key for a request without one. -/
structure RedemptionCall where
  config : LoyaltyConfig
  walletConfig : Option WalletConfig
  userId : Id
  dto : RedeemPointsDto
  generatedKey : String
  newAccountId : Id
  transactionId : Id
  newWalletId : Id
  failure : Option RedemptionPoint

namespace RedemptionCall

def ratio (call : RedemptionCall) : Decimal := orDefault call.config.pointsToRupeeRatio 2

/-- `dto.idempotencyKey ||` a generated one -/
def idempotencyKey (call : RedemptionCall) : String :=
  (call.dto.idempotencyKey.filter (· ≠ "")).getD call.generatedKey

def walletCreditAmount (call : RedemptionCall) : ℤ := ⌊(call.dto.points : Decimal) / call.ratio⌋

end RedemptionCall

structure RedemptionReply where
  redeemedPoints : ℤ
  walletCreditAmount : ℤ
  newPointsBalance : ℤ
  lifetimePoints : ℤ
  transactionId : Id
deriving DecidableEq

/-- The account with the points taken out. -/
def debitedAccount (account : LoyaltyAccount) (redeemed : ℤ) : LoyaltyAccount :=
  { account with pointsBalance := account.pointsBalance - redeemed }

def redemptionRow (account : LoyaltyAccount) (redeemed : ℤ) (idempotencyKey : String) :
    LoyaltyTransaction where
  accountId := account.id
  type := .redemptionToWallet
  points := redeemed
  balanceBefore := account.pointsBalance
  balanceAfter := account.pointsBalance - redeemed
  referenceType := "WALLET"
  referenceId := none
  idempotencyKey := idempotencyKey

namespace RedemptionDesk

/-- What is checked before the transaction. -/
def admitRedemption (call : RedemptionCall) : Except HttpError Unit :=
  (passes call.failure .readConfig).bind fun _ =>
  (require (call.config.isEnabled = true)
    (.badRequest "Loyalty rewards program is currently disabled by administrator.")).bind fun _ =>
  require (orDefault call.config.minPointsToRedeem 2 ≤ call.dto.points)
    (.badRequest "Points to redeem must be an integer of at least the minimum")

/-- The transaction up to the points: the account before it, the points taken, and the tables. -/
def debitPoints (desk : RedemptionDesk) (call : RedemptionCall) :
    Except HttpError (LoyaltyAccount × ℤ × LoyaltyStore) :=
  (passes call.failure .findKey).bind fun _ =>
  (require ((desk.store.findKey call.idempotencyKey).isNone = true)
    (.conflict "Redemption request with this idempotency key was already processed")).bind fun _ =>
  (passes call.failure .openAccount).bind fun _ =>
  (accepted (desk.store.getOrCreate call.userId call.newAccountId)).bind fun opened =>
  (passes call.failure .lockAccount).bind fun _ =>
  (require (call.dto.points ≤ opened.2.pointsBalance)
    (.badRequest ("Insufficient loyalty points. Available: " ++
      toString opened.2.pointsBalance ++ ", Requested: " ++
      toString call.dto.points))).bind fun _ =>
  (require (0 < call.walletCreditAmount)
    (.badRequest "Redemption must yield at least ₹1 wallet credit")).bind fun _ =>
  (passes call.failure .debitPoints).bind fun _ =>
  -- a fraction of a point is refused by its column
  (accepted (toInt? (call.walletCreditAmount * call.ratio))).bind fun redeemed =>
  (passes call.failure .recordPoints).bind fun _ =>
  (require (call.transactionId ∉ desk.transactionIds)
    (.internal "Unique constraint failed on id")).bind fun _ =>
  (accepted (opened.1.post (debitedAccount opened.2 redeemed)
    (redemptionRow opened.2 redeemed call.idempotencyKey))).map fun store =>
    (opened.2, redeemed, store)

/-- The rest of it: the wallet gets its money under the key of the row of points. -/
def creditRedemption (desk : RedemptionDesk) (call : RedemptionCall) :
    Except HttpError WalletAccount :=
  (passes call.failure .openWallet).bind fun _ =>
  (passes call.failure .creditWallet).bind fun _ =>
  ((desk.walletOf call.userId call.newWalletId).creditWallet call.walletConfig
    (call.walletCreditAmount * 100) .loyaltyConversion .promotional "LOYALTY"
    (some call.transactionId) (redemptionKey call.transactionId) none).bind fun credited =>
  (passes call.failure .commit).map fun _ => credited

def redeemTransaction (desk : RedemptionDesk) (call : RedemptionCall) :
    Except HttpError (RedemptionDesk × RedemptionReply) :=
  (admitRedemption call).bind fun _ =>
  (desk.debitPoints call).bind fun debited =>
  (desk.creditRedemption call).map fun credited =>
    let (account, redeemed, store) := debited
    let desk := { desk with store, transactionIds := call.transactionId :: desk.transactionIds }
    (desk.saveWallet call.userId credited,
      { redeemedPoints := redeemed
        walletCreditAmount := call.walletCreditAmount
        newPointsBalance := account.pointsBalance - redeemed
        lifetimePoints := account.lifetimePoints
        transactionId := call.transactionId })

def redeemPointsToWallet (desk : RedemptionDesk) (call : RedemptionCall) :
    RedemptionDesk × Except HttpError RedemptionReply :=
  match desk.redeemTransaction call with
  | .error e => (desk, .error e)
  | .ok (desk', reply) => (desk', (passes call.failure .reply).map fun _ => reply)

end RedemptionDesk

/-! ## Steps -/

inductive OtherWalletCall where
  | open
  | credit (config : Option WalletConfig) (amount : ℤ) (type : LedgerEntryType)
      (bucket : WalletBucketType) (referenceType : String) (referenceId : Option Id)
      (key : WalletEntryKey)
  | debit (config : Option WalletConfig) (amount : ℤ) (type : LedgerEntryType)
      (referenceType : String) (referenceId : Option Id) (key : WalletEntryKey)
  | cleanExpired (now : ℤ)
  | reconcile

def OtherWalletCall.apply (wallet : WalletAccount) :
    OtherWalletCall → Except HttpError WalletAccount
  | .open => .ok wallet
  | .credit config amount type bucket referenceType referenceId key =>
    wallet.creditWallet config amount type bucket referenceType referenceId key.text none
  | .debit config amount type referenceType referenceId key =>
    wallet.debitWallet config amount type referenceType referenceId key.text
  | .cleanExpired now => (wallet.cleanExpiredPromotionalCredits now).map Prod.fst
  | .reconcile => .ok wallet.reconcileWallet.1

def LoyaltyAction.isRedemption : LoyaltyAction → Bool
  | .redeem .. => true
  | _ => false

inductive RedemptionAction where
  | redeem (call : RedemptionCall)
  | points (action : LoyaltyAction) (other : action.isRedemption = false) (transactionId : Id)
  | wallet (userId newWalletId : Id) (call : OtherWalletCall)

namespace RedemptionDesk

/-- An operation that adds a row gives it a new id. -/
def pointsStep (desk : RedemptionDesk) (action : LoyaltyAction) (transactionId : Id) :
    RedemptionDesk :=
  let store := loyaltyStep desk.store action
  if store.transactions = desk.store.transactions then { desk with store }
  else if transactionId ∈ desk.transactionIds then desk
  else { desk with store, transactionIds := transactionId :: desk.transactionIds }

def walletStep (desk : RedemptionDesk) (userId newWalletId : Id) (call : OtherWalletCall) :
    RedemptionDesk :=
  match call.apply (desk.walletOf userId newWalletId) with
  | .error _ => desk
  | .ok wallet => desk.saveWallet userId wallet

end RedemptionDesk

def redemptionStep (desk : RedemptionDesk) : RedemptionAction → RedemptionDesk
  | .redeem call => (desk.redeemPointsToWallet call).1
  | .points action _ transactionId => desk.pointsStep action transactionId
  | .wallet userId newWalletId call => desk.walletStep userId newWalletId call

/-!
## Points and money go together

A redemption takes points from one ledger and writes their worth to the other.  `Redeemed` says
what it should do to both, and `wallet_redemptions_conserve` that every redemption of every run
does that or nothing, wherever it breaks off.

## Strategy

What is rolled back needs no argument.  A transaction that commits has credited the wallet unless
the key of its entry was used (`creditWallet_cases`), and a key of a redemption is only ever written
with the row whose id it has (`SoundRedemptions.fresh`), while the id of a new row is new.
-/

/-! ## The law -/

namespace RedemptionDesk

def pointsOf (desk : RedemptionDesk) (userId : Id) : ℤ :=
  ((desk.store.findAccount userId).map LoyaltyAccount.pointsBalance).getD 0

/-- The money that a user's wallet has available, in paise. -/
def balanceOf (desk : RedemptionDesk) (userId : Id) : ℤ :=
  ((desk.wallets userId).map WalletAccount.availableBalance).getD 0

def entriesOf (desk : RedemptionDesk) (userId : Id) : List WalletLedgerRow :=
  ((desk.wallets userId).map WalletAccount.ledger).getD []

end RedemptionDesk

/-- The points are taken and their worth is credited, with a row in either ledger. -/
structure Redeemed (call : RedemptionCall) (desk desk' : RedemptionDesk)
    (redeemed credited : ℤ) : Prop where
  credited_pos : 0 < credited
  /-- One rupee for `ratio` points: no more and no less. -/
  worth : (credited : ℚ) = redeemed / call.ratio
  redeemed_le : redeemed ≤ call.dto.points
  covered : redeemed ≤ desk.pointsOf call.userId
  points : desk'.pointsOf call.userId = desk.pointsOf call.userId - redeemed
  row : ∃ row, desk'.store.transactions = desk.store.transactions ++ [row] ∧
    row.type = .redemptionToWallet ∧ row.points = redeemed
  balance : desk'.balanceOf call.userId = desk.balanceOf call.userId + credited * 100
  entry : ∃ entry, desk'.entriesOf call.userId = desk.entriesOf call.userId ++ [entry] ∧
    entry.type = .loyaltyConversion ∧ entry.direction = .credit ∧ entry.amount = credited * 100
  others : ∀ other, other ≠ call.userId →
    desk'.pointsOf other = desk.pointsOf other ∧ desk'.wallets other = desk.wallets other

/-- A redemption leaves both ledgers as they are, or does to both what it should, and what it says
then is true. -/
def ConservesWorth (desk : RedemptionDesk) : RedemptionAction → Prop
  | .redeem call =>
    (desk.redeemPointsToWallet call).1 = desk ∧
        (∃ e, (desk.redeemPointsToWallet call).2 = .error e) ∨
      ∃ redeemed credited,
        Redeemed call desk (desk.redeemPointsToWallet call).1 redeemed credited ∧
          ∀ reply, (desk.redeemPointsToWallet call).2 = .ok reply →
            reply.redeemedPoints = redeemed ∧ reply.walletCreditAmount = credited
  | _ => True

/-! ## What holds in every state -/

/-- Accounts have ids of their own, the keys of all entries are known, and a redemption's key is
that of a row that exists. -/
structure SoundRedemptions (desk : RedemptionDesk) : Prop where
  sound : SoundLoyalty desk.store
  recorded : ∀ userId, ∀ wallet ∈ desk.wallets userId, ∀ row ∈ wallet.ledger,
    row.idempotencyKey ∈ desk.entryKeys
  fresh : ∀ id, redemptionKey id ∈ desk.entryKeys → id ∈ desk.transactionIds

theorem soundRedemptions_empty : SoundRedemptions .empty where
  sound := emptyLoyalty_sound
  recorded := nofun
  fresh := nofun

theorem append_ne {a b : String}
    (h : a.toList.take b.toList.length ≠ b.toList.take a.toList.length) (x y : String) :
    a ++ x ≠ b ++ y := by
  intro heq
  have hchars := congrArg String.toList heq
  rw [String.toList_append, String.toList_append] at hchars
  apply h
  -- as much of the two texts as both beginnings have
  have htake := congrArg (List.take (min a.toList.length b.toList.length)) hchars
  rw [List.take_append_of_le_length (min_le_left _ _),
    List.take_append_of_le_length (min_le_right _ _)] at htake
  rcases le_total a.toList.length b.toList.length with hle | hle
  · rw [min_eq_left hle, List.take_of_length_le (le_refl a.toList.length)] at htake
    rwa [List.take_of_length_le hle]
  · rw [min_eq_right hle, List.take_of_length_le (le_refl b.toList.length)] at htake
    rwa [List.take_of_length_le hle]

theorem WalletEntryKey.text_ne (key : WalletEntryKey) (id : Id) : key.text ≠ redemptionKey id := by
  cases key with
  | deposit paymentId => exact append_ne (by decide +kernel) _ _
  | adminAdjustment adminUserId walletId nonce => exact append_ne (by decide +kernel) _ _
  | checkoutDebit bookingId => exact append_ne (by decide +kernel) _ _
  | refund bookingId paymentId => exact append_ne (by decide +kernel) _ _
  | referralReward attributionId => exact append_ne (by decide +kernel) _ _
  | referralReversal attributionId bookingId => exact append_ne (by decide +kernel) _ _

theorem expiryKey_ne (walletId : Id) (now : ℤ) (id : Id) :
    expiryKey walletId now ≠ redemptionKey id := by
  unfold expiryKey
  rw [String.append_assoc, String.append_assoc]
  exact append_ne (by decide +kernel) _ _

/-! ### The points -/

section Points

variable {store opened posted : LoyaltyStore} {account account' : LoyaltyAccount}
  {transaction : LoyaltyTransaction} {userId newId : Id}

theorem finishPost_sound (h : SoundLoyalty store) (hopened : SoundLoyalty opened)
    (haccount : account ∈ opened.accounts) (hid : account'.id = account.id)
    (howner : transaction.accountId = account.id) (reply : LoyaltyReply) :
    SoundLoyalty (finishPost store (opened.post account' transaction) reply).1 := by
  cases hpost : opened.post account' transaction with
  | none => exact h
  | some posted => exact post_sound hopened haccount hid howner hpost

theorem handleBookingCompleted_sound (h : SoundLoyalty store) (config : LoyaltyConfig)
    (bookingId : Id) (booking : Option LoyaltyBooking) (newAccountId : Id) :
    SoundLoyalty (handleBookingCompleted store config bookingId booking newAccountId).1 := by
  -- the returns before anything is written
  unfold handleBookingCompleted
  split
  · exact h
  split
  · exact h
  split
  · exact h
  split
  · exact h
  split
  · exact h
  split
  · exact h
  unfold creditBooking
  split
  · exact h
  next opened account hopen =>
    have hopened := getOrCreate_sound h hopen
    dsimp only
    split
    · exact hopened
    split
    · exact h
    · exact finishPost_sound h hopened (getOrCreate_cases hopen).2.1 (by rfl) (by rfl) _

theorem handleBookingCancelled_sound (h : SoundLoyalty store) (bookingId : Id) :
    SoundLoyalty (handleBookingCancelled store bookingId).1 := by
  rw [handleBookingCancelled]
  cases hreversal : reversalOf store bookingId with
  | error reply => exact h
  | ok found => exact finishPost_sound h h (reversalOf_eq_ok hreversal).2.1 (by rfl) (by rfl) _

theorem adminAdjustPoints_sound (h : SoundLoyalty store) (adminUserId userId : Id) (points : ℤ)
    (idempotencyKey : String) (newAccountId : Id) :
    SoundLoyalty (adminAdjustPoints store adminUserId userId points idempotencyKey
      newAccountId).1 := by
  unfold adminAdjustPoints
  split
  · exact h
  split
  · exact h
  split
  · exact h
  next opened account hopen =>
    have hopened := getOrCreate_sound h hopen
    split
    · exact h
    · exact finishPost_sound h hopened (getOrCreate_cases hopen).2.1 (by rfl) (by rfl) _

theorem loyaltyStep_sound (h : SoundLoyalty store) (action : LoyaltyAction)
    (hother : action.isRedemption = false) : SoundLoyalty (loyaltyStep store action) := by
  cases action with
  | bookingCompleted config bookingId booking newAccountId =>
    exact handleBookingCompleted_sound h config bookingId booking newAccountId
  | bookingCancelled bookingId => exact handleBookingCancelled_sound h bookingId
  | redeem => cases hother
  | adminAdjust adminUserId userId points idempotencyKey newAccountId =>
    exact adminAdjustPoints_sound h adminUserId userId points idempotencyKey newAccountId

theorem getOrCreate_findAccount (h : store.getOrCreate userId newId = some (opened, account)) :
    account.userId = userId ∧ opened.findAccount userId = some account ∧
      ((store.findAccount userId).map LoyaltyAccount.pointsBalance).getD 0 =
        account.pointsBalance ∧
      ∀ other, other ≠ userId → opened.findAccount other = store.findAccount other := by
  unfold LoyaltyStore.getOrCreate at h
  split at h
  next found hfind =>
    cases h
    refine ⟨of_decide_eq_true (List.find?_some hfind :), hfind, ?_, fun _ _ => rfl⟩
    rw [hfind]
    rfl
  next hnone =>
    split at h
    · cases h
    · cases h
      rw [LoyaltyStore.findAccount] at hnone
      refine ⟨rfl, ?_, ?_, fun other hother => ?_⟩
      · rw [LoyaltyStore.findAccount, List.find?_append, hnone]
        simp
      · rw [LoyaltyStore.findAccount, hnone]
        rfl
      · rw [LoyaltyStore.findAccount, List.find?_append, LoyaltyStore.findAccount]
        simp [Ne.symm hother]

theorem findAccount_post (h : SoundLoyalty store) (haccount : account ∈ store.accounts)
    (hid : account'.id = account.id) (huser : account'.userId = account.userId)
    (hpost : store.post account' transaction = some posted) (userId : Id) :
    posted.findAccount userId = (store.findAccount userId).map fun other =>
      if other.id = account.id then account' else other := by
  obtain ⟨rfl, -, -, -⟩ := post_eq_some hpost
  rw [LoyaltyStore.findAccount, updateKey, hid, LoyaltyStore.findAccount]
  refine find?_map_of_mem fun other hother => ?_
  split
  next hsame =>
    have hother' : other = account := eq_of_key_eq h.ids hother haccount hsame
    rw [hother', huser]
  · rfl

theorem findAccount_post_of_ne (h : SoundLoyalty store) (haccount : account ∈ store.accounts)
    (hid : account'.id = account.id) (huser : account'.userId = account.userId)
    (hpost : store.post account' transaction = some posted) {other : Id}
    (hother : other ≠ account.userId) :
    posted.findAccount other = store.findAccount other := by
  rw [findAccount_post h haccount hid huser hpost]
  cases hfind : store.findAccount other with
  | none => rfl
  | some found =>
    -- an account of another user is another account
    have hne : found.id ≠ account.id := by
      intro hsame
      have hfound : found.userId = other := of_decide_eq_true (List.find?_some hfind :)
      have heq : found = account :=
        eq_of_key_eq h.ids (List.mem_of_find?_eq_some hfind) haccount hsame
      rw [heq] at hfound
      exact hother hfound.symm
    rw [Option.map_some, if_neg hne]

end Points

/-! ### The wallets -/

theorem mem_ledger_concat {ledger : List WalletLedgerRow} {row new : WalletLedgerRow}
    (hrow : row ∈ ledger ++ [new]) (hnew : ∀ id, new.idempotencyKey ≠ redemptionKey id) :
    row ∈ ledger ∨ ∀ id, row.idempotencyKey ≠ redemptionKey id := by
  rcases List.mem_append.mp hrow with hold | hlast
  · exact .inl hold
  · rw [List.mem_singleton.mp hlast]
    exact .inr hnew

theorem OtherWalletCall.apply_ledger {call : OtherWalletCall} {wallet wallet' : WalletAccount}
    (h : call.apply wallet = .ok wallet') {row : WalletLedgerRow} (hrow : row ∈ wallet'.ledger) :
    row ∈ wallet.ledger ∨ ∀ id, row.idempotencyKey ≠ redemptionKey id := by
  cases call with
  | «open» =>
    cases h
    exact .inl hrow
  | credit config amount type bucket referenceType referenceId key =>
    obtain ⟨-, ⟨-, rfl⟩ | ⟨-, -, -, -, -, rfl⟩⟩ := creditWallet_cases h
    · exact .inl hrow
    · exact mem_ledger_concat hrow key.text_ne
  | debit config amount type referenceType referenceId key =>
    obtain ⟨-, ⟨-, rfl⟩ | ⟨-, -, -, -, rfl⟩⟩ := debitWallet_cases h
    · exact .inl hrow
    · exact mem_ledger_concat hrow key.text_ne
  | cleanExpired now =>
    rw [OtherWalletCall.apply] at h
    cases hcleaned : wallet.cleanExpiredPromotionalCredits now with
    | error e =>
      rw [hcleaned] at h
      cases h
    | ok cleaned =>
      obtain ⟨wallet'', taken⟩ := cleaned
      rw [hcleaned] at h
      cases h
      obtain ⟨rfl, -⟩ | ⟨-, -, -, rfl⟩ := cleanExpiredPromotionalCredits_cases hcleaned
      · exact .inl hrow
      · exact mem_ledger_concat hrow (expiryKey_ne _ _)
  | reconcile =>
    cases h
    unfold reconcileWallet at hrow
    dsimp only at hrow
    split at hrow
    · exact .inl hrow
    · exact .inl hrow

section Wallets

variable {desk : RedemptionDesk} {userId newWalletId : Id}

theorem RedemptionDesk.walletOf_balance :
    (desk.walletOf userId newWalletId).availableBalance = desk.balanceOf userId := by
  unfold RedemptionDesk.walletOf RedemptionDesk.balanceOf
  cases desk.wallets userId with
  | none => rfl
  | some wallet => rfl

theorem RedemptionDesk.walletOf_ledger :
    (desk.walletOf userId newWalletId).ledger = desk.entriesOf userId := by
  unfold RedemptionDesk.walletOf RedemptionDesk.entriesOf
  cases desk.wallets userId with
  | none => rfl
  | some wallet => rfl

theorem RedemptionDesk.walletOf_otherKeys :
    (desk.walletOf userId newWalletId).otherKeys = desk.entryKeys := by
  unfold RedemptionDesk.walletOf
  cases desk.wallets userId with
  | none => rfl
  | some wallet => rfl

theorem RedemptionDesk.wallets_saveWallet (wallet : WalletAccount) :
    (desk.saveWallet userId wallet).wallets userId = some wallet :=
  Function.update_self _ _ _

theorem RedemptionDesk.wallets_saveWallet_of_ne {other : Id} (hother : other ≠ userId)
    (wallet : WalletAccount) : (desk.saveWallet userId wallet).wallets other = desk.wallets other :=
  Function.update_of_ne hother _ _

theorem SoundRedemptions.walletOf_recorded (h : SoundRedemptions desk) {row : WalletLedgerRow}
    (hrow : row ∈ (desk.walletOf userId newWalletId).ledger) :
    row.idempotencyKey ∈ desk.entryKeys := by
  unfold RedemptionDesk.walletOf at hrow
  cases hwallet : desk.wallets userId with
  | none =>
    rw [hwallet] at hrow
    cases hrow
  | some wallet =>
    rw [hwallet] at hrow
    exact h.recorded userId wallet hwallet row hrow

theorem SoundRedemptions.mem_of_keyUsed (h : SoundRedemptions desk) {id : Id}
    (hused : (desk.walletOf userId newWalletId).KeyUsed (redemptionKey id)) :
    id ∈ desk.transactionIds := by
  rcases hused with ⟨row, hrow, hkey⟩ | hother
  · exact h.fresh id (hkey ▸ h.walletOf_recorded hrow)
  · rw [RedemptionDesk.walletOf_otherKeys] at hother
    exact h.fresh id hother

theorem SoundRedemptions.saveWallet (h : SoundRedemptions desk) {wallet : WalletAccount}
    (hkeys : ∀ row ∈ wallet.ledger, ∀ id, row.idempotencyKey = redemptionKey id →
      id ∈ desk.transactionIds) : SoundRedemptions (desk.saveWallet userId wallet) where
  sound := h.sound
  recorded := by
    intro other found hfound row hrow
    by_cases hsame : other = userId
    · subst hsame
      rw [RedemptionDesk.wallets_saveWallet] at hfound
      cases hfound
      exact List.mem_append_left _ (List.mem_map_of_mem hrow)
    · rw [RedemptionDesk.wallets_saveWallet_of_ne hsame] at hfound
      exact List.mem_append_right _ (h.recorded other found hfound row hrow)
  fresh := by
    intro id hid
    rcases List.mem_append.mp hid with hnew | hold
    · obtain ⟨row, hrow, hkey⟩ := List.mem_map.mp hnew
      exact hkeys row hrow id hkey
    · exact h.fresh id hold

end Wallets

/-! ## A redemption that commits -/

section Redemption

variable {desk desk' : RedemptionDesk} {call : RedemptionCall} {account : LoyaltyAccount}
  {redeemed : ℤ} {store : LoyaltyStore} {credited : WalletAccount} {reply : RedemptionReply}

theorem passes_bind {α : Type} {failure : Option RedemptionPoint} {point : RedemptionPoint}
    {next : Unit → Except HttpError α} {a : α} (h : (passes failure point).bind next = .ok a) :
    next () = .ok a :=
  (require_bind.mp h).2

theorem accepted_bind {α β : Type} {value : Option α} {next : α → Except HttpError β} {b : β} :
    (accepted value).bind next = .ok b ↔ ∃ a, value = some a ∧ next a = .ok b := by
  cases value with
  | none => simp [accepted, Except.bind]
  | some a => simp [accepted, Except.bind]

theorem map_eq_ok {α β : Type} {x : Except HttpError α} {f : α → β} {b : β} :
    x.map f = .ok b ↔ ∃ a, x = .ok a ∧ f a = b := by
  cases x with
  | error e => simp [Except.map]
  | ok a => simp [Except.map]

theorem accepted_eq_ok {α : Type} {value : Option α} {a : α} :
    accepted value = .ok a ↔ value = some a := by
  cases value with
  | none => simp [accepted]
  | some b => simp [accepted]

theorem debitPoints_eq_ok (h : desk.debitPoints call = .ok (account, redeemed, store)) :
    ∃ opened, desk.store.getOrCreate call.userId call.newAccountId = some (opened, account) ∧
      call.dto.points ≤ account.pointsBalance ∧ 0 < call.walletCreditAmount ∧
      toInt? (call.walletCreditAmount * call.ratio) = some redeemed ∧
      call.transactionId ∉ desk.transactionIds ∧
      opened.post (debitedAccount account redeemed)
        (redemptionRow account redeemed call.idempotencyKey) = some store := by
  have hopen := (require_bind.mp (passes_bind h)).2
  obtain ⟨⟨opened, found⟩, hopened, hlocked⟩ := accepted_bind.mp (passes_bind hopen)
  obtain ⟨hcovered, hworth⟩ := require_bind.mp (passes_bind hlocked)
  obtain ⟨hpositive, hdebit⟩ := require_bind.mp hworth
  obtain ⟨points, hpoints, hrecord⟩ := accepted_bind.mp (passes_bind hdebit)
  obtain ⟨hnew, hposted⟩ := require_bind.mp (passes_bind hrecord)
  obtain ⟨posted, hpost, hresult⟩ := map_eq_ok.mp hposted
  cases hresult
  exact ⟨opened, hopened, hcovered, hpositive, hpoints, hnew, accepted_eq_ok.mp hpost⟩

theorem creditRedemption_eq_ok (h : SoundRedemptions desk)
    (hnew : call.transactionId ∉ desk.transactionIds)
    (hcredit : desk.creditRedemption call = .ok credited) :
    credited.availableBalance = desk.balanceOf call.userId + call.walletCreditAmount * 100 ∧
      ∃ entry, credited.ledger = desk.entriesOf call.userId ++ [entry] ∧
        entry.type = .loyaltyConversion ∧ entry.direction = .credit ∧
        entry.amount = call.walletCreditAmount * 100 ∧
        entry.idempotencyKey = redemptionKey call.transactionId := by
  obtain ⟨wallet, hwallet, hcommit⟩ := bind_eq_ok.mp (passes_bind (passes_bind hcredit))
  obtain ⟨-, -, rfl⟩ := map_eq_ok.mp hcommit
  obtain ⟨-, ⟨hused, -⟩ | ⟨-, -, -, -, -, rfl⟩⟩ := creditWallet_cases hwallet
  · exact absurd (h.mem_of_keyUsed hused) hnew
  · have hbalance : (desk.walletOf call.userId call.newWalletId).availableBalance =
        desk.balanceOf call.userId := RedemptionDesk.walletOf_balance
    have hledger : (desk.walletOf call.userId call.newWalletId).ledger =
        desk.entriesOf call.userId := RedemptionDesk.walletOf_ledger
    rw [← hbalance, ← hledger]
    exact ⟨rfl, _, rfl, rfl, rfl, rfl, rfl⟩

theorem redeemTransaction_eq_ok (h : SoundRedemptions desk)
    (hok : desk.redeemTransaction call = .ok (desk', reply)) :
    SoundRedemptions desk' ∧
      Redeemed call desk desk' reply.redeemedPoints reply.walletCreditAmount := by
  obtain ⟨-, -, hbody⟩ := bind_eq_ok.mp hok
  obtain ⟨⟨account, redeemed, store⟩, hdebited, hrest⟩ := bind_eq_ok.mp hbody
  obtain ⟨credited, hcredited, hresult⟩ := map_eq_ok.mp hrest
  obtain ⟨opened, hopen, hcovered, hpositive, hpoints, hnew, hpost⟩ := debitPoints_eq_ok hdebited
  obtain ⟨hbalance, entry, hledger, hentry⟩ := creditRedemption_eq_ok h hnew hcredited
  cases hresult
  have hopened := getOrCreate_sound h.sound hopen
  obtain ⟨htransactions, haccount, -⟩ := getOrCreate_cases hopen
  obtain ⟨huser, hfound, hbefore, hothers⟩ := getOrCreate_findAccount hopen
  have hstore := findAccount_post hopened haccount (by rfl) (by rfl) hpost
  -- the tables of points with the new row
  have hdebitedDesk : SoundRedemptions { desk with
      store := store
      transactionIds := call.transactionId :: desk.transactionIds } :=
    { sound := post_sound hopened haccount (by rfl) (by rfl) hpost
      recorded := h.recorded
      fresh := fun id hid => List.mem_cons_of_mem _ (h.fresh id hid) }
  have hasked : 0 ≤ call.dto.points := (by decide : (0 : ℤ) ≤ 2).trans call.dto.atLeast
  have hratio : 0 < call.ratio := ratio_pos hasked hpositive
  obtain ⟨-, hle⟩ := redeemed_le hasked hpositive hpoints
  constructor
  · refine hdebitedDesk.saveWallet fun row hrow id hkey => ?_
    rw [hledger] at hrow
    rcases List.mem_append.mp hrow with hold | hlast
    · have hwallet : (desk.walletOf call.userId call.newWalletId).ledger =
          desk.entriesOf call.userId := RedemptionDesk.walletOf_ledger
      rw [← hwallet] at hold
      exact hdebitedDesk.fresh id (hkey ▸ h.walletOf_recorded hold)
    · rw [List.mem_singleton.mp hlast, hentry.2.2.2] at hkey
      exact List.mem_cons.mpr (.inl (String.append_right_inj _ |>.mp hkey).symm)
  · constructor
    case credited_pos => exact hpositive
    case worth =>
      rw [toInt?_eq_some hpoints]
      exact (mul_div_cancel_right₀ _ hratio.ne').symm
    case redeemed_le => exact hle
    case covered =>
      rw [RedemptionDesk.pointsOf, hbefore]
      exact hle.trans hcovered
    case points =>
      rw [RedemptionDesk.pointsOf, RedemptionDesk.pointsOf, hbefore]
      show ((store.findAccount call.userId).map LoyaltyAccount.pointsBalance).getD 0 = _
      rw [hstore, hfound]
      simp [debitedAccount]
    case row =>
      refine ⟨redemptionRow account redeemed call.idempotencyKey, ?_, rfl, rfl⟩
      rw [← htransactions]
      exact congrArg LoyaltyStore.transactions (post_eq_some hpost).1
    case balance =>
      rw [RedemptionDesk.balanceOf, RedemptionDesk.wallets_saveWallet]
      exact hbalance
    case entry =>
      rw [RedemptionDesk.entriesOf, RedemptionDesk.wallets_saveWallet]
      exact ⟨entry, hledger, hentry.1, hentry.2.1, hentry.2.2.1⟩
    case others =>
      intro other hother
      refine ⟨?_, RedemptionDesk.wallets_saveWallet_of_ne hother _⟩
      rw [RedemptionDesk.pointsOf, RedemptionDesk.pointsOf, ← hothers other hother]
      show ((store.findAccount other).map LoyaltyAccount.pointsBalance).getD 0 = _
      rw [findAccount_post_of_ne hopened haccount (by rfl) (by rfl) hpost (huser ▸ hother)]

theorem redeemPointsToWallet_conserves (h : SoundRedemptions desk) (call : RedemptionCall) :
    SoundRedemptions (desk.redeemPointsToWallet call).1 ∧ ConservesWorth desk (.redeem call) := by
  rw [ConservesWorth, RedemptionDesk.redeemPointsToWallet]
  cases hok : desk.redeemTransaction call with
  | error e => exact ⟨h, .inl ⟨rfl, e, rfl⟩⟩
  | ok result =>
    obtain ⟨desk', reply⟩ := result
    obtain ⟨hsound, hredeemed⟩ := redeemTransaction_eq_ok h hok
    refine ⟨hsound, .inr ⟨_, _, hredeemed, fun said hsaid => ?_⟩⟩
    obtain ⟨-, -, rfl⟩ := map_eq_ok.mp hsaid
    exact ⟨rfl, rfl⟩

end Redemption

/-! ## Runs -/

theorem pointsStep_sound {desk : RedemptionDesk} (h : SoundRedemptions desk)
    {action : LoyaltyAction} (hother : action.isRedemption = false) (transactionId : Id) :
    SoundRedemptions (desk.pointsStep action transactionId) := by
  have hsound := loyaltyStep_sound h.sound action hother
  unfold RedemptionDesk.pointsStep
  dsimp only
  split
  · exact ⟨hsound, h.recorded, h.fresh⟩
  split
  · exact h
  · exact ⟨hsound, h.recorded, fun id hid => List.mem_cons_of_mem _ (h.fresh id hid)⟩

theorem walletStep_sound {desk : RedemptionDesk} (h : SoundRedemptions desk)
    (userId newWalletId : Id) (call : OtherWalletCall) :
    SoundRedemptions (desk.walletStep userId newWalletId call) := by
  unfold RedemptionDesk.walletStep
  split
  · exact h
  next wallet hwallet =>
    refine h.saveWallet fun row hrow id hkey => ?_
    rcases OtherWalletCall.apply_ledger hwallet hrow with hold | hother
    · exact h.fresh id (hkey ▸ h.walletOf_recorded hold)
    · exact absurd hkey (hother id)

theorem redemptionStep_sound {desk : RedemptionDesk} (h : SoundRedemptions desk)
    (action : RedemptionAction) : SoundRedemptions (redemptionStep desk action) := by
  cases action with
  | redeem call => exact (redeemPointsToWallet_conserves h call).1
  | points action other transactionId => exact pointsStep_sound h other transactionId
  | wallet userId newWalletId call => exact walletStep_sound h userId newWalletId call

/-- **Redemptions to the wallet.**  In every run, every redemption that is asked for, wherever it
breaks off, takes points and credits exactly their worth, or leaves both ledgers as they are. -/
theorem wallet_redemptions_conserve (actions : List RedemptionAction) :
    Along redemptionStep ConservesWorth .empty actions := by
  refine Along.mono_of_invariant (I := SoundRedemptions) (P := fun _ _ => True)
    (fun desk action h _ => redemptionStep_sound h action) (fun desk action h _ => ?_)
    soundRedemptions_empty (along_true _ _)
  cases action with
  | redeem call => exact (redeemPointsToWallet_conserves h call).2
  | points action other transactionId => trivial
  | wallet userId newWalletId call => trivial

/-- Seven points at the default ratio are three rupees, and a point is left. -/
example :
    let call : RedemptionCall :=
      ⟨⟨true, 10, 2, 2, none⟩, none, "user", ⟨7, by decide, none⟩, "key", "account", "row", "wallet",
        none⟩
    let desk := run redemptionStep .empty
      [.points (.adminAdjust "admin" "user" 7 "bonus" "account") rfl "bonusRow", .redeem call]
    desk.pointsOf "user" = 1 ∧ desk.balanceOf "user" = 300 := by
  decide +kernel

end CarRental
