import CarRental.Lib.Totals
import CarRental.Lib.Runs
import CarRental.Payments.State

/-!
# A wallet and its ledger

`WalletsService` over one wallet row and all columns of its ledger entries:
`creditWallet`, `debitWallet`, `adminAdjustWallet`, the expiry of promotional money
(`cleanExpiredPromotionalCredits`) and `reconcileWallet`.

Payments look at less of an entry: `Account.toWallet` forgets the buckets and the
running balances, and an accepted credit or debit is the one of `Wallet`
(`creditWallet_toWallet`, `debitWallet_toWallet`).

Times are milliseconds since the epoch.
-/

namespace CarRental

open Totals Runs

structure WalletLedgerRow extends WalletLedgerEntry where
  bucket : WalletBucketType
  balanceBefore : ℤ
  balanceAfter : ℤ
  expiresAt : Option ℤ
deriving DecidableEq

/-- The row of a wallet, its ledger entries, oldest first, and the keys of the entries of
other wallets: a key is unique over the whole table. -/
structure WalletAccount where
  id : Id
  status : WalletStatus
  availableBalance : ℤ
  realBalance : ℤ
  promoBalance : ℤ
  ledger : List WalletLedgerRow
  otherKeys : List String
deriving DecidableEq

/-- The `WalletConfig` fields that a booking of the wallet reads. -/
structure WalletConfig where
  isEnabled : Bool
  maxWalletBalanceCap : ℤ
deriving DecidableEq

/-- How high a credit may take the balance; without a config, or with a cap of zero in it,
the built-in cap applies. -/
def creditCap (config : Option WalletConfig) (type : LedgerEntryType) : ℤ :=
  match config with
  | none => maxWalletBalanceCap
  | some config =>
    if type = .adminAdjustment ∨ config.maxWalletBalanceCap = 0 then maxWalletBalanceCap
    else config.maxWalletBalanceCap

/-- `config && config.isEnabled === false` -/
def walletDisabled (config : Option WalletConfig) : Bool :=
  config.any fun config => !config.isEnabled

/-! ## Days -/

/-- `text` with zeros in front, up to `width` characters. -/
def padZeros (width : ℕ) (text : String) : String :=
  String.ofList (List.replicate (width - text.length) '0') ++ text

/-- `new Date(time).toISOString().slice(0, 10)`: the day, counted from a March 1st so that
a leap day is the last of its year. -/
def isoDate (time : ℤ) : String :=
  let days := time / 86400000 + 719468
  let dayOfEra := days % 146097
  let yearOfEra := (dayOfEra - dayOfEra / 1460 + dayOfEra / 36524 - dayOfEra / 146096) / 365
  let dayOfYear := dayOfEra - (365 * yearOfEra + yearOfEra / 4 - yearOfEra / 100)
  let monthFromMarch := (5 * dayOfYear + 2) / 153
  let day := dayOfYear - (153 * monthFromMarch + 2) / 5 + 1
  let month := if monthFromMarch < 10 then monthFromMarch + 3 else monthFromMarch - 9
  let year := yearOfEra + days / 146097 * 400 + if month ≤ 2 then 1 else 0
  padZeros 4 (toString year) ++ "-" ++ padZeros 2 (toString month) ++ "-" ++
    padZeros 2 (toString day)

example : isoDate 1709164800000 = "2024-02-29" := by decide +kernel

namespace WalletAccount

/-! ## Rows -/

/-- `getOrCreateWallet` for a user without one. -/
def create (id : Id) (otherKeys : List String) : WalletAccount :=
  ⟨id, .active, 0, 0, 0, [], otherKeys⟩

/-- What payments see of the wallet. -/
def toWallet (wallet : WalletAccount) : Wallet where
  status := wallet.status
  availableBalance := wallet.availableBalance
  realBalance := wallet.realBalance
  promoBalance := wallet.promoBalance
  entries := wallet.ledger.map WalletLedgerRow.toWalletLedgerEntry

/-- Some entry has the key, of this wallet or of another one. -/
def KeyUsed (wallet : WalletAccount) (idempotencyKey : String) : Prop :=
  (∃ row ∈ wallet.ledger, row.idempotencyKey = idempotencyKey) ∨
    idempotencyKey ∈ wallet.otherKeys

instance (wallet : WalletAccount) (idempotencyKey : String) :
    Decidable (wallet.KeyUsed idempotencyKey) :=
  inferInstanceAs (Decidable (_ ∨ _))

/-- An amount that a `DECIMAL(10, 2)` column takes. -/
def Fits (paise : ℤ) : Prop := |paise| < 10 ^ 10

instance (paise : ℤ) : Decidable (Fits paise) := inferInstanceAs (Decidable (_ < _))

def createEntry (wallet : WalletAccount) (row : WalletLedgerRow) :
    Except HttpError WalletAccount :=
  if wallet.KeyUsed row.idempotencyKey then
    .error (.internal "Unique constraint failed on idempotencyKey")
  else if Fits row.amount ∧ Fits row.balanceBefore ∧ Fits row.balanceAfter then
    .ok { wallet with ledger := wallet.ledger ++ [row] }
  else .error (.internal "numeric field overflow")

def updateBalances (wallet : WalletAccount) (available real promo : ℤ) :
    Except HttpError WalletAccount :=
  if Fits available ∧ Fits real ∧ Fits promo then
    .ok { wallet with
      availableBalance := available
      realBalance := real
      promoBalance := promo }
  else .error (.internal "numeric field overflow")

/-! ## Credits and debits -/

def creditRow (wallet : WalletAccount) (amount : ℤ) (type : LedgerEntryType)
    (bucket : WalletBucketType) (referenceType : String) (referenceId : Option Id)
    (idempotencyKey : String) (expiresAt : Option ℤ) : WalletLedgerRow where
  type := type
  direction := .credit
  amount := amount
  referenceType := referenceType
  referenceId := referenceId
  idempotencyKey := idempotencyKey
  bucket := bucket
  balanceBefore := wallet.availableBalance
  balanceAfter := wallet.availableBalance + amount
  expiresAt := expiresAt

def debitRow (wallet : WalletAccount) (amount : ℤ) (type : LedgerEntryType)
    (referenceType : String) (referenceId : Option Id) (idempotencyKey : String) :
    WalletLedgerRow where
  type := type
  direction := .debit
  amount := amount
  referenceType := referenceType
  referenceId := referenceId
  idempotencyKey := idempotencyKey
  bucket := if 0 < wallet.promoBalance then .promotional else .realMoney
  balanceBefore := wallet.availableBalance
  balanceAfter := wallet.availableBalance - amount
  expiresAt := none

/-- How much of a debit comes out of promotional money, which goes first. -/
def fromPromo (wallet : WalletAccount) (amount : ℤ) : ℤ :=
  if 0 < wallet.promoBalance then min wallet.promoBalance amount else 0

/-- The wallet after a credit, or why the credit is refused.  A key that is used already
is answered with the entry that has it. -/
def creditWallet (config : Option WalletConfig) (wallet : WalletAccount) (amount : ℤ)
    (type : LedgerEntryType) (bucket : WalletBucketType) (referenceType : String)
    (referenceId : Option Id) (idempotencyKey : String) (expiresAt : Option ℤ) :
    Except HttpError WalletAccount :=
  if amount ≤ 0 then
    .error (.badRequest "Credit amount must be strictly greater than zero.")
  else if wallet.KeyUsed idempotencyKey then .ok wallet
  else if wallet.status ≠ .active then .error (.badRequest "Wallet is not active")
  else if type ≠ .adminAdjustment ∧ walletDisabled config then
    .error (.badRequest "Wallet operations are currently disabled by platform administrator.")
  else if wallet.availableBalance + amount > creditCap config type then
    .error (.badRequest "Wallet balance cap exceeded.")
  else
    let toReal := bucket = .realMoney ∨ bucket = .refundCredit
    let newReal := if toReal then wallet.realBalance + amount else wallet.realBalance
    let newPromo := if toReal then wallet.promoBalance else wallet.promoBalance + amount
    (wallet.createEntry (creditRow wallet amount type bucket referenceType referenceId
      idempotencyKey expiresAt)).bind
      fun created => created.updateBalances (wallet.availableBalance + amount) newReal newPromo

def debitWallet (config : Option WalletConfig) (wallet : WalletAccount) (amount : ℤ)
    (type : LedgerEntryType) (referenceType : String) (referenceId : Option Id)
    (idempotencyKey : String) : Except HttpError WalletAccount :=
  if amount ≤ 0 then
    .error (.badRequest "Debit amount must be strictly greater than zero.")
  else if wallet.KeyUsed idempotencyKey then .ok wallet
  else if wallet.status ≠ .active then .error (.badRequest "Wallet is not active")
  else if type ≠ .adminAdjustment ∧ walletDisabled config then
    .error (.badRequest "Wallet operations are currently disabled by platform administrator.")
  else if wallet.availableBalance < amount then
    .error (.badRequest "Insufficient wallet balance.")
  else
    (wallet.createEntry (debitRow wallet amount type referenceType referenceId
      idempotencyKey)).bind
      fun created => created.updateBalances (wallet.availableBalance - amount)
        (wallet.realBalance - (amount - wallet.fromPromo amount))
        (wallet.promoBalance - wallet.fromPromo amount)

/-- The key that an adjustment gets: an empty nonce counts as none. -/
def adminAdjustKey (adminUserId walletId : Id) (clientNonce : Option String) (now : ℤ) : String :=
  let nonce := (clientNonce.filter (· ≠ "")).getD (toString now)
  "wallet_admin_adj_" ++ adminUserId ++ "_" ++ walletId ++ "_" ++ nonce

def adminAdjustWallet (config : Option WalletConfig) (wallet : WalletAccount) (adminUserId : Id)
    (amount : ℤ) (direction : LedgerDirection) (bucket : WalletBucketType)
    (clientNonce : Option String) (now : ℤ) : Except HttpError WalletAccount :=
  let idempotencyKey := adminAdjustKey adminUserId wallet.id clientNonce now
  match direction with
  | .credit => creditWallet config wallet amount .adminAdjustment bucket "ADMIN" (some adminUserId)
      idempotencyKey none
  | .debit => debitWallet config wallet amount .adminAdjustment "ADMIN" (some adminUserId)
      idempotencyKey

/-! ## Expiry of promotional money -/

/-- A promotional credit that had run out by `now`. -/
def isExpired (now : ℤ) (row : WalletLedgerRow) : Bool :=
  row.bucket = .promotional && row.direction = .credit &&
    row.expiresAt.any fun expiresAt => expiresAt < now

def isExpiration (row : WalletLedgerRow) : Bool := row.type = .expiration

def expiredEntries (wallet : WalletAccount) (now : ℤ) : List WalletLedgerRow :=
  wallet.ledger.filter (isExpired now)

/-- The sum of what ran out. -/
def expiredTotal (expired : List WalletLedgerRow) : ℤ :=
  (expired.map fun row => row.amount).sum

/-- The sum of what was taken for it already. -/
def alreadyExpired (wallet : WalletAccount) : ℤ :=
  total isExpiration (fun row => row.amount) wallet.ledger

def expiryKey (walletId : Id) (now : ℤ) : String :=
  "promo_expiry_" ++ walletId ++ "_" ++ isoDate now

def expiryRow (walletId : Id) (now amount available : ℤ) : WalletLedgerRow where
  type := .expiration
  direction := .debit
  bucket := .promotional
  amount := amount
  balanceBefore := available
  balanceAfter := available - amount
  referenceType := "SYSTEM"
  referenceId := some "PROMO_EXPIRATION"
  idempotencyKey := expiryKey walletId now
  expiresAt := none

/-- The wallet after the expiry and what expired. -/
def cleanExpiredPromotionalCredits (wallet : WalletAccount) (now : ℤ) :
    Except HttpError (WalletAccount × ℤ) :=
  let expired := wallet.expiredEntries now
  if expired = [] then .ok (wallet, 0)
  else if wallet.promoBalance ≤ 0 then .ok (wallet, 0)
  else
    let amount := min (expiredTotal expired - wallet.alreadyExpired) wallet.promoBalance
    if 0 < amount then
      (wallet.createEntry (expiryRow wallet.id now amount wallet.availableBalance)).bind
        fun created => (created.updateBalances (wallet.availableBalance - amount) wallet.realBalance
          (wallet.promoBalance - amount)).map fun updated => (updated, amount)
    else .ok (wallet, 0)

/-! ## Reconciliation -/

/-- The sum of the entries of a direction. -/
def directionTotal (direction : LedgerDirection) (wallet : WalletAccount) : ℤ :=
  total (fun row => row.direction = direction) (fun row => row.amount) wallet.ledger

/-- Compares the cached balances with the ledger and freezes the wallet when they differ;
returns whether they matched. -/
def reconcileWallet (wallet : WalletAccount) : WalletAccount × Bool :=
  let calculatedBalance := directionTotal .credit wallet - directionTotal .debit wallet
  let isMatched := decide (wallet.availableBalance = calculatedBalance)
  let isBucketSumMatched :=
    decide (wallet.realBalance + wallet.promoBalance = wallet.availableBalance)
  if isMatched && isBucketSumMatched then (wallet, true)
  else ({ wallet with status := .frozen }, false)

/-! ## What an accepted call does -/

/-- The wallet with one more entry and the balances after it. -/
def post (wallet : WalletAccount) (row : WalletLedgerRow) (real promo : ℤ) : WalletAccount :=
  { wallet with
    availableBalance := row.balanceAfter
    realBalance := real
    promoBalance := promo
    ledger := wallet.ledger ++ [row] }

variable {config : Option WalletConfig} {wallet wallet' : WalletAccount} {amount now : ℤ}
  {type : LedgerEntryType} {bucket : WalletBucketType} {referenceType : String}
  {referenceId : Option Id} {idempotencyKey : String} {expiresAt : Option ℤ}

theorem createEntry_eq_ok {row : WalletLedgerRow} :
    wallet.createEntry row = .ok wallet' ↔
      ¬ wallet.KeyUsed row.idempotencyKey ∧
        (Fits row.amount ∧ Fits row.balanceBefore ∧ Fits row.balanceAfter) ∧
        wallet' = { wallet with ledger := wallet.ledger ++ [row] } := by
  unfold createEntry
  split
  next hused => simp [hused]
  next hfresh =>
    split
    next hfits => simp [hfresh, hfits, eq_comm]
    next hfits => simp [hfits]

theorem updateBalances_eq_ok {available real promo : ℤ} :
    wallet.updateBalances available real promo = .ok wallet' ↔
      (Fits available ∧ Fits real ∧ Fits promo) ∧
        wallet' = { wallet with
          availableBalance := available
          realBalance := real
          promoBalance := promo } := by
  unfold updateBalances
  split
  next hfits => simp [hfits, eq_comm]
  next hfits => simp [hfits]

theorem post_eq_ok {row : WalletLedgerRow} {real promo : ℤ}
    (h : (wallet.createEntry row).bind (fun created =>
      created.updateBalances row.balanceAfter real promo) = .ok wallet') :
    Fits row.balanceAfter ∧ wallet' = wallet.post row real promo := by
  obtain ⟨created, hcreated, hupdated⟩ := bind_eq_ok.mp h
  obtain ⟨-, hfits, rfl⟩ := createEntry_eq_ok.mp hcreated
  exact ⟨hfits.2.2, (updateBalances_eq_ok.mp hupdated).2⟩

theorem post_of_fits {row : WalletLedgerRow} {real promo : ℤ}
    (hfresh : ¬ wallet.KeyUsed row.idempotencyKey)
    (hrow : Fits row.amount ∧ Fits row.balanceBefore ∧ Fits row.balanceAfter) (hreal : Fits real)
    (hpromo : Fits promo) :
    (wallet.createEntry row).bind (fun created =>
      created.updateBalances row.balanceAfter real promo) = .ok (wallet.post row real promo) := by
  rw [createEntry_eq_ok.mpr ⟨hfresh, hrow, rfl⟩, Except.bind]
  exact updateBalances_eq_ok.mpr ⟨⟨hrow.2.2, hreal, hpromo⟩, rfl⟩

theorem creditWallet_cases
    (h : creditWallet config wallet amount type bucket referenceType referenceId idempotencyKey
      expiresAt = .ok wallet') :
    0 < amount ∧
      (wallet.KeyUsed idempotencyKey ∧ wallet' = wallet ∨
        ¬ wallet.KeyUsed idempotencyKey ∧ wallet.status = .active ∧
          (type = .adminAdjustment ∨ walletDisabled config = false) ∧
          wallet.availableBalance + amount ≤ creditCap config type ∧
          Fits (wallet.availableBalance + amount) ∧
          wallet' = wallet.post
            (creditRow wallet amount type bucket referenceType referenceId idempotencyKey expiresAt)
            (if bucket = .realMoney ∨ bucket = .refundCredit then wallet.realBalance + amount
              else wallet.realBalance)
            (if bucket = .realMoney ∨ bucket = .refundCredit then wallet.promoBalance
              else wallet.promoBalance + amount)) := by
  unfold creditWallet at h
  split at h
  · cases h
  next hamount =>
    refine ⟨by omega, ?_⟩
    split at h
    next hused =>
      cases h
      exact .inl ⟨hused, rfl⟩
    next hfresh =>
      split at h
      · cases h
      next hactive =>
        split at h
        · cases h
        next henabled =>
          split at h
          · cases h
          next hcap =>
            obtain ⟨hfits, hposted⟩ := post_eq_ok h
            refine .inr ⟨hfresh, not_not.mp hactive, ?_, not_lt.mp hcap, hfits, hposted⟩
            simpa only [not_and_or, not_not, Bool.not_eq_true] using henabled

theorem debitWallet_cases
    (h : debitWallet config wallet amount type referenceType referenceId idempotencyKey =
      .ok wallet') :
    0 < amount ∧
      (wallet.KeyUsed idempotencyKey ∧ wallet' = wallet ∨
        ¬ wallet.KeyUsed idempotencyKey ∧ wallet.status = .active ∧
          (type = .adminAdjustment ∨ walletDisabled config = false) ∧
          amount ≤ wallet.availableBalance ∧
          wallet' = wallet.post
            (debitRow wallet amount type referenceType referenceId idempotencyKey)
            (wallet.realBalance - (amount - wallet.fromPromo amount))
            (wallet.promoBalance - wallet.fromPromo amount)) := by
  unfold debitWallet at h
  split at h
  · cases h
  next hamount =>
    refine ⟨by omega, ?_⟩
    split at h
    next hused =>
      cases h
      exact .inl ⟨hused, rfl⟩
    next hfresh =>
      split at h
      · cases h
      next hactive =>
        split at h
        · cases h
        next henabled =>
          split at h
          · cases h
          next hfunds =>
            refine .inr ⟨hfresh, not_not.mp hactive, ?_, not_lt.mp hfunds, (post_eq_ok h).2⟩
            simpa only [not_and_or, not_not, Bool.not_eq_true] using henabled

theorem adminAdjustWallet_cases {adminUserId : Id} {direction : LedgerDirection}
    {clientNonce : Option String}
    (h : adminAdjustWallet config wallet adminUserId amount direction bucket clientNonce now =
      .ok wallet') :
    creditWallet config wallet amount .adminAdjustment bucket "ADMIN" (some adminUserId)
        (adminAdjustKey adminUserId wallet.id clientNonce now) none = .ok wallet' ∨
      debitWallet config wallet amount .adminAdjustment "ADMIN" (some adminUserId)
        (adminAdjustKey adminUserId wallet.id clientNonce now) = .ok wallet' := by
  cases direction with
  | credit => exact .inl h
  | debit => exact .inr h

/-- How much an expiry takes. -/
def expiryAmount (wallet : WalletAccount) (now : ℤ) : ℤ :=
  min (expiredTotal (wallet.expiredEntries now) - wallet.alreadyExpired) wallet.promoBalance

theorem cleanExpiredPromotionalCredits_cases {taken : ℤ}
    (h : wallet.cleanExpiredPromotionalCredits now = .ok (wallet', taken)) :
    wallet' = wallet ∧ taken = 0 ∨
      0 < taken ∧ taken = wallet.expiryAmount now ∧
        ¬ wallet.KeyUsed (expiryKey wallet.id now) ∧
        wallet' = wallet.post (expiryRow wallet.id now taken wallet.availableBalance)
          wallet.realBalance (wallet.promoBalance - taken) := by
  unfold cleanExpiredPromotionalCredits at h
  simp only at h
  split at h
  · cases h
    exact .inl ⟨rfl, rfl⟩
  split at h
  · cases h
    exact .inl ⟨rfl, rfl⟩
  split at h
  next hpositive =>
    obtain ⟨created, hcreated, hmap⟩ := bind_eq_ok.mp h
    obtain ⟨hfresh, -, rfl⟩ := createEntry_eq_ok.mp hcreated
    cases hupdated : updateBalances _ _ _ _ with
    | error e =>
      rw [hupdated] at hmap
      cases hmap
    | ok updated =>
      rw [hupdated] at hmap
      cases hmap
      exact .inr ⟨hpositive, rfl, hfresh, (updateBalances_eq_ok.mp hupdated).2⟩
  · cases h
    exact .inl ⟨rfl, rfl⟩

/-! ## What payments see -/

@[simp] theorem toWallet_post (row : WalletLedgerRow) (real promo : ℤ) :
    (wallet.post row real promo).toWallet =
      { wallet.toWallet with
        availableBalance := row.balanceAfter
        realBalance := real
        promoBalance := promo
        entries := wallet.toWallet.entries ++ [row.toWalletLedgerEntry] } := by
  simp [toWallet, post]

theorem findEntry_isSome (hother : idempotencyKey ∉ wallet.otherKeys) :
    (wallet.toWallet.findEntry idempotencyKey).isSome ↔ wallet.KeyUsed idempotencyKey := by
  simp [Wallet.findEntry, toWallet, KeyUsed, hother]

def walletConfig (config : PaymentConfig) : Option WalletConfig :=
  some ⟨config.walletEnabled, config.maxWalletBalanceCap⟩

theorem creditCap_walletConfig {config : PaymentConfig} (hcap : config.maxWalletBalanceCap ≠ 0) :
    creditCap (walletConfig config) type = balanceCap config type := by
  simp [creditCap, walletConfig, balanceCap, hcap]

theorem creditWallet_toWallet {config : PaymentConfig} (hcap : config.maxWalletBalanceCap ≠ 0)
    (hother : idempotencyKey ∉ wallet.otherKeys)
    (h : creditWallet (walletConfig config) wallet amount type bucket referenceType referenceId
      idempotencyKey expiresAt = .ok wallet') :
    wallet.toWallet.creditWallet config amount type bucket referenceType referenceId
      idempotencyKey = .ok wallet'.toWallet := by
  obtain ⟨hamount, ⟨hused, rfl⟩ | ⟨hfresh, hactive, henabled, hlimit, -, rfl⟩⟩ :=
    creditWallet_cases h
  · have hfound := (findEntry_isSome hother).mpr hused
    simp [Wallet.creditWallet, not_le.mpr hamount, hfound]
  · have hfound := mt (findEntry_isSome hother).mp hfresh
    rw [creditCap_walletConfig hcap] at hlimit
    have henabled' : ¬ (type ≠ .adminAdjustment ∧ !config.walletEnabled) := by
      rcases henabled with rfl | hdisabled
      · simp
      · simp_all [walletDisabled, walletConfig]
    have hactive' : wallet.toWallet.status = .active := hactive
    have hlimit' : ¬ wallet.toWallet.availableBalance + amount > balanceCap config type :=
      not_lt.mpr hlimit
    rw [Wallet.creditWallet, if_neg (not_le.mpr hamount), if_neg hfound,
      if_neg (not_not.mpr hactive'), if_neg henabled', if_neg hlimit', toWallet_post]
    rfl

theorem debitWallet_toWallet {config : PaymentConfig}
    (hother : idempotencyKey ∉ wallet.otherKeys)
    (h : debitWallet (walletConfig config) wallet amount type referenceType referenceId
      idempotencyKey = .ok wallet') :
    wallet.toWallet.debitWallet config amount type referenceType referenceId idempotencyKey =
      .ok wallet'.toWallet := by
  obtain ⟨hamount, ⟨hused, rfl⟩ | ⟨hfresh, hactive, henabled, hfunds, rfl⟩⟩ := debitWallet_cases h
  · have hfound := (findEntry_isSome hother).mpr hused
    simp [Wallet.debitWallet, not_le.mpr hamount, hfound]
  · have hfound := mt (findEntry_isSome hother).mp hfresh
    have henabled' : ¬ (type ≠ .adminAdjustment ∧ !config.walletEnabled) := by
      rcases henabled with rfl | hdisabled
      · simp
      · simp_all [walletDisabled, walletConfig]
    have hactive' : wallet.toWallet.status = .active := hactive
    have hfunds' : ¬ wallet.toWallet.availableBalance < amount := not_lt.mpr hfunds
    rw [Wallet.debitWallet, if_neg (not_le.mpr hamount), if_neg hfound,
      if_neg (not_not.mpr hactive'), if_neg henabled', if_neg hfunds', toWallet_post]
    rfl

end WalletAccount

/-!
## The balances of a wallet are those of its ledger

Every operation on a wallet either leaves it as it is or posts one entry that starts at
the available balance and moves it by the entry's amount.  `Sound` is the invariant that
this keeps: the ledger is a statement from zero to the available balance, and the
available balance is split into real and promotional money, neither of them negative.

The promotional share is what needs an argument.  A debit larger than the promotional
money takes the rest from real money, which covers it because the two add up to what is
available (`fromPromo_le`); an expiry never takes more than there is.
-/

/-! ## Operations -/

/-- A call that changes the wallet in one transaction, under a row lock. -/
inductive WalletCall where
  | creditWallet (config : Option WalletConfig) (amount : ℤ) (type : LedgerEntryType)
      (bucket : WalletBucketType) (referenceType : String) (referenceId : Option Id)
      (idempotencyKey : String) (expiresAt : Option ℤ)
  | debitWallet (config : Option WalletConfig) (amount : ℤ) (type : LedgerEntryType)
      (referenceType : String) (referenceId : Option Id) (idempotencyKey : String)
  | adminAdjustWallet (config : Option WalletConfig) (adminUserId : Id) (amount : ℤ)
      (direction : LedgerDirection) (bucket : WalletBucketType) (clientNonce : Option String)
      (now : ℤ)
deriving DecidableEq

namespace WalletCall

def run (wallet : WalletAccount) : WalletCall → Except HttpError WalletAccount
  | .creditWallet config amount type bucket referenceType referenceId idempotencyKey expiresAt =>
    wallet.creditWallet config amount type bucket referenceType referenceId idempotencyKey
      expiresAt
  | .debitWallet config amount type referenceType referenceId idempotencyKey =>
    wallet.debitWallet config amount type referenceType referenceId idempotencyKey
  | .adminAdjustWallet config adminUserId amount direction bucket clientNonce now =>
    wallet.adminAdjustWallet config adminUserId amount direction bucket clientNonce now

/-- The wallet once the transaction is over; one that throws is rolled back. -/
def commit (wallet : WalletAccount) (call : WalletCall) : WalletAccount :=
  match call.run wallet with
  | .ok wallet' => wallet'
  | .error _ => wallet

end WalletCall

inductive WalletOperation where
  | call (call : WalletCall)
  | cleanExpiredPromotionalCredits (now : ℤ)
  | reconcileWallet
  /-- An entry of another wallet takes a key. -/
  | otherEntry (idempotencyKey : String)
deriving DecidableEq

/-- The wallet after an operation that ran without another one in between. -/
def walletStep (wallet : WalletAccount) : WalletOperation → WalletAccount
  | .call call => call.commit wallet
  | .cleanExpiredPromotionalCredits now =>
    match wallet.cleanExpiredPromotionalCredits now with
    | .ok (wallet', _) => wallet'
    | .error _ => wallet
  | .reconcileWallet => wallet.reconcileWallet.1
  | .otherEntry idempotencyKey =>
    { wallet with otherKeys := idempotencyKey :: wallet.otherKeys }

namespace WalletAccount

variable {wallet wallet' : WalletAccount} {row : WalletLedgerRow} {amount real promo now : ℤ}

/-! ## The invariant -/

/-- An entry moves the balance by its amount, in its direction. -/
def Moves (row : WalletLedgerRow) : Prop :=
  row.balanceAfter = row.balanceBefore + (if row.direction = .credit then row.amount else 0) -
    if row.direction = .debit then row.amount else 0

structure Sound (wallet : WalletAccount) : Prop where
  split : wallet.availableBalance = wallet.realBalance + wallet.promoBalance
  real_nonneg : 0 ≤ wallet.realBalance
  promo_nonneg : 0 ≤ wallet.promoBalance
  fits : Fits wallet.availableBalance
  moves : ∀ row ∈ wallet.ledger, Moves row
  statement : Statement.Runs (fun row => row.balanceBefore) (fun row => row.balanceAfter) 0
    wallet.ledger wallet.availableBalance

theorem sound_create (id : Id) (otherKeys : List String) : (create id otherKeys).Sound where
  split := rfl
  real_nonneg := le_refl 0
  promo_nonneg := le_refl 0
  fits := by simp [create, Fits]
  moves := by simp [create]
  statement := Statement.runs_nil

theorem Sound.post (h : wallet.Sound) (hmoves : Moves row)
    (hbefore : row.balanceBefore = wallet.availableBalance)
    (hsplit : row.balanceAfter = real + promo) (hreal : 0 ≤ real) (hpromo : 0 ≤ promo)
    (hfits : Fits row.balanceAfter) :
    (wallet.post row real promo).Sound where
  split := hsplit
  real_nonneg := hreal
  promo_nonneg := hpromo
  fits := hfits
  moves := by
    intro posted hposted
    rcases List.mem_append.mp hposted with hold | hnew
    · exact h.moves posted hold
    · rwa [List.mem_singleton.mp hnew]
  statement := h.statement.concat hbefore

theorem Sound.fits_sub (h : wallet.Sound) (hamount : 0 ≤ amount)
    (hfunds : amount ≤ wallet.availableBalance) : Fits (wallet.availableBalance - amount) := by
  have hfits := abs_lt.mp h.fits
  exact abs_lt.mpr ⟨by omega, by omega⟩

theorem Sound.fits_all (h : wallet.Sound) :
    Fits wallet.availableBalance ∧ Fits wallet.realBalance ∧ Fits wallet.promoBalance := by
  have hfits := abs_lt.mp h.fits
  have hsplit := h.split
  have hreal := h.real_nonneg
  have hpromo := h.promo_nonneg
  exact ⟨h.fits, abs_lt.mpr ⟨by omega, by omega⟩, abs_lt.mpr ⟨by omega, by omega⟩⟩

theorem fromPromo_le (h : wallet.Sound) (hfunds : amount ≤ wallet.availableBalance) :
    wallet.fromPromo amount ≤ wallet.promoBalance ∧
      amount - wallet.fromPromo amount ≤ wallet.realBalance := by
  have hsplit := h.split
  have hreal := h.real_nonneg
  have hpromo := h.promo_nonneg
  unfold fromPromo
  split
  · omega
  · omega

/-! ## What one operation keeps -/

theorem Sound.creditWallet {config : Option WalletConfig} {type : LedgerEntryType}
    {bucket : WalletBucketType} {referenceType : String} {referenceId : Option Id}
    {idempotencyKey : String} {expiresAt : Option ℤ} (hsound : wallet.Sound)
    (h : wallet.creditWallet config amount type bucket referenceType referenceId idempotencyKey
      expiresAt = .ok wallet') : wallet'.Sound := by
  obtain ⟨hamount, ⟨-, rfl⟩ | ⟨-, -, -, -, hfits, rfl⟩⟩ := creditWallet_cases h
  · exact hsound
  · have hsplit := hsound.split
    have hreal := hsound.real_nonneg
    have hpromo := hsound.promo_nonneg
    refine hsound.post ?_ rfl ?_ ?_ ?_ hfits
    · simp [Moves, creditRow]
    · simp only [creditRow]
      split <;> omega
    · split <;> omega
    · split <;> omega

theorem Sound.debitWallet {config : Option WalletConfig} {type : LedgerEntryType}
    {referenceType : String} {referenceId : Option Id} {idempotencyKey : String}
    (hsound : wallet.Sound)
    (h : wallet.debitWallet config amount type referenceType referenceId idempotencyKey =
      .ok wallet') : wallet'.Sound := by
  obtain ⟨hamount, ⟨-, rfl⟩ | ⟨-, -, -, hfunds, rfl⟩⟩ := debitWallet_cases h
  · exact hsound
  · have hsplit := hsound.split
    obtain ⟨hpromo, hreal⟩ := fromPromo_le hsound hfunds
    refine hsound.post ?_ rfl ?_ ?_ ?_ (hsound.fits_sub hamount.le hfunds)
    · simp [Moves, debitRow]
    · simp only [debitRow]
      omega
    · omega
    · omega

theorem Sound.commit (hsound : wallet.Sound) (call : WalletCall) :
    (call.commit wallet).Sound := by
  unfold WalletCall.commit
  cases hrun : call.run wallet with
  | error e => exact hsound
  | ok wallet' =>
    cases call with
    | creditWallet => exact hsound.creditWallet hrun
    | debitWallet => exact hsound.debitWallet hrun
    | adminAdjustWallet =>
      rcases adminAdjustWallet_cases hrun with hcredit | hdebit
      · exact hsound.creditWallet hcredit
      · exact hsound.debitWallet hdebit

theorem expiryAmount_le (wallet : WalletAccount) (now : ℤ) :
    wallet.expiryAmount now ≤ wallet.promoBalance := min_le_right _ _

theorem Sound.expire {taken : ℤ} (hsound : wallet.Sound)
    (h : wallet.cleanExpiredPromotionalCredits now = .ok (wallet', taken)) : wallet'.Sound := by
  obtain ⟨rfl, -⟩ | ⟨hpositive, htaken, -, rfl⟩ := cleanExpiredPromotionalCredits_cases h
  · exact hsound
  · have hsplit := hsound.split
    have hreal := hsound.real_nonneg
    have hle := wallet.expiryAmount_le now
    refine hsound.post ?_ rfl ?_ hreal ?_ (hsound.fits_sub hpositive.le (by omega))
    · simp [Moves, expiryRow]
    · simp only [expiryRow]
      omega
    · omega

theorem Sound.eq_directionTotal (hsound : wallet.Sound) :
    wallet.availableBalance = wallet.directionTotal .credit - wallet.directionTotal .debit := by
  have hclosing := hsound.statement.closing_eq (fun row => row.direction = .credit)
    (fun row => row.direction = .debit) (fun row => row.amount)
    (fun row hrow => by simpa [Moves] using hsound.moves row hrow)
  rw [directionTotal, directionTotal]
  omega

theorem Sound.reconcileWallet_eq (hsound : wallet.Sound) :
    wallet.reconcileWallet = (wallet, true) := by
  have hcalculated := hsound.eq_directionTotal
  have hsplit := hsound.split
  simp [reconcileWallet, ← hcalculated, ← hsplit]

theorem Sound.step (hsound : wallet.Sound) (operation : WalletOperation) :
    (walletStep wallet operation).Sound := by
  cases operation with
  | call call => exact hsound.commit call
  | cleanExpiredPromotionalCredits now =>
    simp only [walletStep]
    cases hexpire : wallet.cleanExpiredPromotionalCredits now with
    | error e => exact hsound
    | ok result => exact hsound.expire hexpire
  | reconcileWallet =>
    rw [walletStep, hsound.reconcileWallet_eq]
    exact hsound
  | otherEntry idempotencyKey =>
    exact ⟨hsound.split, hsound.real_nonneg, hsound.promo_nonneg, hsound.fits, hsound.moves,
      hsound.statement⟩

/-! ## The law -/

/-- The cached balances and the ledger agree. -/
structure BalanceLaw (wallet : WalletAccount) : Prop where
  split : wallet.availableBalance = wallet.realBalance + wallet.promoBalance
  available_nonneg : 0 ≤ wallet.availableBalance
  real_nonneg : 0 ≤ wallet.realBalance
  promo_nonneg : 0 ≤ wallet.promoBalance
  sums : wallet.availableBalance = wallet.directionTotal .credit - wallet.directionTotal .debit
  chained : wallet.ledger.IsChain fun previous next => next.balanceBefore = previous.balanceAfter

theorem Sound.balanceLaw (hsound : wallet.Sound) : wallet.BalanceLaw where
  split := hsound.split
  available_nonneg := by
    rw [hsound.split]
    exact add_nonneg hsound.real_nonneg hsound.promo_nonneg
  real_nonneg := hsound.real_nonneg
  promo_nonneg := hsound.promo_nonneg
  sums := hsound.eq_directionTotal
  chained := hsound.statement.isChain

end WalletAccount

/-- Whatever is done to a new wallet, its balances are those of its ledger, and
reconciliation finds nothing to freeze. -/
theorem wallet_balance_law (id : Id) (otherKeys : List String) (operations : List WalletOperation) :
    Everywhere walletStep
      (fun wallet => wallet.BalanceLaw ∧ wallet.reconcileWallet = (wallet, true))
      (WalletAccount.create id otherKeys) operations := by
  have hsound : Everywhere walletStep WalletAccount.Sound (WalletAccount.create id otherKeys)
      operations :=
    everywhere_of_step (fun wallet operation h => h.step operation)
      (WalletAccount.sound_create id otherKeys)
  exact hsound.mono fun wallet h => ⟨h.balanceLaw, h.reconcileWallet_eq⟩

end CarRental
