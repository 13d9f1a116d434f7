import CarRental.Wallets.Account
import Mathlib.Data.Fintype.EquivFin

/-!
# The part of a wallet that a booking may use

`validateAndCalculateUsableWallet` sweeps the wallet, takes the least of several limits and
splits it into promotional and real money, the first of them capped by the policy.
`debitWallet` takes the amount later: promotional money first, without the cap.

* `debitDecimal` is the debit of an amount with any decimals, and the debit of the account
  when these are paise (`debitDecimal_rupees`).
* The two splits agree exactly for a limit in whole paise of which no more than the cap is
  promotional (`usable_split_iff`).

The limit and its shares are exact: what is subtracted from a number of few digits is on the
grid of paise (`Rounding.HasDigits.sub_onGrid`).
-/

namespace CarRental

open Rounding Runs Totals

/-- A number that is read as a decimal: it is written with at most 17 digits. -/
structure JsNumber where
  value : Decimal
  hasDigits : HasDigits 17 value

/-- The wallet rules; a missing number counts as zero. -/
structure WalletPolicy extends WalletConfig where
  maxWalletPaymentPercentage : JsNumber
  minBookingAmountForWalletUse : JsNumber
  maxPromoCreditPerBooking : JsNumber
  maxDailyWalletUsage : JsNumber

structure UsableWallet where
  allowed : Bool
  usableAmount : Decimal
  promoAmount : Decimal
  realAmount : Decimal
  availableBalance : Decimal
  reason : Option String
  realBalance : Option Decimal
  promoBalance : Option Decimal
  maxPercentageAllowed : Option Decimal

/-- What a booking asks for, and when. -/
structure UsableWalletRequest where
  bookingAmount : JsNumber
  requestedWalletAmount : Option JsNumber
  now : ℤ
  startOfToday : ℤ
  /-- The time of the entry with a key. -/
  createdAt : String → ℤ

namespace WalletPolicy

variable (policy : Option WalletPolicy)

/-- Without a configuration service the built-in rules apply. -/
def maxPercent : Decimal :=
  (policy.map fun policy => orDefault policy.maxWalletPaymentPercentage.value 100).getD 100

def minBookingAmount : Decimal :=
  (policy.map fun policy => policy.minBookingAmountForWalletUse.value).getD 0

def maxPromoAllowed : Decimal :=
  (policy.map fun policy => orDefault policy.maxPromoCreditPerBooking.value 5000).getD 5000

def maxDailyLimit : Decimal :=
  (policy.map fun policy => orDefault policy.maxDailyWalletUsage.value 50000).getD 50000

def config : Option WalletConfig := policy.map WalletPolicy.toWalletConfig

end WalletPolicy

namespace WalletAccount

/-! ## Debits with any decimals -/

/-- The real and the promotional money that a debit leaves. -/
def debitShares (wallet : WalletAccount) (amount : Decimal) : Decimal × Decimal :=
  let real := rupees wallet.realBalance
  let promo := rupees wallet.promoBalance
  if 0 < promo then
    if amount ≤ promo then (real, Decimal.sub promo amount)
    else (Decimal.sub real (Decimal.sub amount promo), 0)
  else (Decimal.sub real amount, promo)

def debitDecimal (config : Option WalletConfig) (wallet : WalletAccount) (amount : Decimal)
    (type : LedgerEntryType) (referenceType : String) (referenceId : Option Id)
    (idempotencyKey : String) : Except HttpError WalletAccount :=
  if amount ≤ 0 then
    .error (.badRequest "Debit amount must be strictly greater than zero.")
  else if wallet.KeyUsed idempotencyKey then .ok wallet
  else if wallet.status ≠ .active then .error (.badRequest "Wallet is not active")
  else if type ≠ .adminAdjustment ∧ walletDisabled config then
    .error (.badRequest "Wallet operations are currently disabled by platform administrator.")
  else if rupees wallet.availableBalance < amount then
    .error (.badRequest "Insufficient wallet balance.")
  else
    let newAvailable := toPaise (Decimal.sub (rupees wallet.availableBalance) amount)
    let row := debitRow wallet (toPaise amount) type referenceType referenceId idempotencyKey
    (wallet.createEntry { row with balanceAfter := newAvailable }).bind fun created =>
      created.updateBalances newAvailable (toPaise (wallet.debitShares amount).1)
        (toPaise (wallet.debitShares amount).2)

/-! ## The limits and the split -/

variable (policy : Option WalletPolicy) (request : UsableWalletRequest) (wallet : WalletAccount)

/-- The checkout debits of the day. -/
def usedToday : Decimal :=
  rupees (total (fun row => row.direction = .debit && row.type = .checkoutDebit &&
    request.startOfToday ≤ request.createdAt row.idempotencyKey) (fun row => row.amount)
    wallet.ledger)

def remainingDailyAllowance : Decimal :=
  max 0 (Decimal.sub (WalletPolicy.maxDailyLimit policy) (usedToday request wallet))

def maxAllowedByPercentage : Decimal :=
  Decimal.div (Decimal.mul request.bookingAmount.value (WalletPolicy.maxPercent policy)) 100

def maxPossibleDebit : Decimal :=
  min (rupees wallet.availableBalance) (min request.bookingAmount.value
    (min (maxAllowedByPercentage policy request) (remainingDailyAllowance policy request wallet)))

def targetAmount : Decimal :=
  match request.requestedWalletAmount with
  | some requested => min requested.value (maxPossibleDebit policy request wallet)
  | none => maxPossibleDebit policy request wallet

/-- The answer for a wallet that nothing may be used of. -/
def unusable (reason : String) : UsableWallet where
  allowed := false
  usableAmount := 0
  promoAmount := 0
  realAmount := 0
  availableBalance := rupees wallet.availableBalance
  reason := some reason
  realBalance := none
  promoBalance := none
  maxPercentageAllowed := none

/-- The answer once the wallet is swept. -/
def usableWallet (numberText : Decimal → String) : UsableWallet :=
  let minimum := WalletPolicy.minBookingAmount policy
  if walletDisabled (WalletPolicy.config policy) then
    unusable wallet "DriveGo Wallet is currently disabled by administrator."
  else if minimum ≠ 0 ∧ request.bookingAmount.value < minimum then
    unusable wallet ("Booking amount must be at least ₹" ++ numberText minimum ++
      " to apply DriveGo Wallet balance.")
  else
    let usablePromo := min (rupees wallet.promoBalance) (WalletPolicy.maxPromoAllowed policy)
    let target := targetAmount policy request wallet
    let finalPromo := min target usablePromo
    { allowed := 0 < target
      usableAmount := target
      promoAmount := finalPromo
      realAmount := Decimal.sub target finalPromo
      availableBalance := rupees wallet.availableBalance
      reason := none
      realBalance := some (rupees wallet.realBalance)
      promoBalance := some (rupees wallet.promoBalance)
      maxPercentageAllowed := some (WalletPolicy.maxPercent policy) }

/-- The swept wallet and the answer. -/
def validateAndCalculateUsableWallet (numberText : Decimal → String) :
    Except HttpError (WalletAccount × UsableWallet) :=
  (wallet.cleanExpiredPromotionalCredits request.now).map fun (swept, _) =>
    (swept, usableWallet policy request swept numberText)

/-! ## What a debit takes -/

/-- What a checkout debit takes from promotional and from real money. -/
def taken (config : Option WalletConfig) (amount : Decimal) (bookingId : Id)
    (idempotencyKey : String) : Decimal × Decimal :=
  match wallet.debitDecimal config amount .checkoutDebit "BOOKING" (some bookingId)
    idempotencyKey with
  | .ok wallet' =>
    (rupees (wallet.promoBalance - wallet'.promoBalance),
      rupees (wallet.realBalance - wallet'.realBalance))
  | .error _ => (0, 0)

variable {policy request wallet} {config : Option WalletConfig} {amount : Decimal}
  {type : LedgerEntryType} {referenceType : String} {referenceId : Option Id}
  {idempotencyKey : String}

theorem toPaise_sub_mem {balance : ℤ} (hfits : Fits balance) (hamount : 0 ≤ amount)
    (hle : amount ≤ rupees balance) :
    0 ≤ toPaise (Decimal.sub (rupees balance) amount) ∧
      toPaise (Decimal.sub (rupees balance) amount) ≤ balance := by
  have hnonneg : 0 ≤ rupees balance - amount := sub_nonneg.mpr hle
  have hsmall : |rupees balance - amount| * 10 ^ 2 < 10 ^ Decimal.precision := by
    have hbalance : (balance : ℚ) < 10 ^ 10 := by exact_mod_cast lt_of_abs_lt hfits
    rw [abs_of_nonneg hnonneg]
    calc (rupees balance - amount) * 10 ^ 2 ≤ rupees balance * 100 := by linarith
      _ = balance := rupees_mul_hundred balance
      _ < 10 ^ Decimal.precision := hbalance.trans_le (by norm_num [Decimal.precision])
  constructor
  · rw [← toPaise_rupees 0, rupees_zero]
    exact toPaise_mono (toDigits_nonneg hnonneg)
  · have hsub : Decimal.sub (rupees balance) amount ≤ rupees balance :=
      toDigits_le_of_onGrid (onGrid_rupees balance) hsmall (by linarith)
    calc toPaise (Decimal.sub (rupees balance) amount) ≤ toPaise (rupees balance) :=
          toPaise_mono hsub
      _ = balance := toPaise_rupees balance

theorem Sound.toPaise_debitShares_mem (h : wallet.Sound) (hamount : 0 < amount)
    (hle : amount ≤ rupees wallet.availableBalance) :
    (0 ≤ toPaise (wallet.debitShares amount).1 ∧
        toPaise (wallet.debitShares amount).1 ≤ wallet.realBalance) ∧
      0 ≤ toPaise (wallet.debitShares amount).2 ∧
        toPaise (wallet.debitShares amount).2 ≤ wallet.promoBalance := by
  obtain ⟨-, hfitsReal, hfitsPromo⟩ := h.fits_all
  have hsplit := h.split
  have hreal := h.real_nonneg
  have hpromo := h.promo_nonneg
  unfold debitShares
  simp only
  split
  next hpositive =>
    split
    next hcovered =>
      refine ⟨?_, toPaise_sub_mem hfitsPromo hamount.le hcovered⟩
      rw [toPaise_rupees]
      exact ⟨hreal, le_refl _⟩
    next hmore =>
      have hrest : 0 ≤ amount - rupees wallet.promoBalance := by linarith
      have hcovered : amount - rupees wallet.promoBalance ≤ rupees wallet.realBalance := by
        have hreal' : wallet.realBalance = wallet.availableBalance - wallet.promoBalance := by omega
        rw [hreal', rupees_sub]
        linarith
      have hsmall : |amount - rupees wallet.promoBalance| * 10 ^ 2 < 10 ^ Decimal.precision := by
        have hcast : (wallet.realBalance : ℚ) < 10 ^ 10 := by
          exact_mod_cast lt_of_abs_lt hfitsReal
        rw [abs_of_nonneg hrest]
        calc (amount - rupees wallet.promoBalance) * 10 ^ 2
            ≤ rupees wallet.realBalance * 100 := by linarith
          _ = wallet.realBalance := rupees_mul_hundred _
          _ < 10 ^ Decimal.precision := hcast.trans_le (by norm_num [Decimal.precision])
      refine ⟨toPaise_sub_mem hfitsReal (toDigits_nonneg hrest)
        (toDigits_le_of_onGrid (onGrid_rupees _) hsmall hcovered), ?_⟩
      show 0 ≤ toPaise 0 ∧ toPaise 0 ≤ wallet.promoBalance
      rw [← rupees_zero, toPaise_rupees]
      exact ⟨le_refl 0, hpromo⟩
  next hnone =>
    rw [rupees_pos] at hnone
    have heq : wallet.availableBalance = wallet.realBalance := by omega
    refine ⟨toPaise_sub_mem hfitsReal hamount.le (heq ▸ hle), ?_⟩
    show 0 ≤ toPaise (rupees _) ∧ toPaise (rupees _) ≤ wallet.promoBalance
    rw [toPaise_rupees]
    exact ⟨hpromo, le_refl _⟩

theorem fits_of_mem {paise bound : ℤ} (hbound : Fits bound) (h : 0 ≤ paise ∧ paise ≤ bound) :
    Fits paise :=
  abs_lt.mpr ⟨by omega, h.2.trans_lt (lt_of_abs_lt hbound)⟩

theorem Sound.debitDecimal_eq_ok (h : wallet.Sound) (hamount : 0 < amount)
    (hle : amount ≤ rupees wallet.availableBalance) (hfresh : ¬ wallet.KeyUsed idempotencyKey)
    (hactive : wallet.status = .active)
    (henabled : type = .adminAdjustment ∨ walletDisabled config = false) :
    wallet.debitDecimal config amount type referenceType referenceId idempotencyKey =
      .ok (wallet.post
        { debitRow wallet (toPaise amount) type referenceType referenceId idempotencyKey with
          balanceAfter := toPaise (Decimal.sub (rupees wallet.availableBalance) amount) }
        (toPaise (wallet.debitShares amount).1) (toPaise (wallet.debitShares amount).2)) := by
  obtain ⟨hfits, hfitsReal, hfitsPromo⟩ := h.fits_all
  obtain ⟨hreal, hpromo⟩ := h.toPaise_debitShares_mem hamount hle
  have hstored : 0 ≤ toPaise amount ∧ toPaise amount ≤ wallet.availableBalance := by
    constructor
    · rw [← toPaise_rupees 0, rupees_zero]
      exact toPaise_mono hamount.le
    · rw [← toPaise_rupees wallet.availableBalance]
      exact toPaise_mono hle
  have hafter := fits_of_mem hfits (toPaise_sub_mem hfits hamount.le hle)
  have henabled' : ¬ (type ≠ .adminAdjustment ∧ walletDisabled config = true) := by
    rcases henabled with htype | hdisabled
    · simp [htype]
    · simp [hdisabled]
  unfold debitDecimal
  rw [if_neg (not_le.mpr hamount), if_neg hfresh, if_neg (not_not.mpr hactive), if_neg henabled',
    if_neg (not_lt.mpr hle)]
  exact post_of_fits hfresh ⟨fits_of_mem hfits hstored, hfits, hafter⟩ (fits_of_mem hfitsReal hreal)
    (fits_of_mem hfitsPromo hpromo)

/-! ## Whole paise -/

theorem Sound.debitShares_rupees (h : wallet.Sound) {paise : ℤ} (hpositive : 0 < paise)
    (hle : paise ≤ wallet.availableBalance) :
    wallet.debitShares (rupees paise) =
      (rupees (wallet.realBalance - (paise - wallet.fromPromo paise)),
        rupees (wallet.promoBalance - wallet.fromPromo paise)) := by
  obtain ⟨hfits, hfitsReal, hfitsPromo⟩ := h.fits_all
  have hrange := abs_lt.mp hfits
  have hrangeReal := abs_lt.mp hfitsReal
  have hrangePromo := abs_lt.mp hfitsPromo
  have hexact : ∀ {a b : ℤ}, -10 ^ 11 < a - b → a - b < 10 ^ 11 →
      Decimal.sub (rupees a) (rupees b) = rupees (a - b) := by
    intro a b hlow hhigh
    exact Decimal.sub_rupees (abs_lt.mpr ⟨by omega, by omega⟩)
  unfold debitShares fromPromo
  simp only [rupees_pos, rupees_le]
  split
  next hpromo =>
    split
    next hcovered =>
      rw [min_eq_right hcovered, hexact (by omega) (by omega), sub_self, sub_zero]
    next hmore =>
      rw [min_eq_left (by omega), hexact (a := paise) (by omega) (by omega),
        hexact (by omega) (by omega), sub_self, rupees_zero]
  next hnone => rw [hexact (by omega) (by omega), sub_zero, sub_zero]

/-! ## When the two splits agree -/

theorem Sound.taken_eq (h : wallet.Sound) (hamount : 0 < amount)
    (hle : amount ≤ rupees wallet.availableBalance) {bookingId : Id}
    (hfresh : ¬ wallet.KeyUsed idempotencyKey) (hactive : wallet.status = .active)
    (henabled : walletDisabled config = false) :
    wallet.taken config amount bookingId idempotencyKey =
      (rupees (wallet.promoBalance - toPaise (wallet.debitShares amount).2),
        rupees (wallet.realBalance - toPaise (wallet.debitShares amount).1)) := by
  unfold taken
  rw [h.debitDecimal_eq_ok hamount hle hfresh hactive (.inr henabled)]
  rfl

theorem taken_of_refused {bookingId : Id} (hfresh : ¬ wallet.KeyUsed idempotencyKey)
    (hrefused : amount ≤ 0 ∨ wallet.status ≠ .active) :
    wallet.taken config amount bookingId idempotencyKey = (0, 0) := by
  unfold taken debitDecimal
  by_cases hamount : amount ≤ 0
  · rw [if_pos hamount]
  · rw [if_neg hamount, if_neg hfresh, if_pos (hrefused.resolve_left hamount)]

/-- The split of an amount under a cap on its promotional part. -/
def split (wallet : WalletAccount) (amount cap : Decimal) : Decimal × Decimal :=
  let promo := min amount (min (rupees wallet.promoBalance) cap)
  (promo, Decimal.sub amount promo)

theorem Sound.taken_rupees (h : wallet.Sound) {paise : ℤ} (hpositive : 0 < paise)
    (hle : paise ≤ wallet.availableBalance) {bookingId : Id}
    (hfresh : ¬ wallet.KeyUsed idempotencyKey) (hactive : wallet.status = .active)
    (henabled : walletDisabled config = false) :
    wallet.taken config (rupees paise) bookingId idempotencyKey =
      (min (rupees paise) (rupees wallet.promoBalance),
        rupees paise - min (rupees paise) (rupees wallet.promoBalance)) := by
  have hfrom : wallet.fromPromo paise = min paise wallet.promoBalance := by
    have hpromo := h.promo_nonneg
    unfold fromPromo
    split <;> omega
  rw [h.taken_eq (rupees_pos.mpr hpositive) (rupees_le.mpr hle) hfresh hactive henabled,
    h.debitShares_rupees hpositive hle, hfrom, ← rupees_min, ← rupees_sub]
  simp only [toPaise_rupees]
  congr 2 <;> omega

theorem sub_exact {part : Decimal} (h : wallet.Sound) (hdigits : HasDigits Decimal.precision amount)
    (hle : amount ≤ rupees wallet.availableBalance) (hpart : OnGrid 2 part) (hnonneg : 0 ≤ part)
    (hpart_le : part ≤ amount) : Decimal.sub amount part = amount - part := by
  apply toDigits_of_hasDigits
  apply hdigits.sub_onGrid hpart hnonneg hpart_le
  have hbalance : (wallet.availableBalance : ℚ) < 10 ^ 10 := by
    exact_mod_cast lt_of_abs_lt h.fits
  calc amount * 10 ^ 2 ≤ rupees wallet.availableBalance * 100 := by linarith
    _ = wallet.availableBalance := rupees_mul_hundred _
    _ < 10 ^ Decimal.precision := hbalance.trans_le (by norm_num [Decimal.precision])

/-- The amount is not negative and in whole paise, no more of it than the cap is promotional,
and there is nothing to debit or the wallet is active. -/
def SplitHolds (wallet : WalletAccount) (amount cap : Decimal) : Prop :=
  0 ≤ amount ∧ OnGrid 2 amount ∧ (amount ≤ cap ∨ rupees wallet.promoBalance ≤ cap) ∧
    (amount = 0 ∨ wallet.status = .active)

theorem Sound.split_eq_zero_iff (h : wallet.Sound) {cap : Decimal}
    (hdigits : HasDigits Decimal.precision amount) (hle : amount ≤ rupees wallet.availableBalance)
    (hrefused : amount ≤ 0 ∨ wallet.status ≠ .active) :
    (0, 0) = wallet.split amount cap ↔ wallet.SplitHolds amount cap := by
  have hpromo : 0 ≤ rupees wallet.promoBalance := rupees_nonneg.mpr h.promo_nonneg
  have hpart_le : (wallet.split amount cap).1 ≤ amount := min_le_left _ _
  constructor
  · intro heq
    have hfirst : 0 = (wallet.split amount cap).1 := congrArg Prod.fst heq
    have hsecond : 0 = Decimal.sub amount (wallet.split amount cap).1 := congrArg Prod.snd heq
    rw [← hfirst, sub_exact h hdigits hle onGrid_zero (le_refl 0) (hfirst ▸ hpart_le),
      sub_zero] at hsecond
    subst hsecond
    refine ⟨le_refl 0, onGrid_zero, .inl ?_, .inl rfl⟩
    calc (0 : ℚ) = (wallet.split 0 cap).1 := hfirst
      _ ≤ cap := (min_le_right _ _).trans (min_le_right _ _)
  · rintro ⟨hnonneg, -, hcap, hdone⟩
    have hzero : amount = 0 := by
      rcases hdone with hzero | hactive
      · exact hzero
      · exact le_antisymm (hrefused.resolve_right (not_not.mpr hactive)) hnonneg
    have hcap' : 0 ≤ cap := by
      rcases hcap with hle | hle
      · exact hzero ▸ hle
      · exact hpromo.trans hle
    have hfirst : (wallet.split amount cap).1 = 0 := by
      show min amount (min (rupees wallet.promoBalance) cap) = 0
      rw [hzero]
      exact min_eq_left (le_min hpromo hcap')
    have hsecond : (wallet.split amount cap).2 = 0 := by
      show Decimal.sub amount (wallet.split amount cap).1 = 0
      rw [hfirst, hzero, Decimal.sub, sub_zero, toDigits_zero]
    exact (Prod.ext hfirst hsecond).symm

theorem Sound.onGrid_of_taken (h : wallet.Sound) {cap : Decimal}
    (hdigits : HasDigits Decimal.precision amount) (hamount : 0 < amount)
    (hle : amount ≤ rupees wallet.availableBalance)
    (heq : wallet.split amount cap =
      (rupees (wallet.promoBalance - toPaise (wallet.debitShares amount).2),
        rupees (wallet.realBalance - toPaise (wallet.debitShares amount).1))) :
    OnGrid 2 amount := by
  have hfirst := congrArg Prod.fst heq
  have hsecond := congrArg Prod.snd heq
  have hmem := (h.toPaise_debitShares_mem hamount hle).2
  have hpart : OnGrid 2 (wallet.split amount cap).1 := hfirst ▸ onGrid_rupees _
  have hnonneg : 0 ≤ (wallet.split amount cap).1 := by
    rw [hfirst]
    apply rupees_nonneg.mpr
    show 0 ≤ wallet.promoBalance - toPaise (wallet.debitShares amount).2
    omega
  have hrest : (wallet.split amount cap).2 = amount - (wallet.split amount cap).1 :=
    sub_exact h hdigits hle hpart hnonneg (min_le_left _ _)
  have hreal : OnGrid 2 (wallet.split amount cap).2 := hsecond ▸ onGrid_rupees _
  have hsum := hpart.add hreal
  rwa [hrest, add_sub_cancel] at hsum

theorem Sound.split_rupees_iff (h : wallet.Sound) {paise : ℤ} (hpositive : 0 < paise)
    (hle : paise ≤ wallet.availableBalance) {cap : Decimal} :
    (min (rupees paise) (rupees wallet.promoBalance),
        rupees paise - min (rupees paise) (rupees wallet.promoBalance)) =
      wallet.split (rupees paise) cap ↔
        rupees paise ≤ cap ∨ rupees wallet.promoBalance ≤ cap := by
  rw [← min_le_iff]
  constructor
  · intro heq
    have hfirst : min (rupees paise) (rupees wallet.promoBalance) =
        min (rupees paise) (min (rupees wallet.promoBalance) cap) := congrArg Prod.fst heq
    rw [hfirst]
    exact (min_le_right _ _).trans (min_le_right _ _)
  · intro hcap
    have hpart : min (rupees paise) (rupees wallet.promoBalance) =
        (wallet.split (rupees paise) cap).1 := by
      show _ = min (rupees paise) (min (rupees wallet.promoBalance) cap)
      rw [← min_assoc]
      exact (min_eq_left hcap).symm
    refine Prod.ext hpart ?_
    show _ = Decimal.sub (rupees paise) (wallet.split (rupees paise) cap).1
    rw [← hpart, ← rupees_min, Decimal.sub_rupees, rupees_sub]
    have hrange := abs_lt.mp h.fits
    have hpromo := h.promo_nonneg
    exact abs_lt.mpr ⟨by omega, by omega⟩

theorem Sound.taken_eq_split_iff (h : wallet.Sound) {cap : Decimal}
    (hdigits : HasDigits Decimal.precision amount) (hle : amount ≤ rupees wallet.availableBalance)
    {bookingId : Id} (hfresh : ¬ wallet.KeyUsed idempotencyKey)
    (henabled : walletDisabled config = false) :
    wallet.taken config amount bookingId idempotencyKey = wallet.split amount cap ↔
      wallet.SplitHolds amount cap := by
  by_cases hrefused : amount ≤ 0 ∨ wallet.status ≠ .active
  · rw [taken_of_refused hfresh hrefused]
    exact h.split_eq_zero_iff hdigits hle hrefused
  · obtain ⟨hpositive, hactive⟩ := not_or.mp hrefused
    rw [not_le] at hpositive
    rw [not_not] at hactive
    constructor
    · intro heq
      have hgrid : OnGrid 2 amount := h.onGrid_of_taken hdigits hpositive hle
        (heq.symm.trans (h.taken_eq hpositive hle hfresh hactive henabled))
      obtain ⟨paise, rfl⟩ := exists_rupees hgrid
      rw [rupees_pos] at hpositive
      rw [rupees_le] at hle
      rw [h.taken_rupees hpositive hle hfresh hactive henabled,
        h.split_rupees_iff hpositive hle] at heq
      exact ⟨rupees_nonneg.mpr hpositive.le, hgrid, heq, .inr hactive⟩
    · rintro ⟨-, hgrid, hcap, -⟩
      obtain ⟨paise, rfl⟩ := exists_rupees hgrid
      rw [rupees_pos] at hpositive
      rw [rupees_le] at hle
      rw [h.taken_rupees hpositive hle hfresh hactive henabled]
      exact (h.split_rupees_iff hpositive hle).mpr hcap

/-! ## The law -/

theorem exists_unused_key (wallet : WalletAccount) : ∃ key, ¬ wallet.KeyUsed key := by
  obtain ⟨key, hkey⟩ := Infinite.exists_notMem_finset
    ((wallet.ledger.map fun row => row.idempotencyKey) ++ wallet.otherKeys).toFinset
  refine ⟨key, fun hused => hkey (List.mem_toFinset.mpr (List.mem_append.mpr ?_))⟩
  rcases hused with ⟨row, hrow, heq⟩ | hother
  · exact .inl (List.mem_map.mpr ⟨row, hrow, heq⟩)
  · exact .inr hother

/-- A debit of the usable amount takes the parts that the answer names, and the promotional
one is within the cap. -/
structure SplitLaw (policy : Option WalletPolicy) (wallet : WalletAccount)
    (usable : UsableWallet) : Prop where
  taken_eq : ∀ bookingId idempotencyKey, ¬ wallet.KeyUsed idempotencyKey →
    wallet.taken (WalletPolicy.config policy) usable.usableAmount bookingId idempotencyKey =
      (usable.promoAmount, usable.realAmount)
  capped : usable.promoAmount ≤ WalletPolicy.maxPromoAllowed policy

/-- Nothing of the wallet may be used. -/
def Barred (policy : Option WalletPolicy) (request : UsableWalletRequest) : Prop :=
  walletDisabled (WalletPolicy.config policy) = true ∨
    WalletPolicy.minBookingAmount policy ≠ 0 ∧
      request.bookingAmount.value < WalletPolicy.minBookingAmount policy

instance : Decidable (Barred policy request) := inferInstanceAs (Decidable (_ ∨ _ ∧ _))

/-- The balance, the booking, its percentage, the rest of the day's allowance and what is
asked for. -/
def spendingLimits (policy : Option WalletPolicy) (request : UsableWalletRequest)
    (wallet : WalletAccount) : List Decimal :=
  if Barred policy request then [0]
  else [rupees wallet.availableBalance, request.bookingAmount.value,
      maxAllowedByPercentage policy request, remainingDailyAllowance policy request wallet] ++
    (request.requestedWalletAmount.map JsNumber.value).toList

/-- The least of the limits is split as a debit does it. -/
def SplitAgrees (policy : Option WalletPolicy) (request : UsableWalletRequest)
    (wallet : WalletAccount) : Prop :=
  ∃ limit ∈ spendingLimits policy request wallet,
    (∀ other ∈ spendingLimits policy request wallet, limit ≤ other) ∧
      wallet.SplitHolds limit (WalletPolicy.maxPromoAllowed policy)

theorem splitAgrees_iff {limit : Decimal} (hmem : limit ∈ spendingLimits policy request wallet)
    (hleast : ∀ other ∈ spendingLimits policy request wallet, limit ≤ other) :
    SplitAgrees policy request wallet ↔
      wallet.SplitHolds limit (WalletPolicy.maxPromoAllowed policy) := by
  constructor
  · rintro ⟨least, hmem', hleast', hholds⟩
    have heq : least = limit := le_antisymm (hleast' limit hmem) (hleast least hmem')
    exact heq ▸ hholds
  · exact fun hholds => ⟨limit, hmem, hleast, hholds⟩

theorem targetAmount_least (hbarred : ¬ Barred policy request) :
    targetAmount policy request wallet ∈ spendingLimits policy request wallet ∧
      ∀ other ∈ spendingLimits policy request wallet,
        targetAmount policy request wallet ≤ other := by
  unfold spendingLimits targetAmount
  rw [if_neg hbarred]
  have hmem : maxPossibleDebit policy request wallet ∈ [rupees wallet.availableBalance,
      request.bookingAmount.value, maxAllowedByPercentage policy request,
      remainingDailyAllowance policy request wallet] := by
    unfold maxPossibleDebit
    simp only [List.mem_cons, List.not_mem_nil, or_false]
    grind
  have hle : ∀ other ∈ [rupees wallet.availableBalance, request.bookingAmount.value,
      maxAllowedByPercentage policy request, remainingDailyAllowance policy request wallet],
        maxPossibleDebit policy request wallet ≤ other := by
    intro other hother
    unfold maxPossibleDebit
    simp only [List.mem_cons, List.not_mem_nil, or_false] at hother
    rcases hother with rfl | rfl | rfl | rfl <;> simp
  cases request.requestedWalletAmount with
  | none => simpa using And.intro hmem hle
  | some requested =>
    constructor
    · rcases min_choice requested.value (maxPossibleDebit policy request wallet) with h | h
      · show min _ _ ∈ _
        rw [h]
        simp
      · show min _ _ ∈ _
        rw [h]
        exact List.mem_append_left _ hmem
    · intro other hother
      rcases List.mem_append.mp hother with hold | hnew
      · exact (min_le_right _ _).trans (hle other hold)
      · have heq : other = requested.value := by simpa using hnew
        exact heq ▸ min_le_left _ _

theorem Sound.hasDigits_limit (h : wallet.Sound) {limit : Decimal}
    (hlimit : limit ∈ spendingLimits policy request wallet) :
    HasDigits Decimal.precision limit := by
  have hbalance : HasDigits Decimal.precision (rupees wallet.availableBalance) := by
    apply (onGrid_rupees _).hasDigits
    have hcast : |(wallet.availableBalance : ℚ)| < 10 ^ 10 := by exact_mod_cast h.fits
    calc |rupees wallet.availableBalance| * 10 ^ 2 = |(wallet.availableBalance : ℚ)| := by
          rw [show (10 : ℚ) ^ 2 = |100| by norm_num, ← abs_mul, rupees_mul_hundred]
      _ < 10 ^ Decimal.precision := hcast.trans_le (by norm_num [Decimal.precision])
  have hnumber : ∀ number : JsNumber, HasDigits Decimal.precision number.value :=
    fun number => number.hasDigits.mono (by decide)
  have hremaining : HasDigits Decimal.precision (remainingDailyAllowance policy request wallet) := by
    unfold remainingDailyAllowance
    rcases max_choice 0 (Decimal.sub (WalletPolicy.maxDailyLimit policy)
      (usedToday request wallet)) with heq | heq
    · rw [heq]
      exact hasDigits_zero
    · rw [heq]
      exact Decimal.hasDigits_sub _ _
  unfold spendingLimits at hlimit
  split at hlimit
  · rw [List.mem_singleton.mp hlimit]
    exact hasDigits_zero
  · simp only [List.cons_append, List.nil_append, List.mem_cons, Option.mem_toList,
      Option.map_eq_some_iff] at hlimit
    rcases hlimit with rfl | rfl | rfl | rfl | ⟨requested, -, rfl⟩
    · exact hbalance
    · exact hnumber _
    · exact Decimal.hasDigits_div _ _
    · exact hremaining
    · exact hnumber _

theorem Sound.splitLaw_iff (h : wallet.Sound) (numberText : Decimal → String) :
    SplitLaw policy wallet (usableWallet policy request wallet numberText) ↔
      SplitAgrees policy request wallet := by
  obtain ⟨key, hfresh⟩ := exists_unused_key wallet
  have hpromo : 0 ≤ rupees wallet.promoBalance := rupees_nonneg.mpr h.promo_nonneg
  by_cases hbarred : Barred policy request
  · have hlimits : spendingLimits policy request wallet = [0] := if_pos hbarred
    obtain ⟨reason, husable⟩ : ∃ reason,
        usableWallet policy request wallet numberText = unusable wallet reason := by
      unfold usableWallet
      rcases hbarred with hdisabled | hminimum
      · exact ⟨_, if_pos hdisabled⟩
      · by_cases hdisabled : walletDisabled (WalletPolicy.config policy) = true
        · exact ⟨_, if_pos hdisabled⟩
        · exact ⟨_, (if_neg hdisabled).trans (if_pos hminimum)⟩
    have hagrees : SplitAgrees policy request wallet ↔
        wallet.SplitHolds 0 (WalletPolicy.maxPromoAllowed policy) :=
      splitAgrees_iff (by simp [hlimits]) (by simp [hlimits])
    rw [hagrees, husable]
    constructor
    · exact fun hlaw => ⟨le_refl 0, onGrid_zero, .inl hlaw.capped, .inl rfl⟩
    · rintro ⟨-, -, hcap, -⟩
      refine ⟨fun bookingId key hkey => taken_of_refused hkey (.inl (le_refl 0)), ?_⟩
      rcases hcap with hcap | hcap
      · exact hcap
      · exact hpromo.trans hcap
  · have hpaid : targetAmount policy request wallet ∈ spendingLimits policy request wallet ∧
        ∀ limit ∈ spendingLimits policy request wallet,
          targetAmount policy request wallet ≤ limit := targetAmount_least hbarred
    obtain ⟨hmem, hleast⟩ := hpaid
    obtain ⟨henabled, hminimum⟩ := not_or.mp hbarred
    rw [Bool.not_eq_true] at henabled
    have hle : targetAmount policy request wallet ≤ rupees wallet.availableBalance := by
      apply hleast
      simp [spendingLimits, hbarred]
    have hsplit : ∀ bookingId key, ¬ wallet.KeyUsed key →
        (wallet.taken (WalletPolicy.config policy) (targetAmount policy request wallet) bookingId
            key = wallet.split (targetAmount policy request wallet)
              (WalletPolicy.maxPromoAllowed policy) ↔
          wallet.SplitHolds (targetAmount policy request wallet)
            (WalletPolicy.maxPromoAllowed policy)) :=
      fun bookingId key hkey => h.taken_eq_split_iff (h.hasDigits_limit hmem) hle hkey henabled
    have husable : usableWallet policy request wallet numberText =
        { allowed := 0 < targetAmount policy request wallet
          usableAmount := targetAmount policy request wallet
          promoAmount := (wallet.split (targetAmount policy request wallet)
            (WalletPolicy.maxPromoAllowed policy)).1
          realAmount := (wallet.split (targetAmount policy request wallet)
            (WalletPolicy.maxPromoAllowed policy)).2
          availableBalance := rupees wallet.availableBalance
          reason := none
          realBalance := some (rupees wallet.realBalance)
          promoBalance := some (rupees wallet.promoBalance)
          maxPercentageAllowed := some (WalletPolicy.maxPercent policy) } := by
      unfold usableWallet
      simp only [henabled, Bool.false_eq_true, if_false, if_neg hminimum]
      rfl
    rw [splitAgrees_iff hmem hleast, husable]
    constructor
    · exact fun hlaw => (hsplit "" key hfresh).mp (hlaw.taken_eq "" key hfresh)
    · intro hholds
      exact ⟨fun bookingId key hkey => (hsplit bookingId key hkey).mpr hholds,
        (min_le_right _ _).trans (min_le_right _ _)⟩

end WalletAccount

open WalletAccount

/-- After any history, the answer is what a debit does exactly when the least limit is in
whole paise and the debit takes no promotional money above the cap for it. -/
theorem usable_split_iff (numberText : Decimal → String) (policy : Option WalletPolicy)
    (request : UsableWalletRequest) (id : Id) (otherKeys : List String)
    (operations : List WalletOperation) :
    (∀ swept usable,
        validateAndCalculateUsableWallet policy request
          (run walletStep (.create id otherKeys) operations) numberText = .ok (swept, usable) →
        SplitLaw policy swept usable) ↔
      ∀ swept expired,
        (run walletStep (.create id otherKeys) operations).cleanExpiredPromotionalCredits
          request.now = .ok (swept, expired) → SplitAgrees policy request swept := by
  have hsound : Everywhere walletStep WalletAccount.Sound (.create id otherKeys) operations :=
    everywhere_of_step (fun wallet operation h => h.step operation) (sound_create id otherKeys)
  unfold validateAndCalculateUsableWallet
  constructor
  · intro hlaw swept expired hclean
    rw [hclean] at hlaw
    exact ((hsound.last.expire hclean).splitLaw_iff numberText).mp (hlaw swept _ rfl)
  · intro hagrees swept usable husable
    cases hclean : (run walletStep (.create id otherKeys)
        operations).cleanExpiredPromotionalCredits request.now with
    | error e =>
      rw [hclean] at husable
      cases husable
    | ok result =>
      rw [hclean] at husable
      cases husable
      exact ((hsound.last.expire hclean).splitLaw_iff numberText).mpr
        (hagrees result.1 result.2 hclean)

theorem hasDigits_rupees {paise : ℤ} (h : |paise| < 10 ^ 17) : HasDigits 17 (rupees paise) := by
  refine ⟨paise, -2, ?_, h⟩
  rw [rupees]
  norm_num [div_eq_mul_inv]

/-- A number with two decimals. -/
def JsNumber.ofPaise (paise : ℤ) (h : |paise| < 10 ^ 17) : JsNumber where
  value := rupees paise
  hasDigits := hasDigits_rupees h

def cappedPolicy : WalletPolicy where
  isEnabled := true
  maxWalletBalanceCap := 100000 * 100
  maxWalletPaymentPercentage := .ofPaise 10000 (by decide)
  minBookingAmountForWalletUse := .ofPaise 0 (by decide)
  maxPromoCreditPerBooking := .ofPaise 5000 (by decide)
  maxDailyWalletUsage := .ofPaise 5000000 (by decide)

def hundredRequest : UsableWalletRequest where
  bookingAmount := .ofPaise 10000 (by decide)
  requestedWalletAmount := none
  now := 5000
  startOfToday := 0
  createdAt _ := 0

def mixedDeposits : List WalletOperation :=
  [.call (.creditWallet none 10000 .referralReward .promotional "REFERRAL" none "promo" none),
    .call (.creditWallet none 10000 .customerDeposit .realMoney "PAYMENT" none "deposit" none)]

/-- The answer takes 50.00 from promotional money, the debit 100.00. -/
theorem usable_split_differs :
    ¬ ∀ (numberText : Decimal → String) (policy : Option WalletPolicy)
      (request : UsableWalletRequest) (id : Id) (otherKeys : List String)
      (operations : List WalletOperation) (swept : WalletAccount) (usable : UsableWallet),
        validateAndCalculateUsableWallet policy request
          (run walletStep (.create id otherKeys) operations) numberText = .ok (swept, usable) →
        SplitLaw policy swept usable := by
  intro h
  have hlaw := h (fun _ => "") (some cappedPolicy) hundredRequest "wallet" [] mixedDeposits _ _ rfl
  have hsound : (run walletStep (.create "wallet" []) mixedDeposits).Sound :=
    (everywhere_of_step (fun wallet operation h => h.step operation)
      (sound_create "wallet" [])).last
  obtain ⟨limit, hmem, -, -, -, hcap, -⟩ := (hsound.splitLaw_iff fun _ => "").mp hlaw
  rcases hcap with hcap | hcap
  · have habove : ∀ limit ∈ spendingLimits (some cappedPolicy) hundredRequest
        (run walletStep (.create "wallet" []) mixedDeposits),
        ¬ limit ≤ WalletPolicy.maxPromoAllowed (some cappedPolicy) := by decide +kernel
    exact habove limit hmem hcap
  · revert hcap
    decide +kernel

end CarRental
