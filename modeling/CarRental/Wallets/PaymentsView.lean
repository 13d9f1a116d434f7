import CarRental.Lib.Runs
import CarRental.Wallets.Account

/-!
# The wallet that payments see

The payment services work on `Wallet`, which has no buckets or dates in its entries and no keys but
its own.  Until money expires, a run of the account's operations is a run of the payments' credits
and debits on it (`account_simulated`).
-/

namespace CarRental

open Runs

inductive PaymentsCall where
  | creditWallet (amount : ℤ) (type : LedgerEntryType) (bucket : WalletBucketType)
      (referenceType : String) (referenceId : Option Id) (idempotencyKey : String)
  | debitWallet (amount : ℤ) (type : LedgerEntryType) (referenceType : String)
      (referenceId : Option Id) (idempotencyKey : String)

/-- What a call of the payment services leaves of the wallet. -/
def paymentsStep (config : PaymentConfig) (wallet : Wallet) (call : PaymentsCall) : Wallet :=
  Except.toOption (match call with
    | .creditWallet amount type bucket referenceType referenceId idempotencyKey =>
      wallet.creditWallet config amount type bucket referenceType referenceId idempotencyKey
    | .debitWallet amount type referenceType referenceId idempotencyKey =>
      wallet.debitWallet config amount type referenceType referenceId idempotencyKey) |>.getD wallet

namespace WalletAccount

variable {config : PaymentConfig} {wallet wallet' : WalletAccount}

/-- A call is under the configuration of the payments, and its key is of no other wallet.  No money
expires. -/
def SeenByPayments (config : PaymentConfig) (wallet : WalletAccount) : WalletOperation → Prop
  | .call (.creditWallet given _ _ _ _ _ idempotencyKey _)
  | .call (.debitWallet given _ _ _ _ idempotencyKey) =>
    given = walletConfig config ∧ idempotencyKey ∉ wallet.otherKeys
  | .call (.adminAdjustWallet given adminUserId _ _ _ clientNonce now) =>
    given = walletConfig config ∧
      adminAdjustKey adminUserId wallet.id clientNonce now ∉ wallet.otherKeys
  | .cleanExpiredPromotionalCredits _ => False
  | .reconcileWallet | .otherEntry _ => True

theorem run_simulated (hcap : config.maxWalletBalanceCap ≠ 0) {call : WalletCall}
    (hseen : SeenByPayments config wallet (.call call)) (h : call.run wallet = .ok wallet') :
    ∃ seen, paymentsStep config wallet.toWallet seen = wallet'.toWallet := by
  have hcredit : ∀ {amount type bucket referenceType referenceId idempotencyKey expiresAt},
      idempotencyKey ∉ wallet.otherKeys →
      creditWallet (walletConfig config) wallet amount type bucket referenceType referenceId
        idempotencyKey expiresAt = .ok wallet' →
      ∃ seen, paymentsStep config wallet.toWallet seen = wallet'.toWallet := by
    intro amount type bucket referenceType referenceId idempotencyKey expiresAt hother h
    refine ⟨.creditWallet amount type bucket referenceType referenceId idempotencyKey, ?_⟩
    rw [paymentsStep, creditWallet_toWallet hcap hother h]
    rfl
  have hdebit : ∀ {amount type referenceType referenceId idempotencyKey},
      idempotencyKey ∉ wallet.otherKeys →
      debitWallet (walletConfig config) wallet amount type referenceType referenceId
        idempotencyKey = .ok wallet' →
      ∃ seen, paymentsStep config wallet.toWallet seen = wallet'.toWallet := by
    intro amount type referenceType referenceId idempotencyKey hother h
    refine ⟨.debitWallet amount type referenceType referenceId idempotencyKey, ?_⟩
    rw [paymentsStep, debitWallet_toWallet hother h]
    rfl
  cases call with
  | creditWallet =>
    obtain ⟨rfl, hother⟩ := hseen
    exact hcredit hother h
  | debitWallet =>
    obtain ⟨rfl, hother⟩ := hseen
    exact hdebit hother h
  | adminAdjustWallet =>
    obtain ⟨rfl, hother⟩ := hseen
    rcases adminAdjustWallet_cases h with h | h
    · exact hcredit hother h
    · exact hdebit hother h

theorem walletStep_simulated (hcap : config.maxWalletBalanceCap ≠ 0) (hsound : wallet.Sound)
    {operation : WalletOperation} (hseen : SeenByPayments config wallet operation) :
    ∃ calls, run (paymentsStep config) wallet.toWallet calls =
      (walletStep wallet operation).toWallet := by
  cases operation with
  | call call =>
    rw [walletStep, WalletCall.commit]
    cases hrun : call.run wallet with
    | error e => exact ⟨[], rfl⟩
    | ok wallet' =>
      obtain ⟨seen, hcall⟩ := run_simulated hcap hseen hrun
      exact ⟨[seen], hcall⟩
  | cleanExpiredPromotionalCredits => exact hseen.elim
  | reconcileWallet => exact ⟨[], by rw [walletStep, hsound.reconcileWallet_eq, run_nil]⟩
  | otherEntry => exact ⟨[], rfl⟩

end WalletAccount

open WalletAccount in
/-- Whatever is done to the account of a sound wallet, as long as no money expires and the keys are
its own, the wallet that payments see goes through a run of their own calls. -/
theorem account_simulated {config : PaymentConfig} (hcap : config.maxWalletBalanceCap ≠ 0)
    {wallet : WalletAccount} (hsound : wallet.Sound) {operations : List WalletOperation}
    (hseen : Along walletStep (SeenByPayments config) wallet operations) :
    ∃ calls, run (paymentsStep config) wallet.toWallet calls =
      (run walletStep wallet operations).toWallet := by
  obtain ⟨calls, -, hcalls⟩ := hseen.simulated
    (R := fun account seen => account.Sound ∧ seen = account.toWallet)
    (fun account _ operation ⟨haccount, hview⟩ hoperation =>
      (walletStep_simulated hcap haccount hoperation).imp fun _ h =>
        ⟨haccount.step operation, hview ▸ h⟩) ⟨hsound, rfl⟩
  exact ⟨calls, hcalls⟩

/-- A referral reward, an entry of another wallet and a checkout. -/
theorem first_checkout_simulated :
    let operations : List WalletOperation :=
      [.call (.creditWallet (some ⟨true, 10000000⟩) 5000 .referralReward .promotional "PROMO" none
          "welcome" (some 100)),
        .otherEntry "other",
        .call (.debitWallet (some ⟨true, 10000000⟩) 2000 .checkoutDebit "BOOKING" (some "booking")
          "checkout")]
    ∃ calls, run (paymentsStep liveConfig) (WalletAccount.create "wallet" []).toWallet calls =
      (run walletStep (WalletAccount.create "wallet" []) operations).toWallet :=
  account_simulated (by decide) (WalletAccount.sound_create "wallet" [])
    ⟨⟨rfl, by simp [WalletAccount.create]⟩, trivial, ⟨rfl, by decide⟩, trivial⟩

end CarRental
