import CarRental.Wallets.SweepOrder

/-!
# What an expiry takes

A sweep takes the promotional credits that have run out, at the amounts they were granted
with, less what earlier sweeps took and at most the promotional money there is.  Its entry
has a key of the wallet and the day.

* What was spent of an expired credit is not subtracted, so a sweep takes it from newer
  credits (`expiry_keeps_unexpired_iff`).
* A credit that runs out after the day's sweep makes the next sweep of that day throw, and
  what a sweep could not take is left to the next one (`sweeps_settle_iff`).

`promoSpent` is what is neither in the balance nor in an expiration.  Both laws rest on how
a sweep ends on a wallet whose entries are all of positive amounts (`Regular.clean_cases`).
-/

namespace CarRental

open Runs Totals

namespace WalletAccount

variable {wallet wallet' : WalletAccount} {amount now : ℤ}

/-! ## Promotional money -/

def isPromoCredit (row : WalletLedgerRow) : Bool :=
  row.bucket = .promotional && row.direction = .credit

/-- A promotional credit that has not run out by `now`. -/
def isUnexpired (now : ℤ) (row : WalletLedgerRow) : Bool :=
  isPromoCredit row && !row.expiresAt.any fun expiresAt => expiresAt < now

/-- A debit that spent promotional money. -/
def isPromoDebit (row : WalletLedgerRow) : Bool :=
  row.bucket = .promotional && row.direction = .debit && !isExpiration row

def unexpiredTotal (wallet : WalletAccount) (now : ℤ) : ℤ :=
  total (isUnexpired now) (fun row => row.amount) wallet.ledger

/-- What was taken out of promotional money other than by a sweep. -/
def promoSpent (wallet : WalletAccount) : ℤ :=
  total isPromoCredit (fun row => row.amount) wallet.ledger - wallet.alreadyExpired -
    wallet.promoBalance

theorem promoBalance_eq (wallet : WalletAccount) (now : ℤ) :
    wallet.promoBalance = expiredTotal (wallet.expiredEntries now) + wallet.unexpiredTotal now -
      wallet.alreadyExpired - wallet.promoSpent := by
  have hsplit : total isPromoCredit (fun row => row.amount) wallet.ledger =
      total (isExpired now) (fun row => row.amount) wallet.ledger + wallet.unexpiredTotal now := by
    apply total_split
    · intro row
      unfold isExpired isUnexpired isPromoCredit
      cases row.expiresAt.any fun expiresAt => decide (expiresAt < now) <;> simp
    · intro row
      unfold isExpired isUnexpired isPromoCredit
      cases row.expiresAt.any fun expiresAt => decide (expiresAt < now) <;> simp
  have hexpired : expiredTotal (wallet.expiredEntries now) =
      total (isExpired now) (fun row => row.amount) wallet.ledger := rfl
  rw [promoSpent, hsplit, hexpired]
  omega

/-! ## Entries of positive amounts -/

structure Regular (wallet : WalletAccount) : Prop extends Sound wallet where
  positive : ∀ row ∈ wallet.ledger, 0 < row.amount

theorem regular_create (id : Id) (otherKeys : List String) : (create id otherKeys).Regular where
  toSound := sound_create id otherKeys
  positive := by simp [create]

theorem walletStep_ledger (wallet : WalletAccount) (operation : WalletOperation) :
    (walletStep wallet operation).ledger = wallet.ledger ∨
      ∃ row, 0 < row.amount ∧ (walletStep wallet operation).ledger = wallet.ledger ++ [row] := by
  cases operation with
  | call call =>
    rcases call.commit_cases wallet with heq | ⟨row, real, promo, hamount, -, -, heq⟩
    · exact .inl (congrArg ledger heq)
    · exact .inr ⟨row, hamount, congrArg ledger heq⟩
  | cleanExpiredPromotionalCredits now =>
    simp only [walletStep]
    cases hclean : wallet.cleanExpiredPromotionalCredits now with
    | error e => exact .inl rfl
    | ok result =>
      rcases cleanExpiredPromotionalCredits_cases hclean with
        ⟨heq, -⟩ | ⟨hpositive, -, -, heq⟩
      · exact .inl (congrArg ledger heq)
      · exact .inr ⟨_, hpositive, congrArg ledger heq⟩
  | reconcileWallet =>
    apply Or.inl
    simp only [walletStep, reconcileWallet]
    split <;> rfl
  | otherEntry idempotencyKey => exact .inl rfl

theorem Regular.step (h : wallet.Regular) (operation : WalletOperation) :
    (walletStep wallet operation).Regular where
  toSound := h.toSound.step operation
  positive := by
    intro posted hposted
    rcases walletStep_ledger wallet operation with heq | ⟨row, hamount, heq⟩
    · exact h.positive posted (heq ▸ hposted)
    · rw [heq] at hposted
      rcases List.mem_append.mp hposted with hold | hnew
      · exact h.positive posted hold
      · rwa [List.mem_singleton.mp hnew]

theorem alreadyExpired_le_step (wallet : WalletAccount) (operation : WalletOperation) :
    wallet.alreadyExpired ≤ (walletStep wallet operation).alreadyExpired := by
  unfold alreadyExpired
  rcases walletStep_ledger wallet operation with heq | ⟨row, hamount, heq⟩
  · rw [heq]
  · rw [heq, total_concat]
    split <;> omega

theorem Regular.alreadyExpired_nonneg (h : wallet.Regular) : 0 ≤ wallet.alreadyExpired :=
  total_nonneg fun row hrow => (h.positive row hrow).le

/-! ## How a sweep ends -/

theorem Regular.clean_cases (h : wallet.Regular) (now : ℤ) :
    wallet.expiryAmount now ≤ 0 ∧ wallet.cleanExpiredPromotionalCredits now = .ok (wallet, 0) ∨
      0 < wallet.expiryAmount now ∧ wallet.KeyUsed (expiryKey wallet.id now) ∧
          wallet.cleanExpiredPromotionalCredits now =
            .error (.internal "Unique constraint failed on idempotencyKey") ∨
        0 < wallet.expiryAmount now ∧ ¬ wallet.KeyUsed (expiryKey wallet.id now) ∧
          wallet.cleanExpiredPromotionalCredits now =
            .ok (wallet.post
              (expiryRow wallet.id now (wallet.expiryAmount now) wallet.availableBalance)
              wallet.realBalance (wallet.promoBalance - wallet.expiryAmount now),
                wallet.expiryAmount now) := by
  by_cases hpositive : 0 < wallet.expiryAmount now
  · have hboth := lt_min_iff.mp hpositive
    have hexpired : wallet.expiredEntries now ≠ [] := by
      intro hnil
      have hnonneg := h.alreadyExpired_nonneg
      have htotal : expiredTotal (wallet.expiredEntries now) = 0 := by rw [hnil]; rfl
      omega
    by_cases hused : wallet.KeyUsed (expiryKey wallet.id now)
    · refine .inr (.inl ⟨hpositive, hused, ?_⟩)
      have hcreate : wallet.createEntry
          (expiryRow wallet.id now (wallet.expiryAmount now) wallet.availableBalance) =
            .error (.internal "Unique constraint failed on idempotencyKey") := if_pos hused
      unfold cleanExpiredPromotionalCredits
      simp only
      rw [if_neg hexpired, if_neg (not_le.mpr hboth.2), ← expiryAmount, if_pos hpositive, hcreate,
        Except.bind]
    · exact .inr (.inr ⟨hpositive, hused, h.clean_eq_post hexpired hpositive hused⟩)
  · refine .inl ⟨not_lt.mp hpositive, clean_of_idle (.inr ?_)⟩
    rcases min_le_iff.mp (not_lt.mp hpositive) with htaken | hpromo
    · exact .inr (by omega)
    · exact .inl hpromo

/-! ## Newer credits -/

/-- Every debit of promotional money came before every credit that has not run out. -/
def SpentBeforeGranted (wallet : WalletAccount) (now : ℤ) : Prop :=
  wallet.ledger.Pairwise fun earlier later =>
    isUnexpired now earlier = true → isPromoDebit later = false

instance (wallet : WalletAccount) (now : ℤ) : Decidable (wallet.SpentBeforeGranted now) :=
  inferInstanceAs (Decidable (List.Pairwise _ _))

/-- The sweep leaves the money of the credits that have not run out. -/
def KeepsUnexpired (wallet : WalletAccount) (now : ℤ) : Prop :=
  wallet.unexpiredTotal now ≤
    (walletStep wallet (.cleanExpiredPromotionalCredits now)).promoBalance

instance (wallet : WalletAccount) (now : ℤ) : Decidable (wallet.KeepsUnexpired now) :=
  inferInstanceAs (Decidable (_ ≤ _))

/-- No credit is left to run out, or what was spent and expired is no more than what has run
out and, unless the day's key is used, nothing was spent. -/
def SparesUnexpired (wallet : WalletAccount) (now : ℤ) : Prop :=
  wallet.unexpiredTotal now ≤ 0 ∨
    wallet.promoSpent + wallet.alreadyExpired ≤ expiredTotal (wallet.expiredEntries now) ∧
      (wallet.promoSpent ≤ 0 ∨ wallet.KeyUsed (expiryKey wallet.id now))

instance (wallet : WalletAccount) (now : ℤ) : Decidable (wallet.SparesUnexpired now) :=
  inferInstanceAs (Decidable (_ ∨ _ ∧ (_ ∨ _)))

theorem Regular.keepsUnexpired_iff (h : wallet.Regular) (now : ℤ) :
    wallet.KeepsUnexpired now ↔ wallet.SparesUnexpired now := by
  have hpromo := wallet.promoBalance_eq now
  have hnonneg := h.promo_nonneg
  have hamount : wallet.expiryAmount now =
      min (expiredTotal (wallet.expiredEntries now) - wallet.alreadyExpired)
        wallet.promoBalance := rfl
  unfold KeepsUnexpired SparesUnexpired
  rw [walletStep]
  rcases h.clean_cases now with ⟨hnothing, heq⟩ | ⟨hpositive, hused, heq⟩ |
    ⟨hpositive, hfresh, heq⟩
  · rw [heq]
    show wallet.unexpiredTotal now ≤ wallet.promoBalance ↔ _
    constructor
    · intro hle
      rcases min_le_iff.mp (hamount ▸ hnothing) with htaken | hnone
      · exact .inr ⟨by omega, .inl (by omega)⟩
      · exact .inl (by omega)
    · rintro (hgone | ⟨hle, -⟩) <;> omega
  · rw [heq]
    show wallet.unexpiredTotal now ≤ wallet.promoBalance ↔ _
    constructor
    · exact fun hle => .inr ⟨by omega, .inr hused⟩
    · rintro (hgone | ⟨hle, -⟩) <;> omega
  · rw [heq]
    show wallet.unexpiredTotal now ≤ wallet.promoBalance - wallet.expiryAmount now ↔ _
    have hboth := lt_min_iff.mp (hamount ▸ hpositive)
    constructor
    · intro hle
      rcases min_choice (expiredTotal (wallet.expiredEntries now) - wallet.alreadyExpired)
        wallet.promoBalance with htaken | hall
      · exact .inr ⟨by omega, .inl (by omega)⟩
      · exact .inl (by omega)
    · rintro (hgone | ⟨hle, hspent⟩)
      · omega
      · have hunspent := hspent.resolve_right hfresh
        omega

end WalletAccount

open WalletAccount

/-- After any history, a sweep spares the credits that have not run out exactly when there
are none, or nothing was spent that it could take again. -/
theorem expiry_keeps_unexpired_iff (id : Id) (otherKeys : List String)
    (operations : List WalletOperation) (now : ℤ) :
    ((run walletStep (.create id otherKeys) operations).SpentBeforeGranted now →
        (run walletStep (.create id otherKeys) operations).KeepsUnexpired now) ↔
      ((run walletStep (.create id otherKeys) operations).SpentBeforeGranted now →
        (run walletStep (.create id otherKeys) operations).SparesUnexpired now) := by
  have hregular : Everywhere walletStep Regular (.create id otherKeys) operations :=
    everywhere_of_step (fun wallet operation h => h.step operation) (regular_create id otherKeys)
  rw [hregular.last.keepsUnexpired_iff now]

/-- Promotional money of 100.00. -/
def promoCredit (key : String) (expiresAt : Option ℤ) : WalletOperation :=
  .call (.creditWallet none 10000 .referralReward .promotional "REFERRAL" none key expiresAt)

def checkoutDebit (amount : ℤ) (key : String) : WalletOperation :=
  .call (.debitWallet none amount .checkoutDebit "BOOKING" none key)

/-- 100.00 that run out are spent before another 100.00 are granted. -/
def spentBeforeExpiry : List WalletOperation :=
  [promoCredit "first" (some 1000), checkoutDebit 10000 "booking", promoCredit "second" none]

example : ¬ (run walletStep (.create "wallet" []) spentBeforeExpiry).SparesUnexpired 2000 := by
  decide +kernel

/-- The sweep takes the second credit for the first one, which was spent. -/
theorem expiry_takes_newer_credit :
    ¬ ∀ (id : Id) (otherKeys : List String) (operations : List WalletOperation) (now : ℤ),
      (run walletStep (.create id otherKeys) operations).SpentBeforeGranted now →
        (run walletStep (.create id otherKeys) operations).KeepsUnexpired now := by
  intro h
  have hkept := h "wallet" [] spentBeforeExpiry 2000 (by decide +kernel)
  exact absurd hkept (by decide +kernel)

/-! ## Repeated sweeps -/

/-- A wallet and the expired entries that its last sweep saw. -/
structure SweptWallet where
  wallet : WalletAccount
  seen : Option (List WalletLedgerRow)

def sweptStep (s : SweptWallet) (operation : WalletOperation) : SweptWallet where
  wallet := walletStep s.wallet operation
  seen :=
    match operation with
    | .cleanExpiredPromotionalCredits now => some (s.wallet.expiredEntries now)
    | _ => s.seen

namespace SweptWallet

variable {s : SweptWallet}

def create (id : Id) (otherKeys : List String) : SweptWallet := ⟨.create id otherKeys, none⟩

/-- The sweep succeeds, what has run out is deducted by then, once, and when nothing ran out
since the last sweep it changes nothing. -/
def SweepSettles (s : SweptWallet) : WalletOperation → Prop
  | .cleanExpiredPromotionalCredits now =>
    match s.wallet.cleanExpiredPromotionalCredits now with
    | .error _ => False
    | .ok (wallet', _) =>
      wallet'.alreadyExpired = expiredTotal (wallet'.expiredEntries now) ∧
        ∀ rows, s.seen = some rows → (s.wallet.expiredEntries now).Sublist rows →
          wallet' = s.wallet
  | _ => True

/-- All that has run out is deducted already, or the rest is still in the wallet and no sweep
of the day has taken anything. -/
def CanSettle (s : SweptWallet) : WalletOperation → Prop
  | .cleanExpiredPromotionalCredits now =>
    let expired := expiredTotal (s.wallet.expiredEntries now)
    s.wallet.alreadyExpired = expired ∨
      s.wallet.alreadyExpired < expired ∧
        expired ≤ s.wallet.alreadyExpired + s.wallet.promoBalance ∧
          ¬ s.wallet.KeyUsed (expiryKey s.wallet.id now)
  | _ => True

instance (s : SweptWallet) (operation : WalletOperation) : Decidable (s.CanSettle operation) :=
  match operation with
  | .cleanExpiredPromotionalCredits _ => inferInstanceAs (Decidable (_ ∨ _ ∧ _ ∧ ¬ _))
  | .call _ => .isTrue trivial
  | .reconcileWallet => .isTrue trivial
  | .otherEntry _ => .isTrue trivial

/-- What the last sweep saw is deducted. -/
structure Settled (s : SweptWallet) : Prop where
  regular : s.wallet.Regular
  seen_nonneg : ∀ rows, s.seen = some rows → ∀ row ∈ rows, 0 ≤ row.amount
  seen_le : ∀ rows, s.seen = some rows → expiredTotal rows ≤ s.wallet.alreadyExpired

theorem settled_create (id : Id) (otherKeys : List String) : (create id otherKeys).Settled where
  regular := regular_create id otherKeys
  seen_nonneg := fun rows hrows => absurd hrows (Option.some_ne_none rows).symm
  seen_le := fun rows hrows => absurd hrows (Option.some_ne_none rows).symm

theorem expiredEntries_post_expiryRow (wallet : WalletAccount) (now amount available real promo : ℤ) :
    (wallet.post (expiryRow wallet.id now amount available) real promo).expiredEntries now =
      wallet.expiredEntries now := by
  have hrow : isExpired now (expiryRow wallet.id now amount available) = false := by
    simp [isExpired, expiryRow]
  simp [expiredEntries, post, List.filter_append, hrow]

theorem alreadyExpired_post_expiryRow (wallet : WalletAccount) (now amount available real promo : ℤ) :
    (wallet.post (expiryRow wallet.id now amount available) real promo).alreadyExpired =
      wallet.alreadyExpired + amount := by
  have hrow : isExpiration (expiryRow wallet.id now amount available) = true := by
    simp [isExpiration, expiryRow]
  simp only [alreadyExpired, post, total_concat, hrow, if_true]
  rfl

theorem Settled.deducted (h : s.Settled) {now : ℤ}
    (hcan : s.CanSettle (.cleanExpiredPromotionalCredits now)) :
    expiredTotal (s.wallet.expiredEntries now) ≤
      (walletStep s.wallet (.cleanExpiredPromotionalCredits now)).alreadyExpired := by
  have hamount : s.wallet.expiryAmount now =
      min (expiredTotal (s.wallet.expiredEntries now) - s.wallet.alreadyExpired)
        s.wallet.promoBalance := rfl
  rcases hcan with hdone | ⟨hlt, hle, hfresh⟩
  · rw [← hdone]
    exact alreadyExpired_le_step _ _
  · rw [min_eq_left (by omega)] at hamount
    rcases h.regular.clean_cases now with ⟨hnothing, -⟩ | ⟨-, hused, -⟩ | ⟨-, -, heq⟩
    · omega
    · exact absurd hused hfresh
    · rw [walletStep, heq]
      simp only
      rw [alreadyExpired_post_expiryRow]
      omega

theorem Settled.step (h : s.Settled) {operation : WalletOperation} (hcan : s.CanSettle operation) :
    (sweptStep s operation).Settled where
  regular := h.regular.step operation
  seen_nonneg := by
    intro rows hrows
    cases operation with
    | cleanExpiredPromotionalCredits now =>
      cases hrows
      exact fun row hrow => (h.regular.positive row (List.mem_of_mem_filter hrow)).le
    | call call => exact h.seen_nonneg rows hrows
    | reconcileWallet => exact h.seen_nonneg rows hrows
    | otherEntry key => exact h.seen_nonneg rows hrows
  seen_le := by
    intro rows hrows
    cases operation with
    | cleanExpiredPromotionalCredits now =>
      cases hrows
      exact h.deducted hcan
    | call call => exact (h.seen_le rows hrows).trans (alreadyExpired_le_step _ _)
    | reconcileWallet => exact (h.seen_le rows hrows).trans (alreadyExpired_le_step _ _)
    | otherEntry key => exact (h.seen_le rows hrows).trans (alreadyExpired_le_step _ _)

theorem Settled.expiredTotal_le (h : s.Settled) {now : ℤ} {rows : List WalletLedgerRow}
    (hrows : s.seen = some rows) (hsub : (s.wallet.expiredEntries now).Sublist rows) :
    expiredTotal (s.wallet.expiredEntries now) ≤ s.wallet.alreadyExpired := by
  refine le_trans ?_ (h.seen_le rows hrows)
  apply (hsub.map _).sum_le_sum
  intro amount hamount
  obtain ⟨row, hrow, rfl⟩ := List.mem_map.mp hamount
  exact h.seen_nonneg rows hrows row hrow

theorem Settled.sweepSettles_iff (h : s.Settled) (operation : WalletOperation) :
    s.SweepSettles operation ↔ s.CanSettle operation := by
  cases operation with
  | call call => exact Iff.rfl
  | reconcileWallet => exact Iff.rfl
  | otherEntry key => exact Iff.rfl
  | cleanExpiredPromotionalCredits now =>
    have hamount : s.wallet.expiryAmount now =
        min (expiredTotal (s.wallet.expiredEntries now) - s.wallet.alreadyExpired)
          s.wallet.promoBalance := rfl
    unfold SweepSettles CanSettle
    rcases h.regular.clean_cases now with ⟨hnothing, heq⟩ | ⟨hpositive, hused, heq⟩ |
      ⟨hpositive, hfresh, heq⟩
    · simp only [heq]
      constructor
      · exact fun hsettles => .inl hsettles.1
      · rintro (hdone | ⟨hlt, hle, -⟩)
        · exact ⟨hdone, fun _ _ _ => trivial⟩
        · rw [min_eq_left (by omega)] at hamount
          omega
    · simp only [heq]
      have hboth := lt_min_iff.mp (hamount ▸ hpositive)
      constructor
      · exact False.elim
      · rintro (hdone | ⟨-, -, hfresh⟩)
        · omega
        · exact hfresh hused
    · simp only [heq]
      have hboth := lt_min_iff.mp (hamount ▸ hpositive)
      rw [alreadyExpired_post_expiryRow, expiredEntries_post_expiryRow]
      constructor
      · intro hsettles
        have hle := s.wallet.expiryAmount_le now
        have hdeducted := hsettles.1
        exact .inr ⟨by omega, by omega, hfresh⟩
      · rintro (hdone | ⟨hlt, hle, -⟩)
        · omega
        · rw [min_eq_left (by omega)] at hamount
          refine ⟨by omega, fun rows hrows hsub => ?_⟩
          have hdeducted := h.expiredTotal_le hrows hsub
          omega

end SweptWallet

/-- All sweeps of a history succeed, deduct what has run out once and change nothing when
nothing is new, exactly when each of them can settle what is left. -/
theorem sweeps_settle_iff (id : Id) (otherKeys : List String) (operations : List WalletOperation) :
    Along sweptStep SweptWallet.SweepSettles (.create id otherKeys) operations ↔
      Along sweptStep SweptWallet.CanSettle (.create id otherKeys) operations :=
  along_congr_within (fun _ _ h hcan => h.step hcan)
    (fun _ operation _ h => h.sweepSettles_iff operation) (SweptWallet.settled_create id otherKeys)

/-- Two credits run out on the same day, each before one of two sweeps. -/
def sweptTwice : List WalletOperation :=
  [promoCredit "first" (some 1000), .cleanExpiredPromotionalCredits 2000,
    promoCredit "second" (some 3000), .cleanExpiredPromotionalCredits 4000]

/-- The second sweep of a day throws. -/
theorem second_sweep_throws :
    ¬ ∀ (id : Id) (otherKeys : List String) (operations : List WalletOperation),
      Along sweptStep SweptWallet.SweepSettles (.create id otherKeys) operations := by
  intro h
  have hcan : Along sweptStep SweptWallet.CanSettle (.create "wallet" []) sweptTwice :=
    (along_congr_within (fun _ _ hsettled hcan => hsettled.step hcan)
      (fun _ operation _ hsettled => hsettled.sweepSettles_iff operation)
      (SweptWallet.settled_create "wallet" [])).mp (h "wallet" [] sweptTwice)
  exact absurd hcan (by decide +kernel)

end CarRental
