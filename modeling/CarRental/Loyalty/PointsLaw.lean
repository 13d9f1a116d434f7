import CarRental.Loyalty.Points

/-!
# The books of the loyalty accounts

An account's balance should be nonnegative and the sum of its history, each row should tell the
difference of its balances, and the tier should be that of the lifetime points.

A reversal writes the points that were earned, also where the balance is clamped at zero because
they are spent.  So the law holds along a run exactly if each reversal meets a balance that
covers it (`loyalty_law_iff`).

## Strategy

Every operation opens an account, or finds it, and posts one row.  `post_law_iff` says when the
posting keeps the law, as an equation of the four numbers of the row; the operations then differ
only in their arithmetic.
-/

namespace CarRental

open KeyedRows Runs Totals

/-! ## The law -/

/-- The points with the sign of what the row did. -/
def LoyaltyTransaction.signedPoints (transaction : LoyaltyTransaction) : ℤ :=
  match transaction.type with
  | .tripCompletionEarned => transaction.points
  | .redemptionToWallet | .cancellationReversal => -transaction.points
  | .adminAdjustment =>
    if transaction.balanceBefore ≤ transaction.balanceAfter then transaction.points
    else -transaction.points

/-- The row tells the difference of its balances. -/
def LoyaltyTransaction.TellsDifference (transaction : LoyaltyTransaction) : Prop :=
  transaction.points = |transaction.balanceAfter - transaction.balanceBefore|

instance (transaction : LoyaltyTransaction) : Decidable transaction.TellsDifference :=
  inferInstanceAs (Decidable (_ = _))

/-- The signed points of an account's history. -/
def historyOf (store : LoyaltyStore) (accountId : Id) : ℤ :=
  total (fun transaction => transaction.accountId = accountId)
    LoyaltyTransaction.signedPoints store.transactions

def LoyaltyAccount.InOrder (store : LoyaltyStore) (account : LoyaltyAccount) : Prop :=
  0 ≤ account.pointsBalance ∧ account.pointsBalance = historyOf store account.id ∧
    account.tier = determineTierForLifetimePoints account.lifetimePoints

instance (store : LoyaltyStore) (account : LoyaltyAccount) : Decidable (account.InOrder store) :=
  inferInstanceAs (Decidable (_ ∧ _ ∧ _))

def LoyaltyLaw (store : LoyaltyStore) : Prop :=
  (∀ account ∈ store.accounts, account.InOrder store) ∧
    ∀ transaction ∈ store.transactions, transaction.TellsDifference

instance (store : LoyaltyStore) : Decidable (LoyaltyLaw store) :=
  inferInstanceAs (Decidable ((∀ account ∈ store.accounts, _) ∧ ∀ transaction ∈ store.transactions, _))

/-- A reversal meets a balance that covers it. -/
def CoversReversal (store : LoyaltyStore) : LoyaltyAction → Prop
  | .bookingCancelled bookingId =>
    match reversalOf store bookingId with
    | .ok (earning, account) => earning.points ≤ account.pointsBalance
    | .error _ => True
  | _ => True

/-! ## What holds in every state -/

/-- Accounts have ids of their own, rows belong to accounts, and what is stored fits. -/
structure SoundLoyalty (store : LoyaltyStore) : Prop where
  ids : (store.accounts.map LoyaltyAccount.id).Nodup
  owned : ∀ transaction ∈ store.transactions,
    transaction.accountId ∈ store.accounts.map LoyaltyAccount.id
  balances : ∀ account ∈ store.accounts,
    fitsInt account.pointsBalance = true ∧ fitsInt account.lifetimePoints = true
  points : ∀ transaction ∈ store.transactions, fitsInt transaction.points = true

section Laws

variable {store : LoyaltyStore}

theorem historyOf_append (transaction : LoyaltyTransaction) (accounts : List LoyaltyAccount)
    (accountId : Id) :
    historyOf ⟨accounts, store.transactions ++ [transaction]⟩ accountId =
      historyOf store accountId +
        if transaction.accountId = accountId then transaction.signedPoints else 0 := by
  rw [historyOf, total_concat, historyOf]
  simp only [decide_eq_true_eq]

theorem historyOf_unknown (h : SoundLoyalty store) {accountId : Id}
    (hnew : accountId ∉ store.accounts.map LoyaltyAccount.id) : historyOf store accountId = 0 := by
  have hnone : store.transactions.filter (fun transaction => transaction.accountId = accountId) =
      [] := by
    rw [List.filter_eq_nil_iff]
    intro transaction htransaction heq
    exact hnew (of_decide_eq_true heq ▸ h.owned transaction htransaction)
  rw [historyOf, total, hnone]
  rfl

/-! ### Opening an account -/

variable {userId newId : Id} {opened : LoyaltyStore} {account : LoyaltyAccount}

theorem getOrCreate_cases (h : store.getOrCreate userId newId = some (opened, account)) :
    opened.transactions = store.transactions ∧ account ∈ opened.accounts ∧
      (opened = store ∨
        account = ⟨newId, userId, .bronze, 0, 0⟩ ∧
          newId ∉ store.accounts.map LoyaltyAccount.id ∧
          opened.accounts = store.accounts ++ [account]) := by
  unfold LoyaltyStore.getOrCreate at h
  split at h
  next found hfind =>
    cases h
    exact ⟨rfl, List.mem_of_find?_eq_some hfind, .inl rfl⟩
  · split at h
    · cases h
    next hnew =>
      cases h
      exact ⟨rfl, List.mem_append_right _ (List.mem_singleton_self _), .inr ⟨rfl, hnew, rfl⟩⟩

theorem getOrCreate_sound (h : SoundLoyalty store)
    (hopen : store.getOrCreate userId newId = some (opened, account)) : SoundLoyalty opened := by
  obtain ⟨htransactions, -, rfl | ⟨rfl, hnew, haccounts⟩⟩ := getOrCreate_cases hopen
  · exact h
  · constructor
    · rw [haccounts, List.map_append, List.nodup_append]
      refine ⟨h.ids, List.nodup_singleton _, fun a ha b hb heq => hnew ?_⟩
      have hlast : b = newId := List.mem_singleton.mp hb
      rwa [← hlast, ← heq]
    · intro transaction htransaction
      rw [htransactions] at htransaction
      rw [haccounts, List.map_append]
      exact List.mem_append_left _ (h.owned transaction htransaction)
    · intro account haccount
      rw [haccounts] at haccount
      rcases List.mem_append.mp haccount with hold | hlast
      · exact h.balances account hold
      · have hzero : fitsInt 0 = true := by decide
        rw [List.mem_singleton.mp hlast]
        exact ⟨hzero, hzero⟩
    · rw [htransactions]
      exact h.points

theorem getOrCreate_law (h : SoundLoyalty store) (hlaw : LoyaltyLaw store)
    (hopen : store.getOrCreate userId newId = some (opened, account)) : LoyaltyLaw opened := by
  obtain ⟨htransactions, -, rfl | ⟨rfl, hnew, haccounts⟩⟩ := getOrCreate_cases hopen
  · exact hlaw
  · have hhistory : ∀ accountId, historyOf opened accountId = historyOf store accountId := by
      intro accountId
      rw [historyOf, htransactions, historyOf]
    constructor
    · intro account haccount
      rw [haccounts] at haccount
      rw [LoyaltyAccount.InOrder, hhistory]
      rcases List.mem_append.mp haccount with hold | hlast
      · exact hlaw.1 account hold
      · have hbronze : determineTierForLifetimePoints 0 = .bronze := by decide
        rw [List.mem_singleton.mp hlast]
        exact ⟨le_refl _, (historyOf_unknown h hnew).symm, hbronze.symm⟩
    · rw [htransactions]
      exact hlaw.2

/-! ### Posting a row -/

variable {account account' : LoyaltyAccount} {transaction : LoyaltyTransaction}

variable {posted : LoyaltyStore}

theorem post_eq_some (h : store.post account' transaction = some posted) :
    posted = ⟨updateKey LoyaltyAccount.id account'.id (fun _ => account') store.accounts,
        store.transactions ++ [transaction]⟩ ∧
      fitsInt account'.pointsBalance = true ∧ fitsInt account'.lifetimePoints = true ∧
      fitsInt transaction.points = true := by
  unfold LoyaltyStore.post at h
  split at h
  next hfits =>
    cases h
    exact ⟨rfl, hfits.1, hfits.2.1, hfits.2.2.1⟩
  · cases h

theorem mem_post {other : LoyaltyAccount} (haccount : account ∈ store.accounts)
    (hid : account'.id = account.id) :
    other ∈ updateKey LoyaltyAccount.id account'.id (fun _ => account') store.accounts ↔
      other = account' ∨ other ∈ store.accounts ∧ other.id ≠ account.id := by
  rw [mem_updateKey, hid]
  constructor
  · rintro (⟨row, -, -, rfl⟩ | hother)
    · exact .inl rfl
    · exact .inr hother
  · rintro (rfl | hother)
    · exact .inl ⟨account, haccount, rfl, rfl⟩
    · exact .inr hother

theorem post_sound (h : SoundLoyalty store) (haccount : account ∈ store.accounts)
    (hid : account'.id = account.id) (howner : transaction.accountId = account.id)
    (hpost : store.post account' transaction = some posted) : SoundLoyalty posted := by
  obtain ⟨rfl, hbalance, hlifetime, hpoints⟩ := post_eq_some hpost
  have hids : (updateKey LoyaltyAccount.id account'.id (fun _ => account') store.accounts).map
      LoyaltyAccount.id = store.accounts.map LoyaltyAccount.id := by
    rw [updateKey, List.map_map]
    refine List.map_congr_left fun other _ => ?_
    simp only [Function.comp]
    split
    next heq => exact heq.symm
    · rfl
  constructor
  · rw [hids]
    exact h.ids
  · intro row hrow
    rw [hids]
    rcases List.mem_append.mp hrow with hold | hlast
    · exact h.owned row hold
    · rw [List.mem_singleton.mp hlast, howner]
      exact List.mem_map_of_mem haccount
  · intro other hother
    rcases (mem_post haccount hid).mp hother with rfl | ⟨hold, -⟩
    · exact ⟨hbalance, hlifetime⟩
    · exact h.balances other hold
  · intro row hrow
    rcases List.mem_append.mp hrow with hold | hlast
    · exact h.points row hold
    · rwa [List.mem_singleton.mp hlast]

theorem post_law_iff (h : LoyaltyLaw store) (haccount : account ∈ store.accounts)
    (hid : account'.id = account.id) (howner : transaction.accountId = account.id)
    (hpost : store.post account' transaction = some posted) :
    LoyaltyLaw posted ↔
      0 ≤ account'.pointsBalance ∧
        account'.pointsBalance = account.pointsBalance + transaction.signedPoints ∧
        account'.tier = determineTierForLifetimePoints account'.lifetimePoints ∧
        transaction.TellsDifference := by
  obtain ⟨rfl, -, -, -⟩ := post_eq_some hpost
  have hsum := (h.1 account haccount).2.1
  -- the new row is the last of its account's history
  have hhistory : historyOf ⟨updateKey LoyaltyAccount.id account'.id (fun _ => account')
      store.accounts, store.transactions ++ [transaction]⟩ account'.id =
      account.pointsBalance + transaction.signedPoints := by
    rw [historyOf_append, hid, if_pos howner, hsum]
  constructor
  · rintro ⟨haccounts, hrows⟩
    obtain ⟨hnonneg, hbalance, htier⟩ := haccounts account' ((mem_post haccount hid).mpr (.inl rfl))
    rw [hhistory] at hbalance
    exact ⟨hnonneg, hbalance, htier, hrows transaction
      (List.mem_append_right _ (List.mem_singleton_self _))⟩
  · rintro ⟨hnonneg, hbalance, htier, hrow⟩
    constructor
    · intro other hother
      rcases (mem_post haccount hid).mp hother with rfl | ⟨hold, hne⟩
      · exact ⟨hnonneg, hbalance.trans hhistory.symm, htier⟩
      -- the history of another account has no new row
      · obtain ⟨hnonneg', hbalance', htier'⟩ := h.1 other hold
        refine ⟨hnonneg', ?_, htier'⟩
        rw [historyOf_append, if_neg fun heq => hne (heq.symm.trans howner), add_zero]
        exact hbalance'
    · intro row hrow'
      rcases List.mem_append.mp hrow' with hold | hlast
      · exact h.2 row hold
      · rwa [List.mem_singleton.mp hlast]

theorem finishPost_law (h : SoundLoyalty store) (hlaw : LoyaltyLaw store)
    (hopen : store.getOrCreate userId newId = some (opened, account))
    (hid : account'.id = account.id) (howner : transaction.accountId = account.id)
    (reply : LoyaltyReply)
    (hinOrder : 0 ≤ account.pointsBalance →
      account.tier = determineTierForLifetimePoints account.lifetimePoints →
      0 ≤ account'.pointsBalance ∧
        account'.pointsBalance = account.pointsBalance + transaction.signedPoints ∧
        account'.tier = determineTierForLifetimePoints account'.lifetimePoints ∧
        transaction.TellsDifference) :
    SoundLoyalty (finishPost store (opened.post account' transaction) reply).1 ∧
      LoyaltyLaw (finishPost store (opened.post account' transaction) reply).1 := by
  have hmem := (getOrCreate_cases hopen).2.1
  have hopened := getOrCreate_law h hlaw hopen
  cases hpost : opened.post account' transaction with
  | none => exact ⟨h, hlaw⟩
  | some posted =>
    obtain ⟨hnonneg, -, htier⟩ := hopened.1 account hmem
    exact ⟨post_sound (getOrCreate_sound h hopen) hmem hid howner hpost,
      (post_law_iff hopened hmem hid howner hpost).mpr (hinOrder hnonneg htier)⟩

/-! ### The operations -/

theorem handleBookingCompleted_law (h : SoundLoyalty store) (hlaw : LoyaltyLaw store)
    (config : LoyaltyConfig) (bookingId : Id) (booking : Option LoyaltyBooking)
    (newAccountId : Id) :
    SoundLoyalty (handleBookingCompleted store config bookingId booking newAccountId).1 ∧
      LoyaltyLaw (handleBookingCompleted store config bookingId booking newAccountId).1 := by
  -- the returns before anything is written: the program is off, the event is repeated, the
  -- booking is unknown, not completed or not paid, and its fare is zero
  unfold handleBookingCompleted
  split
  · exact ⟨h, hlaw⟩
  split
  · exact ⟨h, hlaw⟩
  split
  · exact ⟨h, hlaw⟩
  split
  · exact ⟨h, hlaw⟩
  split
  · exact ⟨h, hlaw⟩
  split
  · exact ⟨h, hlaw⟩
  unfold creditBooking
  split
  · exact ⟨h, hlaw⟩
  next opened account hopen =>
    dsimp only
    split
    · exact ⟨getOrCreate_sound h hopen, getOrCreate_law h hlaw hopen⟩
    next hpositive =>
      split
      · exact ⟨h, hlaw⟩
      next points hpoints =>
        have hpos : 0 < points := by
          unfold toInt? at hpoints
          split at hpoints
          · cases hpoints
            exact Rat.num_pos.mpr (not_le.mp hpositive)
          · cases hpoints
        -- points are added to a balance, so that it stays nonnegative
        refine finishPost_law h hlaw hopen (by rfl) (by rfl) _ fun hnonneg _ => ⟨?_, rfl, rfl, ?_⟩
        · dsimp only
          omega
        · rw [LoyaltyTransaction.TellsDifference, add_sub_cancel_left, abs_of_pos hpos]

theorem toInt?_eq_some {x : Decimal} {n : ℤ} (h : toInt? x = some n) : (n : ℚ) = x := by
  unfold toInt? at h
  split at h
  next hden =>
    cases h
    exact Rat.coe_int_num_of_den_eq_one hden
  · cases h

theorem ratio_pos {points : ℤ} {ratio : Decimal} (hpoints : 0 ≤ points)
    (hcredit : 0 < ⌊(points : Decimal) / ratio⌋) : 0 < ratio := by
  by_contra hneg
  have hle : (points : Decimal) / ratio ≤ 0 :=
    div_nonpos_of_nonneg_of_nonpos (by exact_mod_cast hpoints) (not_lt.mp hneg)
  have hfloor : ⌊(points : Decimal) / ratio⌋ ≤ 0 := Int.floor_nonpos hle
  omega

theorem redeemed_le {points redeemed : ℤ} {ratio : Decimal} (hpoints : 0 ≤ points)
    (hcredit : 0 < ⌊(points : Decimal) / ratio⌋)
    (h : toInt? (⌊(points : Decimal) / ratio⌋ * ratio) = some redeemed) :
    0 ≤ redeemed ∧ redeemed ≤ points := by
  have hratio : 0 < ratio := ratio_pos hpoints hcredit
  have hvalue : (redeemed : ℚ) = ⌊(points : Decimal) / ratio⌋ * ratio := toInt?_eq_some h
  constructor
  · have hnonneg : (0 : ℚ) ≤ redeemed := by
      rw [hvalue]
      positivity
    exact_mod_cast hnonneg
  · have hle : (redeemed : ℚ) ≤ points := by
      -- rounding down costs the customer less than was asked for
      calc (redeemed : ℚ) = ⌊(points : Decimal) / ratio⌋ * ratio := hvalue
        _ ≤ (points : Decimal) / ratio * ratio := by
          gcongr
          exact Int.floor_le _
        _ = points := div_mul_cancel₀ _ hratio.ne'
    exact_mod_cast hle

theorem redeemPointsToWallet_law (h : SoundLoyalty store) (hlaw : LoyaltyLaw store)
    (config : LoyaltyConfig) (userId : Id) (dto : RedeemPointsDto) (generatedKey : String)
    (newAccountId : Id) (walletCredits : Bool) :
    SoundLoyalty (redeemPointsToWallet store config userId dto generatedKey newAccountId
        walletCredits).1 ∧
      LoyaltyLaw (redeemPointsToWallet store config userId dto generatedKey newAccountId
        walletCredits).1 := by
  unfold redeemPointsToWallet
  split
  · exact ⟨h, hlaw⟩
  dsimp only
  split
  · exact ⟨h, hlaw⟩
  split
  · exact ⟨h, hlaw⟩
  split
  · exact ⟨h, hlaw⟩
  next opened account hopen =>
    split
    · exact ⟨h, hlaw⟩
    -- the balance covers the points that are asked for, hence those that are taken
    next hcovers =>
      split
      · exact ⟨h, hlaw⟩
      next hcredit =>
        split
        · exact ⟨h, hlaw⟩
        next redeemed hredeemed =>
          split
          · exact ⟨h, hlaw⟩
          have hpoints := dto.atLeast
          obtain ⟨hnonneg, hle⟩ := redeemed_le (by omega) (not_le.mp hcredit) hredeemed
          refine finishPost_law h hlaw hopen (by rfl) (by rfl) _ fun _ htier => ⟨?_, ?_, htier, ?_⟩
          · dsimp only
            omega
          · exact sub_eq_add_neg _ _
          · rw [LoyaltyTransaction.TellsDifference, sub_sub_cancel_left, abs_neg,
              abs_of_nonneg hnonneg]

theorem adminAdjustPoints_law (h : SoundLoyalty store) (hlaw : LoyaltyLaw store)
    (adminUserId userId : Id) (points : ℤ) (idempotencyKey : String) (newAccountId : Id) :
    SoundLoyalty (adminAdjustPoints store adminUserId userId points idempotencyKey
        newAccountId).1 ∧
      LoyaltyLaw (adminAdjustPoints store adminUserId userId points idempotencyKey
        newAccountId).1 := by
  unfold adminAdjustPoints
  split
  · exact ⟨h, hlaw⟩
  split
  · exact ⟨h, hlaw⟩
  split
  · exact ⟨h, hlaw⟩
  next opened account hopen =>
    split
    · exact ⟨h, hlaw⟩
    next hcovers =>
      refine finishPost_law h hlaw hopen (by rfl) (by rfl) _ fun hnonneg _ => ⟨?_, ?_, rfl, ?_⟩
      · dsimp only
        omega
      · -- the direction of the balances is the sign of the adjustment
        simp only [LoyaltyTransaction.signedPoints]
        split
        · rw [abs_of_nonneg (by omega)]
        · rw [abs_of_neg (by omega), neg_neg]
      · rw [LoyaltyTransaction.TellsDifference, add_sub_cancel_left]

theorem reversalOf_eq_ok {bookingId : Id} {earning : LoyaltyTransaction}
    (hfind : reversalOf store bookingId = .ok (earning, account)) :
    earning ∈ store.transactions ∧ account ∈ store.accounts ∧
      (store.findKey ("loyalty_reversal_booking_" ++ bookingId)).isNone = true := by
  unfold reversalOf at hfind
  split at hfind
  · cases hfind
  next found hearning =>
    split at hfind
    · cases hfind
    next hkey =>
      split at hfind
      · cases hfind
      next owner howner =>
        cases hfind
        exact ⟨List.mem_of_find?_eq_some hearning, List.mem_of_find?_eq_some howner,
          by rw [hkey]; rfl⟩

theorem handleBookingCancelled_law_iff (h : SoundLoyalty store) (hlaw : LoyaltyLaw store)
    (bookingId : Id) :
    SoundLoyalty (handleBookingCancelled store bookingId).1 ∧
      (LoyaltyLaw (handleBookingCancelled store bookingId).1 ↔
        CoversReversal store (.bookingCancelled bookingId)) := by
  simp only [handleBookingCancelled, CoversReversal]
  cases hreversal : reversalOf store bookingId with
  | error reply => exact ⟨h, iff_of_true hlaw trivial⟩
  | ok found =>
    obtain ⟨earning, account⟩ := found
    obtain ⟨hearning, haccount, hkey⟩ := reversalOf_eq_ok hreversal
    have hpoints : 0 ≤ earning.points := hlaw.2 earning hearning ▸ abs_nonneg _
    have hnonneg := (hlaw.1 account haccount).1
    have hfits := h.points earning hearning
    obtain ⟨hbalance, hlifetime⟩ := h.balances account haccount
    simp only [fitsInt, Bool.and_eq_true, decide_eq_true_eq] at hfits hbalance hlifetime
    dsimp only
    cases hpost : store.post { account with
          pointsBalance := max 0 (account.pointsBalance - earning.points)
          lifetimePoints := max 0 (account.lifetimePoints - earning.points)
          tier := determineTierForLifetimePoints
            (max 0 (account.lifetimePoints - earning.points)) }
        ⟨account.id, .cancellationReversal, earning.points, account.pointsBalance,
          max 0 (account.pointsBalance - earning.points), "BOOKING_CANCELLATION",
          some bookingId, "loyalty_reversal_booking_" ++ bookingId⟩ with
    | none =>
      -- the columns hold what is taken back, so that the write is not refused
      unfold LoyaltyStore.post at hpost
      rw [if_pos] at hpost
      · cases hpost
      · refine ⟨?_, ?_, ?_, hkey⟩
        · rw [fitsInt, Bool.and_eq_true, decide_eq_true_eq, decide_eq_true_eq]
          dsimp only
          omega
        · rw [fitsInt, Bool.and_eq_true, decide_eq_true_eq, decide_eq_true_eq]
          dsimp only
          omega
        · rw [fitsInt, Bool.and_eq_true, decide_eq_true_eq, decide_eq_true_eq]
          dsimp only
          omega
    | some posted =>
      refine ⟨post_sound h haccount (by rfl) rfl hpost, ?_⟩
      refine (post_law_iff hlaw haccount (by rfl) rfl hpost).trans ?_
      -- the row says all the points, the balance only loses those that are left
      simp only [LoyaltyTransaction.signedPoints, LoyaltyTransaction.TellsDifference]
      constructor
      · rintro ⟨-, hsum, -, -⟩
        omega
      · intro hcovers
        have hdifference : max 0 (account.pointsBalance - earning.points) =
            account.pointsBalance - earning.points := max_eq_right (by omega)
        refine ⟨le_max_left _ _, by omega, trivial, ?_⟩
        rw [hdifference, sub_sub_cancel_left, abs_neg, abs_of_nonneg hpoints]

theorem loyaltyStep_law_iff (h : SoundLoyalty store) (hlaw : LoyaltyLaw store)
    (action : LoyaltyAction) :
    SoundLoyalty (loyaltyStep store action) ∧
      (LoyaltyLaw (loyaltyStep store action) ↔ CoversReversal store action) := by
  cases action with
  | bookingCompleted config bookingId booking newAccountId =>
    obtain ⟨hsound, hlaw'⟩ :=
      handleBookingCompleted_law h hlaw config bookingId booking newAccountId
    exact ⟨hsound, iff_of_true hlaw' trivial⟩
  | bookingCancelled bookingId => exact handleBookingCancelled_law_iff h hlaw bookingId
  | redeem config userId dto generatedKey newAccountId walletCredits =>
    obtain ⟨hsound, hlaw'⟩ := redeemPointsToWallet_law h hlaw config userId dto generatedKey
      newAccountId walletCredits
    exact ⟨hsound, iff_of_true hlaw' trivial⟩
  | adminAdjust adminUserId userId points idempotencyKey newAccountId =>
    obtain ⟨hsound, hlaw'⟩ := adminAdjustPoints_law h hlaw adminUserId userId points
      idempotencyKey newAccountId
    exact ⟨hsound, iff_of_true hlaw' trivial⟩

end Laws

/-! ## Runs -/

def emptyLoyalty : LoyaltyStore := ⟨[], []⟩

theorem emptyLoyalty_sound : SoundLoyalty emptyLoyalty where
  ids := List.nodup_nil
  owned := fun _ htransaction => absurd htransaction List.not_mem_nil
  balances := fun _ haccount => absurd haccount List.not_mem_nil
  points := fun _ htransaction => absurd htransaction List.not_mem_nil

/-- The loyalty accounts keep their law exactly along the runs whose reversals meet a balance
that covers them. -/
theorem loyalty_law_iff (actions : List LoyaltyAction) :
    Everywhere loyaltyStep LoyaltyLaw emptyLoyalty actions ↔
      Along loyaltyStep CoversReversal emptyLoyalty actions :=
  everywhere_iff_along_within (I := SoundLoyalty)
    (fun _ action h hlaw _ => (loyaltyStep_law_iff h hlaw action).1)
    (fun _ action _ h hlaw => (loyaltyStep_law_iff h hlaw action).2) emptyLoyalty_sound
    ⟨fun _ haccount => absurd haccount List.not_mem_nil,
      fun _ htransaction => absurd htransaction List.not_mem_nil⟩

/-! ### Spent points are reversed -/

def sampleLoyaltyConfig : LoyaltyConfig := ⟨true, 10, 2, 2, none⟩

/-- A booking of 1168.00 earns 116 points, and 100 of them go to the wallet. -/
def spentPoints : List LoyaltyAction :=
  [.bookingCompleted sampleLoyaltyConfig "booking"
      (some ⟨"customer", .completed, some (.paid, .none), sampleTotal⟩) "account",
    .redeem sampleLoyaltyConfig "customer" ⟨100, by decide, none⟩ "redeem" "account" true]

/-- The reversal says 116 points, and takes the 16 that are left. -/
theorem clamped_reversal_breaks_books :
    ¬ Everywhere loyaltyStep LoyaltyLaw emptyLoyalty
      (spentPoints ++ [.bookingCancelled "booking"]) := by
  decide +kernel

end CarRental
