import CarRental.Wallets.ExpirySweep

/-!
# The serial order of sweeps and calls

A run in which no sweep ends on stale reads is serial (`sweeps_serial`).  The simulation
`Mirrors` relates the wallet of the interleaved run to the one of the serial run: they
have the same balances, and the ledger of the first has in addition the entries of the
sweeps that are between their two writes.
-/

namespace CarRental

open Runs Totals

namespace WalletAccount

variable {wallet : WalletAccount} {ledger : List WalletLedgerRow} {key : String} {now : ℤ}

/-! ## Keys that are used -/

theorem KeyUsed.mono {wallet' : WalletAccount} (hledger : wallet.ledger ⊆ wallet'.ledger)
    (hother : wallet'.otherKeys = wallet.otherKeys) (h : wallet.KeyUsed key) :
    wallet'.KeyUsed key := by
  rcases h with ⟨row, hrow, hkey⟩ | hmem
  · exact .inl ⟨row, hledger hrow, hkey⟩
  · exact .inr (hother ▸ hmem)

end WalletAccount

open WalletAccount

namespace WalletCall

def idempotencyKey (walletId : Id) : WalletCall → String
  | .creditWallet _ _ _ _ _ _ idempotencyKey _ => idempotencyKey
  | .debitWallet _ _ _ _ _ idempotencyKey => idempotencyKey
  | .adminAdjustWallet _ adminUserId _ _ _ clientNonce now =>
    adminAdjustKey adminUserId walletId clientNonce now

variable {wallet : WalletAccount} {ledger : List WalletLedgerRow}

theorem commit_cases (call : WalletCall) (wallet : WalletAccount) :
    call.commit wallet = wallet ∨
      ∃ row real promo, 0 < row.amount ∧ row.idempotencyKey = call.idempotencyKey wallet.id ∧
        ¬ wallet.KeyUsed row.idempotencyKey ∧ call.commit wallet = wallet.post row real promo := by
  unfold commit
  cases hrun : call.run wallet with
  | error e => exact .inl rfl
  | ok wallet' =>
    cases call with
    | creditWallet =>
      obtain ⟨hamount, ⟨-, heq⟩ | ⟨hfresh, -, -, -, -, heq⟩⟩ := creditWallet_cases hrun
      · exact .inl heq
      · exact .inr ⟨_, _, _, hamount, rfl, hfresh, heq⟩
    | debitWallet =>
      obtain ⟨hamount, ⟨-, heq⟩ | ⟨hfresh, -, -, -, heq⟩⟩ := debitWallet_cases hrun
      · exact .inl heq
      · exact .inr ⟨_, _, _, hamount, rfl, hfresh, heq⟩
    | adminAdjustWallet =>
      rcases adminAdjustWallet_cases hrun with hcredit | hdebit
      · obtain ⟨hamount, ⟨-, heq⟩ | ⟨hfresh, -, -, -, -, heq⟩⟩ := creditWallet_cases hcredit
        · exact .inl heq
        · exact .inr ⟨_, _, _, hamount, rfl, hfresh, heq⟩
      · obtain ⟨hamount, ⟨-, heq⟩ | ⟨hfresh, -, -, -, heq⟩⟩ := debitWallet_cases hdebit
        · exact .inl heq
        · exact .inr ⟨_, _, _, hamount, rfl, hfresh, heq⟩

theorem commit_of_keyUsed (call : WalletCall)
    (h : wallet.KeyUsed (call.idempotencyKey wallet.id)) : call.commit wallet = wallet := by
  rcases call.commit_cases wallet with heq | ⟨row, real, promo, -, hkey, hfresh, -⟩
  · exact heq
  · exact absurd (hkey ▸ h) hfresh

theorem commit_keeps (call : WalletCall) (wallet : WalletAccount) :
    (call.commit wallet).id = wallet.id ∧ (call.commit wallet).otherKeys = wallet.otherKeys ∧
      wallet.ledger ⊆ (call.commit wallet).ledger := by
  rcases call.commit_cases wallet with heq | ⟨row, real, promo, -, -, -, heq⟩
  · rw [heq]
    exact ⟨rfl, rfl, List.Subset.refl _⟩
  · rw [heq]
    exact ⟨rfl, rfl, List.subset_append_left ..⟩

/-- The same outcome on two ledgers: both calls throw, or both post the same entry under
`key`. -/
inductive SameOutcome (wallet : WalletAccount) (ledger : List WalletLedgerRow) (key : String) :
    Except HttpError WalletAccount → Except HttpError WalletAccount → Prop
  | throws (e : HttpError) : SameOutcome wallet ledger key (.error e) (.error e)
  | posts (row : WalletLedgerRow) (real promo : ℤ) (hkey : row.idempotencyKey = key) :
      SameOutcome wallet ledger key (.ok (wallet.post row real promo))
        (.ok ({ wallet with ledger := ledger }.post row real promo))

theorem sameOutcome_write (row : WalletLedgerRow) (real promo : ℤ)
    (hfresh : ¬ wallet.KeyUsed row.idempotencyKey)
    (hfresh' : ¬ { wallet with ledger := ledger }.KeyUsed row.idempotencyKey) :
    SameOutcome wallet ledger row.idempotencyKey
      ((wallet.createEntry row).bind fun created =>
        created.updateBalances row.balanceAfter real promo)
      (({ wallet with ledger := ledger }.createEntry row).bind fun created =>
        created.updateBalances row.balanceAfter real promo) := by
  rw [createEntry, createEntry, if_neg hfresh, if_neg hfresh']
  split
  · simp only [Except.bind, updateBalances]
    split
    · exact .posts row real promo rfl
    · exact .throws _
  · exact .throws _

variable {config : Option WalletConfig} {amount : ℤ} {type : LedgerEntryType}
  {bucket : WalletBucketType} {referenceType : String} {referenceId : Option Id} {key : String}
  {expiresAt : Option ℤ}

theorem sameOutcome_creditWallet (hfresh : ¬ wallet.KeyUsed key)
    (hfresh' : ¬ { wallet with ledger := ledger }.KeyUsed key) :
    SameOutcome wallet ledger key
      (wallet.creditWallet config amount type bucket referenceType referenceId key expiresAt)
      ({ wallet with ledger := ledger }.creditWallet config amount type bucket referenceType
        referenceId key expiresAt) := by
  rw [WalletAccount.creditWallet, WalletAccount.creditWallet, if_neg hfresh, if_neg hfresh']
  split
  · exact .throws _
  split
  · exact .throws _
  split
  · exact .throws _
  split
  · exact .throws _
  · exact sameOutcome_write (creditRow wallet amount type bucket referenceType referenceId key
      expiresAt) _ _ hfresh hfresh'

theorem sameOutcome_debitWallet (hfresh : ¬ wallet.KeyUsed key)
    (hfresh' : ¬ { wallet with ledger := ledger }.KeyUsed key) :
    SameOutcome wallet ledger key
      (wallet.debitWallet config amount type referenceType referenceId key)
      ({ wallet with ledger := ledger }.debitWallet config amount type referenceType
        referenceId key) := by
  rw [WalletAccount.debitWallet, WalletAccount.debitWallet, if_neg hfresh, if_neg hfresh']
  split
  · exact .throws _
  split
  · exact .throws _
  split
  · exact .throws _
  split
  · exact .throws _
  · exact sameOutcome_write (debitRow wallet amount type referenceType referenceId key) _ _ hfresh
      hfresh'

theorem sameOutcome_run (call : WalletCall)
    (hfresh : ¬ wallet.KeyUsed (call.idempotencyKey wallet.id))
    (hfresh' : ¬ { wallet with ledger := ledger }.KeyUsed (call.idempotencyKey wallet.id)) :
    SameOutcome wallet ledger (call.idempotencyKey wallet.id) (call.run wallet)
      (call.run { wallet with ledger := ledger }) := by
  cases call with
  | creditWallet => exact sameOutcome_creditWallet hfresh hfresh'
  | debitWallet => exact sameOutcome_debitWallet hfresh hfresh'
  | adminAdjustWallet config adminUserId amount direction =>
    cases direction with
    | credit => exact sameOutcome_creditWallet hfresh hfresh'
    | debit => exact sameOutcome_debitWallet hfresh hfresh'

theorem commit_frame (call : WalletCall)
    (hfresh : ¬ wallet.KeyUsed (call.idempotencyKey wallet.id))
    (hfresh' : ¬ { wallet with ledger := ledger }.KeyUsed (call.idempotencyKey wallet.id)) :
    ∃ rows : List WalletLedgerRow,
      (∀ row ∈ rows, row.idempotencyKey = call.idempotencyKey wallet.id) ∧
        (call.commit wallet).ledger = wallet.ledger ++ rows ∧
        call.commit { wallet with ledger := ledger } =
          { call.commit wallet with ledger := ledger ++ rows } := by
  have hrun := sameOutcome_run call hfresh hfresh'
  unfold commit
  generalize call.run wallet = result at hrun ⊢
  generalize call.run { wallet with ledger := ledger } = result' at hrun ⊢
  cases hrun with
  | throws e => exact ⟨[], by simp, by simp, by simp⟩
  | posts row real promo hkey => exact ⟨[row], by simpa using hkey, rfl, rfl⟩

end WalletCall

/-! ## A sweep without anything in between -/

namespace WalletAccount

variable {wallet : WalletAccount} {ledger : List WalletLedgerRow} {key : String} {now : ℤ}

theorem expire_of_keyUsed (h : wallet.KeyUsed (expiryKey wallet.id now)) :
    walletStep wallet (.cleanExpiredPromotionalCredits now) = wallet := by
  simp only [walletStep]
  cases hexpire : wallet.cleanExpiredPromotionalCredits now with
  | error e => rfl
  | ok result =>
    rcases cleanExpiredPromotionalCredits_cases hexpire with ⟨heq, -⟩ | ⟨-, -, hfresh, -⟩
    · exact heq
    · exact absurd h hfresh

theorem clean_of_idle
    (h : wallet.expiredEntries now = [] ∨ wallet.promoBalance ≤ 0 ∨
      expiredTotal (wallet.expiredEntries now) ≤ wallet.alreadyExpired) :
    wallet.cleanExpiredPromotionalCredits now = .ok (wallet, 0) := by
  unfold cleanExpiredPromotionalCredits
  simp only
  split
  · rfl
  next hexpired =>
    split
    · rfl
    next hpromo =>
      have htotal := (h.resolve_left hexpired).resolve_left hpromo
      rw [if_neg (by omega)]

theorem expire_of_idle
    (h : wallet.expiredEntries now = [] ∨ wallet.promoBalance ≤ 0 ∨
      expiredTotal (wallet.expiredEntries now) ≤ wallet.alreadyExpired) :
    walletStep wallet (.cleanExpiredPromotionalCredits now) = wallet := by
  rw [walletStep, clean_of_idle h]

theorem expiryRow_fits {id : Id} {amount available : ℤ} (hpositive : 0 < amount)
    (hle : amount ≤ available) (hfits : Fits available) :
    Fits (expiryRow id now amount available).amount ∧
      Fits (expiryRow id now amount available).balanceBefore ∧
        Fits (expiryRow id now amount available).balanceAfter := by
  have hrange := abs_lt.mp hfits
  exact ⟨abs_lt.mpr ⟨by simp only [expiryRow]; omega, by simp only [expiryRow]; omega⟩, hfits,
    abs_lt.mpr ⟨by simp only [expiryRow]; omega, by simp only [expiryRow]; omega⟩⟩

theorem Sound.clean_eq_post (hsound : wallet.Sound) (hexpired : wallet.expiredEntries now ≠ [])
    (hpositive : 0 < wallet.expiryAmount now)
    (hfresh : ¬ wallet.KeyUsed (expiryKey wallet.id now)) :
    wallet.cleanExpiredPromotionalCredits now =
      .ok (wallet.post (expiryRow wallet.id now (wallet.expiryAmount now) wallet.availableBalance)
        wallet.realBalance (wallet.promoBalance - wallet.expiryAmount now),
          wallet.expiryAmount now) := by
  have hle := wallet.expiryAmount_le now
  have hsplit := hsound.split
  have hreal := hsound.real_nonneg
  have hfits := abs_lt.mp hsound.fits
  have hreal' : Fits wallet.realBalance := abs_lt.mpr ⟨by omega, by omega⟩
  have hpromo : Fits (wallet.promoBalance - wallet.expiryAmount now) :=
    abs_lt.mpr ⟨by omega, by omega⟩
  have hposted : (wallet.createEntry (expiryRow wallet.id now (wallet.expiryAmount now)
      wallet.availableBalance)).bind _ = _ :=
    post_of_fits hfresh (expiryRow_fits hpositive (by omega) hsound.fits) hreal' hpromo
  have hleft : ¬ wallet.promoBalance ≤ 0 := by omega
  unfold cleanExpiredPromotionalCredits
  simp only
  rw [if_neg hexpired, if_neg hleft, ← expiryAmount, if_pos hpositive, bind_map]
  exact congrArg (fun result => Except.map (fun updated => (updated, wallet.expiryAmount now))
    result) hposted

theorem Sound.expire_eq_post (hsound : wallet.Sound) (hexpired : wallet.expiredEntries now ≠ [])
    (hpositive : 0 < wallet.expiryAmount now)
    (hfresh : ¬ wallet.KeyUsed (expiryKey wallet.id now)) :
    walletStep wallet (.cleanExpiredPromotionalCredits now) =
      wallet.post (expiryRow wallet.id now (wallet.expiryAmount now) wallet.availableBalance)
        wallet.realBalance (wallet.promoBalance - wallet.expiryAmount now) := by
  rw [walletStep, hsound.clean_eq_post hexpired hpositive hfresh]

end WalletAccount

/-! ## The simulation -/

/-- Nothing happens when the operation runs on the wallet: its key is used. -/
def WalletOperation.Idle (wallet : WalletAccount) : WalletOperation → Prop
  | .call walletCall => wallet.KeyUsed (walletCall.idempotencyKey wallet.id)
  | .cleanExpiredPromotionalCredits now => wallet.KeyUsed (expiryKey wallet.id now)
  | _ => False

theorem WalletOperation.Idle.step_eq {wallet : WalletAccount} {operation : WalletOperation}
    (h : operation.Idle wallet) : walletStep wallet operation = wallet := by
  cases operation with
  | call call => exact call.commit_of_keyUsed h
  | cleanExpiredPromotionalCredits now => exact expire_of_keyUsed h
  | reconcileWallet => exact h.elim
  | otherEntry => exact h.elim

theorem run_idle {wallet : WalletAccount} {operations : List WalletOperation}
    (h : ∀ operation ∈ operations, operation.Idle wallet) :
    run walletStep wallet operations = wallet := by
  induction operations with
  | nil => rfl
  | cons operation rest ih =>
    rw [run_cons, (h operation (List.mem_cons_self ..)).step_eq]
    exact ih fun other hother => h other (List.mem_cons_of_mem _ hother)

theorem WalletOperation.Idle.mono {wallet wallet' : WalletAccount} {operation : WalletOperation}
    (hid : wallet'.id = wallet.id) (hledger : wallet.ledger ⊆ wallet'.ledger)
    (hother : wallet'.otherKeys = wallet.otherKeys) (h : operation.Idle wallet) :
    operation.Idle wallet' := by
  cases operation with
  | call call =>
    rw [Idle, hid]
    exact KeyUsed.mono hledger hother h
  | cleanExpiredPromotionalCredits now =>
    rw [Idle, hid]
    exact KeyUsed.mono hledger hother h
  | reconcileWallet => exact h
  | otherEntry => exact h

namespace Sweep

def operation (sweep : Sweep) : WalletOperation := .cleanExpiredPromotionalCredits sweep.now

/-- What holds of the balances that a sweep read, and of the amount it decided on. -/
def Reads (sweep : Sweep) : Prop :=
  match sweep.phase with
  | .entriesRead => True
  | .walletRead available promo => promo ≤ available ∧ Fits available
  | .decided available promo alreadyExpired =>
    promo ≤ available ∧ Fits available ∧
      0 < actualExpiredAmount sweep.expired alreadyExpired promo
  | .created available promo alreadyExpired =>
    promo ≤ available ∧ Fits available ∧
      0 < actualExpiredAmount sweep.expired alreadyExpired promo

end Sweep

namespace SweepState

/-- The wallet of the interleaved run and the one of the serial run, with the operations
that have no place in the order yet. -/
structure Mirrors (s : SweepState) (serial : WalletAccount) (waiting : List WalletOperation) :
    Prop where
  sound : serial.Sound
  wallet : serial = { s.wallet with ledger := serial.ledger }
  ledger : s.wallet.ledger.Perm (serial.ledger ++ s.pending)
  fresh : ∀ row ∈ s.pending, ¬ serial.KeyUsed row.idempotencyKey
  keys : (s.pending.map fun row => row.idempotencyKey).Nodup
  waits : ∃ idle : List WalletOperation,
    waiting.Perm (idle ++ s.sweeps.map Sweep.operation) ∧
      ∀ operation ∈ idle, operation.Idle s.wallet
  sweeps : ∀ sweep ∈ s.sweeps, s.wallet.expiredEntries sweep.now ≠ [] ∧ sweep.Reads

variable {s : SweepState} {serial wallet : WalletAccount} {waiting : List WalletOperation}
  {sweep sweep' : Sweep} {others : List Sweep} {now : ℤ}

/-! ### What the two ledgers have in common -/

theorem mem_pending {row : WalletLedgerRow} (h : row ∈ s.pending) :
    row.direction = .debit ∧ row.type = .expiration := by
  obtain ⟨sweep, -, hrow⟩ := List.mem_filterMap.mp h
  unfold Sweep.pendingRow at hrow
  split at hrow
  · cases hrow
    exact ⟨rfl, rfl⟩
  · cases hrow

theorem Mirrors.expiredEntries_perm (h : Mirrors s serial waiting) (now : ℤ) :
    (s.wallet.expiredEntries now).Perm (serial.expiredEntries now) := by
  have hpending : s.pending.filter (isExpired now) = [] := by
    refine List.filter_eq_nil_iff.mpr fun row hrow => ?_
    simp [isExpired, (mem_pending hrow).1]
  have hperm := h.ledger.filter (isExpired now)
  rwa [List.filter_append, hpending, List.append_nil] at hperm

theorem Mirrors.expiredBy_eq (h : Mirrors s serial waiting) (now : ℤ) :
    expiredTotal (serial.expiredEntries now) = s.expiredBy now :=
  ((h.expiredEntries_perm now).map _).sum_eq.symm

theorem Mirrors.expiredEntries_ne_nil (h : Mirrors s serial waiting)
    (hsweep : sweep ∈ s.sweeps) : serial.expiredEntries sweep.now ≠ [] := by
  intro hnil
  have hperm := h.expiredEntries_perm sweep.now
  rw [hnil] at hperm
  exact (h.sweeps sweep hsweep).1 hperm.eq_nil

theorem Mirrors.alreadyExpired_eq (h : Mirrors s serial waiting) :
    serial.alreadyExpired = s.settledExpirations := by
  have hpending : total isExpiration (fun row => row.amount) s.pending =
      (s.pending.map fun row => row.amount).sum :=
    total_of_all fun row hrow => by simp [isExpiration, (mem_pending hrow).2]
  have hall := total_perm isExpiration (fun row => row.amount) h.ledger
  rw [total_append, hpending] at hall
  rw [settledExpirations, WalletAccount.alreadyExpired, WalletAccount.alreadyExpired, hall]
  omega

theorem Mirrors.id_eq (h : Mirrors s serial waiting) : serial.id = s.wallet.id :=
  (congrArg WalletAccount.id h.wallet :)

theorem Mirrors.otherKeys_eq (h : Mirrors s serial waiting) :
    s.wallet.otherKeys = serial.otherKeys :=
  (congrArg WalletAccount.otherKeys h.wallet :).symm

theorem Mirrors.available_eq (h : Mirrors s serial waiting) :
    serial.availableBalance = s.wallet.availableBalance :=
  (congrArg WalletAccount.availableBalance h.wallet :)

theorem Mirrors.promo_eq (h : Mirrors s serial waiting) :
    serial.promoBalance = s.wallet.promoBalance :=
  (congrArg WalletAccount.promoBalance h.wallet :)

theorem Mirrors.real_eq (h : Mirrors s serial waiting) :
    serial.realBalance = s.wallet.realBalance :=
  (congrArg WalletAccount.realBalance h.wallet :)

theorem Mirrors.not_keyUsed {key : String} (h : Mirrors s serial waiting)
    (hfresh : ¬ s.wallet.KeyUsed key) : ¬ serial.KeyUsed key := by
  refine mt (KeyUsed.mono ?_ h.otherKeys_eq) hfresh
  exact fun row hrow => h.ledger.symm.subset (List.mem_append_left _ hrow)

/-! ### One step -/

theorem Mirrors.perm {sweeps : List Sweep} (h : Mirrors s serial waiting)
    (hperm : s.sweeps.Perm sweeps) : Mirrors { s with sweeps } serial waiting := by
  have hpending : s.pending.Perm (pending { s with sweeps }) := hperm.filterMap _
  obtain ⟨idle, hwaiting, hidle⟩ := h.waits
  exact {
    sound := h.sound
    wallet := h.wallet
    ledger := h.ledger.trans (hpending.append_left _)
    fresh := fun row hrow => h.fresh row (hpending.symm.subset hrow)
    keys := (hpending.map _).nodup_iff.mp h.keys
    waits := ⟨idle, hwaiting.trans ((hperm.map _).append_left _), hidle⟩
    sweeps := fun sweep hsweep => h.sweeps sweep (hperm.symm.subset hsweep) }

theorem pending_cons (others : List Sweep) (hrow : sweep.pendingRow wallet.id = none) :
    pending ⟨wallet, sweep :: others⟩ = pending ⟨wallet, others⟩ := by
  simp [pending, hrow]

theorem Mirrors.replace (h : Mirrors ⟨wallet, sweep :: others⟩ serial waiting)
    (hrow : sweep.pendingRow wallet.id = none) (hrow' : sweep'.pendingRow wallet.id = none)
    (hnow : sweep'.now = sweep.now) (hreads : sweep'.Reads) :
    Mirrors ⟨wallet, sweep' :: others⟩ serial waiting := by
  have hpending : pending ⟨wallet, sweep' :: others⟩ = pending ⟨wallet, sweep :: others⟩ := by
    rw [pending_cons _ hrow, pending_cons _ hrow']
  obtain ⟨idle, hwaiting, hidle⟩ := h.waits
  refine ⟨h.sound, h.wallet, hpending ▸ h.ledger, hpending ▸ h.fresh, hpending ▸ h.keys,
    ⟨idle, ?_, hidle⟩, ?_⟩
  · rw [List.map_cons, Sweep.operation, hnow]
    exact hwaiting
  · intro other hother
    rcases List.mem_cons.mp hother with rfl | hmem
    · have hexpired := (h.sweeps sweep (List.mem_cons_self ..)).1
      exact ⟨hnow ▸ hexpired, hreads⟩
    · exact h.sweeps other (List.mem_cons_of_mem _ hmem)

theorem Mirrors.placeIdle (h : Mirrors ⟨wallet, sweep :: others⟩ serial waiting)
    (hrow : sweep.pendingRow wallet.id = none)
    (hserial : walletStep serial sweep.operation = serial) :
    Places walletStep (Mirrors ⟨wallet, others⟩) serial waiting := by
  obtain ⟨idle, hwaiting, hidle⟩ := h.waits
  have hpending := pending_cons others hrow
  refine ⟨[sweep.operation], idle ++ others.map Sweep.operation, ?_, ?_⟩
  · rw [List.singleton_append]
    exact List.perm_middle.symm.trans hwaiting.symm
  · rw [run_cons, hserial]
    exact ⟨h.sound, h.wallet, hpending ▸ h.ledger, hpending ▸ h.fresh, hpending ▸ h.keys,
      ⟨idle, List.Perm.refl _, hidle⟩,
      fun other hother => h.sweeps other (List.mem_cons_of_mem _ hother)⟩

theorem Mirrors.defer (h : Mirrors ⟨wallet, sweep :: others⟩ serial waiting)
    (hrow : sweep.pendingRow wallet.id = none)
    (hused : wallet.KeyUsed (expiryKey wallet.id sweep.now)) :
    Mirrors ⟨wallet, others⟩ serial waiting := by
  obtain ⟨idle, hwaiting, hidle⟩ := h.waits
  have hpending := pending_cons others hrow
  refine ⟨h.sound, h.wallet, hpending ▸ h.ledger, hpending ▸ h.fresh, hpending ▸ h.keys,
    ⟨sweep.operation :: idle, hwaiting.trans List.perm_middle, ?_⟩,
    fun other hother => h.sweeps other (List.mem_cons_of_mem _ hother)⟩
  intro operation hoperation
  rcases List.mem_cons.mp hoperation with rfl | hmem
  · exact hused
  · exact hidle operation hmem

theorem Mirrors.places (h : Mirrors s serial waiting) :
    Places walletStep (Mirrors s) serial waiting :=
  ⟨[], waiting, by simp, h⟩

theorem Mirrors.create {row : WalletLedgerRow}
    (h : Mirrors ⟨wallet, sweep :: others⟩ serial waiting)
    (hrow : sweep.pendingRow wallet.id = none) (hrow' : sweep'.pendingRow wallet.id = some row)
    (hnow : sweep'.now = sweep.now) (hreads : sweep'.Reads)
    (hfresh : ¬ wallet.KeyUsed row.idempotencyKey) :
    Mirrors ⟨{ wallet with ledger := wallet.ledger ++ [row] }, sweep' :: others⟩ serial waiting := by
  have hold := pending_cons others hrow
  have hpending : pending ⟨{ wallet with ledger := wallet.ledger ++ [row] }, sweep' :: others⟩ =
      row :: pending ⟨wallet, others⟩ := by
    simp [pending, hrow']
  obtain ⟨idle, hwaiting, hidle⟩ := h.waits
  refine ⟨h.sound, ?_, ?_, ?_, ?_, ⟨idle, ?_, ?_⟩, ?_⟩
  · exact h.wallet
  · rw [hpending]
    refine (h.ledger.append_right [row]).trans ?_
    rw [hold, List.append_assoc]
    exact (List.perm_append_singleton row _).append_left _
  · rw [hpending]
    intro posted hposted
    rcases List.mem_cons.mp hposted with rfl | hmem
    · exact h.not_keyUsed hfresh
    · exact h.fresh posted (hold ▸ hmem)
  -- another pending row with the same key would be in the ledger already
  · rw [hpending, List.map_cons, List.nodup_cons]
    refine ⟨fun hmem => hfresh ?_, hold ▸ h.keys⟩
    obtain ⟨other, hother, hkey⟩ := List.mem_map.mp hmem
    have hin := h.ledger.symm.subset (List.mem_append_right _ (hold ▸ hother))
    exact .inl ⟨other, hin, hkey⟩
  · rw [List.map_cons, Sweep.operation, hnow]
    exact hwaiting
  · intro operation hoperation
    refine WalletOperation.Idle.mono ?_ ?_ ?_ (hidle operation hoperation)
    · rfl
    · exact List.subset_append_left wallet.ledger [row]
    · rfl
  · have hkeeps : ∀ now, wallet.expiredEntries now ≠ [] →
        ({ wallet with ledger := wallet.ledger ++ [row] }).expiredEntries now ≠ [] := by
      intro now hne
      rw [WalletAccount.expiredEntries, List.filter_append]
      exact List.append_ne_nil_of_left_ne_nil hne _
    intro other hother
    rcases List.mem_cons.mp hother with rfl | hmem
    · exact ⟨hkeeps _ (hnow ▸ (h.sweeps sweep (List.mem_cons_self ..)).1), hreads⟩
    · obtain ⟨hne, hother⟩ := h.sweeps other (List.mem_cons_of_mem _ hmem)
      exact ⟨hkeeps _ hne, hother⟩

theorem Mirrors.settle {available promo alreadyExpired : ℤ}
    (h : Mirrors ⟨wallet, sweep :: others⟩ serial waiting)
    (hphase : sweep.phase = .created available promo alreadyExpired)
    (hholds : wallet.availableBalance = available ∧ wallet.promoBalance = promo ∧
      expiredBy ⟨wallet, sweep :: others⟩ sweep.now = sweep.expired ∧
      settledExpirations ⟨wallet, sweep :: others⟩ = alreadyExpired) :
    Places walletStep (Mirrors (advance wallet sweep others)) serial waiting := by
  obtain ⟨rfl, rfl, hexpired, hsettled⟩ := hholds
  obtain ⟨idle, hwaiting, hidle⟩ := h.waits
  have hsweep := h.sweeps sweep (List.mem_cons_self ..)
  obtain ⟨-, hreads⟩ := hsweep
  rw [Sweep.Reads, hphase] at hreads
  obtain ⟨-, -, hpositive⟩ := hreads
  -- the serial wallet has what the sweep read, so it takes the same amount
  have hamount : serial.expiryAmount sweep.now =
      actualExpiredAmount sweep.expired alreadyExpired wallet.promoBalance := by
    rw [expiryAmount, h.expiredBy_eq, h.alreadyExpired_eq, h.promo_eq, hexpired, hsettled]
    rfl
  have hrow : sweep.pendingRow wallet.id = some (expiryRow wallet.id sweep.now
      (serial.expiryAmount sweep.now) wallet.availableBalance) := by
    rw [Sweep.pendingRow, hphase, hamount]
  generalize hposted : expiryRow wallet.id sweep.now (serial.expiryAmount sweep.now)
    wallet.availableBalance = row at hrow
  have hpending : pending ⟨wallet, sweep :: others⟩ = row :: pending ⟨wallet, others⟩ := by
    simp [pending, hrow]
  have hfresh := h.fresh row (hpending ▸ List.mem_cons_self ..)
  -- so the serial wallet makes in one step what the sweep has been making in four
  have hserial : walletStep serial sweep.operation =
      serial.post row wallet.realBalance (wallet.promoBalance - serial.expiryAmount sweep.now) := by
    have hkey : ¬ serial.KeyUsed (expiryKey serial.id sweep.now) := by
      rwa [← hposted, expiryRow, ← h.id_eq] at hfresh
    have hpost := h.sound.expire_eq_post (h.expiredEntries_ne_nil (List.mem_cons_self ..))
      (hamount ▸ hpositive) hkey
    rw [h.id_eq, h.available_eq, h.real_eq, h.promo_eq, hposted] at hpost
    exact hpost
  have hsound : (serial.post row wallet.realBalance
      (wallet.promoBalance - serial.expiryAmount sweep.now)).Sound :=
    hserial ▸ h.sound.step sweep.operation
  have hafter : row.balanceAfter = wallet.availableBalance - serial.expiryAmount sweep.now := by
    rw [← hposted]
    rfl
  have hadvance : advance wallet sweep others =
      ⟨{ wallet with
          availableBalance := row.balanceAfter
          promoBalance := wallet.promoBalance - serial.expiryAmount sweep.now }, others⟩ := by
    have hupdate : wallet.updateBalances row.balanceAfter wallet.realBalance
        (wallet.promoBalance - serial.expiryAmount sweep.now) = .ok { wallet with
          availableBalance := row.balanceAfter
          promoBalance := wallet.promoBalance - serial.expiryAmount sweep.now } :=
      updateBalances_eq_ok.mpr ⟨hsound.fits_all, rfl⟩
    rw [advance, hphase]
    simp only
    rw [← hamount, ← hafter, hupdate]
  rw [hadvance]
  -- the sweep takes its place in the order now; those before it that did nothing follow
  refine ⟨[sweep.operation], idle ++ others.map Sweep.operation, ?_, ?_⟩
  · rw [List.singleton_append]
    exact List.perm_middle.symm.trans hwaiting.symm
  · rw [run_cons, hserial]
    have hkeys := h.keys
    rw [hpending, List.map_cons, List.nodup_cons] at hkeys
    refine ⟨hsound, ?_, ?_, ?_, hkeys.2, ⟨idle, List.Perm.refl _, ?_⟩, ?_⟩
    · simp only [post, run_nil]
      rw [h.wallet]
    · have hledger := h.ledger
      rw [hpending, List.append_cons] at hledger
      exact hledger
    · intro other hother hused
      rcases hused with ⟨posted, hmem, hkey⟩ | hmem
      · rcases List.mem_append.mp hmem with hold | hnew
        · exact h.fresh other (hpending ▸ List.mem_cons_of_mem _ hother) (.inl ⟨posted, hold, hkey⟩)
        · rw [List.mem_singleton.mp hnew] at hkey
          exact hkeys.1 (List.mem_map.mpr ⟨other, hother, hkey.symm⟩)
      · exact h.fresh other (hpending ▸ List.mem_cons_of_mem _ hother) (.inr hmem)
    · intro operation hoperation
      refine WalletOperation.Idle.mono ?_ ?_ ?_ (hidle operation hoperation)
      · rfl
      · exact List.Subset.refl wallet.ledger
      · rfl
    · exact fun other hother => h.sweeps other (List.mem_cons_of_mem _ hother)

theorem Mirrors.advance (h : Mirrors ⟨wallet, sweep :: others⟩ serial waiting)
    (hholds : ¬ EndsStale ⟨wallet, sweep :: others⟩ (.advance sweep)) :
    Places walletStep (Mirrors (SweepState.advance wallet sweep others)) serial
      waiting := by
  have hstale := not_and.mp hholds (List.mem_cons_self ..)
  obtain ⟨hexpired, hreads⟩ := h.sweeps sweep (List.mem_cons_self ..)
  obtain ⟨now, expired, phase⟩ := sweep
  -- each phase of a sweep is a step; only the last one changes the balances
  cases phase with
  | entriesRead =>
    simp only [SweepState.advance]
    split
    next hpromo =>
      refine h.placeIdle rfl (expire_of_idle (.inr (.inl ?_)))
      rw [h.promo_eq]
      exact hpromo
    next hpromo =>
      refine Mirrors.places (h.replace rfl rfl rfl ?_)
      have hsplit := h.sound.split
      have hreal := h.sound.real_nonneg
      have hfits := h.sound.fits
      rw [h.available_eq, h.real_eq, h.promo_eq] at hsplit
      rw [h.real_eq] at hreal
      rw [h.available_eq] at hfits
      exact ⟨by simp only at *; omega, hfits⟩
  | walletRead available promo =>
    simp only [SweepState.advance]
    split
    next hpositive =>
      exact Mirrors.places (h.replace rfl rfl rfl ⟨hreads.1, hreads.2, hpositive⟩)
    next hpositive =>
      by_cases hused : wallet.KeyUsed (expiryKey wallet.id now)
      · exact (h.defer rfl hused).places
      · have hnothing : ¬ settledExpirations ⟨wallet, ⟨now, expired, .walletRead available promo⟩
            :: others⟩ < expiredBy ⟨wallet, ⟨now, expired, .walletRead available promo⟩
              :: others⟩ now :=
          fun hlt => hstale ⟨not_lt.mp hpositive, hused, hlt⟩
        refine h.placeIdle rfl (expire_of_idle (.inr (.inr ?_)))
        rw [h.expiredBy_eq, h.alreadyExpired_eq]
        exact not_lt.mp hnothing
  | decided available promo alreadyExpired =>
    simp only [SweepState.advance]
    cases hcreate : wallet.createEntry (expiryRow wallet.id now
        (actualExpiredAmount expired alreadyExpired promo) available) with
    | ok created =>
      obtain ⟨hfresh, -, rfl⟩ := createEntry_eq_ok.mp hcreate
      exact Mirrors.places (h.create rfl rfl rfl hreads hfresh)
    | error e =>
      -- the amounts fit, so the key is used
      refine (h.defer rfl ?_).places
      by_contra hfresh
      obtain ⟨hle, hfits, hpositive⟩ := hreads
      have hamount : actualExpiredAmount expired alreadyExpired promo ≤ promo := min_le_right ..
      have hok := createEntry_eq_ok.mpr
        ⟨hfresh, expiryRow_fits hpositive (hamount.trans hle) hfits, rfl⟩
      rw [hcreate] at hok
      cases hok
  | created available promo alreadyExpired =>
    exact h.settle rfl (not_not.mp hstale)

theorem Mirrors.call (h : Mirrors s serial waiting) (call : WalletCall) :
    Places walletStep (Mirrors { s with wallet := call.commit s.wallet }) serial
      (waiting ++ [.call call]) := by
  obtain ⟨idle, hwaiting, hidle⟩ := h.waits
  -- a call whose key is used is idle wherever it stands, any other takes its place at the end
  by_cases hused : s.wallet.KeyUsed (call.idempotencyKey s.wallet.id)
  · rw [call.commit_of_keyUsed hused]
    refine ⟨[], _, List.Perm.refl _, h.sound, h.wallet, h.ledger, h.fresh, h.keys,
      ⟨.call call :: idle, ?_, ?_⟩, h.sweeps⟩
    · exact (List.perm_append_singleton _ _).trans (hwaiting.cons _)
    · intro operation hoperation
      rcases List.mem_cons.mp hoperation with rfl | hmem
      · exact hused
      · exact hidle operation hmem
  · have hfresh : ¬ ({ s.wallet with ledger := serial.ledger }).KeyUsed
        (call.idempotencyKey s.wallet.id) := h.wallet ▸ h.not_keyUsed hused
    obtain ⟨rows, hkeys, hledger, hserial⟩ := call.commit_frame hused hfresh
    rw [← h.wallet] at hserial
    obtain ⟨hid, hother, hsubset⟩ := call.commit_keeps s.wallet
    have hpending : pending { s with wallet := call.commit s.wallet } = s.pending := by
      rw [pending, pending, hid]
    refine ⟨[.call call], waiting, List.perm_append_comm, ?_⟩
    rw [run_cons, run_nil, walletStep, hserial]
    refine ⟨?_, rfl, ?_, ?_, hpending ▸ h.keys, ⟨idle, hwaiting, ?_⟩, ?_⟩
    · rw [← hserial]
      exact h.sound.commit call
    · rw [hpending, hledger]
      refine (h.ledger.append_right rows).trans ?_
      rw [List.append_assoc, List.append_assoc]
      exact List.perm_append_comm.append_left _
    · rw [hpending]
      intro row hrow hused'
      rcases hused' with ⟨posted, hmem, hkey⟩ | hmem
      · rcases List.mem_append.mp hmem with hold | hnew
        · exact h.fresh row hrow (.inl ⟨posted, hold, hkey⟩)
        · -- the call's key is fresh, the pending one is used
          refine hused (.inl ⟨row, h.ledger.symm.subset (List.mem_append_right _ hrow), ?_⟩)
          rw [← hkey, hkeys posted hnew]
      · exact h.fresh row hrow (.inr (h.otherKeys_eq ▸ hother ▸ hmem))
    · exact fun operation hoperation => (hidle operation hoperation).mono hid hsubset hother
    · intro sweep hsweep
      obtain ⟨hexpired, hreads⟩ := h.sweeps sweep hsweep
      refine ⟨?_, hreads⟩
      rw [WalletAccount.expiredEntries, hledger, List.filter_append]
      exact List.append_ne_nil_of_left_ne_nil hexpired _

theorem Mirrors.start (h : Mirrors s serial waiting) (now : ℤ) :
    Places walletStep (Mirrors (sweepStep s (.start now))) serial
      (waiting ++ [.cleanExpiredPromotionalCredits now]) := by
  obtain ⟨idle, hwaiting, hidle⟩ := h.waits
  simp only [sweepStep]
  split
  next hnil =>
    have hserial : walletStep serial (.cleanExpiredPromotionalCredits now) = serial := by
      refine expire_of_idle (.inl ?_)
      have hperm := h.expiredEntries_perm now
      rw [hnil] at hperm
      exact hperm.symm.eq_nil
    refine ⟨[.cleanExpiredPromotionalCredits now], waiting, List.perm_append_comm, ?_⟩
    rw [run_cons, hserial]
    exact h
  next hexpired =>
    refine ⟨[], _, List.Perm.refl _, h.sound, h.wallet, h.ledger, h.fresh, h.keys,
      ⟨idle, ?_, hidle⟩, ?_⟩
    · refine (List.perm_append_singleton _ _).trans ((hwaiting.cons _).trans ?_)
      exact List.perm_middle.symm
    · intro sweep hsweep
      rcases List.mem_cons.mp hsweep with rfl | hmem
      · exact ⟨hexpired, trivial⟩
      · exact h.sweeps sweep hmem

theorem endsStale_perm {sweeps : List Sweep} (hperm : s.sweeps.Perm sweeps)
    (action : SweepAction) : s.EndsStale action ↔ EndsStale { s with sweeps } action := by
  have hsettled : s.settledExpirations = settledExpirations { s with sweeps } := by
    rw [settledExpirations, settledExpirations]
    exact congrArg _ ((hperm.filterMap _).map _).sum_eq
  cases action with
  | call => exact Iff.rfl
  | start => exact Iff.rfl
  | advance sweep =>
    rw [EndsStale, EndsStale, hperm.mem_iff, hsettled]
    exact Iff.rfl

theorem Mirrors.step (h : Mirrors s serial waiting) (action : SweepAction)
    (hholds : ¬ s.EndsStale action) :
    Places walletStep (Mirrors (sweepStep s action)) serial (waiting ++ action.operations) := by
  cases action with
  | call call => exact h.call call
  | start now => exact h.start now
  | advance sweep =>
    rw [SweepAction.operations, List.append_nil, sweepStep]
    split
    next hmem =>
      have hperm := List.perm_cons_erase hmem
      exact (h.perm hperm).advance (mt (endsStale_perm hperm _).mpr hholds)
    next hmem => exact h.places

theorem mirrors_create (id : Id) (otherKeys : List String) :
    Mirrors (.create id otherKeys) (.create id otherKeys) [] where
  sound := sound_create id otherKeys
  wallet := rfl
  ledger := by simp [SweepState.create, pending]
  fresh := by simp [SweepState.create, pending]
  keys := by simp [SweepState.create, pending]
  waits := ⟨[], by simp [SweepState.create], by simp⟩
  sweeps := by simp [SweepState.create]

end SweepState

/-- Where no sweep ends on stale reads, no update is lost: once nothing is in flight, the
balances are those that the same operations leave in some serial order. -/
theorem sweeps_serial (id : Id) (otherKeys : List String) (actions : List SweepAction)
    (hholds : Along sweepStep (fun s action => ¬ s.EndsStale action) (.create id otherKeys) actions)
    (hdone : (run sweepStep (.create id otherKeys) actions).sweeps = []) :
    SerialUpTo walletStep (.create id otherKeys) (actions.flatMap SweepAction.operations)
      fun wallet =>
        wallet.balances = (run sweepStep (.create id otherKeys) actions).wallet.balances := by
  have hplaces := hholds.places SweepState.Mirrors
    (fun s action serial waiting hstep h => h.step action hstep)
    (SweepState.mirrors_create id otherKeys)
  rw [List.nil_append] at hplaces
  refine serialUpTo_of_places (fun serial rest h => ?_) hplaces
  obtain ⟨idle, hrest, hidle⟩ := h.waits
  rw [hdone, List.map_nil, List.append_nil] at hrest
  have hledger := h.ledger
  rw [SweepState.pending, hdone, List.filterMap_nil, List.append_nil] at hledger
  have hrun : run walletStep serial rest = serial := by
    refine run_idle fun operation hoperation => ?_
    refine WalletOperation.Idle.mono ?_ ?_ ?_ (hidle operation (hrest.subset hoperation))
    · exact h.id_eq
    · exact hledger.subset
    · exact h.otherKeys_eq.symm
  rw [hrun, WalletAccount.balances, WalletAccount.balances, h.available_eq, h.real_eq, h.promo_eq]

/-- The deposit commits before the sweep reads the wallet, and a second sweep of that day
starts while the first one is between its writes. -/
def overlappingSweeps : List SweepAction :=
  [depositCall 10000 .promotional "promo" (some 1000), .start 2000,
    depositCall 5000 .realMoney "second" none, .advance ⟨2000, 10000, .entriesRead⟩,
    .advance ⟨2000, 10000, .walletRead 15000 10000⟩,
    .advance ⟨2000, 10000, .decided 15000 10000 0⟩, .start 3000,
    .advance ⟨3000, 10000, .entriesRead⟩, .advance ⟨3000, 10000, .walletRead 15000 10000⟩,
    .advance ⟨2000, 10000, .created 15000 10000 0⟩]

theorem sweeps_serial_overlapping :
    SerialUpTo walletStep (.create "wallet" [])
      (overlappingSweeps.flatMap SweepAction.operations) fun wallet =>
        wallet.balances =
          (run sweepStep (.create "wallet" []) overlappingSweeps).wallet.balances :=
  sweeps_serial "wallet" [] overlappingSweeps (by decide +kernel) (by decide +kernel)

end CarRental
