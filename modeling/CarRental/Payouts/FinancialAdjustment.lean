import CarRental.Wallets.Account
import Mathlib.Logic.Function.Basic

/-!
# Adjustments of a customer's wallet

`PayoutsService.createFinancialAdjustment`: a row is created for an adjustment in a transaction, and
for a customer's wallet `adminAdjustWallet` is called before the transaction commits.  The wallet
service has a transaction of its own, which has committed when the call returns; what fails after it
takes back the row and not the entry of the wallet.

The entry has a key of its own, made of the admin, the wallet and the key of the adjustment.  An
entry that has the key already is taken for the adjustment's, whatever its amount and its direction.

Amounts are in paise.  The audit log catches its own failures, and is left out.
-/

namespace CarRental

/-! ## The tables -/

structure FinancialAdjustmentRow where
  adjustmentNumber : String
  targetType : String
  targetId : Id
  amount : ℤ
  direction : LedgerDirection
  reason : String
  category : String
  referenceId : Option Id
  approvedByUserId : Id
  idempotencyKey : String
deriving DecidableEq

/-- What the controller lets through. -/
structure CreateFinancialAdjustmentDto where
  targetType : String
  targetId : Id
  amount : ℤ
  amount_pos : 0 < amount
  direction : LedgerDirection
  reason : String
  category : String
  referenceId : Option Id
  idempotencyKey : String
  keyGiven : idempotencyKey ≠ ""

/-- The wallets by their ids, and the keys of all their entries. -/
structure WalletTable where
  account : Id → Option WalletAccount
  keys : List String
  ids : ∀ walletId wallet, account walletId = some wallet → wallet.id = walletId

structure AdjustmentDesk where
  adjustments : List FinancialAdjustmentRow
  wallets : WalletTable

/-! ## The wallet service -/

namespace WalletAccount

variable {config : Option WalletConfig} {wallet wallet' : WalletAccount} {adminUserId : Id}
  {amount now : ℤ} {direction : LedgerDirection} {bucket : WalletBucketType}
  {clientNonce : Option String}

theorem adminAdjustWallet_posted
    (h : adminAdjustWallet config wallet adminUserId amount direction bucket clientNonce now =
      .ok wallet') :
    wallet.KeyUsed (adminAdjustKey adminUserId wallet.id clientNonce now) ∧ wallet' = wallet ∨
      ¬ wallet.KeyUsed (adminAdjustKey adminUserId wallet.id clientNonce now) ∧
        ∃ row real promo, wallet' = wallet.post row real promo ∧
          row.idempotencyKey = adminAdjustKey adminUserId wallet.id clientNonce now ∧
            row.amount = amount ∧ row.direction = direction := by
  cases direction with
  | credit =>
    obtain ⟨-, hreplayed | ⟨hfresh, -, -, -, -, hposted⟩⟩ := creditWallet_cases h
    · exact .inl hreplayed
    · exact .inr ⟨hfresh, _, _, _, hposted, rfl, rfl, rfl⟩
  | debit =>
    obtain ⟨-, hreplayed | ⟨hfresh, -, -, -, hposted⟩⟩ := debitWallet_cases h
    · exact .inl hreplayed
    · exact .inr ⟨hfresh, _, _, _, hposted, rfl, rfl, rfl⟩

theorem adminAdjustWallet_id
    (h : adminAdjustWallet config wallet adminUserId amount direction bucket clientNonce now =
      .ok wallet') : wallet'.id = wallet.id := by
  rcases adminAdjustWallet_posted h with ⟨-, rfl⟩ | ⟨-, row, real, promo, rfl, -⟩
  · rfl
  · rfl

end WalletAccount

open WalletAccount

namespace WalletTable

/-- A row of a wallet is written, with the keys of its entries. -/
def replace (table : WalletTable) (wallet : WalletAccount) : WalletTable where
  account := Function.update table.account wallet.id (some wallet)
  keys := wallet.ledger.map (·.idempotencyKey) ++ table.keys
  ids walletId found h := by
    by_cases hsame : walletId = wallet.id
    · rw [hsame, Function.update_self] at h
      rw [← Option.some_inj.mp h, hsame]
    · rw [Function.update_of_ne hsame] at h
      exact table.ids _ _ h

theorem account_replace (table : WalletTable) (wallet : WalletAccount) :
    (table.replace wallet).account wallet.id = some wallet := Function.update_self _ _ _

/-- A call of `adminAdjustWallet`, which has committed when it returns.  A key that has been used is
found before the wallet is looked for. -/
def adminAdjustWallet (table : WalletTable) (config : Option WalletConfig)
    (adminUserId walletId : Id) (amount : ℤ) (direction : LedgerDirection)
    (clientNonce : Option String) (now : ℤ) : Except HttpError WalletTable :=
  match table.account walletId with
  | none =>
    if amount ≤ 0 then
      .error (.badRequest "Amount must be strictly greater than zero.")
    else if adminAdjustKey adminUserId walletId clientNonce now ∈ table.keys then .ok table
    else .error (.notFound ("Wallet not found: " ++ walletId))
  | some wallet =>
    (WalletAccount.adminAdjustWallet config wallet adminUserId amount direction .realMoney
      clientNonce now).map table.replace

end WalletTable

/-! ## The call -/

/-- Where a call may fail. -/
inductive AdjustmentFailure where
  /-- The look for the key, or the count of the adjustments of the month. -/
  | beforeTransaction
  /-- The transaction up to the call of the wallet service. -/
  | beforeWallet
  /-- The wallet service before its transaction has committed. -/
  | inWallet
  /-- Anything after: the rest of the wallet service, a transaction that has taken too long, its
  commit, a crash. -/
  | afterWallet
deriving DecidableEq, Repr

def adjustmentRow (adminUserId : Id) (adjustmentNumber : String)
    (dto : CreateFinancialAdjustmentDto) : FinancialAdjustmentRow where
  adjustmentNumber
  targetType := dto.targetType
  targetId := dto.targetId
  amount := dto.amount
  direction := dto.direction
  reason := dto.reason
  category := dto.category
  referenceId := dto.referenceId
  approvedByUserId := adminUserId
  idempotencyKey := dto.idempotencyKey

/-- The database takes the row: its key and its number are new, and the amount fits. -/
def AdjustmentDesk.Creatable (desk : AdjustmentDesk) (row : FinancialAdjustmentRow) : Prop :=
  row.idempotencyKey ∉ desk.adjustments.map FinancialAdjustmentRow.idempotencyKey ∧
    row.adjustmentNumber ∉ desk.adjustments.map FinancialAdjustmentRow.adjustmentNumber ∧
      Fits row.amount

instance (desk : AdjustmentDesk) (row : FinancialAdjustmentRow) : Decidable (desk.Creatable row) :=
  inferInstanceAs (Decidable (_ ∧ _))

/-- The transaction, with the number that the row gets. -/
def adjustmentTransaction (desk : AdjustmentDesk) (config : Option WalletConfig) (adminUserId : Id)
    (adjustmentNumber : String) (dto : CreateFinancialAdjustmentDto) (now : ℤ)
    (failure : Option AdjustmentFailure) :
    AdjustmentDesk × Except HttpError FinancialAdjustmentRow :=
  let row := adjustmentRow adminUserId adjustmentNumber dto
  if ¬ desk.Creatable row then (desk, .error (.internal "Write refused by the database"))
  else if failure = some .beforeWallet then (desk, .error (.internal "Transaction failed"))
  else
    let adjusted := if dto.targetType = "CUSTOMER_WALLET" then
        desk.wallets.adminAdjustWallet config adminUserId dto.targetId dto.amount dto.direction
          (some dto.idempotencyKey) now
      else .ok desk.wallets
    match adjusted with
    | .error e => (desk, .error e)
    | .ok wallets =>
      if failure = some .inWallet then (desk, .error (.internal "Wallet transaction failed"))
      else if failure = some .afterWallet then
        -- the row is taken back, the wallet has committed
        ({ desk with wallets }, .error (.internal "Transaction failed"))
      else ({ adjustments := desk.adjustments ++ [row], wallets }, .ok row)

def createFinancialAdjustment (desk : AdjustmentDesk) (config : Option WalletConfig)
    (adminUserId : Id) (adjustmentNumber : String) (dto : CreateFinancialAdjustmentDto) (now : ℤ)
    (failure : Option AdjustmentFailure) :
    AdjustmentDesk × Except HttpError FinancialAdjustmentRow :=
  if failure = some .beforeTransaction then (desk, .error (.internal "Query failed"))
  else
    match desk.adjustments.find? fun row => row.idempotencyKey = dto.idempotencyKey with
    | some existing => (desk, .ok existing)
    | none => adjustmentTransaction desk config adminUserId adjustmentNumber dto now failure

/-! ## The law -/

def RowExists (desk : AdjustmentDesk) (adminUserId : Id) (dto : CreateFinancialAdjustmentDto) :
    Prop :=
  ∃ row ∈ desk.adjustments, row.idempotencyKey = dto.idempotencyKey ∧
    row.approvedByUserId = adminUserId ∧ row.targetType = dto.targetType ∧
      row.targetId = dto.targetId ∧ row.amount = dto.amount ∧ row.direction = dto.direction

/-- The key of its entry in the wallet's ledger. -/
def entryKey (adminUserId : Id) (dto : CreateFinancialAdjustmentDto) : String :=
  "wallet_admin_adj_" ++ adminUserId ++ "_" ++ dto.targetId ++ "_" ++ dto.idempotencyKey

/-- The entry, with the amount and the direction of the adjustment. -/
def EntryExists (desk : AdjustmentDesk) (adminUserId : Id) (dto : CreateFinancialAdjustmentDto) :
    Prop :=
  ∃ wallet ∈ desk.wallets.account dto.targetId, ∃ row ∈ wallet.ledger,
    row.idempotencyKey = entryKey adminUserId dto ∧ row.amount = dto.amount ∧
      row.direction = dto.direction

/-- The row exists exactly when the entry does. -/
def AdjustmentLaw (desk : AdjustmentDesk) (adminUserId : Id) (dto : CreateFinancialAdjustmentDto) :
    Prop :=
  RowExists desk adminUserId dto ↔ EntryExists desk adminUserId dto

instance (desk : AdjustmentDesk) (adminUserId : Id) (dto : CreateFinancialAdjustmentDto) :
    Decidable (RowExists desk adminUserId dto) :=
  inferInstanceAs (Decidable (∃ row ∈ _, _))

instance (desk : AdjustmentDesk) (adminUserId : Id) (dto : CreateFinancialAdjustmentDto) :
    Decidable (EntryExists desk adminUserId dto) :=
  inferInstanceAs (Decidable (∃ wallet ∈ _, ∃ row ∈ _, _))

instance (desk : AdjustmentDesk) (adminUserId : Id) (dto : CreateFinancialAdjustmentDto) :
    Decidable (AdjustmentLaw desk adminUserId dto) :=
  inferInstanceAs (Decidable (_ ↔ _))

/-- The row can be created and the wallet service accepts. -/
def AdjustmentAccepted (desk : AdjustmentDesk) (config : Option WalletConfig) (adminUserId : Id)
    (adjustmentNumber : String) (dto : CreateFinancialAdjustmentDto) (now : ℤ) : Prop :=
  desk.Creatable (adjustmentRow adminUserId adjustmentNumber dto) ∧
    ∃ wallets, desk.wallets.adminAdjustWallet config adminUserId dto.targetId dto.amount
      dto.direction (some dto.idempotencyKey) now = .ok wallets

def EntryKeyUsed (desk : AdjustmentDesk) (adminUserId : Id) (dto : CreateFinancialAdjustmentDto) :
    Prop :=
  match desk.wallets.account dto.targetId with
  | some wallet => wallet.KeyUsed (entryKey adminUserId dto)
  | none => entryKey adminUserId dto ∈ desk.wallets.keys

/-- If the row can be created and the wallet service accepts: a call that is not interrupted finds
the key of its entry unused, and one that fails after the wallet has committed finds it used. -/
def BothOrNeither (desk : AdjustmentDesk) (config : Option WalletConfig) (adminUserId : Id)
    (adjustmentNumber : String) (dto : CreateFinancialAdjustmentDto) (now : ℤ)
    (failure : Option AdjustmentFailure) : Prop :=
  AdjustmentAccepted desk config adminUserId adjustmentNumber dto now →
    (failure = none → ¬ EntryKeyUsed desk adminUserId dto) ∧
      (failure = some .afterWallet → EntryKeyUsed desk adminUserId dto)

section Law

variable {desk : AdjustmentDesk} {config : Option WalletConfig} {adminUserId : Id}
  {adjustmentNumber : String} {dto : CreateFinancialAdjustmentDto} {now : ℤ}
  {failure : Option AdjustmentFailure} {wallets : WalletTable}

theorem adminAdjustKey_eq (adminUserId : Id) (dto : CreateFinancialAdjustmentDto) (now : ℤ) :
    adminAdjustKey adminUserId dto.targetId (some dto.idempotencyKey) now =
      entryKey adminUserId dto := by
  have hnonce : (some dto.idempotencyKey).filter (· ≠ "") = some dto.idempotencyKey := by
    rw [Option.filter_some, if_pos (decide_eq_true dto.keyGiven)]
  unfold adminAdjustKey entryKey
  simp only [hnonce, Option.getD_some]

theorem not_rowExists_of_creatable
    (h : desk.Creatable (adjustmentRow adminUserId adjustmentNumber dto)) :
    ¬ RowExists desk adminUserId dto := by
  rintro ⟨row, hrow, hkey, -⟩
  exact h.1 (List.mem_map.mpr ⟨row, hrow, hkey⟩)

theorem adminAdjustWallet_entry
    (h : desk.wallets.adminAdjustWallet config adminUserId dto.targetId dto.amount dto.direction
      (some dto.idempotencyKey) now = .ok wallets) :
    EntryKeyUsed desk adminUserId dto ∧
        wallets.account dto.targetId = desk.wallets.account dto.targetId ∨
      ¬ EntryKeyUsed desk adminUserId dto ∧ ∃ wallet ∈ wallets.account dto.targetId,
        ∃ row ∈ wallet.ledger, row.idempotencyKey = entryKey adminUserId dto ∧
          row.amount = dto.amount ∧ row.direction = dto.direction := by
  unfold WalletTable.adminAdjustWallet at h
  split at h
  next hnone =>
    split at h
    · cases h
    · split at h
      next hused =>
        cases h
        rw [adminAdjustKey_eq] at hused
        refine .inl ⟨?_, rfl⟩
        rw [EntryKeyUsed, hnone]
        exact hused
      next => cases h
  next wallet hwallet =>
    have hid : wallet.id = dto.targetId := desk.wallets.ids _ _ hwallet
    have hused : EntryKeyUsed desk adminUserId dto ↔
        wallet.KeyUsed (entryKey adminUserId dto) := by
      rw [EntryKeyUsed, hwallet]
    cases hadjusted : WalletAccount.adminAdjustWallet config wallet adminUserId dto.amount
        dto.direction .realMoney (some dto.idempotencyKey) now with
    | error e =>
      rw [hadjusted] at h
      cases h
    | ok wallet' =>
      rw [hadjusted] at h
      cases h
      have haccount : (desk.wallets.replace wallet').account dto.targetId = some wallet' := by
        rw [← hid, ← adminAdjustWallet_id hadjusted]
        exact desk.wallets.account_replace wallet'
      have hcases := adminAdjustWallet_posted hadjusted
      rw [hid, adminAdjustKey_eq] at hcases
      rcases hcases with ⟨hkey, rfl⟩ | ⟨hfresh, row, real, promo, rfl, hkey, hbooked⟩
      · exact .inl ⟨hused.mpr hkey, haccount.trans hwallet.symm⟩
      · refine .inr ⟨fun hkey => hfresh (hused.mp hkey), _, haccount, row, ?_, hkey, hbooked⟩
        exact List.mem_append_right _ List.mem_cons_self

theorem entryExists_after {adjustments : List FinancialAdjustmentRow}
    (h : desk.wallets.adminAdjustWallet config adminUserId dto.targetId dto.amount dto.direction
      (some dto.idempotencyKey) now = .ok wallets) :
    EntryExists ⟨adjustments, wallets⟩ adminUserId dto ↔
      EntryExists desk adminUserId dto ∨ ¬ EntryKeyUsed desk adminUserId dto := by
  rcases adminAdjustWallet_entry h with ⟨hused, haccount⟩ | ⟨hfresh, hentry⟩
  · simp only [EntryExists, haccount, hused, not_true_eq_false, or_false]
  · exact ⟨fun _ => .inr hfresh, fun _ => hentry⟩

theorem adjustmentTransaction_law_iff (htarget : dto.targetType = "CUSTOMER_WALLET")
    (hfailure : failure ≠ some .beforeTransaction) (hlaw : AdjustmentLaw desk adminUserId dto) :
    AdjustmentLaw (adjustmentTransaction desk config adminUserId adjustmentNumber dto now
        failure).1 adminUserId dto ↔
      BothOrNeither desk config adminUserId adjustmentNumber dto now failure := by
  by_cases hcreatable : desk.Creatable (adjustmentRow adminUserId adjustmentNumber dto)
  · have hrow := not_rowExists_of_creatable hcreatable
    have hentry : ¬ EntryExists desk adminUserId dto := fun h => hrow (hlaw.mpr h)
    simp only [adjustmentTransaction, hcreatable, not_true_eq_false, if_false, htarget, if_true]
    cases hadjusted : desk.wallets.adminAdjustWallet config adminUserId dto.targetId dto.amount
        dto.direction (some dto.idempotencyKey) now with
    | error e =>
      have hstays : ¬ AdjustmentAccepted desk config adminUserId adjustmentNumber dto now := by
        rintro ⟨-, wallets, hwallets⟩
        rw [hadjusted] at hwallets
        cases hwallets
      have hunchanged : (if failure = some .beforeWallet then
          (desk, (.error (.internal "Transaction failed") :
            Except HttpError FinancialAdjustmentRow))
          else (desk, .error e)).1 = desk := by
        split <;> rfl
      rw [hunchanged]
      exact ⟨fun _ h => absurd h hstays, fun _ => hlaw⟩
    | ok wallets =>
      have hthrough : AdjustmentAccepted desk config adminUserId adjustmentNumber dto now :=
        ⟨hcreatable, wallets, hadjusted⟩
      have hafter : ∀ adjustments, EntryExists ⟨adjustments, wallets⟩ adminUserId dto ↔
          ¬ EntryKeyUsed desk adminUserId dto := by
        intro adjustments
        rw [entryExists_after hadjusted]
        exact or_iff_right hentry
      match failure with
      | none =>
        have hcreated : RowExists ⟨desk.adjustments ++
            [adjustmentRow adminUserId adjustmentNumber dto], wallets⟩ adminUserId dto :=
          ⟨_, List.mem_append_right _ List.mem_cons_self, rfl, rfl, rfl, rfl, rfl, rfl⟩
        refine ⟨fun h _ => ⟨fun _ => (hafter _).mp (h.mp hcreated), nofun⟩,
          fun h => ⟨fun _ => (hafter _).mpr ((h hthrough).1 rfl), fun _ => hcreated⟩⟩
      | some .beforeTransaction => exact absurd rfl hfailure
      | some .beforeWallet =>
        exact ⟨fun _ _ => ⟨nofun, nofun⟩, fun _ => hlaw⟩
      | some .inWallet =>
        exact ⟨fun _ _ => ⟨nofun, nofun⟩, fun _ => hlaw⟩
      | some .afterWallet =>
        have hrow' : ¬ RowExists ⟨desk.adjustments, wallets⟩ adminUserId dto := hrow
        constructor
        · intro h _
          refine ⟨nofun, fun _ => ?_⟩
          by_contra hfresh
          exact hrow' (h.mpr ((hafter _).mpr hfresh))
        · intro h
          exact ⟨fun hexists => absurd hexists hrow',
            fun hexists => absurd ((h hthrough).2 rfl) ((hafter _).mp hexists)⟩
  · have hstays : ¬ AdjustmentAccepted desk config adminUserId adjustmentNumber dto now :=
      fun h => hcreatable h.1
    simp only [adjustmentTransaction, hcreatable, not_false_eq_true, if_true]
    exact ⟨fun _ h => absurd h hstays, fun _ => hlaw⟩

/-- **Adjustments of a customer's wallet.**  For every desk, every adjustment whose row and entry go
together before the call, and every point at which the call may fail: they go together after it
exactly when a call that goes through finds the key of the entry unused, and one that fails after
the wallet has committed finds it used. -/
theorem financial_adjustment_iff (htarget : dto.targetType = "CUSTOMER_WALLET")
    (hlaw : AdjustmentLaw desk adminUserId dto) :
    AdjustmentLaw (createFinancialAdjustment desk config adminUserId adjustmentNumber dto now
        failure).1 adminUserId dto ↔
      BothOrNeither desk config adminUserId adjustmentNumber dto now failure := by
  by_cases hfailure : failure = some .beforeTransaction
  · subst hfailure
    rw [createFinancialAdjustment, if_pos rfl]
    exact ⟨fun _ _ => ⟨nofun, nofun⟩, fun _ => hlaw⟩
  · rw [createFinancialAdjustment, if_neg hfailure]
    cases hfound : desk.adjustments.find? fun row => row.idempotencyKey = dto.idempotencyKey with
    | some existing =>
      have hkey : existing.idempotencyKey = dto.idempotencyKey :=
        of_decide_eq_true (List.find?_some hfound :)
      have hstays : ¬ AdjustmentAccepted desk config adminUserId adjustmentNumber dto now := by
        rintro ⟨hcreatable, -⟩
        exact hcreatable.1 (List.mem_map.mpr ⟨existing, List.mem_of_find?_eq_some hfound, hkey⟩)
      exact ⟨fun _ h => absurd h hstays, fun _ => hlaw⟩
    | none => exact adjustmentTransaction_law_iff htarget hfailure hlaw

end Law

/-! ## A goodwill credit -/

def newCustomersWallet : AdjustmentDesk where
  adjustments := []
  wallets := {
    account := fun walletId => if walletId = "wallet" then some (.create "wallet" []) else none
    keys := []
    ids := fun walletId wallet h => by
      split at h
      next hwallet =>
        rw [← Option.some_inj.mp h]
        exact hwallet.symm
      next => cases h }

def goodwillCredit : CreateFinancialAdjustmentDto where
  targetType := "CUSTOMER_WALLET"
  targetId := "wallet"
  amount := 45000
  amount_pos := by decide +kernel
  direction := .credit
  reason := "Late delivery"
  category := "GOODWILL"
  referenceId := none
  idempotencyKey := "goodwill"
  keyGiven := by decide +kernel

theorem goodwill_credit_is_booked :
    AdjustmentLaw (createFinancialAdjustment newCustomersWallet none "admin" "ADJ-2026-03-0001"
      goodwillCredit 0 none).1 "admin" goodwillCredit := by
  apply (financial_adjustment_iff rfl (by decide +kernel)).mpr
  rintro -
  refine ⟨fun _ => ?_, nofun⟩
  show ¬ (WalletAccount.create "wallet" []).KeyUsed (entryKey "admin" goodwillCredit)
  decide +kernel

/-- When the transaction fails after the wallet has committed, the credit stays in the wallet and
no row says why. -/
theorem credit_outlives_its_adjustment :
    AdjustmentLaw newCustomersWallet "admin" goodwillCredit ∧
      (createFinancialAdjustment newCustomersWallet none "admin" "ADJ-2026-03-0001"
        goodwillCredit 0 (some .afterWallet)).1.adjustments = [] ∧
      ¬ AdjustmentLaw (createFinancialAdjustment newCustomersWallet none "admin"
        "ADJ-2026-03-0001" goodwillCredit 0 (some .afterWallet)).1 "admin" goodwillCredit := by
  decide +kernel

end CarRental
