import CarRental.Lib.KeyedRows
import CarRental.Payments.Orders

/-!
# Vendor security deposits

`VendorSecurityDepositService` and the branch of the payment webhook for deposits.

Every operation reads the deposit, checks what it has read, and writes later, most of them in a
transaction that does not read again; so a call is begun by one step and finished by another.  A
write names the fields it sets (`DepositPatch`) and leaves the others as they are by then.

The services compute amounts in doubles, which tell amounts of this size apart to well below a
paisa, and the columns round to the paisa; here the amounts before the columns are decimals.
-/

namespace CarRental.Vendors

open KeyedRows

inductive VendorDepositStatus where
  | required
  | notRequired
  | pending
  | paymentInitiated
  | partiallyPaid
  | paid
  | paymentFailed
  | held
  | released
  | refundPending
  | partiallyRefunded
  | refunded
  | forfeited
  | reviewRequired
deriving DecidableEq, Repr

structure VendorDeposit where
  vendorId : Id
  requiredAmount : Money
  paidAmount : Money
  remainingAmount : Money
  status : VendorDepositStatus
  isExempt : Bool
  providerOrderId : Option OrderId
  providerPaymentId : Option String
deriving DecidableEq

structure DepositLedgerEntry where
  vendorId : Id
  amount : Money
  direction : LedgerDirection
  balanceBefore : Money
  balanceAfter : Money
  reference : String
  idempotencyKey : String
deriving DecidableEq

structure DepositPolicy where
  isRequired : Bool
  amount : Money
  nonneg : 0 ≤ amount.paise

/-- The policy of the runs that are followed in detail, with 1000 rupees. -/
def thousandRequired : DepositPolicy := ⟨true, ⟨1000 * 100, by decide⟩, by decide⟩

/-- `vendor.onboarding.rules`, as far as a first payment goes. -/
structure DepositRules where
  allowPartialDepositPayment : Bool
  minInitialDepositPercentage : Decimal

/-- What the service is set up with outside of mock mode. -/
structure DepositGateway where
  /-- `this.razorpay` is there. -/
  hasClient : Bool
  validSignature : OrderId → String → String → Bool
  rules : Option DepositRules

def zeroAmount : Money := ⟨0, by norm_num⟩

/-! ## Requests -/

inductive DepositRequest where
  /-- `createDepositPaymentOrder`, with the order that the gateway makes. -/
  | order (orderId : OrderId)
  | verify (orderId : OrderId) (paymentId signature : String) (fetch : PaymentFetch)
  | webhook (orderId : OrderId) (paymentId : String)
  | record (amount : Decimal) (reference idempotencyKey : String)
  | hold
  | release (reference idempotencyKey : String)
  | refund (amount : Option Decimal) (reference idempotencyKey : String)
  | forfeit (amount : Option Decimal) (reference idempotencyKey : String)
  | adjust (amount : Decimal) (direction : Option LedgerDirection)
      (newRequiredAmount : Option Decimal) (reference idempotencyKey : String)
  | exempt (isExempt : Bool)
deriving DecidableEq

/-- A call between its read and its write. -/
structure DepositCall where
  vendorId : Id
  request : DepositRequest
  read : VendorDeposit
deriving DecidableEq

/-- The fields that an update sets. -/
structure DepositPatch where
  status : Option VendorDepositStatus := none
  requiredAmount : Option Decimal := none
  paidAmount : Option Decimal := none
  remainingAmount : Option Decimal := none
  isExempt : Option Bool := none
  providerOrderId : Option OrderId := none
  providerPaymentId : Option String := none

/-- An entry before its columns. -/
structure EntryDraft where
  amount : Decimal
  direction : LedgerDirection
  balanceBefore : Decimal
  balanceAfter : Decimal
  reference : String
  idempotencyKey : String

structure DepositWrite where
  patch : DepositPatch
  entry : Option EntryDraft := none

/-- A credit of a gateway payment to a deposit, with the amount where it is a verification's. -/
structure DepositCredit where
  vendorId : Id
  paymentId : String
  verified : Option Money
deriving DecidableEq

structure DepositDesk where
  deposits : List VendorDeposit
  /-- Oldest first. -/
  ledger : List DepositLedgerEntry
  policy : DepositPolicy
  calls : List DepositCall
  /-- The orders that the gateway has made for deposits. -/
  issued : List (OrderId × Id)
  credits : List DepositCredit

/-! ## Checks -/

/-- What `isExempt`, `isRequired` and the amounts have to be for an order. -/
def orderAllowed (policy : DepositPolicy) (read : VendorDeposit) : Bool :=
  read.isExempt = false ∧ policy.isRequired = true ∧ read.status ≠ .paid ∧
    0 < read.remainingAmount.paise

def firstPaymentAllowed (rules : Option DepositRules) (required amount : Decimal) : Bool :=
  rules.all fun rules =>
    if rules.allowPartialDepositPayment then
      rules.minInitialDepositPercentage ≤ 0 ∨
        required * rules.minInitialDepositPercentage / 100 ≤ amount
    else required ≤ amount

/-- `dto.amount ? Number(dto.amount) : balanceBefore`, with the DTO's `@Min(1)`. -/
def debitAllowed (read : VendorDeposit) (amount : Option Decimal) : Bool :=
  0 < read.paidAmount.paise ∧
    amount.all fun amount => 1 ≤ amount ∧ amount ≤ read.paidAmount.value

namespace Adjustment

def isDebit (amount : Decimal) (direction : Option LedgerDirection) : Bool :=
  direction = some .debit ∨ amount < 0

def balanceAfter (read : VendorDeposit) (amount : Decimal) (direction : Option LedgerDirection) :
    Decimal :=
  if isDebit amount direction then read.paidAmount.value - |amount|
  else read.paidAmount.value + |amount|

def requiredAmount (read : VendorDeposit) (newRequiredAmount : Option Decimal) : Decimal :=
  newRequiredAmount.getD read.requiredAmount.value

def status (read : VendorDeposit) (after required : Decimal) : VendorDepositStatus :=
  if required ≤ after ∧ 0 < required then .paid
  else if 0 < after then .partiallyPaid
  else if after = 0 then .required
  else read.status

end Adjustment

/-- What a request checks before its write. -/
def DepositRequest.allowed (gateway : DepositGateway) (policy : DepositPolicy)
    (ledger : List DepositLedgerEntry) (read : VendorDeposit) : DepositRequest → Bool
  | .order _ => orderAllowed policy read
  | .verify _ paymentId _ _ =>
    ledger.all (·.reference ≠ paymentId) ∧ read.providerPaymentId ≠ some paymentId
  | .webhook orderId paymentId =>
    (read.providerOrderId = some orderId ∨ read.providerPaymentId = some paymentId) ∧
      read.status ≠ .paid
  | .record amount _ idempotencyKey =>
    0 < amount ∧ ledger.all (·.idempotencyKey ≠ idempotencyKey) ∧ read.status ≠ .released ∧
      read.status ≠ .refunded ∧ read.status ≠ .forfeited ∧
      (read.paidAmount.paise ≠ 0 ∨
        firstPaymentAllowed gateway.rules read.requiredAmount.value amount)
  | .hold => read.status = .paid ∨ read.status = .partiallyPaid
  | .release _ _ => read.status = .paid ∨ read.status = .held
  | .refund amount _ _ => debitAllowed read amount
  | .forfeit amount _ _ => debitAllowed read amount
  | .adjust amount direction newRequiredAmount _ _ =>
    0 ≤ Adjustment.balanceAfter read amount direction ∧
      0 ≤ Adjustment.requiredAmount read newRequiredAmount
  | .exempt _ => true

/-! ## Writes -/

inductive Verification where
  | refused
  | failed
  | credited (amount : Decimal)

def missingAmount (read : VendorDeposit) : Decimal :=
  if read.requiredAmount.value - read.paidAmount.value ≤ 0 then read.requiredAmount.value
  else read.requiredAmount.value - read.paidAmount.value

/-- `verifyDepositPayment` between its read and its transaction. -/
def verification (gateway : DepositGateway) (read : VendorDeposit) (orderId : OrderId)
    (paymentId signature : String) (fetch : PaymentFetch) : Verification :=
  if gateway.validSignature orderId paymentId signature = false then .failed
  else if gateway.hasClient = false then .credited (missingAmount read)
  else
    match fetch with
    -- an exception of the client is logged, and that is all
    | .error _ => .credited (missingAmount read)
    | .missing => .refused
    | .found payment =>
      if payment.orderId.any (· ≠ orderId) then .refused
      else if currencyIsInr payment.currency = false then .refused
      else if payment.status = .failed then .failed
      else if payment.amount = 0 then .credited (missingAmount read)
      else .credited (payment.amount / 100)

def paymentWrite (read : VendorDeposit) (amount : Decimal) (reference idempotencyKey : String) :
    DepositWrite where
  patch := {
    paidAmount := some (read.paidAmount.value + amount)
    remainingAmount := some (max 0 (read.requiredAmount.value - (read.paidAmount.value + amount)))
    status := some (if read.requiredAmount.value ≤ read.paidAmount.value + amount then .paid
      else .partiallyPaid) }
  entry := some ⟨amount, .credit, read.paidAmount.value, read.paidAmount.value + amount, reference,
    idempotencyKey⟩

def DepositRequest.write (gateway : DepositGateway) (ledger : List DepositLedgerEntry)
    (read : VendorDeposit) : DepositRequest → Option DepositWrite
  | .order orderId =>
    some { patch := { status := some .paymentInitiated, providerOrderId := some orderId } }
  | .verify orderId paymentId signature fetch =>
    match verification gateway read orderId paymentId signature fetch with
    | .refused => none
    | .failed => some { patch := { status := some .paymentFailed } }
    | .credited amount =>
      let write := paymentWrite read amount paymentId ("pay_" ++ paymentId)
      some { write with
        patch := { write.patch with
          providerOrderId := some orderId
          providerPaymentId := some paymentId } }
  | .webhook _ paymentId => some {
      patch := {
        status := some .paid
        paidAmount := some read.requiredAmount.value
        remainingAmount := some 0
        providerPaymentId := some paymentId }
      entry :=
        if ledger.any (·.reference = paymentId) then none
        else some ⟨read.requiredAmount.value, .credit, read.paidAmount.value,
          read.requiredAmount.value, paymentId, "wh_" ++ paymentId⟩ }
  | .record amount reference idempotencyKey =>
    some (paymentWrite read amount reference idempotencyKey)
  | .hold => some { patch := { status := some .held } }
  | .release reference idempotencyKey => some (
      if read.status = .held then {
        patch := {
          status := some .paid
          paidAmount := some read.paidAmount.value
          remainingAmount := some read.remainingAmount.value }
        entry := some ⟨0, .debit, read.paidAmount.value, read.paidAmount.value, reference,
          idempotencyKey⟩ }
      else {
        patch := {
          status := some .released
          paidAmount := some 0
          remainingAmount := some read.requiredAmount.value }
        entry := some ⟨read.paidAmount.value, .debit, read.paidAmount.value, 0, reference,
          idempotencyKey⟩ })
  | .refund amount reference idempotencyKey =>
    let amount := amount.getD read.paidAmount.value
    let after := read.paidAmount.value - amount
    some {
      patch := {
        paidAmount := some after
        remainingAmount := some (read.requiredAmount.value - after)
        status := some (if after = 0 then .refunded else read.status) }
      entry := some ⟨amount, .debit, read.paidAmount.value, after, reference, idempotencyKey⟩ }
  | .forfeit amount reference idempotencyKey =>
    let amount := amount.getD read.paidAmount.value
    let after := read.paidAmount.value - amount
    some {
      patch := { paidAmount := some after, status := some .forfeited }
      entry := some ⟨amount, .debit, read.paidAmount.value, after, reference, idempotencyKey⟩ }
  | .adjust amount direction newRequiredAmount reference idempotencyKey =>
    let after := Adjustment.balanceAfter read amount direction
    let required := Adjustment.requiredAmount read newRequiredAmount
    some {
      patch := {
        paidAmount := some after
        requiredAmount := some required
        remainingAmount := some (max 0 (required - after))
        status := some (Adjustment.status read after required) }
      entry := some ⟨|amount|, if Adjustment.isDebit amount direction then .debit else .credit,
        read.paidAmount.value, after, reference, idempotencyKey⟩ }
  | .exempt isExempt => some {
      patch := {
        isExempt := some isExempt
        status := some (
          if isExempt then .notRequired
          else if read.requiredAmount.paise ≤ read.paidAmount.paise then .paid
          else .required) } }

/-! ## Rows -/

def setAmount (old : Money) : Option Decimal → Option Money
  | none => some old
  | some amount => Column.ofDecimal? amount

def VendorDeposit.apply (row : VendorDeposit) (patch : DepositPatch) : Option VendorDeposit := do
  let requiredAmount ← setAmount row.requiredAmount patch.requiredAmount
  let paidAmount ← setAmount row.paidAmount patch.paidAmount
  let remainingAmount ← setAmount row.remainingAmount patch.remainingAmount
  return { row with
    requiredAmount, paidAmount, remainingAmount
    status := patch.status.getD row.status
    isExempt := patch.isExempt.getD row.isExempt
    providerOrderId := patch.providerOrderId.or row.providerOrderId
    providerPaymentId := patch.providerPaymentId.or row.providerPaymentId }

def EntryDraft.store (draft : EntryDraft) (vendorId : Id) : Option DepositLedgerEntry := do
  let amount ← Column.ofDecimal? draft.amount
  let balanceBefore ← Column.ofDecimal? draft.balanceBefore
  let balanceAfter ← Column.ofDecimal? draft.balanceAfter
  return ⟨vendorId, amount, draft.direction, balanceBefore, balanceAfter, draft.reference,
    draft.idempotencyKey⟩

namespace DepositDesk

def opened (policy : DepositPolicy) : DepositDesk := ⟨[], [], policy, [], [], []⟩

def deposit? (s : DepositDesk) (vendorId : Id) : Option VendorDeposit :=
  s.deposits.find? (·.vendorId = vendorId)

/-- `getDeposit` for a vendor without a deposit. -/
def initial (policy : DepositPolicy) (vendorId : Id) : VendorDeposit where
  vendorId
  requiredAmount := if policy.isRequired then policy.amount else zeroAmount
  paidAmount := zeroAmount
  remainingAmount := if policy.isRequired then policy.amount else zeroAmount
  status := if policy.isRequired then .required else .notRequired
  isExempt := false
  providerOrderId := none
  providerPaymentId := none

/-- `providerOrderId` is unique. -/
def orderFree (s : DepositDesk) (vendorId : Id) (patch : DepositPatch) : Bool :=
  patch.providerOrderId.all fun orderId =>
    s.deposits.all fun deposit =>
      deposit.vendorId = vendorId ∨ deposit.providerOrderId ≠ some orderId

/-- The new entries; `idempotencyKey` is unique. -/
def newEntries (s : DepositDesk) (vendorId : Id) :
    Option EntryDraft → Option (List DepositLedgerEntry)
  | none => some []
  | some draft =>
    if s.ledger.any (·.idempotencyKey = draft.idempotencyKey) then none
    else (draft.store vendorId).map fun entry => [entry]

/-- The payment that a write credits: a verification does so with its entry, the webhook if it
changes what is paid or has an entry. -/
def newCredits (request : DepositRequest) (row row' : VendorDeposit)
    (entries : List DepositLedgerEntry) : List DepositCredit :=
  match request with
  | .verify _ paymentId _ _ => entries.map fun entry => ⟨row.vendorId, paymentId, some entry.amount⟩
  | .webhook _ paymentId =>
    if entries ≠ [] ∨ row'.paidAmount ≠ row.paidAmount then [⟨row.vendorId, paymentId, none⟩]
    else []
  | _ => []

/-- The transaction of a write, which fails as a whole. -/
def commit (s : DepositDesk) (request : DepositRequest) (row : VendorDeposit)
    (write : DepositWrite) : Option DepositDesk :=
  if s.orderFree row.vendorId write.patch then do
    let row' ← row.apply write.patch
    let entries ← s.newEntries row.vendorId write.entry
    return { s with
      deposits := updateKey VendorDeposit.vendorId row.vendorId
        (fun deposit => (deposit.apply write.patch).getD deposit) s.deposits
      ledger := s.ledger ++ entries
      credits := s.credits ++ newCredits request row row' entries }
  else none

/-- A call writes, or fails; it is over then. -/
def finish (gateway : DepositGateway) (s : DepositDesk) (call : DepositCall) : DepositDesk :=
  let s := { s with calls := s.calls.erase call }
  match s.deposit? call.vendorId, call.request.write gateway s.ledger call.read with
  | some row, some write => (s.commit call.request row write).getD s
  | _, _ => s

/-- The order of a request is a new one. -/
def issue (s : DepositDesk) (vendorId : Id) : DepositRequest → Option DepositDesk
  | .order orderId =>
    if s.issued.any (·.1 = orderId) then none
    else some { s with issued := s.issued ++ [(orderId, vendorId)] }
  | _ => some s

def start (gateway : DepositGateway) (s : DepositDesk) (vendorId : Id) (request : DepositRequest) :
    DepositDesk :=
  match s.deposit? vendorId with
  | none => s
  | some read =>
    if request.allowed gateway s.policy s.ledger read then
      match s.issue vendorId request with
      | none => s
      | some s => { s with calls := ⟨vendorId, request, read⟩ :: s.calls }
    else s

end DepositDesk

inductive DepositAction where
  | create (vendorId : Id)
  | start (vendorId : Id) (request : DepositRequest)
  | finish (call : DepositCall)
  | crash (call : DepositCall)
  | updatePolicy (policy : DepositPolicy)

def depositStep (gateway : DepositGateway) (s : DepositDesk) : DepositAction → DepositDesk
  | .create vendorId =>
    if s.deposit? vendorId = none then
      { s with deposits := s.deposits ++ [DepositDesk.initial s.policy vendorId] }
    else s
  | .start vendorId request => s.start gateway vendorId request
  | .finish call => if call ∈ s.calls then s.finish gateway call else s
  | .crash call => { s with calls := s.calls.erase call }
  | .updatePolicy policy => { s with policy }

/-- What of the checks of a request is about the request and what it has read only. -/
def Checked (read : VendorDeposit) : DepositRequest → Prop
  | .record amount _ _ => 0 < amount
  | .refund amount _ _ => debitAllowed read amount = true
  | .forfeit amount _ _ => debitAllowed read amount = true
  | .adjust amount direction newRequiredAmount _ _ =>
    0 ≤ Adjustment.balanceAfter read amount direction ∧
      0 ≤ Adjustment.requiredAmount read newRequiredAmount
  | _ => True

/-! ## Lookups -/

section Lookups

variable {s s' : DepositDesk} {vendorId : Id} {row row' : VendorDeposit} {patch : DepositPatch}
  {entries : List DepositLedgerEntry}

theorem VendorDeposit.apply_vendorId (h : row.apply patch = some row') :
    row'.vendorId = row.vendorId := by
  simp only [VendorDeposit.apply, bind, Option.bind_eq_some_iff] at h
  obtain ⟨_, -, _, -, _, -, h⟩ := h
  rw [← Option.some_inj.mp h]

theorem VendorDeposit.getD_apply_vendorId :
    ((row.apply patch).getD row).vendorId = row.vendorId := by
  cases h : row.apply patch with
  | none => rfl
  | some row' => exact VendorDeposit.apply_vendorId h

theorem deposit?_vendorId (h : s.deposit? vendorId = some row) : row.vendorId = vendorId :=
  of_decide_eq_true (List.find?_some h :)

/-- What a transaction does when it commits. -/
structure Committed (s : DepositDesk) (request : DepositRequest) (row : VendorDeposit)
    (write : DepositWrite) (row' : VendorDeposit) (entries : List DepositLedgerEntry)
    (s' : DepositDesk) : Prop where
  orderFree : s.orderFree row.vendorId write.patch = true
  applied : row.apply write.patch = some row'
  stored : s.newEntries row.vendorId write.entry = some entries
  deposit? : ∀ other, s'.deposit? other =
    if other = row.vendorId then some row' else s.deposit? other
  ledger : s'.ledger = s.ledger ++ entries
  policy : s'.policy = s.policy
  issued : s'.issued = s.issued
  credits : s'.credits = s.credits ++ DepositDesk.newCredits request row row' entries

theorem committed_of_commit {request : DepositRequest} {write : DepositWrite}
    (hrow : s.deposit? row.vendorId = some row) (h : s.commit request row write = some s') :
    ∃ row' entries, Committed s request row write row' entries s' := by
  unfold DepositDesk.commit at h
  split_ifs at h with hfree
  simp only [bind, Option.bind_eq_some_iff] at h
  obtain ⟨row', happly, entries, hentries, h⟩ := h
  obtain rfl := Option.some_inj.mp h
  refine ⟨row', entries, hfree, happly, hentries, fun other => ?_, rfl, rfl, rfl, rfl⟩
  rw [DepositDesk.deposit?, find?_updateKey fun _ => VendorDeposit.getD_apply_vendorId]
  by_cases hother : other = row.vendorId
  · subst hother
    rw [if_pos rfl, ← DepositDesk.deposit?, hrow, Option.map_some, if_pos rfl, happly,
      Option.getD_some]
  · rw [if_neg hother, ← DepositDesk.deposit?]
    cases hfound : s.deposit? other with
    | none => rfl
    | some found =>
      rw [Option.map_some, if_neg fun hsame => hother ?_]
      rw [← deposit?_vendorId hfound, hsame]

theorem finish_cases (gateway : DepositGateway) (s : DepositDesk) (call : DepositCall) :
    (∃ row write row' entries, s.deposit? call.vendorId = some row ∧
        call.request.write gateway s.ledger call.read = some write ∧
        Committed s call.request row write row' entries (s.finish gateway call)) ∨
      s.finish gateway call = { s with calls := s.calls.erase call } := by
  unfold DepositDesk.finish
  change (∃ row write row' entries, _ ∧ _ ∧ Committed _ _ _ _ _ _ (match s.deposit? call.vendorId,
    call.request.write gateway s.ledger call.read with
    | some row, some write => _ | _, _ => _)) ∨ (match s.deposit? call.vendorId,
    call.request.write gateway s.ledger call.read with
    | some row, some write => _ | _, _ => _) = _
  cases hrow : s.deposit? call.vendorId with
  | none => exact .inr rfl
  | some row =>
    cases hwrite : call.request.write gateway s.ledger call.read with
    | none => exact .inr rfl
    | some write =>
      dsimp only
      cases hcommit : DepositDesk.commit { s with calls := s.calls.erase call } call.request row
          write with
      | none => exact .inr rfl
      | some s' =>
        have hvendor : row.vendorId = call.vendorId := deposit?_vendorId hrow
        obtain ⟨row', entries, hcommitted⟩ :=
          committed_of_commit (by rw [hvendor]; exact hrow) hcommit
        exact .inl ⟨row, write, row', entries, rfl, rfl, hcommitted.orderFree,
          hcommitted.applied, hcommitted.stored, hcommitted.deposit?, hcommitted.ledger,
          hcommitted.policy, hcommitted.issued, hcommitted.credits⟩

theorem start_frame (gateway : DepositGateway) (s : DepositDesk) (vendorId : Id)
    (request : DepositRequest) :
    (s.start gateway vendorId request).deposits = s.deposits ∧
      (s.start gateway vendorId request).ledger = s.ledger ∧
      (s.start gateway vendorId request).credits = s.credits := by
  have hissue : ∀ s', s.issue vendorId request = some s' →
      s'.deposits = s.deposits ∧ s'.ledger = s.ledger ∧ s'.credits = s.credits := by
    intro s' h
    unfold DepositDesk.issue at h
    split at h
    · split_ifs at h
      obtain rfl := Option.some_inj.mp h
      exact ⟨rfl, rfl, rfl⟩
    · obtain rfl := Option.some_inj.mp h
      exact ⟨rfl, rfl, rfl⟩
  unfold DepositDesk.start
  split
  · exact ⟨rfl, rfl, rfl⟩
  · split_ifs
    · split
      · exact ⟨rfl, rfl, rfl⟩
      · rename_i s' h
        exact hissue s' h
    · exact ⟨rfl, rfl, rfl⟩

theorem mem_calls_start {gateway : DepositGateway} {request : DepositRequest} {call : DepositCall}
    (h : call ∈ (s.start gateway vendorId request).calls) :
    call ∈ s.calls ∨ ∃ read, s.deposit? vendorId = some read ∧
      request.allowed gateway s.policy s.ledger read = true ∧ call = ⟨vendorId, request, read⟩ := by
  have hissue : ∀ s', s.issue vendorId request = some s' → s'.calls = s.calls := by
    intro s' hs'
    unfold DepositDesk.issue at hs'
    split at hs'
    · split_ifs at hs'
      rw [← Option.some_inj.mp hs']
    · rw [← Option.some_inj.mp hs']
  unfold DepositDesk.start at h
  split at h
  · exact .inl h
  · rename_i read hread
    split_ifs at h with hallowed
    · split at h
      · exact .inl h
      · rename_i s' hs'
        rcases List.mem_cons.mp h with rfl | hold
        · exact .inr ⟨read, hread, hallowed, rfl⟩
        · exact .inl (hissue s' hs' ▸ hold)
    · exact .inl h

theorem finish_calls (gateway : DepositGateway) (s : DepositDesk) (call : DepositCall) :
    (s.finish gateway call).calls = s.calls.erase call := by
  unfold DepositDesk.finish
  dsimp only
  split
  · rename_i row write _ _
    cases hcommit : DepositDesk.commit { s with calls := s.calls.erase call } call.request row
        write with
    | none => rfl
    | some s' =>
      unfold DepositDesk.commit at hcommit
      split_ifs at hcommit
      simp only [bind, Option.bind_eq_some_iff] at hcommit
      obtain ⟨_, -, _, -, hcommit⟩ := hcommit
      rw [Option.getD_some, ← Option.some_inj.mp hcommit]
  · rfl

theorem deposit?_create (policy : DepositPolicy) (hnone : s.deposit? vendorId = none) (other : Id) :
    DepositDesk.deposit? { s with deposits := s.deposits ++ [DepositDesk.initial policy vendorId] }
      other =
        if other = vendorId then some (DepositDesk.initial policy vendorId)
        else s.deposit? other := by
  rw [DepositDesk.deposit?, List.find?_append, ← DepositDesk.deposit?]
  by_cases hother : other = vendorId
  · subst hother
    rw [hnone, if_pos rfl, Option.none_or]
    simp [DepositDesk.initial]
  · rw [if_neg hother]
    simp [DepositDesk.initial, Ne.symm hother]

theorem entries_of_newEntries {draft : Option EntryDraft}
    (h : s.newEntries vendorId draft = some entries) :
    (draft = none ∧ entries = []) ∨ ∃ draft' entry, draft = some draft' ∧ entries = [entry] ∧
      draft'.store vendorId = some entry := by
  cases draft with
  | none => exact .inl ⟨rfl, (Option.some_inj.mp h).symm⟩
  | some draft =>
    rw [DepositDesk.newEntries] at h
    split_ifs at h
    obtain ⟨entry, hstore, rfl⟩ := Option.map_eq_some_iff.mp h
    exact .inr ⟨draft, entry, rfl, rfl, hstore⟩

theorem store_eq_some {draft : EntryDraft} {entry : DepositLedgerEntry}
    (h : draft.store vendorId = some entry) :
    entry.vendorId = vendorId ∧ entry.direction = draft.direction ∧
      Column.ofDecimal? draft.amount = some entry.amount ∧
      Column.ofDecimal? draft.balanceBefore = some entry.balanceBefore ∧
      Column.ofDecimal? draft.balanceAfter = some entry.balanceAfter ∧
      entry.reference = draft.reference ∧ entry.idempotencyKey = draft.idempotencyKey := by
  simp only [EntryDraft.store, bind, Option.bind_eq_some_iff] at h
  obtain ⟨amount, hamount, before, hbefore, after, hafter, h⟩ := h
  obtain rfl := Option.some_inj.mp h
  exact ⟨rfl, rfl, hamount, hbefore, hafter, rfl, rfl⟩

theorem apply_values {patch : DepositPatch} (h : row.apply patch = some row') :
    setAmount row.requiredAmount patch.requiredAmount = some row'.requiredAmount ∧
      setAmount row.paidAmount patch.paidAmount = some row'.paidAmount ∧
      setAmount row.remainingAmount patch.remainingAmount = some row'.remainingAmount ∧
      row'.vendorId = row.vendorId ∧ row'.status = patch.status.getD row.status ∧
      row'.isExempt = patch.isExempt.getD row.isExempt := by
  simp only [VendorDeposit.apply, bind, Option.bind_eq_some_iff] at h
  obtain ⟨required, hrequired, paid, hpaid, remaining, hremaining, h⟩ := h
  obtain rfl := Option.some_inj.mp h
  exact ⟨hrequired, hpaid, hremaining, rfl, rfl, rfl⟩

end Lookups

/-! ## Checked calls -/

section Checks

variable {gateway : DepositGateway} {s : DepositDesk} {request : DepositRequest}

theorem checked_of_allowed {policy : DepositPolicy} {ledger : List DepositLedgerEntry}
    {read : VendorDeposit} (h : request.allowed gateway policy ledger read = true) :
    Checked read request := by
  cases request with
  | record amount reference idempotencyKey =>
    simp only [DepositRequest.allowed, decide_eq_true_eq] at h
    exact h.1
  | refund amount reference idempotencyKey => exact h
  | forfeit amount reference idempotencyKey => exact h
  | adjust amount direction newRequired reference idempotencyKey =>
    simp only [DepositRequest.allowed, decide_eq_true_eq] at h
    exact h
  | order | verify | webhook | hold | release | exempt => trivial

theorem checked_of_step (gateway : DepositGateway) (s : DepositDesk) (action : DepositAction)
    (h : ∀ call ∈ s.calls, Checked call.read call.request) :
    ∀ call ∈ (depositStep gateway s action).calls, Checked call.read call.request := by
  intro call hcall
  cases action with
  | create vendorId =>
    simp only [depositStep] at hcall
    split_ifs at hcall <;> exact h call hcall
  | start vendorId request =>
    rcases mem_calls_start hcall with hold | ⟨read, -, hallowed, rfl⟩
    · exact h call hold
    · exact checked_of_allowed hallowed
  | finish ended =>
    simp only [depositStep] at hcall
    split_ifs at hcall
    · rw [finish_calls] at hcall
      exact h call (List.mem_of_mem_erase hcall)
    · exact h call hcall
  | crash ended => exact h call (List.mem_of_mem_erase hcall)
  | updatePolicy policy => exact h call hcall

end Checks

end CarRental.Vendors
