import CarRental.Lib.Runs
import CarRental.Vendors.SecurityDeposit

/-!
# Gateway payments of vendor deposits

A verification should credit what the gateway has captured for an order of the vendor's own deposit,
and a payment should be credited once, by a verification or by the webhook.

The signature only says that the payment is one of the order that the vendor names, and nothing asks
whose order that is: any order of the platform will do (`booking_payment_credited`).  Without an
answer of the gateway, what is missing is taken for the amount.  Both paths look for an entry of the
payment before they write, so that each may overlook the other, and the webhook writes the deposit
even where there is one.
-/

namespace CarRental.Vendors

open Runs

/-! ## The gateway's record -/

structure CapturedPayment where
  orderId : OrderId
  /-- In paise. -/
  amount : ℤ
deriving DecidableEq

/-- What the gateway has captured; it signs a payment only with the order it was made for. -/
structure GatewayRecord (gateway : DepositGateway) where
  captured : String → Option CapturedPayment
  signed : ∀ orderId paymentId signature,
    gateway.validSignature orderId paymentId signature = true →
    ∀ payment ∈ captured paymentId, payment.orderId = orderId

variable {gateway : DepositGateway}

/-! ## The law -/

/-- What a verification has credited was captured for an order of the vendor's own deposit. -/
def CreditRight (record : GatewayRecord gateway) (s : DepositDesk) (credit : DepositCredit) :
    Prop :=
  ∀ amount ∈ credit.verified, ∃ payment ∈ record.captured credit.paymentId,
    payment.amount = amount.paise ∧ (payment.orderId, credit.vendorId) ∈ s.issued

structure CreditsLaw (record : GatewayRecord gateway) (s : DepositDesk) : Prop where
  right : ∀ credit ∈ s.credits, CreditRight record s credit
  once : ∀ paymentId, s.credits.countP (·.paymentId = paymentId) ≤ 1

/-! ## The condition -/

def Unseen (ledger : List DepositLedgerEntry) (paymentId : String) : Prop :=
  ∀ entry ∈ ledger, entry.reference ≠ paymentId

/-- A verification is of an order of the vendor's own deposit and takes the captured amount, and
both paths find no entry of the payment when they write, unless the webhook then changes nothing. -/
def CreditsCareful (record : GatewayRecord gateway) (s : DepositDesk) : DepositAction → Prop
  | .finish call => call ∈ s.calls →
      match call.request with
      | .verify orderId paymentId signature fetch => ∀ amount,
          verification gateway call.read orderId paymentId signature fetch = .credited amount →
            (orderId, call.vendorId) ∈ s.issued ∧
              (∃ payment ∈ record.captured paymentId, amount = payment.amount / 100) ∧
              Unseen s.ledger paymentId
      | .webhook _ paymentId => Unseen s.ledger paymentId ∨
          ∀ row ∈ s.deposit? call.vendorId, row.paidAmount = call.read.requiredAmount
      | _ => True
  | _ => True

/-! ## Steps -/

section Steps

variable {record : GatewayRecord gateway} {s s' : DepositDesk}

/-- The law, and what is credited is in the ledger. -/
structure CreditsInOrder (record : GatewayRecord gateway) (s : DepositDesk) : Prop where
  law : CreditsLaw record s
  entered : ∀ credit ∈ s.credits, ∃ entry ∈ s.ledger, entry.reference = credit.paymentId

theorem CreditsInOrder.of_same (h : CreditsInOrder record s) (hcredits : s'.credits = s.credits)
    (hledger : ∀ entry ∈ s.ledger, entry ∈ s'.ledger)
    (hissued : ∀ order ∈ s.issued, order ∈ s'.issued) :
    CreditsInOrder record s' := by
  refine ⟨⟨fun credit hcredit amount hamount => ?_, hcredits ▸ h.law.once⟩,
    fun credit hcredit => ?_⟩
  all_goals rw [hcredits] at hcredit
  · obtain ⟨payment, hpayment, hpaid, hown⟩ := h.law.right credit hcredit amount hamount
    exact ⟨payment, hpayment, hpaid, hissued _ hown⟩
  · obtain ⟨entry, hentry, hreference⟩ := h.entered credit hcredit
    exact ⟨entry, hledger entry hentry, hreference⟩

theorem countP_eq_zero_of_unseen (h : CreditsInOrder record s) {paymentId : String}
    (hunseen : Unseen s.ledger paymentId) : s.credits.countP (·.paymentId = paymentId) = 0 := by
  refine List.countP_eq_zero.mpr fun credit hcredit hsame => ?_
  obtain ⟨entry, hentry, hreference⟩ := h.entered credit hcredit
  exact hunseen entry hentry (hreference.trans (of_decide_eq_true hsame))

theorem inOrder_of_credit (h : CreditsInOrder record s) {credit : DepositCredit}
    (hcredits : s'.credits = s.credits ++ [credit])
    (hledger : ∀ entry ∈ s.ledger, entry ∈ s'.ledger) (hissued : s'.issued = s.issued)
    (hright : CreditRight record s credit)
    (hentered : ∃ entry ∈ s'.ledger, entry.reference = credit.paymentId)
    (hunseen : Unseen s.ledger credit.paymentId) : CreditsInOrder record s' := by
  refine ⟨⟨fun other hother => ?_, fun paymentId => ?_⟩, fun other hother => ?_⟩
  · unfold CreditRight
    rw [hissued]
    rw [hcredits] at hother
    rcases List.mem_append.mp hother with hold | hnew
    · exact h.law.right other hold
    · exact List.mem_singleton.mp hnew ▸ hright
  · rw [hcredits, List.countP_append, List.countP_singleton]
    by_cases hsame : credit.paymentId = paymentId
    · have hzero := countP_eq_zero_of_unseen h hunseen
      rw [hsame] at hzero
      simp [hzero, hsame]
    · simpa [hsame] using h.law.once paymentId
  · rw [hcredits] at hother
    rcases List.mem_append.mp hother with hold | hnew
    · obtain ⟨entry, hentry, hreference⟩ := h.entered other hold
      exact ⟨entry, hledger entry hentry, hreference⟩
    · exact List.mem_singleton.mp hnew ▸ hentered

theorem validSignature_of_credited {read : VendorDeposit} {orderId : OrderId}
    {paymentId signature : String} {fetch : PaymentFetch} {amount : Decimal}
    (h : verification gateway read orderId paymentId signature fetch = .credited amount) :
    gateway.validSignature orderId paymentId signature = true := by
  unfold verification at h
  split_ifs at h with hinvalid
  all_goals exact Bool.eq_true_of_not_eq_false hinvalid

theorem inOrder_verify {vendorId : Id} {orderId : OrderId} {paymentId signature : String}
    {fetch : PaymentFetch} {read row row' : VendorDeposit} {write : DepositWrite}
    {entries : List DepositLedgerEntry} (h : CreditsInOrder record s)
    (hvendor : row.vendorId = vendorId)
    (hcareful : ∀ amount,
      verification gateway read orderId paymentId signature fetch = .credited amount →
        (orderId, vendorId) ∈ s.issued ∧
          (∃ payment ∈ record.captured paymentId, amount = payment.amount / 100) ∧
          Unseen s.ledger paymentId)
    (hwrite :
      (DepositRequest.verify orderId paymentId signature fetch).write gateway s.ledger read =
      some write)
    (hcommitted :
      Committed s (.verify orderId paymentId signature fetch) row write row' entries s') :
    CreditsInOrder record s' := by
  have hledger : ∀ entry ∈ s.ledger, entry ∈ s'.ledger := fun entry hentry =>
    hcommitted.ledger ▸ List.mem_append_left _ hentry
  simp only [DepositRequest.write] at hwrite
  cases hverified : verification gateway read orderId paymentId signature fetch with
  | refused =>
    rw [hverified] at hwrite
    cases hwrite
  | failed =>
    rw [hverified] at hwrite
    obtain rfl := Option.some_inj.mp hwrite
    obtain rfl : [] = entries := Option.some_inj.mp hcommitted.stored
    refine h.of_same ?_ hledger fun order horder => hcommitted.issued ▸ horder
    rw [hcommitted.credits]
    exact List.append_nil _
  | credited amount =>
    rw [hverified] at hwrite
    obtain rfl := Option.some_inj.mp hwrite
    obtain ⟨hown, ⟨payment, hpayment, rfl⟩, hunseen⟩ := hcareful amount hverified
    rcases entries_of_newEntries hcommitted.stored with
      ⟨hnone, -⟩ | ⟨draft, entry, hdraft, rfl, hstore⟩
    · cases hnone
    obtain rfl := Option.some_inj.mp hdraft
    obtain ⟨-, -, hamount, -, -, hreference, -⟩ := store_eq_some hstore
    have hpaise : entry.amount.paise = payment.amount := by
      have hstored := Column.paise_of_ofDecimal? hamount
      rw [hstored]
      dsimp only [paymentWrite]
      rw [div_mul_cancel₀ _ (by norm_num), Rounding.roundAway_intCast]
    refine inOrder_of_credit h hcommitted.credits hledger hcommitted.issued ?_ ?_ hunseen
    · intro paid hpaid
      obtain rfl := Option.some_inj.mp hpaid
      refine ⟨payment, hpayment, hpaise.symm, ?_⟩
      rw [record.signed _ _ _ (validSignature_of_credited hverified) payment hpayment, hvendor]
      exact hown
    · exact ⟨entry, hcommitted.ledger ▸ List.mem_append_right _ (List.mem_singleton_self _),
        hreference⟩

theorem inOrder_webhook {orderId : OrderId} {paymentId : String} {read row row' : VendorDeposit}
    {write : DepositWrite} {entries : List DepositLedgerEntry} (h : CreditsInOrder record s)
    (hcareful : Unseen s.ledger paymentId ∨ row.paidAmount = read.requiredAmount)
    (hwrite : (DepositRequest.webhook orderId paymentId).write gateway s.ledger read = some write)
    (hcommitted : Committed s (.webhook orderId paymentId) row write row' entries s') :
    CreditsInOrder record s' := by
  have hledger : ∀ entry ∈ s.ledger, entry ∈ s'.ledger := fun entry hentry =>
    hcommitted.ledger ▸ List.mem_append_left _ hentry
  obtain rfl := Option.some_inj.mp hwrite
  by_cases hunseen : Unseen s.ledger paymentId
  · have hnone : s.ledger.any (·.reference = paymentId) = false := by
      simpa [Unseen] using hunseen
    rcases entries_of_newEntries hcommitted.stored with
      ⟨hempty, -⟩ | ⟨draft, entry, hdraft, rfl, hstore⟩
    · rw [hnone] at hempty
      cases hempty
    · rw [hnone] at hdraft
      obtain rfl := Option.some_inj.mp hdraft
      obtain ⟨-, -, -, -, -, hreference, -⟩ := store_eq_some hstore
      have hcredits : s'.credits = s.credits ++ [⟨row.vendorId, paymentId, none⟩] := by
        rw [hcommitted.credits]
        simp [DepositDesk.newCredits]
      refine inOrder_of_credit h hcredits hledger hcommitted.issued ?_ ?_ hunseen
      · exact fun amount hamount => absurd hamount (Option.not_mem_none amount)
      · exact ⟨entry, hcommitted.ledger ▸ List.mem_append_right _ (List.mem_singleton_self _),
          hreference⟩
  · have hsome : s.ledger.any (·.reference = paymentId) = true := by
      simpa [Unseen] using hunseen
    have hentries : entries = [] := by
      have hstored := hcommitted.stored
      rw [hsome] at hstored
      exact (Option.some_inj.mp hstored).symm
    obtain ⟨-, hpaid, -⟩ := apply_values hcommitted.applied
    have hsame : row'.paidAmount = row.paidAmount := by
      rw [hcareful.resolve_left hunseen]
      exact (Option.some_inj.mp ((Column.ofDecimal?_value _).symm.trans hpaid)).symm
    refine h.of_same ?_ hledger fun order horder => hcommitted.issued ▸ horder
    rw [hcommitted.credits]
    simp [DepositDesk.newCredits, hentries, hsame]

theorem issued_start {vendorId : Id} {request : DepositRequest} :
    ∀ order ∈ s.issued, order ∈ (s.start gateway vendorId request).issued := by
  intro order horder
  unfold DepositDesk.start
  split
  · exact horder
  · split_ifs
    · split
      · exact horder
      · rename_i s' hs'
        unfold DepositDesk.issue at hs'
        split at hs'
        · split_ifs at hs'
          rw [← Option.some_inj.mp hs']
          exact List.mem_append_left _ horder
        · rw [← Option.some_inj.mp hs']
          exact horder
    · exact horder

theorem creditsInOrder_of_step (record : GatewayRecord gateway) (s : DepositDesk)
    (action : DepositAction) (h : CreditsInOrder record s)
    (hcareful : CreditsCareful record s action) :
    CreditsInOrder record (depositStep gateway s action) := by
  have hsame : ∀ s', s'.credits = s.credits → s'.ledger = s.ledger → s'.issued = s.issued →
      CreditsInOrder record s' := fun s' hcredits hledger hissued =>
    h.of_same hcredits (fun entry hentry => hledger ▸ hentry) fun order horder => hissued ▸ horder
  cases action with
  | create vendorId =>
    simp only [depositStep]
    split_ifs
    · exact hsame _ rfl rfl rfl
    · exact h
  | start vendorId request =>
    obtain ⟨-, hledger, hcredits⟩ := start_frame gateway s vendorId request
    refine h.of_same hcredits (fun entry hentry => ?_) issued_start
    rw [depositStep, hledger]
    exact hentry
  | crash call => exact hsame _ rfl rfl rfl
  | updatePolicy policy => exact hsame _ rfl rfl rfl
  | finish call =>
    simp only [depositStep]
    split_ifs with hcall
    swap
    · exact h
    have hcareful' := hcareful hcall
    obtain ⟨vendorId, request, read⟩ := call
    rcases finish_cases gateway s ⟨vendorId, request, read⟩ with
      ⟨row, write, row', entries, hrow, hwrite, hcommitted⟩ | hsame'
    · have hother : DepositDesk.newCredits request row row' entries = [] →
          CreditsInOrder record (s.finish gateway ⟨vendorId, request, read⟩) := by
        intro hnone
        refine h.of_same ?_
          (fun entry hentry => hcommitted.ledger ▸ List.mem_append_left _ hentry)
          fun order horder => hcommitted.issued ▸ horder
        rw [hcommitted.credits, hnone, List.append_nil]
      cases request with
      | verify orderId paymentId signature fetch =>
        exact inOrder_verify h (deposit?_vendorId hrow) hcareful' hwrite hcommitted
      | webhook orderId paymentId =>
        exact inOrder_webhook h (hcareful'.imp_right fun hpaid => hpaid row hrow) hwrite
          hcommitted
      | order | record | hold | release | refund | forfeit | adjust | exempt => exact hother rfl
    · rw [hsame']
      exact hsame _ rfl rfl rfl

end Steps

/-! ## Runs -/

def oneOrderGateway : DepositGateway := ⟨true, fun orderId _ _ => orderId = .gateway "o", none⟩

def onePaymentRecord : GatewayRecord oneOrderGateway where
  captured := fun paymentId => if paymentId = "p" then some ⟨.gateway "o", 100000⟩ else none
  signed := by
    intro orderId paymentId signature hvalid payment hpayment
    split_ifs at hpayment with hp
    · obtain rfl := Option.some_inj.mp hpayment
      exact (of_decide_eq_true hvalid).symm
    · cases hpayment

/-- The vendor verifies the payment of the order `o`. -/
def verifyOrder : DepositRequest :=
  .verify (.gateway "o") "p" "s" (.found ⟨"p", some (.gateway "o"), some "INR", .captured, 100000⟩)

def orderedDeposit : VendorDeposit :=
  { DepositDesk.initial thousandRequired "v" with
    status := .paymentInitiated
    providerOrderId := some (.gateway "o") }

end CarRental.Vendors
