import CarRental.Bookings.CancellationLaw
import CarRental.Bookings.LateCaptures

/-!
# Payments of ended bookings

Once nothing is under way, no booking should be expired or cancelled with a payment that is paid and
no refund of it on record (`Stranded`).

The sweep looks at the payment when it selects the booking, and the transition does not look again.
`verifyPayment` and the webhook look at the payment alone, never at its booking.  A cancellation
records its refund whatever the payment is, but closes it with what `refund` answers: with nothing,
for a payment that was not paid yet.

So a payment is stranded by a capture that comes after the end of its booking, or that comes between
the two looks of the sweep or of the refund, or by a cancellation whose fee leaves nothing to give
back (`late_captures_iff`).
-/

namespace CarRental

open Runs

/-! ## The law -/

def Booking.Ended (booking : Booking) : Prop :=
  booking.status = .expired ∨ booking.status = .cancelled

/-- The row stands for money that goes back or has gone back. -/
def PaymentRefund.stands (row : PaymentRefund) : Bool :=
  match row.status with
  | .requested | .pending | .retryable => true
  | .processed => row.processedAmount.any fun paise => 0 < paise
  | .none | .failed => false

def RefundRecorded (s : Checkout) : Prop := ∃ row ∈ s.refunds, row.stands = true

structure Stranded (s : Checkout) : Prop where
  paid : s.paymentStatus = some .paid
  ended : s.booking.Ended
  unrecorded : ¬ RefundRecorded s

/-! ## The condition -/

/-- A cancellation whose fee is less than the payment that it has read. -/
def OpenTransition.PaysBack (terms : TripTerms) (t : OpenTransition) : Prop :=
  match t.ending with
  | .expire => False
  | .cancel request =>
    (calculateCancellation (resolveMatrix terms.historicalMatrix terms.configuredMatrix)
      (cancelParams t.read terms request)).cancellationFee <
        (cancelParams t.read terms request).amountPaid

/-- The answer leaves a refund on record: it is one of something, or there is a row that it does not
close, or it cannot be written for its id. -/
def KeepsRecord (refunds : List PaymentRefund) (reply : RefundReply) : Prop :=
  0 < reply.refundAmount ∨ (∃ row ∈ refunds, row.stands = true ∧ row.status ≠ .pending) ∨
    ¬ (refundIds (refunds.map (PaymentRefund.settle reply))).Nodup

/-- A booking is ended while its payment is not paid, or with a refund; a capture comes before the
end, or after one with a refund; and the answer to a refund is not nothing if the payment is paid by
then. -/
def InTime (config : PaymentConfig) (terms : TripTerms) (live : LiveBooking) : LiveAction → Prop
  | .commitTransition t => t ∈ live.transitions → (t.write terms live.checkout).isSome = true →
      live.checkout.paymentStatus = some .paid → RefundRecorded live.checkout ∨ t.PaysBack terms
  | .commitVerification v => v ∈ live.verifications → v.commits config live.checkout = true →
      live.checkout.booking.Ended → RefundRecorded live.checkout
  | .commitCapture c => c ∈ live.captures → c.commits live.checkout = true →
      live.checkout.booking.Ended → RefundRecorded live.checkout
  | .closeRefund r => r ∈ live.refunds → ∀ reply, r.progress = .answered (.ok reply) →
      live.checkout.paymentStatus = some .paid → KeepsRecord live.checkout.refunds reply
  | _ => True

/-! ## What the writes do -/

section Writes

variable {config : PaymentConfig} {terms : TripTerms} {s s' : Checkout}

theorem refundRecorded_congr (hrefunds : s'.refunds = s.refunds) :
    RefundRecorded s' ↔ RefundRecorded s := by
  rw [RefundRecorded, RefundRecorded, hrefunds]

theorem RefundRecorded.of_subset (h : RefundRecorded s) (hrefunds : s.refunds ⊆ s'.refunds) :
    RefundRecorded s' := by
  obtain ⟨row, hrow, hstands⟩ := h
  exact ⟨row, hrefunds hrow, hstands⟩

theorem stranded_congr (hstatus : s'.paymentStatus = s.paymentStatus)
    (hbooking : s'.booking = s.booking) (hrefunds : s'.refunds = s.refunds) :
    Stranded s' ↔ Stranded s := by
  have hrecorded := refundRecorded_congr hrefunds
  constructor
  · rintro ⟨hpaid, hended, hnone⟩
    exact ⟨hstatus ▸ hpaid, hbooking ▸ hended, mt hrecorded.mpr hnone⟩
  · rintro ⟨hpaid, hended, hnone⟩
    exact ⟨hstatus ▸ hpaid, hbooking ▸ hended, mt hrecorded.mp hnone⟩

theorem not_stranded_of_status {status : PaymentStatus} (hstatus : s.paymentStatus = some status)
    (hunpaid : status ≠ .paid) : ¬ Stranded s :=
  fun h => hunpaid (Option.some_inj.mp (hstatus ▸ h.paid))

theorem payment_write_not_stranded_iff {commits : Bool} (hs : ¬ Stranded s)
    (hframe : s'.booking = s.booking ∧ s'.refunds = s.refunds)
    (hcommits : commits = true → s'.paymentStatus = some .paid)
    (hfails : commits = false → s' = s ∨ s'.paymentStatus = some .failed) :
    ¬ Stranded s' ↔ (commits = true → s.booking.Ended → RefundRecorded s) := by
  obtain ⟨hbooking, hrefunds⟩ := hframe
  have hrecorded := refundRecorded_congr hrefunds
  cases commits with
  | false =>
    refine iff_of_true ?_ fun hfalse => by cases hfalse
    rcases hfails rfl with hsame | hfailed
    · rwa [hsame]
    · exact not_stranded_of_status hfailed (by decide)
  | true =>
    constructor
    · intro h _ hended
      by_contra hnone
      exact h ⟨hcommits rfl, hbooking ▸ hended, mt hrecorded.mp hnone⟩
    · rintro h ⟨-, hended, hnone⟩
      exact hnone (hrecorded.mpr (h rfl (hbooking ▸ hended)))

namespace OpenVerification

variable (v : OpenVerification)

variable (config s) in
theorem write_frame : (v.write config s).booking = s.booking ∧
    (v.write config s).refunds = s.refunds := by
  unfold write
  split
  · exact ⟨rfl, rfl⟩
  · split
    next htransaction =>
      obtain ⟨-, wallet, auditLog, ledger, coupon, couponUsages, rfl⟩ :=
        verifyTransaction_writes htransaction
      exact ⟨rfl, rfl⟩
    · exact ⟨rfl, rfl⟩
  · exact ⟨rfl, rfl⟩

variable {v}

theorem write_of_commits (h : v.commits config s = true) :
    (v.write config s).paymentStatus = some .paid := by
  unfold commits at h
  split at h
  next payment gatewayPaid walletRequired hpayment hsettled =>
    unfold write
    rw [hpayment, hsettled]
    dsimp only
    split
    next htransaction => exact (verifyTransaction_eq_ok htransaction).2.1
    next htransaction =>
      rw [htransaction] at h
      cases h
  · cases h

theorem write_of_not_commits (h : v.commits config s = false) :
    v.write config s = s ∨ (v.write config s).paymentStatus = some .failed := by
  unfold commits at h
  unfold write
  split
  · exact .inr rfl
  next payment gatewayPaid walletRequired hpayment hsettled =>
    rw [hpayment, hsettled] at h
    dsimp only at h
    split
    next s' htransaction =>
      rw [htransaction] at h
      cases h
    · exact .inl rfl
  · exact .inl rfl

end OpenVerification

namespace OpenCapture

variable (c : OpenCapture)

variable (s) in
theorem write_frame : (c.write s).booking = s.booking ∧ (c.write s).refunds = s.refunds := by
  unfold write
  split
  · exact ⟨rfl, rfl⟩
  · split
    next htransaction =>
      obtain ⟨ledger, receipt, -, rfl⟩ := recordPaymentLedgerJournal_eq_ok htransaction
      exact ⟨rfl, rfl⟩
    · exact ⟨rfl, rfl⟩

variable {c}

theorem write_of_commits (h : c.commits s = true) : (c.write s).paymentStatus = some .paid := by
  unfold commits at h
  unfold write
  split at h
  · cases h
  next payment hpayment =>
    split
    next s' htransaction =>
      obtain ⟨ledger, receipt, -, rfl⟩ := recordPaymentLedgerJournal_eq_ok htransaction
      rfl
    next htransaction =>
      rw [htransaction] at h
      cases h

theorem write_of_not_commits (h : c.commits s = false) : c.write s = s := by
  unfold commits at h
  unfold write
  split
  · rfl
  next payment hpayment =>
    rw [hpayment] at h
    dsimp only at h
    split
    next s' htransaction =>
      rw [htransaction] at h
      cases h
    · rfl

end OpenCapture

theorem receiveCapture_frame (s : Checkout) (eventId : String) (orderId : OrderId)
    (paymentId : String) (amount : Option ℤ) (currency : Option String) :
    (receiveCapture s eventId orderId paymentId amount currency).1.paymentStatus = s.paymentStatus ∧
      (receiveCapture s eventId orderId paymentId amount currency).1.booking = s.booking ∧
      (receiveCapture s eventId orderId paymentId amount currency).1.refunds = s.refunds := by
  unfold receiveCapture
  split
  · exact ⟨rfl, rfl, rfl⟩
  dsimp only
  split
  · unfold vendorDepositRun
    split
    · exact ⟨rfl, rfl, rfl⟩
    split
    · dsimp only
      split <;> exact ⟨rfl, rfl, rfl⟩
    · exact ⟨rfl, rfl, rfl⟩
  split
  · exact ⟨rfl, rfl, rfl⟩
  split
  · exact ⟨rfl, rfl, rfl⟩
  split <;> exact ⟨rfl, rfl, rfl⟩

variable (config s) in
theorem sendRefund_frame (payment : Payment) (refundPaise : ℤ) (answer : GatewayRefundAnswer)
    (mockId : String) :
    (sendRefund config s payment refundPaise answer mockId).1.booking = s.booking ∧
      s.refunds ⊆ (sendRefund config s payment refundPaise answer mockId).1.refunds := by
  unfold sendRefund
  split
  · exact ⟨rfl, List.Subset.refl _⟩
  next s₁ refundId status hgateway =>
    obtain ⟨gatewayRefunds, rfl⟩ := gatewayRefund_eq_ok hgateway
    split
    · exact ⟨rfl, List.Subset.refl _⟩
    next s₂ hwallet =>
      obtain ⟨wallet, rfl⟩ := walletRefund_eq_ok hwallet
      exact ⟨rfl, fun row hrow => mem_recordRefund hrow⟩

/-! ### Ends -/

namespace OpenTransition

variable {t : OpenTransition}

theorem paysBack_iff (t : OpenTransition) : t.PaysBack terms ↔ 0 < t.refundPaise terms := by
  unfold PaysBack refundPaise
  cases t.ending with
  | expire => exact iff_of_false not_false (lt_irrefl 0)
  | cancel request => exact sub_pos.symm

theorem write_cases (h : t.write terms s = some s') :
    s.booking.status = t.read.booking.status ∧ s'.paymentStatus = s.paymentStatus ∧
      (s'.booking.status = .expired ∧ t.refundPaise terms = 0 ∨ s'.booking.status = .cancelled) ∧
      (s'.refunds = s.refunds ∧ t.refundPaise terms ≤ 0 ∨
        0 < t.refundPaise terms ∧ ∃ key,
          s'.refunds = s.refunds ++ [refundIntent key (t.refundPaise terms)]) := by
  unfold write at h
  split at h
  · cases h
  next hstatus =>
    split at h
    next hending =>
      have hnone : t.refundPaise terms = 0 := by
        unfold refundPaise
        rw [hending]
      cases h
      exact ⟨not_not.mp hstatus, rfl, .inl ⟨rfl, hnone⟩, .inl ⟨rfl, hnone.le⟩⟩
    next request hending =>
      split at h
      next s₁ htransaction =>
        obtain ⟨-, hcancelled, hrefunds⟩ := cancelTransaction_rows htransaction
        cases h
        refine ⟨not_not.mp hstatus, rfl, .inr hcancelled, ?_⟩
        by_cases hpos : 0 < t.refundPaise terms
        · rw [if_pos hpos] at hrefunds
          exact .inr ⟨hpos, _, hrefunds⟩
        · rw [if_neg hpos, List.append_nil] at hrefunds
          exact .inl ⟨hrefunds, not_lt.mp hpos⟩
      · cases h

end OpenTransition

/-! ### Refund rows -/

theorem stands_refundIntent (key : String) (refundPaise : ℤ) :
    (refundIntent key refundPaise).stands = true := rfl

theorem stands_markRetryable (row : PaymentRefund) : row.markRetryable.stands = row.stands := by
  unfold PaymentRefund.markRetryable
  split
  next hpending => rw [PaymentRefund.stands, PaymentRefund.stands, hpending]
  · rfl

theorem stands_settle_iff (reply : RefundReply) (row : PaymentRefund) :
    (row.settle reply).stands = true ↔
      row.status = .pending ∧ 0 < reply.refundAmount ∨
        row.status ≠ .pending ∧ row.stands = true := by
  unfold PaymentRefund.settle
  by_cases hpending : row.status = .pending
  · rw [if_pos hpending]
    simp [PaymentRefund.stands, hpending]
  · rw [if_neg hpending]
    simp [hpending]

theorem settleRefunds_recorded_iff {refunds : List PaymentRefund} (reply : RefundReply)
    (h : ∃ row ∈ refunds, row.stands = true) :
    (∃ row ∈ settleRefunds refunds reply, row.stands = true) ↔ KeepsRecord refunds reply := by
  obtain ⟨row, hrow, hstands⟩ := h
  unfold settleRefunds
  dsimp only
  split
  next hnodup =>
    constructor
    · rintro ⟨settled, hsettled, hstanding⟩
      obtain ⟨old, hold, rfl⟩ := List.mem_map.mp hsettled
      obtain ⟨-, hpos⟩ | ⟨hclosed, hkept⟩ := (stands_settle_iff reply old).mp hstanding
      · exact .inl hpos
      · exact .inr (.inl ⟨old, hold, hkept, hclosed⟩)
    · rintro (hpos | ⟨old, hold, hkept, hclosed⟩ | hclash)
      · refine ⟨row.settle reply, List.mem_map_of_mem hrow, (stands_settle_iff reply row).mpr ?_⟩
        by_cases hpending : row.status = .pending
        · exact .inl ⟨hpending, hpos⟩
        · exact .inr ⟨hpending, hstands⟩
      · exact ⟨old.settle reply, List.mem_map_of_mem hold,
          (stands_settle_iff reply old).mpr (.inr ⟨hclosed, hkept⟩)⟩
      · exact absurd hnodup hclash
  next hclash =>
    refine iff_of_true ⟨row.markRetryable, List.mem_map_of_mem hrow, ?_⟩ (.inr (.inr hclash))
    rw [stands_markRetryable, hstands]

theorem OpenTransition.write_not_stranded_iff {t : OpenTransition}
    (h : t.write terms s = some s') :
    ¬ Stranded s' ↔ (s.paymentStatus = some .paid → RefundRecorded s ∨ t.PaysBack terms) := by
  obtain ⟨-, hstatus, hended, hrefunds⟩ := write_cases h
  have hended' : s'.booking.Ended := hended.imp And.left id
  have hrecorded : RefundRecorded s' ↔ RefundRecorded s ∨ t.PaysBack terms := by
    rw [paysBack_iff]
    rcases hrefunds with ⟨hsame, hnone⟩ | ⟨hpos, key, hadded⟩
    · rw [RefundRecorded, hsame]
      exact (or_iff_left (not_lt.mpr hnone)).symm
    · refine iff_of_true ⟨refundIntent key (t.refundPaise terms), ?_, stands_refundIntent ..⟩
        (.inr hpos)
      rw [hadded]
      exact List.mem_append_right _ (List.mem_singleton_self _)
  rw [← hrecorded]
  constructor
  · intro h hpaid
    by_contra hnone
    exact h ⟨hstatus.trans hpaid, hended', hnone⟩
  · rintro h ⟨hpaid, -, hnone⟩
    exact hnone (h (hstatus ▸ hpaid))

end Writes

/-! ## What holds in every state -/

/-- What is to end the booking has read one that had not ended, and of the refunds there is one at
most under way, which is on record. -/
structure SoundEndings (live : LiveBooking) : Prop where
  reads : ∀ t ∈ live.transitions, ¬ t.read.booking.Ended
  single : live.refunds.length ≤ 1
  recorded : live.refunds ≠ [] →
    live.checkout.booking.Ended ∧ RefundRecorded live.checkout

section Sound

variable {config : PaymentConfig} {terms : TripTerms} {live live' : LiveBooking}

theorem not_ended_of_startEnding {s : Checkout} {ending : Ending} {t : OpenTransition}
    (h : startEnding terms s ending = some t) : t.read = s ∧ ¬ s.booking.Ended := by
  unfold startEnding at h
  split at h
  · cases h
  next hgo =>
    refine ⟨?_, ?_⟩
    · split at h
      · cases h
        rfl
      · split at h
        · cases h
          rfl
        · cases h
    · rintro (hexpired | hcancelled)
      · exact hgo (.inr (by rw [hexpired]; exact List.not_mem_nil))
      · exact hgo (.inr (by rw [hcancelled]; exact List.not_mem_nil))

namespace SoundEndings

theorem of_same (h : SoundEndings live) (hbooking : live'.checkout.booking = live.checkout.booking)
    (hrecorded : RefundRecorded live.checkout → RefundRecorded live'.checkout)
    (htransitions : live'.transitions ⊆ live.transitions)
    (hrefunds : live'.refunds.length = live.refunds.length) : SoundEndings live' where
  reads := fun t ht => h.reads t (htransitions ht)
  single := hrefunds ▸ h.single
  recorded := by
    intro hsome
    have hsome' : live.refunds ≠ [] :=
      List.ne_nil_of_length_pos (hrefunds ▸ List.length_pos_of_ne_nil hsome)
    exact ⟨hbooking ▸ (h.recorded hsome').1, hrecorded (h.recorded hsome').2⟩

theorem start (h : SoundEndings live) (ending : Ending) :
    SoundEndings (live.start terms ending) where
  reads := by
    intro t ht
    rcases List.mem_append.mp ht with hnew | hold
    · obtain ⟨hread, hgoes⟩ := not_ended_of_startEnding (Option.mem_toList.mp hnew)
      rwa [hread]
    · exact h.reads t hold
  single := h.single
  recorded := h.recorded

theorem refunds_eq_nil (h : SoundEndings live) {t : OpenTransition} (ht : t ∈ live.transitions)
    (hread : live.checkout.booking.status = t.read.booking.status) : live.refunds = [] := by
  by_contra hsome
  have hended := (h.recorded hsome).1
  rw [Booking.Ended, hread] at hended
  exact h.reads t ht hended

theorem commitTransition (h : SoundEndings live) (t : OpenTransition) :
    SoundEndings (liveStep config terms live (.commitTransition t)) := by
  dsimp only [liveStep]
  split
  next ht =>
    cases hwrite : t.write terms live.checkout with
    | none => exact h.of_same rfl id List.erase_subset rfl
    | some checkout =>
      obtain ⟨hread, -, hended, hrefunds⟩ := OpenTransition.write_cases hwrite
      have hnone := h.refunds_eq_nil ht hread
      have hended' : checkout.booking.Ended := hended.imp And.left id
      constructor
      case reads => exact fun other hother => h.reads other (List.mem_of_mem_erase hother)
      case single =>
        dsimp only
        rw [hnone, List.append_nil, OpenTransition.asked]
        split
        · exact le_refl 1
        · exact Nat.zero_le 1
      case recorded =>
        intro hasked
        refine ⟨hended', ?_⟩
        rcases hrefunds with ⟨-, hnothing⟩ | ⟨-, key, hadded⟩
        · dsimp only at hasked
          rw [hnone, List.append_nil, OpenTransition.asked, if_neg (not_lt.mpr hnothing)] at hasked
          exact absurd rfl hasked
        · refine ⟨refundIntent key (t.refundPaise terms), ?_, stands_refundIntent ..⟩
          rw [hadded]
          exact List.mem_append_right _ (List.mem_singleton_self _)
  · exact h

theorem sendRefund (h : SoundEndings live) (r : OpenRefund) (answer : GatewayRefundAnswer)
    (mockId : String) :
    SoundEndings (liveStep config terms live (.sendRefund r answer mockId)) := by
  dsimp only [liveStep]
  split
  · exact h
  next payment _ =>
    split
    next hr =>
      obtain ⟨hbooking, hkept⟩ := sendRefund_frame config live.checkout (payment.asRead .paid)
        r.refundPaise answer mockId
      exact h.of_same hbooking (fun hrecorded => hrecorded.of_subset hkept) (List.Subset.refl _)
        (List.length_erase_add_one hr.1)
    · exact h

theorem closeRefund (h : SoundEndings live) (r : OpenRefund) :
    SoundEndings (liveStep config terms live (.closeRefund r)) := by
  dsimp only [liveStep]
  split
  next reply _ =>
    split
    next hr =>
      have hlast : live.refunds.erase r = [] := by
        have hlength := List.length_erase_of_mem hr
        have hsingle := h.single
        exact List.length_eq_zero_iff.mp (by omega)
      refine ⟨h.reads, ?_, fun hsome => absurd hlast hsome⟩
      dsimp only
      rw [hlast]
      exact Nat.zero_le 1
    · exact h
  · exact h

theorem step (h : SoundEndings live) (action : LiveAction) :
    SoundEndings (liveStep config terms live action) := by
  cases action with
  | selectUnconfirmed timeoutMinutes =>
    dsimp only [liveStep]
    split
    · exact h.of_same rfl id (List.Subset.refl _) rfl
    · exact h
  | expireBooking =>
    dsimp only [liveStep]
    split
    · exact h
    · have hselected : SoundEndings { live with sweeps := live.sweeps - 1 } :=
        h.of_same rfl id (List.Subset.refl _) rfl
      exact hselected.start .expire
  | cancelBooking customerId reason =>
    dsimp only [liveStep]
    split
    · exact h
    · exact h.start _
  | commitTransition t => exact h.commitTransition t
  | lookUpRefund r =>
    dsimp only [liveStep]
    split
    next hr =>
      exact h.of_same rfl id (List.Subset.refl _)
        (List.length_erase_add_one hr.1)
    · exact h
  | sendRefund r answer mockId => exact h.sendRefund r answer mockId
  | closeRefund r => exact h.closeRefund r
  | verifyPayment customerId dto signatureValid fetch =>
    exact h.of_same rfl id (List.Subset.refl _) rfl
  | commitVerification v =>
    dsimp only [liveStep]
    split
    · obtain ⟨hbooking, hrefunds⟩ := v.write_frame config live.checkout
      exact h.of_same hbooking (refundRecorded_congr hrefunds).mpr
        (List.Subset.refl _) rfl
    · exact h
  | receiveCapture eventId orderId paymentId amount currency =>
    obtain ⟨-, hbooking, hrefunds⟩ :=
      receiveCapture_frame live.checkout eventId orderId paymentId amount currency
    exact h.of_same hbooking (refundRecorded_congr hrefunds).mpr
      (List.Subset.refl _) rfl
  | commitCapture c =>
    dsimp only [liveStep]
    split
    · obtain ⟨hbooking, hrefunds⟩ := c.write_frame live.checkout
      exact h.of_same hbooking (refundRecorded_congr hrefunds).mpr
        (List.Subset.refl _) rfl
    · exact h
  | advance milliseconds => exact h.of_same rfl id (List.Subset.refl _) rfl

end SoundEndings

end Sound

/-! ## The law -/

section Law

variable {config : PaymentConfig} {terms : TripTerms} {live : LiveBooking}

theorem sendRefund_not_stranded (h : SoundEndings live) (hlive : ¬ Stranded live.checkout)
    (r : OpenRefund) (answer : GatewayRefundAnswer) (mockId : String) :
    ¬ Stranded (liveStep config terms live (.sendRefund r answer mockId)).checkout := by
  dsimp only [liveStep]
  split
  · exact hlive
  next payment _ =>
    split
    next hr =>
      have hrecorded := (h.recorded (List.ne_nil_of_mem hr.1)).2
      exact fun hstranded => hstranded.unrecorded
        (hrecorded.of_subset (sendRefund_frame config live.checkout (payment.asRead .paid)
          r.refundPaise answer mockId).2)
    · exact hlive

theorem closeRefund_not_stranded_iff (h : SoundEndings live) (hlive : ¬ Stranded live.checkout)
    (r : OpenRefund) :
    ¬ Stranded (liveStep config terms live (.closeRefund r)).checkout ↔
      InTime config terms live (.closeRefund r) := by
  dsimp only [liveStep, InTime]
  cases hprogress : r.progress with
  | asked => exact iff_of_true hlive fun _ _ hanswered => by cases hanswered
  | sent => exact iff_of_true hlive fun _ _ hanswered => by cases hanswered
  | answered answer =>
    dsimp only
    by_cases hr : r ∈ live.refunds
    case neg =>
      rw [if_neg hr]
      exact iff_of_true hlive fun hmem => absurd hmem hr
    rw [if_pos hr]
    obtain ⟨hended, hrecorded⟩ := h.recorded (List.ne_nil_of_mem hr)
    cases answer with
    | error e =>
      refine iff_of_true (fun hstranded => hstranded.unrecorded ?_) fun _ _ hok => by cases hok
      obtain ⟨row, hrow, hstands⟩ := hrecorded
      exact ⟨row.markRetryable, List.mem_map_of_mem hrow,
        (stands_markRetryable row).trans hstands⟩
    | ok reply =>
      have hkeeps := settleRefunds_recorded_iff reply hrecorded
      constructor
      · intro hkept _ reply' hreply hpaid
        cases hreply
        exact hkeeps.mp (by_contra fun hnone => hkept ⟨hpaid, hended, hnone⟩)
      · rintro hkeep ⟨hpaid, -, hnone⟩
        exact hnone (hkeeps.mpr (hkeep hr reply rfl hpaid))

theorem liveStep_not_stranded_iff (h : SoundEndings live) (hlive : ¬ Stranded live.checkout)
    (action : LiveAction) :
    ¬ Stranded (liveStep config terms live action).checkout ↔ InTime config terms live action := by
  cases action with
  | selectUnconfirmed timeoutMinutes =>
    dsimp only [liveStep]
    split <;> exact iff_of_true hlive trivial
  | expireBooking =>
    dsimp only [liveStep]
    split <;> exact iff_of_true hlive trivial
  | cancelBooking customerId reason =>
    dsimp only [liveStep]
    split <;> exact iff_of_true hlive trivial
  | commitTransition t =>
    dsimp only [liveStep, InTime]
    by_cases ht : t ∈ live.transitions
    · rw [if_pos ht, imp_iff_right ht]
      cases hwrite : t.write terms live.checkout with
      | none => exact iff_of_true hlive fun hsome => by cases hsome
      | some checkout =>
        rw [imp_iff_right Option.isSome_some]
        exact OpenTransition.write_not_stranded_iff hwrite
    · rw [if_neg ht]
      exact iff_of_true hlive fun hmem => absurd hmem ht
  | lookUpRefund r =>
    dsimp only [liveStep]
    split <;> exact iff_of_true hlive trivial
  | sendRefund r answer mockId =>
    exact iff_of_true (sendRefund_not_stranded h hlive r answer mockId) trivial
  | closeRefund r => exact closeRefund_not_stranded_iff h hlive r
  | verifyPayment customerId dto signatureValid fetch => exact iff_of_true hlive trivial
  | commitVerification v =>
    dsimp only [liveStep, InTime]
    by_cases hv : v ∈ live.verifications
    · rw [if_pos hv, imp_iff_right hv]
      exact payment_write_not_stranded_iff hlive (v.write_frame config live.checkout)
        OpenVerification.write_of_commits OpenVerification.write_of_not_commits
    · rw [if_neg hv]
      exact iff_of_true hlive fun hmem => absurd hmem hv
  | receiveCapture eventId orderId paymentId amount currency =>
    obtain ⟨hstatus, hbooking, hrefunds⟩ :=
      receiveCapture_frame live.checkout eventId orderId paymentId amount currency
    exact iff_of_true (mt (stranded_congr hstatus hbooking hrefunds).mp hlive) trivial
  | commitCapture c =>
    dsimp only [liveStep, InTime]
    by_cases hc : c ∈ live.captures
    · rw [if_pos hc, imp_iff_right hc]
      exact payment_write_not_stranded_iff hlive (c.write_frame live.checkout)
        OpenCapture.write_of_commits fun hfails => .inl (OpenCapture.write_of_not_commits hfails)
    · rw [if_neg hc]
      exact iff_of_true hlive fun hmem => absurd hmem hc
  | advance milliseconds => exact iff_of_true hlive trivial

/-- In a run of sweeps, cancellations, verifications and captures on a booking, no payment is ever
stranded exactly if every end and every capture comes in time.  So none is then whenever nothing is
under way. -/
theorem late_captures_iff (config : PaymentConfig) (terms : TripTerms) {s : Checkout}
    (hs : ¬ Stranded s) (now : ℤ) (actions : List LiveAction) :
    (Everywhere (liveStep config terms) (fun live => ¬ Stranded live.checkout) (.opened s now)
        actions ↔
      Along (liveStep config terms) (InTime config terms) (.opened s now) actions) ∧
    (Along (liveStep config terms) (InTime config terms) (.opened s now) actions →
      Everywhere (liveStep config terms)
        (fun live => live.Quiescent → ¬ Stranded live.checkout) (.opened s now) actions) := by
  have hsound : SoundEndings (LiveBooking.opened s now) :=
    ⟨fun _ ht => absurd ht List.not_mem_nil, Nat.zero_le 1, fun h => absurd rfl h⟩
  have hiff : Everywhere (liveStep config terms) (fun live => ¬ Stranded live.checkout)
      (.opened s now) actions ↔
      Along (liveStep config terms) (InTime config terms) (.opened s now) actions :=
    everywhere_iff_along_of_invariant (I := SoundEndings) (fun _ action h => h.step action)
      (fun _ action _ h hlive => liveStep_not_stranded_iff h hlive action) hsound hs
  exact ⟨hiff, fun hintime => (hiff.mpr hintime).mono fun _ h _ => h⟩

end Law

instance (booking : Booking) : Decidable booking.Ended := inferInstanceAs (Decidable (_ ∨ _))

instance (s : Checkout) : Decidable (RefundRecorded s) :=
  inferInstanceAs (Decidable (∃ row ∈ s.refunds, _))

instance (s : Checkout) : Decidable (Stranded s) :=
  decidable_of_iff (s.paymentStatus = some .paid ∧ s.booking.Ended ∧ ¬ RefundRecorded s)
    ⟨fun ⟨hpaid, hended, hnone⟩ => ⟨hpaid, hended, hnone⟩,
      fun ⟨hpaid, hended, hnone⟩ => ⟨hpaid, hended, hnone⟩⟩

def sampleCapture : List LiveAction :=
  [.receiveCapture "evt" (.gateway "order") "pay" (some 111800) (some "INR"),
    .commitCapture ⟨.created, "evt", "pay"⟩]

def capturedCheckout : Checkout :=
  (run (liveStep liveConfig sampleTerms) (.opened sampleCheckout 0) sampleCapture).checkout

def sampleCancellation : List LiveAction :=
  [.cancelBooking "customer" "other plans",
    .commitTransition ⟨capturedCheckout, .cancel ⟨"customer", .customer, some "other plans", 0⟩⟩,
    .lookUpRefund ⟨111800, .asked⟩, .sendRefund ⟨111800, .sent⟩ (.issued "refund" .processed) "",
    .closeRefund ⟨111800, .answered (.ok ⟨some (.issued "refund"), 111800, .processed, false⟩)⟩]

theorem paid_booking_cancelled_in_time :
    Everywhere (liveStep liveConfig sampleTerms)
      (fun live => live.Quiescent → ¬ Stranded live.checkout) (.opened sampleCheckout 0)
      (sampleCapture ++ sampleCancellation) :=
  (late_captures_iff liveConfig sampleTerms (by decide) 0 _).2
    ((late_captures_iff liveConfig sampleTerms (by decide) 0 _).1.mp (by decide +kernel))

/-- The sweep selects an unpaid booking and expires it, and the payment is captured then. -/
theorem expired_booking_paid :
    ¬ Everywhere (liveStep liveConfig sampleTerms)
      (fun live => live.Quiescent → ¬ Stranded live.checkout) (.opened sampleCheckout 0)
      ([.advance 1800001, .selectUnconfirmed 30, .expireBooking,
        .commitTransition ⟨sampleCheckout, .expire⟩] ++ sampleCapture) := by
  intro h
  refine h.last ?_ (by decide +kernel)
  constructor <;> decide +kernel

end CarRental
