import CarRental.Marketplace.CheckoutOrchestrator

/-!
# One booking for each session

A session and a quote of the marketplace should give rise to one booking at most
(`SingleBookings`), and a session that is confirmed should stay so (`ConfirmationKept`).

A verification looks at the status of its session when it is called, and its transaction at the id
of the payment only.  So two payments of one session, or of two sessions with one quote, lead to two
bookings when both are verified before either is confirmed, or when a failure that is reported late
takes a confirmed session back.  Late writes of an expiry or of an order do the same
(`single_confirmation_iff`).
-/

namespace CarRental.Marketplace

open KeyedRows Runs

/-! ## The laws -/

structure SingleBookings (desk : CheckoutDesk) : Prop where
  sessions : (desk.bookings.map CheckoutBooking.sessionId).Nodup
  quotes : (desk.bookings.map CheckoutBooking.quoteId).Nodup

/-- A session that is confirmed with a booking is so afterwards. -/
def ConfirmationKept (desk desk' : CheckoutDesk) : Prop :=
  ∀ session ∈ desk.sessions, session.status = .confirmed → ∀ bookingId ∈ session.bookingId,
    ∀ later ∈ desk'.sessions, later.sessionId = session.sessionId →
      later.status = .confirmed ∧ later.bookingId = some bookingId

/-- `ConfirmationKept` for a step. -/
def KeepsConfirmations (desk : CheckoutDesk) (action : CheckoutAction) : Prop :=
  ConfirmationKept desk (checkoutStep desk action)

/-! ## The condition -/

/-- The session, if there is one, is not confirmed with a booking. -/
def Unconfirmed (desk : CheckoutDesk) (sessionId : Id) : Prop :=
  ∀ session ∈ desk.sessions, session.sessionId = sessionId → session.status = .confirmed →
    session.bookingId = none

/-- The answer is an order, so that the session is written. -/
def OrderReply.writes (desk : CheckoutDesk) : OrderReply → Prop
  | .failed => False
  | .created _ orderId _ => orderId ∉ desk.orders.map ProviderOrder.orderId
  | .cached order _ => order ∈ desk.orders

/-- A transaction that commits is the first one of its session and of its quote, and the writes of a
failure, an expiry or an order meet a session that is not confirmed. -/
def ConfirmsOnce (desk : CheckoutDesk) : CheckoutAction → Prop
  | .commitVerification call newId failed => commits desk call newId failed = true →
      call.session.sessionId ∉ desk.bookings.map CheckoutBooking.sessionId ∧
        call.quote.id ∉ desk.bookings.map CheckoutBooking.quoteId
  | .handlePaymentFailure sessionId customerId =>
    (desk.session? sessionId customerId).isSome = true → Unconfirmed desk sessionId
  | .writeExpiry sessionId => sessionId ∈ desk.expiries → Unconfirmed desk sessionId
  | .finishInitiation call _ reply => call ∈ desk.initiations → reply.writes desk →
      Unconfirmed desk call.session.sessionId
  | _ => True

/-! ## What holds in every state -/

/-- Ids are unique, and a session that names a booking has one. -/
structure SoundSessions (desk : CheckoutDesk) : Prop where
  ids : (desk.sessions.map CheckoutSession.sessionId).Nodup
  booked : ∀ session ∈ desk.sessions, session.bookingId.isSome = true →
    session.sessionId ∈ desk.bookings.map CheckoutBooking.sessionId

variable {desk desk' : CheckoutDesk}

/-- The step leaves sessions and bookings as they are. -/
structure SameSessions (desk desk' : CheckoutDesk) : Prop where
  sessions : desk'.sessions = desk.sessions
  bookings : desk'.bookings = desk.bookings

theorem SameSessions.sound (h : SoundSessions desk) (hsame : SameSessions desk desk') :
    SoundSessions desk' := by
  refine ⟨?_, ?_⟩
  · rw [hsame.sessions]
    exact h.ids
  · rw [hsame.sessions, hsame.bookings]
    exact h.booked

variable {sessionId : Id} {f : CheckoutSession → CheckoutSession}

theorem SoundSessions.update (h : SoundSessions desk)
    (hid : ∀ session, (f session).sessionId = session.sessionId)
    (hbooking : ∀ session, (f session).bookingId = session.bookingId)
    (hsessions : desk'.sessions = (desk.updateSession sessionId f).sessions)
    (hbookings : desk'.bookings = desk.bookings) : SoundSessions desk' := by
  refine ⟨?_, ?_⟩
  · rw [hsessions, CheckoutDesk.updateSession, map_key_updateKey hid]
    exact h.ids
  · rw [hsessions, hbookings]
    intro session hsession hsome
    rcases mem_updateKey.mp hsession with ⟨before, hbefore, -, rfl⟩ | ⟨hbefore, -⟩
    · rw [hbooking] at hsome
      rw [hid]
      exact h.booked before hbefore hsome
    · exact h.booked session hbefore hsome

theorem SoundSessions.confirm (h : SoundSessions desk) (call : PendingVerification) (newId : Id) :
    SoundSessions (confirm desk call newId) := by
  refine ⟨?_, fun session hsession hsome => ?_⟩
  · show ((updateKey CheckoutSession.sessionId call.session.sessionId (markConfirmed newId)
      desk.sessions).map CheckoutSession.sessionId).Nodup
    rw [map_key_updateKey (f := markConfirmed newId) fun _ => rfl]
    exact h.ids
  · show session.sessionId ∈
      (desk.bookings ++ [call.booking newId]).map CheckoutBooking.sessionId
    rw [List.map_append, List.mem_append]
    rcases mem_updateKey.mp hsession with ⟨before, hbefore, hid, rfl⟩ | ⟨hbefore, -⟩
    · exact .inr (List.mem_singleton.mpr hid)
    · exact .inl (h.booked session hbefore hsome)

theorem SoundSessions.create (h : SoundSessions desk) {session : CheckoutSession}
    (hfresh : session.sessionId ∉ desk.sessions.map CheckoutSession.sessionId)
    (hnone : session.bookingId = none) :
    SoundSessions { desk with sessions := desk.sessions ++ [session] } := by
  refine ⟨nodup_map_concat h.ids hfresh, fun other hother hsome => ?_⟩
  rcases List.mem_append.mp hother with hold | hnew
  · exact h.booked other hold hsome
  · rw [List.mem_singleton.mp hnew, hnone] at hsome
    cases hsome

/-! ## What each step does to a session -/

/-- What a step may do to the sessions and the bookings. -/
inductive SessionEffect (desk desk' : CheckoutDesk) : Prop where
  | same (h : SameSessions desk desk')
  | created (session : CheckoutSession)
      (hfresh : session.sessionId ∉ desk.sessions.map CheckoutSession.sessionId)
      (hnone : session.bookingId = none) (hsessions : desk'.sessions = desk.sessions ++ [session])
      (hbookings : desk'.bookings = desk.bookings)
  | written (sessionId : Id) (f : CheckoutSession → CheckoutSession)
      (hid : ∀ session, (f session).sessionId = session.sessionId)
      (hbooking : ∀ session, (f session).bookingId = session.bookingId)
      (hsessions : desk'.sessions = (desk.updateSession sessionId f).sessions)
      (hbookings : desk'.bookings = desk.bookings)
  | confirmed (call : PendingVerification) (newId : Id) (h : desk' = confirm desk call newId)

theorem SessionEffect.sound (h : SoundSessions desk) (heffect : SessionEffect desk desk') :
    SoundSessions desk' := by
  cases heffect with
  | same hsame => exact hsame.sound h
  | created session hfresh hnone hsessions hbookings =>
    have hcreated := h.create hfresh hnone
    exact SameSessions.sound hcreated ⟨hsessions, hbookings⟩
  | written sessionId f hid hbooking hsessions hbookings =>
    exact h.update hid hbooking hsessions hbookings
  | confirmed call newId heq =>
    rw [heq]
    exact h.confirm call newId

theorem createQuote_same (desk : CheckoutDesk) (quote : BookingQuote) :
    SameSessions desk (createQuote desk quote) := by
  rw [createQuote]
  split
  · exact ⟨rfl, rfl⟩
  · exact ⟨rfl, rfl⟩

theorem renewQuote_same (desk : CheckoutDesk) (call : PendingConfiguration)
    (renewed : BookingQuote) : SameSessions desk (renewQuote desk call renewed) := by
  rw [renewQuote]
  split
  · exact ⟨rfl, rfl⟩
  · have hissued := fun desk quote => createQuote_same desk quote
    dsimp only
    split
    · exact ⟨(hissued (desk.updateQuote call.quote.id CarRental.supersedeQuote) _).sessions,
        (hissued (desk.updateQuote call.quote.id CarRental.supersedeQuote) _).bookings⟩
    · exact ⟨(hissued desk _).sessions, (hissued desk _).bookings⟩

theorem beginConfiguration_same (desk : CheckoutDesk) (sessionId customerId : Id) :
    SameSessions desk (beginConfiguration desk sessionId customerId) := by
  rw [beginConfiguration]
  split <;> exact ⟨rfl, rfl⟩

theorem beginInitiation_same (desk : CheckoutDesk) (sessionId customerId : Id) :
    SameSessions desk (beginInitiation desk sessionId customerId) := by
  rw [beginInitiation]
  split <;> exact ⟨rfl, rfl⟩

theorem capture_same (desk : CheckoutDesk) (order : ProviderOrder) (paymentId : String) :
    SameSessions desk (capture desk order paymentId) := by
  rw [capture]
  split <;> exact ⟨rfl, rfl⟩

theorem beginVerification_same (desk : CheckoutDesk) (sessionId customerId : Id)
    (payload : VerificationPayload) (reply : VerifyReply) :
    SameSessions desk (beginVerification desk sessionId customerId payload reply) := by
  rw [beginVerification]
  repeat' split
  all_goals exact ⟨rfl, rfl⟩

theorem lookUpPayment_same (desk : CheckoutDesk) (call : PendingVerification) :
    SameSessions desk (lookUpPayment desk call) := by
  rw [lookUpPayment]
  split <;> exact ⟨rfl, rfl⟩

theorem finishInitiation_cases (desk : CheckoutDesk) (call : PendingInitiation)
    (primaryProviderId : String) (reply : OrderReply) :
    (¬ reply.writes desk ∧
        SameSessions desk (finishInitiation desk call primaryProviderId reply)) ∨
      reply.writes desk ∧ ∃ order orderId,
        (finishInitiation desk call primaryProviderId reply).sessions =
          (desk.updateSession call.session.sessionId
            (markPending order primaryProviderId orderId)).sessions ∧
        (finishInitiation desk call primaryProviderId reply).bookings = desk.bookings := by
  cases reply with
  | failed => exact .inl ⟨not_false, rfl, rfl⟩
  | created providerId orderId named =>
    by_cases hknown : orderId ∈ desk.orders.map ProviderOrder.orderId
    · refine .inl ⟨not_not_intro hknown, ?_⟩
      rw [finishInitiation]
      dsimp only
      rw [if_pos hknown]
      exact ⟨rfl, rfl⟩
    · refine .inr ⟨hknown, ⟨providerId, orderId, call.amountPaise⟩,
        named.getD ("ord_" ++ toString desk.now), ?_⟩
      rw [finishInitiation]
      dsimp only
      rw [if_neg hknown]
      exact ⟨rfl, rfl⟩
  | cached order named =>
    by_cases hknown : order ∈ desk.orders
    · refine .inr ⟨hknown, order, named.getD ("ord_" ++ toString desk.now), ?_⟩
      rw [finishInitiation]
      dsimp only
      rw [if_pos hknown]
      exact ⟨rfl, rfl⟩
    · refine .inl ⟨hknown, ?_⟩
      rw [finishInitiation]
      dsimp only
      rw [if_neg hknown]
      exact ⟨rfl, rfl⟩

theorem commitVerification_of_not {call : PendingVerification} {newId : Id} {failed : Bool}
    (h : ¬ commits desk call newId failed = true) :
    SameSessions desk (commitVerification desk call newId failed) := by
  rw [commitVerification, if_neg h]
  split <;> exact ⟨rfl, rfl⟩

/-- The steps that write a session or a booking. -/
def CheckoutAction.writesSession : CheckoutAction → Bool
  | .createCheckoutSession .. | .writeExpiry .. | .finishConfiguration .. | .finishInitiation ..
  | .commitVerification .. | .handlePaymentFailure .. => true
  | _ => false

theorem checkoutStep_same {action : CheckoutAction} (h : action.writesSession = false) :
    SameSessions desk (checkoutStep desk action) := by
  cases action with
  | createQuote quote => exact createQuote_same desk quote
  | beginConfiguration sessionId customerId =>
    exact beginConfiguration_same desk sessionId customerId
  | renewQuote call renewed =>
    rw [checkoutStep]
    split
    · exact renewQuote_same desk call renewed
    · exact ⟨rfl, rfl⟩
  | beginInitiation sessionId customerId => exact beginInitiation_same desk sessionId customerId
  | capture order paymentId => exact capture_same desk order paymentId
  | beginVerification sessionId customerId payload reply =>
    rw [checkoutStep]
    split
    · exact beginVerification_same desk sessionId customerId payload reply
    · exact ⟨rfl, rfl⟩
  | lookUpPayment call =>
    rw [checkoutStep]
    split
    · exact lookUpPayment_same desk call
    · exact ⟨rfl, rfl⟩
  | expireQuote | supersedeQuote | recordPayment | advance => exact ⟨rfl, rfl⟩
  | createCheckoutSession | writeExpiry | finishConfiguration | finishInitiation
  | commitVerification | handlePaymentFailure => cases h

theorem createCheckoutSession_effect (desk : CheckoutDesk) (sessionId customerId quoteId : Id) :
    SessionEffect desk (createCheckoutSession desk sessionId customerId quoteId) := by
  rw [createCheckoutSession]
  split
  · exact .same ⟨rfl, rfl⟩
  · split
    · exact .same ⟨rfl, rfl⟩
    · split
      · exact .same ⟨rfl, rfl⟩
      · split
        · exact .same ⟨rfl, rfl⟩
        next hfresh => exact .created _ hfresh rfl rfl rfl

theorem checkoutStep_effect (desk : CheckoutDesk) (action : CheckoutAction) :
    SessionEffect desk (checkoutStep desk action) := by
  cases action with
  | createCheckoutSession sessionId customerId quoteId =>
    exact createCheckoutSession_effect desk sessionId customerId quoteId
  | writeExpiry sessionId =>
    rw [checkoutStep]
    split
    · exact .written sessionId markExpired (fun _ => rfl) (fun _ => rfl) rfl rfl
    · exact .same ⟨rfl, rfl⟩
  | finishConfiguration call renewedId =>
    rw [checkoutStep]
    split
    · exact .written call.session.sessionId (requote call renewedId) (fun _ => rfl) (fun _ => rfl)
        rfl rfl
    · exact .same ⟨rfl, rfl⟩
  | finishInitiation call primaryProviderId reply =>
    rw [checkoutStep]
    split
    · rcases finishInitiation_cases desk call primaryProviderId reply with
        ⟨-, hsame⟩ | ⟨-, order, orderId, hsessions, hbookings⟩
      · exact .same hsame
      · exact .written call.session.sessionId (markPending order primaryProviderId orderId)
          (fun _ => rfl) (fun _ => rfl) hsessions hbookings
    · exact .same ⟨rfl, rfl⟩
  | commitVerification call newId failed =>
    by_cases hcommits : commits desk call newId failed = true
    · exact .confirmed call newId (if_pos hcommits)
    · exact .same (commitVerification_of_not hcommits)
  | handlePaymentFailure sessionId customerId =>
    rw [checkoutStep, handlePaymentFailure]
    split
    · exact .same ⟨rfl, rfl⟩
    · exact .written sessionId markFailed (fun _ => rfl) (fun _ => rfl) rfl rfl
  | _ => exact .same (checkoutStep_same rfl)

theorem checkoutStep_sound (desk : CheckoutDesk) (action : CheckoutAction)
    (h : SoundSessions desk) : SoundSessions (checkoutStep desk action) :=
  (checkoutStep_effect desk action).sound h

/-! ## Which of them keep the laws -/

theorem SingleBookings.of_bookings (h : SingleBookings desk)
    (hbookings : desk'.bookings = desk.bookings) : SingleBookings desk' := by
  refine ⟨?_, ?_⟩
  · rw [hbookings]
    exact h.sessions
  · rw [hbookings]
    exact h.quotes

theorem SameSessions.kept (h : SoundSessions desk) (hsame : SameSessions desk desk') :
    ConfirmationKept desk desk' := by
  intro session hsession hstatus bookingId hbooking later hlater hid
  rw [hsame.sessions] at hlater
  rw [eq_of_key_eq h.ids hlater hsession hid]
  exact ⟨hstatus, hbooking⟩

theorem kept_of_created (h : SoundSessions desk) {session : CheckoutSession}
    (hfresh : session.sessionId ∉ desk.sessions.map CheckoutSession.sessionId)
    (hsessions : desk'.sessions = desk.sessions ++ [session]) : ConfirmationKept desk desk' := by
  intro other hother hstatus bookingId hbooking later hlater hid
  rw [hsessions] at hlater
  rcases List.mem_append.mp hlater with hold | hnew
  · rw [eq_of_key_eq h.ids hold hother hid]
    exact ⟨hstatus, hbooking⟩
  · rw [List.mem_singleton.mp hnew] at hid
    exact absurd (hid ▸ List.mem_map_of_mem hother) hfresh

theorem kept_of_update (h : SoundSessions desk)
    (hid : ∀ session, (f session).sessionId = session.sessionId)
    (hstatus : ∀ session, (f session).status = session.status)
    (hbooking : ∀ session, (f session).bookingId = session.bookingId)
    (hsessions : desk'.sessions = (desk.updateSession sessionId f).sessions) :
    ConfirmationKept desk desk' := by
  intro session hsession hconfirmed bookingId hbooked later hlater hsame
  rw [hsessions] at hlater
  rcases mem_updateKey.mp hlater with ⟨before, hbefore, -, rfl⟩ | ⟨hbefore, -⟩
  · rw [hid] at hsame
    rw [hstatus, hbooking, eq_of_key_eq h.ids hbefore hsession hsame]
    exact ⟨hconfirmed, hbooked⟩
  · rw [eq_of_key_eq h.ids hbefore hsession hsame]
    exact ⟨hconfirmed, hbooked⟩

theorem kept_iff_unconfirmed (h : SoundSessions desk)
    (hid : ∀ session, (f session).sessionId = session.sessionId)
    (hstatus : ∀ session, (f session).status ≠ .confirmed)
    (hsessions : desk'.sessions = (desk.updateSession sessionId f).sessions) :
    ConfirmationKept desk desk' ↔ Unconfirmed desk sessionId := by
  constructor
  · intro hkept session hsession hsame hconfirmed
    cases hbooking : session.bookingId with
    | none => rfl
    | some bookingId =>
      have hwritten : f session ∈ desk'.sessions := by
        rw [hsessions]
        exact mem_updateKey.mpr (.inl ⟨session, hsession, hsame, rfl⟩)
      have hafter := hkept session hsession hconfirmed bookingId hbooking (f session) hwritten
        (hid session)
      exact absurd hafter.1 (hstatus session)
  · intro hunconfirmed session hsession hconfirmed bookingId hbooked later hlater hsame
    rw [hsessions] at hlater
    rcases mem_updateKey.mp hlater with ⟨before, hbefore, hbeforeId, rfl⟩ | ⟨hbefore, -⟩
    · rw [hid] at hsame
      have hnone := hunconfirmed session hsession (hsame ▸ hbeforeId) hconfirmed
      rw [hnone] at hbooked
      cases hbooked
    · rw [eq_of_key_eq h.ids hbefore hsession hsame]
      exact ⟨hconfirmed, hbooked⟩

theorem single_confirm_iff (h : SingleBookings desk) (call : PendingVerification) (newId : Id) :
    SingleBookings (confirm desk call newId) ↔
      call.session.sessionId ∉ desk.bookings.map CheckoutBooking.sessionId ∧
        call.quote.id ∉ desk.bookings.map CheckoutBooking.quoteId := by
  have hbookings : (confirm desk call newId).bookings = desk.bookings ++ [call.booking newId] := rfl
  constructor
  · rintro ⟨hsessions, hquotes⟩
    rw [hbookings, List.map_append, List.nodup_append] at hsessions hquotes
    exact ⟨fun hmem => hsessions.2.2 _ hmem _ (List.mem_singleton.mpr rfl) rfl,
      fun hmem => hquotes.2.2 _ hmem _ (List.mem_singleton.mpr rfl) rfl⟩
  · rintro ⟨hsession, hquote⟩
    refine ⟨?_, ?_⟩
    · rw [hbookings]
      exact nodup_map_concat h.sessions hsession
    · rw [hbookings]
      exact nodup_map_concat h.quotes hquote

theorem kept_confirm (h : SoundSessions desk) {call : PendingVerification} (newId : Id)
    (hfirst : call.session.sessionId ∉ desk.bookings.map CheckoutBooking.sessionId) :
    ConfirmationKept desk (confirm desk call newId) := by
  intro session hsession hconfirmed bookingId hbooked later hlater hsame
  rcases mem_updateKey.mp hlater with ⟨before, hbefore, hid, rfl⟩ | ⟨hbefore, -⟩
  · have hsome : session.bookingId.isSome = true := by
      rw [Option.mem_def.mp hbooked]
      rfl
    have hmem := h.booked session hsession hsome
    rw [← hsame] at hmem
    exact absurd (hid ▸ hmem) hfirst
  · rw [eq_of_key_eq h.ids hbefore hsession hsame]
    exact ⟨hconfirmed, hbooked⟩

theorem law_of_same (hsound : SoundSessions desk) (hsingle : SingleBookings desk)
    (hsame : SameSessions desk desk') : SingleBookings desk' ∧ ConfirmationKept desk desk' :=
  ⟨hsingle.of_bookings hsame.bookings, hsame.kept hsound⟩

theorem law_iff_unconfirmed (hsound : SoundSessions desk) (hsingle : SingleBookings desk)
    (hid : ∀ session, (f session).sessionId = session.sessionId)
    (hstatus : ∀ session, (f session).status ≠ .confirmed)
    (hsessions : desk'.sessions = (desk.updateSession sessionId f).sessions)
    (hbookings : desk'.bookings = desk.bookings) :
    SingleBookings desk' ∧ ConfirmationKept desk desk' ↔ Unconfirmed desk sessionId := by
  rw [kept_iff_unconfirmed hsound hid hstatus hsessions]
  exact and_iff_right (hsingle.of_bookings hbookings)

theorem law_createCheckoutSession (hsound : SoundSessions desk) (hsingle : SingleBookings desk)
    (sessionId customerId quoteId : Id) :
    SingleBookings (createCheckoutSession desk sessionId customerId quoteId) ∧
      ConfirmationKept desk (createCheckoutSession desk sessionId customerId quoteId) := by
  rw [createCheckoutSession]
  split
  · exact law_of_same hsound hsingle ⟨rfl, rfl⟩
  · split
    · exact law_of_same hsound hsingle ⟨rfl, rfl⟩
    · split
      · exact law_of_same hsound hsingle ⟨rfl, rfl⟩
      · split
        · exact law_of_same hsound hsingle ⟨rfl, rfl⟩
        next hfresh => exact ⟨hsingle.of_bookings rfl, kept_of_created hsound hfresh rfl⟩

theorem step_law_iff (hsound : SoundSessions desk) (hsingle : SingleBookings desk)
    (action : CheckoutAction) :
    SingleBookings (checkoutStep desk action) ∧ KeepsConfirmations desk action ↔
      ConfirmsOnce desk action := by
  rw [KeepsConfirmations]
  have hkeep : ∀ {next : CheckoutDesk}, SameSessions desk next →
      SingleBookings next ∧ ConfirmationKept desk next := law_of_same hsound hsingle
  cases action with
  | createCheckoutSession sessionId customerId quoteId =>
    exact iff_of_true
      (law_createCheckoutSession hsound hsingle sessionId customerId quoteId) trivial
  | writeExpiry sessionId =>
    rw [checkoutStep, ConfirmsOnce]
    by_cases hpending : sessionId ∈ desk.expiries
    · rw [if_pos hpending, imp_iff_right hpending]
      exact law_iff_unconfirmed hsound hsingle (f := markExpired) (fun _ => rfl)
        (fun _ => CheckoutSessionStatus.noConfusion) rfl rfl
    · rw [if_neg hpending]
      exact iff_of_true (hkeep ⟨rfl, rfl⟩) fun h => absurd h hpending
  | finishConfiguration call renewedId =>
    rw [checkoutStep]
    split
    · have hkept : ConfirmationKept desk (finishConfiguration desk call renewedId) :=
        kept_of_update hsound (f := requote call renewedId) (fun _ => rfl) (fun _ => rfl)
          (fun _ => rfl) rfl
      exact iff_of_true ⟨hsingle.of_bookings rfl, hkept⟩ trivial
    · exact iff_of_true (hkeep ⟨rfl, rfl⟩) trivial
  | finishInitiation call primaryProviderId reply =>
    rw [checkoutStep, ConfirmsOnce]
    by_cases hpending : call ∈ desk.initiations
    · rw [if_pos hpending, imp_iff_right hpending]
      rcases finishInitiation_cases desk call primaryProviderId reply with
        ⟨hnot, hsame⟩ | ⟨hwrites, order, orderId, hsessions, hbookings⟩
      · exact iff_of_true (hkeep hsame) fun h => absurd h hnot
      · rw [imp_iff_right hwrites]
        exact law_iff_unconfirmed hsound hsingle (f := markPending order primaryProviderId orderId)
          (fun _ => rfl) (fun _ => CheckoutSessionStatus.noConfusion) hsessions hbookings
    · rw [if_neg hpending]
      exact iff_of_true (hkeep ⟨rfl, rfl⟩) fun h => absurd h hpending
  | commitVerification call newId failed =>
    rw [checkoutStep, ConfirmsOnce]
    by_cases hcommits : commits desk call newId failed = true
    · have hconfirm : commitVerification desk call newId failed = confirm desk call newId :=
        if_pos hcommits
      rw [hconfirm, imp_iff_right hcommits, single_confirm_iff hsingle]
      exact and_iff_left_of_imp fun hfirst => kept_confirm hsound newId hfirst.1
    · exact iff_of_true (hkeep (commitVerification_of_not hcommits)) fun h => absurd h hcommits
  | handlePaymentFailure sessionId customerId =>
    rw [checkoutStep, ConfirmsOnce, handlePaymentFailure]
    cases desk.session? sessionId customerId with
    | none => exact iff_of_true (hkeep ⟨rfl, rfl⟩) fun h => Bool.noConfusion h
    | some session =>
      rw [imp_iff_right Option.isSome_some]
      exact law_iff_unconfirmed hsound hsingle (f := markFailed) (fun _ => rfl)
        (fun _ => CheckoutSessionStatus.noConfusion) rfl rfl
  | _ => exact iff_of_true (hkeep (checkoutStep_same rfl)) trivial

/-! ## The law -/

def sampleReply : VerifyReply := ⟨true, true, none⟩

def sampleSession : CheckoutSession where
  sessionId := "cs"
  customerId := "customer"
  quoteId := "quote"
  status := .quoteLocked
  selectedPaymentProvider := none
  paymentAttempts := 0
  activeOrderId := none
  lastOrder := none
  bookingId := none
  expiresAt := 900000

def sampleOrder (orderId : String) : ProviderOrder :=
  ⟨"razorpay", orderId, sampleQuote.price.totalPayable.paise⟩

def orderedSession : CheckoutSession :=
  markPending (sampleOrder "order_1") "razorpay" "order_1" sampleSession

def reorderedSession : CheckoutSession :=
  markPending (sampleOrder "order_2") "razorpay" "order_2" orderedSession

def firstVerification (lookedUp : Bool) : PendingVerification :=
  ⟨reorderedSession, sampleQuote, ⟨some "order_1", some "pay_1"⟩, lookedUp⟩

/-- It reads the session as it has failed, and the quote as it was accepted. -/
def secondVerification (lookedUp : Bool) : PendingVerification :=
  ⟨markFailed (markConfirmed "booking" reorderedSession), markAccepted sampleQuote,
    ⟨some "order_2", some "pay_2"⟩, lookedUp⟩

/-- A customer pays two orders of a session.  The first payment is confirmed, a failure is reported
and the second payment is confirmed. -/
def sampleRun : List CheckoutAction :=
  [.createQuote sampleQuote, .createCheckoutSession "cs" "customer" "quote",
    .beginInitiation "cs" "customer",
    .finishInitiation ⟨sampleSession, sampleQuote⟩ "razorpay"
      (.created "razorpay" "order_1" (some "order_1")),
    .beginInitiation "cs" "customer",
    .finishInitiation ⟨orderedSession, sampleQuote⟩ "razorpay"
      (.created "razorpay" "order_2" (some "order_2")),
    .capture (sampleOrder "order_1") "pay_1", .capture (sampleOrder "order_2") "pay_2",
    .beginVerification "cs" "customer" ⟨some "order_1", some "pay_1"⟩ sampleReply,
    .lookUpPayment (firstVerification false), .commitVerification (firstVerification true) "booking"
      false,
    .handlePaymentFailure "cs" "customer",
    .beginVerification "cs" "customer" ⟨some "order_2", some "pay_2"⟩ sampleReply,
    .lookUpPayment (secondVerification false),
    .commitVerification (secondVerification true) "second" false]

end CarRental.Marketplace
