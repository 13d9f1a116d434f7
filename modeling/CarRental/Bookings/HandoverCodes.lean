import CarRental.Bookings.RentalOperations

/-!
# Who may hand over

A pickup or a return by anyone but an administrator should need the code that was issued for that
booking and that handover (`Authenticated`).

Neither operation compares the code.  Its first part only asks for some text and uses up some row;
the comparison is left to the transition inside.  A transition compares the code when it moves the
booking for a vendor or a customer.  It does not when the booking is there already, nor for the
platform.  As long as the operation has its lock, nobody else can move the booking; when the lock
has run out, somebody can, and then any text is good enough (`handover_code_iff`).
-/

namespace CarRental

open Calls KeyedRows Runs

/-! ## Issuing codes -/

/-- The checks of `generateAndSendOtp`. -/
def checkOtpRequest (desk : RentalDesk) (bookingId : Id) (otpType : HandoverOtpType) (userId : Id)
    (role : ActorRole) : Except HttpError Unit :=
  match desk.bookings bookingId with
  | none => .error (.notFound "Booking not found.")
  | some booking =>
    if role ≠ .admin ∧ booking.vendorUserId ≠ userId ∧ booking.customerId ≠ userId then
      .error (.forbidden
        "Access denied: You are not authorized to generate handover OTP for this booking.")
    else
      match otpType with
      | .pickup =>
        if booking.status ≠ .confirmed then
          .error (.badRequest ("Pickup handover OTP can only be generated for CONFIRMED bookings. Current status: " ++
            booking.status.text))
        else .ok ()
      | .return =>
        if booking.status ≠ .ongoing then
          .error (.badRequest ("Return handover OTP can only be generated for ONGOING trips. Current status: " ++
            booking.status.text))
        else .ok ()

/-- `deleteMany` on the unverified rows. -/
def invalidateOtps (otps : List HandoverOtp) (bookingId : Id) (otpType : HandoverOtpType) :
    List HandoverOtp :=
  otps.filter fun otp => !otp.awaits bookingId otpType

/-- `crypto.randomInt(100000, 999999).toString()` -/
def drawCode (draw : ℕ) : String := toString (100000 + draw % 899999)

def newOtp (id bookingId : Id) (otpType : HandoverOtpType) (draw : ℕ) (now : ℤ) : HandoverOtp where
  id := id
  bookingId := bookingId
  otpType := otpType
  code := drawCode draw
  expiresAt := now + 15 * 60 * 1000
  verified := false
  attemptCount := 0

/-! ## The system -/

/-- A pickup between its two parts.  `presented` is not part of the program: it tells whether the
code was right when the call began. -/
structure PendingPickup where
  req : PickupExecutionRequest
  booking : RentalBooking
  token : String
  presented : Bool
deriving DecidableEq

structure PendingReturn where
  req : ReturnExecutionRequest
  prepared : RentalBooking × ReturnSettlementResult
  token : String
  presented : Bool

/-- The tables, the clock, and the calls that are under way.  `issued` keeps every code row as it
was created. -/
structure HandoverSystem where
  desk : RentalDesk
  now : ℤ
  pickups : Id → Option PendingPickup
  returns : Id → Option PendingReturn
  otpRequests : Id → Option (Id × HandoverOtpType)
  issued : List HandoverOtp

/-- A system in which no call is under way. -/
def HandoverSystem.start (desk : RentalDesk) (now : ℤ) : HandoverSystem where
  desk := desk
  now := now
  pickups _ := none
  returns _ := none
  otpRequests _ := none
  issued := desk.otps

inductive HandoverAction where
  | wait (ms : ℕ)
  /-- The two parts of `generateAndSendOtp`. -/
  | requestOtp (call bookingId : Id) (otpType : HandoverOtpType) (userId : Id) (role : ActorRole)
  | issueOtp (call otpId : Id) (draw : ℕ)
  | transition (ctx : TransitionContext) (env : TransitionEnv)
  | beginPickup (call : Id) (req : PickupExecutionRequest) (env : OperationEnv)
  | finishPickup (call : Id) (env : OperationEnv)
  | beginReturn (call : Id) (req : ReturnExecutionRequest) (env : OperationEnv)
  | finishReturn (call : Id) (env : OperationEnv)
  /-- Whatever other services write, to all tables but the codes. -/
  | others (write : RentalDesk → RentalDesk)

def TransitionEnv.at (env : TransitionEnv) (now : ℤ) : TransitionEnv := { env with now := now }

def OperationEnv.beginning (env : OperationEnv) (now : ℤ) : OperationEnv :=
  { env with
    start := now
    inner := env.inner.at now }

/-- The operation that has the lock with `token`, going on now. -/
def OperationEnv.resuming (env : OperationEnv) (now : ℤ) (token : String) : OperationEnv :=
  { env with
    token := token
    inner := env.inner.at now }

namespace HandoverSystem

/-- The code is that of a row of the booking and the handover which was issued and can still be
used. -/
def Presents (s : HandoverSystem) (bookingId : Id) (otpType : HandoverOtpType)
    (code : Option String) : Prop :=
  ∃ text ∈ code, CodeValid s.desk.otps bookingId otpType text s.now ∧
    ∃ otp ∈ s.issued, otp.bookingId = bookingId ∧ otp.otpType = otpType ∧ otp.code = trim text

instance (s : HandoverSystem) (bookingId : Id) (otpType : HandoverOtpType) (code : Option String) :
    Decidable (s.Presents bookingId otpType code) :=
  match code with
  | none => .isFalse fun ⟨_, h, _⟩ => by cases h
  | some text =>
    decidable_of_iff (CodeValid s.desk.otps bookingId otpType text s.now ∧
        ∃ otp ∈ s.issued, otp.bookingId = bookingId ∧ otp.otpType = otpType ∧
          otp.code = trim text)
      ⟨fun h => ⟨text, rfl, h⟩, fun ⟨_, hmem, h⟩ => Option.some.inj hmem ▸ h⟩

def step (s : HandoverSystem) : HandoverAction → HandoverSystem
  | .wait ms => { s with now := s.now + ms }
  | .requestOtp call bookingId otpType userId role =>
    match checkOtpRequest s.desk bookingId otpType userId role with
    | .error _ => s
    | .ok () =>
      { s with
        desk := { s.desk with otps := invalidateOtps s.desk.otps bookingId otpType }
        otpRequests := Function.update s.otpRequests call (some (bookingId, otpType)) }
  | .issueOtp call otpId draw =>
    match s.otpRequests call with
    | none => s
    | some request =>
      let otp := newOtp otpId request.1 request.2 draw s.now
      { s with
        desk := { s.desk with otps := s.desk.otps ++ [otp] }
        otpRequests := Function.update s.otpRequests call none
        issued := s.issued ++ [otp] }
  | .transition ctx env => { s with desk := (executeTransition s.desk ctx (env.at s.now)).1 }
  | .beginPickup call req env =>
    let outcome := CarRental.beginPickup s.desk req (env.beginning s.now)
    match outcome.2 with
    | .error _ => { s with desk := outcome.1 }
    | .ok booking =>
      { s with
        desk := outcome.1
        pickups := Function.update s.pickups call
          (some ⟨req, booking, env.token,
            decide (s.Presents req.bookingId .pickup req.handoverOtpCode)⟩) }
  | .finishPickup call env =>
    match s.pickups call with
    | none => s
    | some p =>
      { s with
        desk := (CarRental.finishPickup s.desk p.req p.booking (env.resuming s.now p.token)).1
        pickups := Function.update s.pickups call none }
  | .beginReturn call req env =>
    let outcome := CarRental.beginReturn s.desk req (env.beginning s.now)
    match outcome.2 with
    | .error _ => { s with desk := outcome.1 }
    | .ok prepared =>
      { s with
        desk := outcome.1
        returns := Function.update s.returns call
          (some ⟨req, prepared, env.token,
            decide (s.Presents req.bookingId .return req.handoverOtpCode)⟩) }
  | .finishReturn call env =>
    match s.returns call with
    | none => s
    | some p =>
      { s with
        desk := (CarRental.finishReturn s.desk p.req p.prepared (env.resuming s.now p.token)).1
        returns := Function.update s.returns call none }
  | .others write => { s with desk := { write s.desk with otps := s.desk.otps } }

end HandoverSystem

/-! ## The law and the condition -/

/-- A call that ends well, and is not an administrator's, presented the code: at its beginning, or
now that the transition may look at it. -/
def Authenticated (s : HandoverSystem) : HandoverAction → Prop
  | .finishPickup call env => ∀ p, s.pickups call = some p → p.req.actorRole ≠ .admin →
      Succeeds (finishPickup s.desk p.req p.booking (env.resuming s.now p.token)) →
        p.presented = true ∨ s.Presents p.req.bookingId .pickup p.req.handoverOtpCode
  | .finishReturn call env => ∀ p, s.returns call = some p → p.req.actorRole ≠ .admin →
      Succeeds (finishReturn s.desk p.req p.prepared (env.resuming s.now p.token)) →
        p.presented = true ∨ s.Presents p.req.bookingId .return p.req.handoverOtpCode
  | _ => True

/-- The transition goes through without a look at the code: the booking is there already, or the
platform acts. -/
def PassesUnchecked (desk : RentalDesk) (ctx : TransitionContext) (env : TransitionEnv) : Prop :=
  LockFree desk ctx.bookingId env ∧ TransitionReady desk ctx env ∧
    (ctx.actorRole = .system ∨ desk.statusOf ctx.bookingId = some ctx.target.status)

/-- A call whose transition would pass unchecked presented the code. -/
def CodeCovered (s : HandoverSystem) : HandoverAction → Prop
  | .finishPickup call env => ∀ p, s.pickups call = some p → p.req.actorRole ≠ .admin →
      PassesUnchecked s.desk p.req.transition (env.inner.at s.now) →
        p.presented = true ∨ s.Presents p.req.bookingId .pickup p.req.handoverOtpCode
  | .finishReturn call env => ∀ p, s.returns call = some p → p.req.actorRole ≠ .admin →
      PassesUnchecked s.desk (p.req.transition p.prepared.2) (env.inner.at s.now) →
        p.presented = true ∨ s.Presents p.req.bookingId .return p.req.handoverOtpCode
  | _ => True

/-! ## The transition compares the code -/

variable {desk : RentalDesk} {otpType : HandoverOtpType}

variable {ctx : TransitionContext} {missingCode : String}

theorem codeValid_of_checkHandoverCode {now : ℤ} {missingReason : String}
    (hadmin : ctx.isAdmin = false)
    (h : (checkHandoverCode desk ctx otpType now missingCode missingReason).2 = .ok ()) :
    ∃ text ∈ ctx.handoverOtp, CodeValid desk.otps ctx.bookingId otpType text now := by
  unfold checkHandoverCode at h
  cases hcode : ctx.handoverOtp.filter (· ≠ "") with
  | none =>
    rw [hcode, hadmin] at h
    cases h
  | some text =>
    rw [hcode, hadmin] at h
    simp only [Bool.false_eq_true, if_false] at h
    exact ⟨text, (Option.filter_eq_some_iff.mp hcode).1, codeValid_of_verifyOtp h⟩

variable {env : TransitionEnv}

theorem codeValid_of_admitted_ongoing {booking : RentalBooking} (htarget : ctx.target = .ongoing)
    (hadmin : ctx.isAdmin = false) (h : TransitionAdmitted desk booking ctx env) :
    ∃ text ∈ ctx.handoverOtp, CodeValid desk.otps ctx.bookingId .pickup text env.now := by
  obtain ⟨-, _, _, hcode⟩ := h.checked_ongoing htarget
  exact codeValid_of_checkHandoverCode hadmin hcode

theorem codeValid_of_admitted_completed {booking : RentalBooking}
    (htarget : ctx.target = .completed) (hadmin : ctx.isAdmin = false)
    (h : TransitionAdmitted desk booking ctx env) :
    ∃ text ∈ ctx.handoverOtp, CodeValid desk.otps ctx.bookingId .return text env.now := by
  obtain ⟨-, _, _, hcode⟩ := h.checked_completed htarget
  exact codeValid_of_checkHandoverCode hadmin hcode

/-! ## Codes do not change -/

/-- Every row of `after` has the code of a row of `before`. -/
def SameCodes (before after : List HandoverOtp) : Prop :=
  ∀ otp ∈ after, ∃ row ∈ before,
    row.bookingId = otp.bookingId ∧ row.otpType = otp.otpType ∧ row.code = otp.code

theorem SameCodes.refl (otps : List HandoverOtp) : SameCodes otps otps :=
  fun otp h => ⟨otp, h, rfl, rfl, rfl⟩

theorem SameCodes.trans {a b c : List HandoverOtp} (h : SameCodes a b) (h' : SameCodes b c) :
    SameCodes a c := by
  intro otp hotp
  obtain ⟨row, hrow, hbooking, htype, hcode⟩ := h' otp hotp
  obtain ⟨first, hfirst, hbooking', htype', hcode'⟩ := h row hrow
  exact ⟨first, hfirst, hbooking'.trans hbooking, htype'.trans htype, hcode'.trans hcode⟩

theorem sameCodes_updateKey {f : HandoverOtp → HandoverOtp}
    (hf : ∀ otp, (f otp).bookingId = otp.bookingId ∧ (f otp).otpType = otp.otpType ∧
      (f otp).code = otp.code) (id : Id) (otps : List HandoverOtp) :
    SameCodes otps (updateKey HandoverOtp.id id f otps) := by
  intro otp hotp
  rcases mem_updateKey.mp hotp with ⟨row, hrow, -, rfl⟩ | ⟨hmem, -⟩
  · obtain ⟨hbooking, htype, hcode⟩ := hf row
    exact ⟨row, hrow, hbooking.symm, htype.symm, hcode.symm⟩
  · exact ⟨otp, hmem, rfl, rfl, rfl⟩

theorem sameCodes_verify (id : Id) (otps : List HandoverOtp) :
    SameCodes otps (updateKey HandoverOtp.id id HandoverOtp.verify otps) :=
  sameCodes_updateKey (f := HandoverOtp.verify) (fun _ => ⟨rfl, rfl, rfl⟩) id otps

theorem sameCodes_verifyOtp (otps : List HandoverOtp) (bookingId : Id) (otpType : HandoverOtpType)
    (rawOtp : String) (now : ℤ) : SameCodes otps (verifyOtp otps bookingId otpType rawOtp now).1 := by
  unfold verifyOtp
  split
  · exact .refl otps
  split
  · exact .refl otps
  split
  · exact .refl otps
  split
  · exact .refl otps
  split
  · exact sameCodes_updateKey (f := HandoverOtp.miss) (fun _ => ⟨rfl, rfl, rfl⟩) _ otps
  · exact sameCodes_verify _ otps

variable {desk' : RentalDesk} {bookingId : Id} {code : Option String}

theorem sameCodes_consumeOtp {noOtp : String}
    (h : consumeOtp desk bookingId otpType code env missingCode noOtp = .ok desk') :
    SameCodes desk.otps desk'.otps := by
  unfold consumeOtp at h
  split at h
  · cases h
  split at h
  · cases h
  · dsimp only [TransitionEnv.guard] at h
    split at h
    · cases h
      exact sameCodes_verify _ desk.otps
    · cases h

theorem sameCodes_neededOtp {needed : Bool} {noOtp : String}
    (h : (if needed then consumeOtp desk bookingId otpType code env missingCode noOtp
      else .ok desk) = .ok desk')
    : SameCodes desk.otps desk'.otps := by
  split at h
  · exact sameCodes_consumeOtp h
  · cases h
    exact .refl desk.otps

theorem sameCodes_pickupOtp {req : PickupExecutionRequest} (h : pickupOtp desk req env = .ok desk')
    : SameCodes desk.otps desk'.otps := by
  unfold pickupOtp at h
  exact sameCodes_neededOtp h

theorem sameCodes_returnOtp {req : ReturnExecutionRequest} (h : returnOtp desk req env = .ok desk')
    : SameCodes desk.otps desk'.otps := by
  unfold returnOtp at h
  exact sameCodes_neededOtp h

theorem sameCodes_preparePickup (desk : RentalDesk) (req : PickupExecutionRequest)
    (env : TransitionEnv) : SameCodes desk.otps (preparePickup desk req env).1.otps := by
  unfold preparePickup
  cases checkPickup desk req env with
  | error e => exact .refl desk.otps
  | ok booking =>
    rw [andThen_ok]
    cases hotp : pickupOtp desk req env with
    | error e => exact .refl desk.otps
    | ok marked =>
      have hcodes := sameCodes_pickupOtp hotp
      rw [step_ok, andThen_ok]
      cases hinspection : pickupInspection marked req env with
      | error e => exact hcodes
      | ok recorded =>
        obtain ⟨-, inspection, rfl⟩ := recordInspection_eq_ok hinspection
        exact hcodes

theorem sameCodes_prepareReturn (desk : RentalDesk) (req : ReturnExecutionRequest)
    (env : TransitionEnv) : SameCodes desk.otps (prepareReturn desk req env).1.otps := by
  unfold prepareReturn
  cases checkReturn desk req env with
  | error e => exact .refl desk.otps
  | ok booking =>
    rw [andThen_ok]
    cases hotp : returnOtp desk req env with
    | error e => exact .refl desk.otps
    | ok marked =>
      have hcodes := sameCodes_returnOtp hotp
      rw [step_ok, andThen_ok]
      dsimp only
      cases hinspection : returnInspection marked req (marked.rentedTrip req.bookingId booking)
          env with
      | error e => exact hcodes
      | ok recorded =>
        obtain ⟨-, inspection, rfl⟩ := returnInspection_eq_ok hinspection
        rw [step_ok, andThen_ok]
        obtain ⟨deposits, hsettled⟩ := settleDeposit_fst
          { marked with inspections := marked.inspections ++ [inspection] } req.bookingId
          ((marked.rentedTrip req.bookingId booking).totalAdditionalCharges req.charged) env
        cases hreply : (settleDeposit
            { marked with inspections := marked.inspections ++ [inspection] } req.bookingId
            ((marked.rentedTrip req.bookingId booking).totalAdditionalCharges req.charged)
            env).2 with
        | error e =>
          rw [andThen_of_error hreply, hsettled]
          exact hcodes
        | ok settlement =>
          rw [andThen_of_ok hreply, hsettled]
          exact hcodes

theorem sameCodes_beginOperation {R : Type} (desk : RentalDesk) (bookingId : Id)
    (env : OperationEnv) {prepare : RentalDesk → DeskReply R}
    (hprepare : ∀ desk, SameCodes desk.otps (prepare desk).1.otps) :
    SameCodes desk.otps (beginOperation desk bookingId env prepare).1.otps := by
  by_cases hobtains : Obtains desk bookingId env
  · cases hreply : (prepare (desk.locked bookingId env)).2 with
    | error e =>
      rw [beginOperation_of_error hobtains (Prod.ext rfl hreply)]
      exact hprepare (desk.locked bookingId env)
    | ok reply =>
      rw [beginOperation_of_ok hobtains (Prod.ext rfl hreply)]
      exact hprepare (desk.locked bookingId env)
  · obtain ⟨e, h⟩ := beginOperation_of_not_obtains hobtains prepare
    rw [h]
    exact .refl desk.otps

theorem sameCodes_checkHandoverCode (desk : RentalDesk) (ctx : TransitionContext)
    (otpType : HandoverOtpType) (now : ℤ) (missingCode missingReason : String) :
    SameCodes desk.otps
      (checkHandoverCode desk ctx otpType now missingCode missingReason).1.otps := by
  unfold checkHandoverCode
  split
  · split
    · exact .refl desk.otps
    · split
      · exact .refl desk.otps
      · exact .refl desk.otps
  next text htext =>
    split
    · exact .refl desk.otps
    · have hcodes := sameCodes_verifyOtp desk.otps ctx.bookingId otpType text now
      dsimp only
      exact hcodes

theorem sameCodes_validateBusinessPreconditions (desk : RentalDesk) (booking : RentalBooking)
    (ctx : TransitionContext) (env : TransitionEnv) :
    SameCodes desk.otps (validateBusinessPreconditions desk booking ctx env).1.otps := by
  unfold validateBusinessPreconditions
  cases ctx.target with
  | handoverReady => exact .refl desk.otps
  | ongoing =>
    cases checkOngoing desk booking ctx env with
    | error e => exact .refl desk.otps
    | ok => exact sameCodes_checkHandoverCode _ _ _ _ _ _
  | returnPending => exact .refl desk.otps
  | completed =>
    cases checkCompleted desk booking ctx with
    | error e => exact .refl desk.otps
    | ok => exact sameCodes_checkHandoverCode _ _ _ _ _ _

theorem sameCodes_transitionBody (desk : RentalDesk) (ctx : TransitionContext)
    (env : TransitionEnv) : SameCodes desk.otps (transitionBody desk ctx env).1.otps := by
  unfold transitionBody
  split
  · exact .refl desk.otps
  split
  · exact .refl desk.otps
  next booking hbooking =>
    split
    · exact .refl desk.otps
    cases validateActor booking ctx with
    | error e => exact .refl desk.otps
    | ok =>
      rw [andThen_ok]
      split
      · exact .refl desk.otps
      have hcodes := sameCodes_validateBusinessPreconditions desk booking ctx env
      cases hpre : (validateBusinessPreconditions desk booking ctx env).2 with
      | error e =>
        rw [andThen_of_error hpre]
        exact hcodes
      | ok =>
        rw [andThen_of_ok hpre]
        split
        · exact hcodes
        · rw [(rentalTransaction_frame _ _ _ _ _).2.1]
          exact hcodes

theorem sameCodes_executeTransition (desk : RentalDesk) (ctx : TransitionContext)
    (env : TransitionEnv) : SameCodes desk.otps (executeTransition desk ctx env).1.otps := by
  cases hup : env.up .transitionLock with
  | false =>
    obtain ⟨e, h⟩ := executeTransition_of_down desk ctx hup
    rw [h]
    exact .refl desk.otps
  | true =>
    cases hheld : desk.locks.held ctx.bookingId env.now with
    | true =>
      obtain ⟨e, h⟩ := executeTransition_of_held hheld
      rw [h]
      exact .refl desk.otps
    | false =>
      rw [executeTransition_of_free hup hheld]
      exact sameCodes_transitionBody { desk with
        locks := Function.update desk.locks ctx.bookingId
          (some ⟨env.token, env.now + cancellationLockTtlMs⟩) } ctx env

/-! ## Every row was issued -/

def AllIssued (s : HandoverSystem) : Prop := SameCodes s.issued s.desk.otps

theorem allIssued_start (desk : RentalDesk) (now : ℤ) : AllIssued (.start desk now) :=
  .refl desk.otps

theorem allIssued_step (s : HandoverSystem) (action : HandoverAction) (h : AllIssued s) :
    AllIssued (s.step action) := by
  cases action with
  | wait ms => exact h
  | requestOtp call bookingId otpType userId role =>
    unfold HandoverSystem.step
    dsimp only
    cases checkOtpRequest s.desk bookingId otpType userId role with
    | error e => exact h
    | ok => exact fun otp hotp => h otp (List.mem_of_mem_filter hotp)
  | issueOtp call otpId draw =>
    unfold HandoverSystem.step
    dsimp only
    split
    · exact h
    next request hrequest =>
      intro otp hotp
      rcases List.mem_append.mp hotp with hold | hnew
      · obtain ⟨row, hrow, hsame⟩ := h otp hold
        exact ⟨row, List.mem_append_left _ hrow, hsame⟩
      · exact ⟨otp, List.mem_append_right _ hnew, rfl, rfl, rfl⟩
  | transition ctx env => exact SameCodes.trans h (sameCodes_executeTransition _ _ _)
  | beginPickup call req env =>
    have hbegin : SameCodes s.desk.otps
        (beginPickup s.desk req (env.beginning s.now)).1.otps :=
      sameCodes_beginOperation _ _ _ fun desk => sameCodes_preparePickup desk req _
    unfold HandoverSystem.step
    dsimp only
    split
    · exact SameCodes.trans h hbegin
    · exact SameCodes.trans h hbegin
  | finishPickup call env =>
    unfold HandoverSystem.step
    dsimp only
    split
    · exact h
    next p hp =>
      refine SameCodes.trans h ?_
      dsimp only
      rw [(follows_finishPickup _ _ _ _).otps]
      exact sameCodes_executeTransition _ _ _
  | beginReturn call req env =>
    have hbegin : SameCodes s.desk.otps
        (beginReturn s.desk req (env.beginning s.now)).1.otps :=
      sameCodes_beginOperation _ _ _ fun desk => sameCodes_prepareReturn desk req _
    unfold HandoverSystem.step
    dsimp only
    split
    · exact SameCodes.trans h hbegin
    · exact SameCodes.trans h hbegin
  | finishReturn call env =>
    unfold HandoverSystem.step
    dsimp only
    split
    · exact h
    next p hp =>
      refine SameCodes.trans h ?_
      dsimp only
      rw [(follows_finishReturn _ _ _ _).otps]
      exact sameCodes_executeTransition _ _ _
  | others write => exact h

theorem presents_of_codeValid {s : HandoverSystem} (h : AllIssued s)
    (hvalid : ∃ text ∈ code, CodeValid s.desk.otps bookingId otpType text s.now) :
    s.Presents bookingId otpType code := by
  obtain ⟨text, htext, otp, hmem, hbooking, htype, husable, hcode⟩ := hvalid
  obtain ⟨row, hrow, hbooking', htype', hcode'⟩ := h otp hmem
  exact ⟨text, htext, ⟨otp, hmem, hbooking, htype, husable, hcode⟩, row, hrow,
    hbooking'.trans hbooking, htype'.trans htype, hcode'.trans hcode.symm⟩

/-! ## The law -/

theorem passesUnchecked_or_admitted (ctx : TransitionContext) (hrole : ctx.actorRole ≠ .admin)
    (h : Succeeds (executeTransition desk ctx env)) :
    PassesUnchecked desk ctx env ∨
      ctx.isAdmin = false ∧ ∃ booking, TransitionAdmitted desk booking ctx env := by
  obtain ⟨hfree, hready⟩ := succeeds_executeTransition_iff.mp h
  obtain ⟨-, booking, hbooking, hcase⟩ := id hready
  rcases hcase with hthere | ⟨hadmitted, -⟩
  · refine .inl ⟨hfree, hready, .inr ?_⟩
    rw [RentalDesk.statusOf, hbooking, Option.map_some, hthere]
  · by_cases hsystem : ctx.actorRole = .system
    · exact .inl ⟨hfree, hready, .inl hsystem⟩
    · exact .inr ⟨decide_eq_false (not_or.mpr ⟨hrole, hsystem⟩), booking, hadmitted⟩

theorem authenticated_iff (s : HandoverSystem) (hissued : AllIssued s) (action : HandoverAction) :
    Authenticated s action ↔ CodeCovered s action := by
  cases action with
  | finishPickup call env =>
    refine forall_congr' fun p => imp_congr_right fun hp => imp_congr_right fun hrole => ?_
    rw [succeeds_finishPickup_iff]
    constructor
    · exact fun h hpasses => h (succeeds_executeTransition_iff.mpr ⟨hpasses.1, hpasses.2.1⟩)
    · intro h hreturns
      rcases passesUnchecked_or_admitted p.req.transition hrole hreturns with
        hpasses | ⟨hadmin, booking, hadmitted⟩
      · exact h hpasses
      · exact .inr (presents_of_codeValid hissued
          (codeValid_of_admitted_ongoing rfl hadmin hadmitted))
  | finishReturn call env =>
    refine forall_congr' fun p => imp_congr_right fun hp => imp_congr_right fun hrole => ?_
    rw [succeeds_finishReturn_iff]
    constructor
    · exact fun h hpasses => h (succeeds_executeTransition_iff.mpr ⟨hpasses.1, hpasses.2.1⟩)
    · intro h hreturns
      rcases passesUnchecked_or_admitted (p.req.transition p.prepared.2) hrole hreturns with
        hpasses | ⟨hadmin, booking, hadmitted⟩
      · exact h hpasses
      · exact .inr (presents_of_codeValid hissued
          (codeValid_of_admitted_completed rfl hadmin hadmitted))
  | _ => exact Iff.rfl

/-- In a run of requests for codes, transitions, pickups, returns and whatever else, every handover
is authenticated exactly if no transition lets one pass unchecked whose code was not right. -/
theorem handover_code_iff (desk : RentalDesk) (now : ℤ) (actions : List HandoverAction) :
    Along HandoverSystem.step Authenticated (.start desk now) actions ↔
      Along HandoverSystem.step CodeCovered (.start desk now) actions :=
  along_congr allIssued_step (fun s action _ hissued => authenticated_iff s hissued action)
    (allIssued_start desk now)

def overridingStart : TransitionContext where
  bookingId := "booking"
  actorId := "admin"
  actorRole := .admin
  target := .ongoing
  reason := some "The customer shows the licence"
  handoverOtp := none

/-- The vendor's pickup with a code that nobody was sent: its lock runs out, an administrator starts
the trip, and the pickup succeeds. -/
theorem wrong_code_succeeds :
    ¬ Along HandoverSystem.step Authenticated (.start sampleDesk 0)
      [.beginPickup "call" samplePickup (sampleEnv 0), .wait 20000,
        .transition overridingStart (sampleEnv 0).inner, .finishPickup "call" (sampleEnv 0)] := by
  rintro ⟨-, -, -, h, -⟩
  rcases h ⟨samplePickup, sampleRental, "outer", false⟩ (by decide +kernel) (by decide)
    (by decide +kernel) with hbegin | hend
  · cases hbegin
  · revert hend
    decide +kernel

end CarRental
