import CarRental.Lib.KeyedRows
import CarRental.Http

/-!
# Handover codes

`HandoverOtpService.verifyOtp`.  A row holds the bcrypt hash of its code, and comparing against
the hash is comparing against the code.  Rows stand in the order in which they were created, so
the latest row is the last one.
-/

namespace CarRental

open KeyedRows

/-! ## Texts -/

/-- What `trim` removes at both ends: white space and line ends. -/
def isTrimmed (c : Char) : Bool :=
  c.toNat ∈ [9, 10, 11, 12, 13, 32, 160, 5760, 8232, 8233, 8239, 8287, 12288, 65279] ∨
    (8192 ≤ c.toNat ∧ c.toNat ≤ 8202)

def trim (text : String) : String :=
  String.ofList ((text.toList.dropWhile isTrimmed).reverse.dropWhile isTrimmed).reverse

/-- `text.length`, in UTF-16 code units. -/
def textLength (text : String) : ℕ :=
  (text.toList.map fun c => if c.toNat < 65536 then 1 else 2).sum

/-! ## The rows -/

inductive HandoverOtpType where
  | pickup
  | return
deriving DecidableEq, Repr

def HandoverOtpType.text : HandoverOtpType → String
  | .pickup => "PICKUP"
  | .return => "RETURN"

structure HandoverOtp where
  id : Id
  bookingId : Id
  otpType : HandoverOtpType
  code : String
  expiresAt : ℤ
  verified : Bool
  attemptCount : ℕ
deriving DecidableEq

/-- An unverified row of the booking and the type. -/
def HandoverOtp.awaits (otp : HandoverOtp) (bookingId : Id) (otpType : HandoverOtpType) : Bool :=
  otp.bookingId = bookingId ∧ otp.otpType = otpType ∧ otp.verified = false

def HandoverOtp.verify (otp : HandoverOtp) : HandoverOtp := { otp with verified := true }

def HandoverOtp.miss (otp : HandoverOtp) : HandoverOtp :=
  { otp with attemptCount := otp.attemptCount + 1 }

def maxOtpAttempts : ℕ := 5

/-- A code that can still be used at `now`: neither expired nor locked. -/
def HandoverOtp.usable (otp : HandoverOtp) (now : ℤ) : Bool :=
  now ≤ otp.expiresAt ∧ otp.attemptCount < maxOtpAttempts

def latestOtp (otps : List HandoverOtp) (bookingId : Id) (otpType : HandoverOtpType) :
    Option HandoverOtp :=
  (otps.filter (·.awaits bookingId otpType)).getLast?

def verifyOtp (otps : List HandoverOtp) (bookingId : Id) (otpType : HandoverOtpType)
    (rawOtp : String) (now : ℤ) : List HandoverOtp × Except HttpError Unit :=
  if textLength (trim rawOtp) ≠ 6 then
    (otps, .error (.badRequest "Handover OTP must be a valid 6-digit code."))
  else
    match latestOtp otps bookingId otpType with
    | none =>
      (otps, .error (.badRequest ("No active " ++ otpType.text ++
        " handover OTP found for this booking. Please request a new OTP.")))
    | some otp =>
      if otp.expiresAt < now then
        (otps, .error (.badRequest "Handover OTP has expired. Please request a new OTP."))
      else if maxOtpAttempts ≤ otp.attemptCount then
        (otps, .error (.badRequest
          "Too many invalid attempts (max 5). Handover OTP is locked. Please generate a new OTP."))
      else if trim rawOtp ≠ otp.code then
        (updateKey HandoverOtp.id otp.id HandoverOtp.miss otps,
          .error (.badRequest ("Invalid handover OTP. " ++
            toString (maxOtpAttempts - (otp.attemptCount + 1)) ++ " attempt(s) remaining.")))
      else (updateKey HandoverOtp.id otp.id HandoverOtp.verify otps, .ok ())

/-! ## What a verified code proves -/

/-- Some usable row of the booking and the type has the presented code. -/
def CodeValid (otps : List HandoverOtp) (bookingId : Id) (otpType : HandoverOtpType)
    (rawOtp : String) (now : ℤ) : Prop :=
  ∃ otp ∈ otps, otp.bookingId = bookingId ∧ otp.otpType = otpType ∧ otp.usable now ∧
    trim rawOtp = otp.code

instance (otps : List HandoverOtp) (bookingId : Id) (otpType : HandoverOtpType) (rawOtp : String)
    (now : ℤ) : Decidable (CodeValid otps bookingId otpType rawOtp now) :=
  inferInstanceAs (Decidable (∃ otp ∈ otps, _))

theorem latestOtp_mem {otps : List HandoverOtp} {bookingId : Id} {otpType : HandoverOtpType}
    {otp : HandoverOtp} (h : latestOtp otps bookingId otpType = some otp) :
    otp ∈ otps ∧ otp.bookingId = bookingId ∧ otp.otpType = otpType ∧ otp.verified = false := by
  have hmem := List.mem_filter.mp (List.mem_of_getLast? h)
  have hawaits := of_decide_eq_true hmem.2
  exact ⟨hmem.1, hawaits⟩

theorem codeValid_of_verifyOtp {otps : List HandoverOtp} {bookingId : Id}
    {otpType : HandoverOtpType} {rawOtp : String} {now : ℤ}
    (h : (verifyOtp otps bookingId otpType rawOtp now).2 = .ok ()) :
    CodeValid otps bookingId otpType rawOtp now := by
  unfold verifyOtp at h
  split at h
  · cases h
  cases hlatest : latestOtp otps bookingId otpType with
  | none =>
    rw [hlatest] at h
    cases h
  | some otp =>
    rw [hlatest] at h
    obtain ⟨hmem, hbooking, htype, -⟩ := latestOtp_mem hlatest
    dsimp only at h
    split at h
    · cases h
    next hexpired =>
      split at h
      · cases h
      next hlocked =>
        split at h
        · cases h
        next hcode =>
          refine ⟨otp, hmem, hbooking, htype, decide_eq_true ⟨?_, ?_⟩, not_not.mp hcode⟩
          · exact not_lt.mp hexpired
          · exact not_le.mp hlocked

/-! ## Unverified rows -/

def unverifiedCount (otps : List HandoverOtp) : ℕ := otps.countP fun otp => otp.verified = false

theorem unverifiedCount_verifyOtp_le (otps : List HandoverOtp) (bookingId : Id)
    (otpType : HandoverOtpType) (rawOtp : String) (now : ℤ) :
    unverifiedCount (verifyOtp otps bookingId otpType rawOtp now).1 ≤ unverifiedCount otps := by
  unfold verifyOtp
  split
  · exact le_rfl
  split
  · exact le_rfl
  split
  · exact le_rfl
  split
  · exact le_rfl
  split
  · exact countP_updateKey_le (f := HandoverOtp.miss) fun otp h => h
  · exact countP_updateKey_le (f := HandoverOtp.verify) fun otp h => by cases h

theorem unverifiedCount_verify_lt {otps : List HandoverOtp} {otp : HandoverOtp} (hmem : otp ∈ otps)
    (hverified : otp.verified = false) :
    unverifiedCount (updateKey HandoverOtp.id otp.id HandoverOtp.verify otps) <
      unverifiedCount otps :=
  countP_updateKey_lt (fun row h => by cases h) hmem rfl (decide_eq_true hverified) rfl

end CarRental
