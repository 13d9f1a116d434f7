import CarRental.Bookings.HandoverOtp
import CarRental.Text
import Mathlib.Data.List.DropRight
import Mathlib.Logic.Equiv.List

/-!
# Encrypted texts

`BankEncryptionService` and `SecretVaultService` keep a text as
`enc:<version>:<iv>:<tag>:<data>`.  What looks like that already is passed through, and decrypting
passes through what does not.

The cipher is a parameter that gives the text back.  Hex texts have no colon (`Segment`), so the
parts of an encrypted text are found again (`split_joined`).
-/

namespace CarRental

/-! ## Texts in parts -/

/-- Text without a colon. -/
structure Segment where
  text : String
  noColon : ':' ∉ text.toList

def joined (parts : List String) : String :=
  String.ofList ([':'].intercalate (parts.map String.toList))

/-- `text.split(':')` -/
def split (text : String) : List String := (text.toList.splitOn ':').map String.ofList

def startsWith (text head : String) : Bool := head.toList.isPrefixOf text.toList

theorem split_joined {parts : List String} (hparts : parts ≠ [])
    (h : ∀ part ∈ parts, ':' ∉ part.toList) : split (joined parts) = parts := by
  unfold split joined
  rw [String.toList_ofList, List.splitOn_intercalate _ (by simpa using h) (by simpa using hparts)]
  simp

theorem trim_ne_empty {text : String} {c : Char} (hc : c ∈ text.toList)
    (hkept : isTrimmed c = false) : trim text ≠ "" := by
  intro hempty
  have hnone : (text.toList.dropWhile isTrimmed).reverse.dropWhile isTrimmed = [] := by
    simpa [trim] using hempty
  have hall : ∀ c ∈ text.toList.dropWhile isTrimmed, isTrimmed c = true := by
    simpa using List.dropWhile_eq_nil_iff.mp hnone
  have hdropped : text.toList.dropWhile isTrimmed = [] := by
    have hsuffix := List.dropWhile_eq_nil_iff.mpr hall
    rwa [List.dropWhile_idempotent] at hsuffix
  simp [List.dropWhile_eq_nil_iff.mp hdropped c hc] at hkept

/-! ## The services -/

/-- AES-256-GCM: the tag and the data of a text, and the text again if they are authentic. -/
structure AesGcm (Key : Type*) where
  cipher : Key → Segment → String → Segment × Segment
  decipher : Key → String → String → String → Option String
  roundTrip : ∀ key iv text, decipher key iv.text (cipher key iv text).1.text
    (cipher key iv text).2.text = some text

def AesGcm.sealed {Key : Type*} (gcm : AesGcm Key) (version : String) (key : Key) (iv : Segment)
    (text : String) : String :=
  joined ["enc", version, iv.text, (gcm.cipher key iv text).1.text, (gcm.cipher key iv text).2.text]

structure BankEncryptionService (Key : Type*) where
  gcm : AesGcm Key
  keyRegistry : String → Option Key
  activeVersion : String

namespace BankEncryptionService

variable {Key : Type*} (service : BankEncryptionService Key)

/-- `targetVersion || this.activeVersion` -/
def versionOf (targetVersion : Option String) : String :=
  (given targetVersion).getD service.activeVersion

/-- `iv` is drawn at random. -/
def encrypt (iv : Segment) (plaintext targetVersion : Option String) :
    Except HttpError (Option String) :=
  match plaintext.filter (trim · ≠ "") with
  | none => .ok none
  | some text =>
    let version := service.versionOf targetVersion
    match service.keyRegistry version with
    | none => .error (.badRequest
        ("Encryption key for version " ++ version ++ " is not configured."))
    | some key =>
      if startsWith text ("enc:" ++ version ++ ":") then .ok (some text)
      else .ok (some (service.gcm.sealed version key iv text))

def decrypt (ciphertext : Option String) : Except HttpError (Option String) :=
  match ciphertext.filter (trim · ≠ "") with
  | none => .ok none
  | some text =>
    if !startsWith text "enc:" then .ok (some text)
    else
      let decrypted : Option String :=
        match split text with
        | [_, version, iv, tag, data] =>
          (service.keyRegistry version).bind fun key => service.gcm.decipher key iv tag data
        | _ => none
      match decrypted with
      | none => .error (.badRequest "Unable to authenticate and decrypt bank details.")
      | some plaintext => .ok (some plaintext)

def reencrypt (ciphertext : Option String) (call : Segment × Option String) :
    Except HttpError (Option String) :=
  match ciphertext.filter (trim · ≠ "") with
  | none => .ok none
  | some text =>
    (service.decrypt (some text)).bind fun decrypted => service.encrypt call.1 decrypted call.2

end BankEncryptionService

structure SecretVaultService (Key : Type*) where
  gcm : AesGcm Key
  encryptionKey : Key

namespace SecretVaultService

variable {Key : Type*} (service : SecretVaultService Key)

def isEncrypted (text : String) : Bool := startsWith text "enc:v1:"

def encrypt (iv : Segment) (plaintext : String) : String :=
  if plaintext = "" ∨ isEncrypted plaintext then plaintext
  else service.gcm.sealed "v1" service.encryptionKey iv plaintext

def decrypt (encryptedText : String) : Except HttpError String :=
  if encryptedText = "" ∨ !isEncrypted encryptedText then .ok encryptedText
  else
    let plaintext : Option String :=
      match split encryptedText with
      | ["enc", "v1", iv, tag, data] => service.gcm.decipher service.encryptionKey iv tag data
      | _ => none
    match plaintext with
    | none => .error (.internal
        "Secret decryption failed. Key may have changed or data corrupted.")
    | some plaintext => .ok plaintext

end SecretVaultService

/-! ## Round trips -/

section

variable {Key : Type*} {gcm : AesGcm Key} {version text : String} {key : Key} {iv : Segment}

theorem sealed_toList : (gcm.sealed version key iv text).toList =
    ("enc:" ++ version ++ ":").toList ++ [':'].intercalate [iv.text.toList,
      (gcm.cipher key iv text).1.text.toList, (gcm.cipher key iv text).2.text.toList] := by
  simp [AesGcm.sealed, joined, List.intercalate]

theorem startsWith_sealed :
    startsWith (gcm.sealed version key iv text) ("enc:" ++ version ++ ":") = true := by
  unfold startsWith
  rw [sealed_toList]
  exact List.isPrefixOf_iff_prefix.mpr (List.prefix_append _ _)

theorem startsWith_enc : startsWith (gcm.sealed version key iv text) "enc:" = true := by
  unfold startsWith
  rw [sealed_toList]
  simp

theorem trim_sealed : trim (gcm.sealed version key iv text) ≠ "" :=
  trim_ne_empty (c := 'e') (by simp [sealed_toList]) (by decide)

theorem split_sealed (hversion : ':' ∉ version.toList) :
    split (gcm.sealed version key iv text) = ["enc", version, iv.text,
      (gcm.cipher key iv text).1.text, (gcm.cipher key iv text).2.text] := by
  apply split_joined (by simp)
  simp only [List.mem_cons, List.not_mem_nil, or_false, forall_eq_or_imp, forall_eq]
  exact ⟨by decide, hversion, iv.noColon, Segment.noColon _, Segment.noColon _⟩

end

namespace BankEncryptionService

variable {Key : Type*} {service : BankEncryptionService Key} {text version : String}

/-- There is a key for the version, its name has no colon, and the text does not look encrypted
under it. -/
structure Usable (service : BankEncryptionService Key) (text version : String) : Prop where
  registered : (service.keyRegistry version).isSome
  noColon : ':' ∉ version.toList
  plain : startsWith text ("enc:" ++ version ++ ":") = false

structure Holds (service : BankEncryptionService Key) (text version ciphertext : String) :
    Prop where
  notBlank : trim ciphertext ≠ ""
  decrypt : service.decrypt (some ciphertext) = .ok (some text)
  encrypt : ∀ iv targetVersion, service.versionOf targetVersion = version →
    service.encrypt iv (some ciphertext) targetVersion = .ok (some ciphertext)

theorem encrypt_holds (htext : trim text ≠ "") {targetVersion : Option String}
    (h : service.Usable text (service.versionOf targetVersion)) (iv : Segment) :
    ∃ ciphertext, service.encrypt iv (some text) targetVersion = .ok (some ciphertext) ∧
      service.Holds text (service.versionOf targetVersion) ciphertext := by
  obtain ⟨key, hkey⟩ := Option.isSome_iff_exists.mp h.registered
  have hsome : ∀ {text : String}, trim text ≠ "" →
      (some text).filter (trim · ≠ "") = some text := fun htext => by simp [htext]
  refine ⟨service.gcm.sealed (service.versionOf targetVersion) key iv text, ?_, trim_sealed, ?_,
    fun iv' target htarget => ?_⟩
  · unfold encrypt
    rw [hsome htext]
    simp only [hkey, h.plain, Bool.false_eq_true, if_false]
  · unfold decrypt
    rw [hsome trim_sealed]
    simp only [startsWith_enc, Bool.not_true, Bool.false_eq_true, if_false,
      split_sealed h.noColon, hkey, Option.bind_some, service.gcm.roundTrip]
  · unfold encrypt
    rw [hsome trim_sealed]
    simp only [htarget, hkey, startsWith_sealed, if_true]

theorem Holds.reencrypt {ciphertext : String} (h : service.Holds text version ciphertext)
    (htext : trim text ≠ "") {call : Segment × Option String}
    (husable : service.Usable text (service.versionOf call.2)) :
    ∃ renewed, service.reencrypt (some ciphertext) call = .ok (some renewed) ∧
      service.Holds text (service.versionOf call.2) renewed := by
  have hfilter : (some ciphertext).filter (trim · ≠ "") = some ciphertext := by
    simp [h.notBlank]
  unfold BankEncryptionService.reencrypt
  rw [hfilter]
  dsimp only
  rw [h.decrypt]
  exact encrypt_holds htext husable call.1

theorem Holds.foldlM {ciphertext : String} (h : service.Holds text version ciphertext)
    (htext : trim text ≠ "") (calls : List (Segment × Option String))
    (husable : ∀ call ∈ calls, service.Usable text (service.versionOf call.2)) :
    ∃ renewed version, calls.foldlM service.reencrypt (some ciphertext) = .ok (some renewed) ∧
      service.Holds text version renewed := by
  induction calls generalizing version ciphertext with
  | nil => exact ⟨ciphertext, version, rfl, h⟩
  | cons call calls ih =>
    obtain ⟨renewed, hcall, hrenewed⟩ :=
      h.reencrypt htext (husable call List.mem_cons_self)
    rw [List.foldlM_cons, hcall]
    exact ih hrenewed fun call hcall => husable call (List.mem_cons_of_mem _ hcall)

end BankEncryptionService

/-! ## The law -/

/-- A text that does not look encrypted comes back after any sequence of encryptions, and
encrypting it again under its version changes nothing. -/
theorem encryption_round_trip {Key : Type} :
    (∀ (service : BankEncryptionService Key) (text : String) (iv : Segment)
        (targetVersion : Option String) (calls : List (Segment × Option String)),
      trim text ≠ "" → service.Usable text (service.versionOf targetVersion) →
      (∀ call ∈ calls, service.Usable text (service.versionOf call.2)) →
      ∃ first last version, service.encrypt iv (some text) targetVersion = .ok (some first) ∧
        calls.foldlM service.reencrypt (some first) = .ok (some last) ∧
        service.Holds text (service.versionOf targetVersion) first ∧
        service.Holds text version last) ∧
    ∀ (vault : SecretVaultService Key) (text : String) (iv iv' : Segment),
      startsWith text "enc:v1:" = false → vault.decrypt (vault.encrypt iv text) = .ok text ∧
        vault.encrypt iv' (vault.encrypt iv text) = vault.encrypt iv text := by
  constructor
  · intro service text iv targetVersion calls htext husable hcalls
    obtain ⟨first, hfirst, hholds⟩ := BankEncryptionService.encrypt_holds htext husable iv
    obtain ⟨last, version, hlast, hrenewed⟩ := hholds.foldlM htext calls hcalls
    exact ⟨first, last, version, hfirst, hlast, hholds, hrenewed⟩
  · intro vault text iv iv' hplain
    unfold SecretVaultService.encrypt SecretVaultService.decrypt SecretVaultService.isEncrypted
    by_cases hempty : text = ""
    · simp [hempty]
    · have hsealed : startsWith (vault.gcm.sealed "v1" vault.encryptionKey iv text) "enc:v1:" =
          true := startsWith_sealed
      have hne : vault.gcm.sealed "v1" vault.encryptionKey iv text ≠ "" := by
        intro heq
        rw [heq] at hsealed
        exact absurd hsealed (by decide)
      have hparts : split (vault.gcm.sealed "v1" vault.encryptionKey iv text) = _ :=
        split_sealed (by decide)
      simp only [hempty, hplain, hne, hsealed, false_or, Bool.false_eq_true, if_false, or_true,
        if_true, Bool.not_true, hparts, vault.gcm.roundTrip, and_self]

def unaryGcm : AesGcm Unit where
  cipher _ iv text := (iv, ⟨String.ofList
    (List.replicate (Encodable.encode (text.toList.map Char.toNat)) 'f'), by simp⟩)
  decipher _ _ _ data := ((Encodable.decode data.toList.length : Option (List ℕ))).map
    fun codes => String.ofList (codes.map Char.ofNat)
  roundTrip _ _ text := by simp [Function.comp_def]

def unaryService : BankEncryptionService Unit where
  gcm := unaryGcm
  keyRegistry version := if version = "v1" then some () else none
  activeVersion := "v1"

theorem account_number_round_trip : ∃ first last version,
    unaryService.encrypt ⟨"00", by decide⟩ (some "123") none = .ok (some first) ∧
      [((⟨"01", by decide⟩ : Segment), some "v1")].foldlM unaryService.reencrypt (some first) =
        .ok (some last) ∧
      unaryService.Holds "123" "v1" first ∧ unaryService.Holds "123" version last :=
  encryption_round_trip.1 unaryService "123" ⟨"00", by decide⟩ none [(⟨"01", by decide⟩, some "v1")]
    (by decide) ⟨rfl, by decide, by decide⟩ (by
      intro call hcall
      rw [List.mem_singleton.mp hcall]
      exact ⟨rfl, by decide, by decide⟩)

/-- A text that looks encrypted is passed through, and then cannot be decrypted. -/
theorem lookalike_not_decrypted :
    ¬ ∀ (service : BankEncryptionService Unit) (text : String) (iv : Segment)
      (targetVersion : Option String), trim text ≠ "" →
      (service.keyRegistry (service.versionOf targetVersion)).isSome →
      ∃ ciphertext, service.encrypt iv (some text) targetVersion = .ok ciphertext ∧
        service.decrypt ciphertext = .ok (some text) := by
  intro h
  obtain ⟨ciphertext, hencrypt, hdecrypt⟩ :=
    h unaryService "enc:v1:x" ⟨"00", by decide⟩ none (by decide) rfl
  have hsame : unaryService.encrypt ⟨"00", by decide⟩ (some "enc:v1:x") none =
      .ok (some "enc:v1:x") := by decide +kernel
  obtain rfl := Except.ok.inj (hsame.symm.trans hencrypt)
  have hrefused : unaryService.decrypt (some "enc:v1:x") =
      .error (.badRequest "Unable to authenticate and decrypt bank details.") := by decide +kernel
  exact absurd (hrefused.symm.trans hdecrypt) (by simp)

end CarRental
