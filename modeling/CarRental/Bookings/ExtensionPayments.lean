import CarRental.Bookings.ExtensionLaw

/-!
# Which payment confirms an extension

An extension should become `CONFIRMED` only by a captured payment of its own gateway order,
while the booking is `ONGOING`; so one payment never confirms two extensions, nor one of
another price or booking.

`verifyExtensionPayment` checks that the order and payment it is given are signed, and never
that the order is the extension's.  It reads the booking's status neither before nor in its
transaction.  `extension_payments_iff` says which runs are right nevertheless.

The signature is a parameter; that nobody forges it is an
assumption on the run (`Unforged`).

## Strategy

The extensions of all trips form one table (`extensionRows`), keyed by booking and extension:
a verification rewrites one of its rows (`extensionRows_confirm`).
-/

namespace CarRental

open KeyedRows Runs Rounding ExtendedTrip

/-! ## The desk -/

structure PaymentDetails where
  razorpayOrderId : String
  razorpayPaymentId : String
  razorpaySignature : String
deriving DecidableEq

structure CapturedPayment where
  orderId : String
  paymentId : String
  paise : ℤ
deriving DecidableEq

/-- A verification between its checks and its transaction. -/
structure PendingVerification where
  bookingId : Id
  row : ExtensionRow
  details : PaymentDetails
deriving DecidableEq

structure ExtensionDesk where
  trips : List ExtendedTrip
  /-- The gateway's orders with their amounts. -/
  orders : List (String × ℤ)
  captures : List CapturedPayment
  inFlight : List PendingVerification

structure ExtensionConfig where
  useMock : Bool
  isProduction : Bool
  /-- The keyed hash of the gateway's secret. -/
  hmac : String → String

namespace ExtensionDesk

def tripId (trip : ExtendedTrip) : Id := trip.booking.id

def findTrip (desk : ExtensionDesk) (bookingId : Id) : Option ExtendedTrip :=
  desk.trips.find? fun trip => tripId trip = bookingId

def onTrip (desk : ExtensionDesk) (bookingId : Id) (f : ExtendedTrip → ExtendedTrip) :
    ExtensionDesk :=
  { desk with trips := updateKey tripId bookingId f desk.trips }

/-- The extensions of all bookings, with the id of the booking. -/
def extensionRows (desk : ExtensionDesk) : List (Id × ExtensionRow) :=
  desk.trips.flatMap fun trip => trip.extensions.map fun row => (tripId trip, row)

def rowKey (entry : Id × ExtensionRow) : Id × Id := (entry.1, entry.2.id)

end ExtensionDesk

open ExtensionDesk

def signedBody (orderId paymentId : String) : String := orderId ++ "|" ++ paymentId

def PaymentDetails.body (details : PaymentDetails) : String :=
  signedBody details.razorpayOrderId details.razorpayPaymentId

/-- `Math.round(quote.totalFare * 100)` -/
def amountInPaise (quote : ExtensionQuote) : ℤ := ⌊quote.totalFare * 100 + 1 / 2⌋

/-- The first part of `verifyExtensionPayment`. -/
def checkPayment (config : ExtensionConfig) (trip : ExtendedTrip) (extensionId customerId : Id)
    (details : PaymentDetails) : Except HttpError (Option ExtensionRow) :=
  match trip.checkVerification extensionId customerId true with
  | .ok (some row) =>
    if config.isProduction ∧ config.useMock then
      .error (.badRequest "Mock payment verification forbidden in production.")
    else if ¬ config.useMock ∧ config.hmac details.body ≠ details.razorpaySignature then
      .error (.badRequest "Invalid payment signature verification.")
    else .ok (some row)
  | reply => reply

/-! ## Steps -/

inductive ExtensionDeskAction where
  | quoteExtension (bookingId customerId : Id) (requestedEndDate : ℤ) (blocked occupied : Bool)
      (commissionPercent : Decimal)
  /-- Creates an extension with the order that the gateway, or the mock, gives for it. -/
  | insertExtension (bookingId : Id) (quote : ExtensionQuote) (newId : Id)
      (gatewayOrder : Option String)
  /-- Somebody pays an order, and the gateway captures it. -/
  | capture (orderId paymentId : String)
  | startVerification (bookingId extensionId customerId : Id) (details : PaymentDetails)
  | confirmExtension (pending : PendingVerification) (collision : Bool)
  | setStatus (bookingId : Id) (status : BookingStatus)

/-- The gateway's ids are new, and without the separator of signed bodies. -/
def newOrder (desk : ExtensionDesk) (orderId : String) : Bool :=
  '|' ∉ orderId.toList && orderId ∉ desk.orders.map Prod.fst

def newPayment (desk : ExtensionDesk) (paymentId : String) : Bool :=
  '|' ∉ paymentId.toList && paymentId ∉ desk.captures.map CapturedPayment.paymentId

/-- The gateway opens an order for the quote, unless it is mocked. -/
def openOrder (config : ExtensionConfig) (desk : ExtensionDesk) (quote : ExtensionQuote)
    (gatewayOrder : Option String) : ExtensionDesk × Option String :=
  if config.useMock then (desk, gatewayOrder)
  else
    match gatewayOrder with
    | none => (desk, none)
    | some orderId =>
      if newOrder desk orderId then
        ({ desk with orders := desk.orders ++ [(orderId, amountInPaise quote)] }, some orderId)
      else (desk, none)

def deskStep (config : ExtensionConfig) (desk : ExtensionDesk) :
    ExtensionDeskAction → ExtensionDesk
  | .quoteExtension bookingId customerId requestedEndDate blocked occupied commissionPercent =>
    desk.onTrip bookingId fun trip => step trip
      (.quoteExtension customerId requestedEndDate blocked occupied commissionPercent)
  | .insertExtension bookingId quote newId gatewayOrder =>
    match desk.findTrip bookingId with
    | none => desk
    | some trip =>
      if quote ∈ trip.quotes then
        let (desk, order) := openOrder config desk quote gatewayOrder
        desk.onTrip bookingId fun trip => step trip (.insertExtension quote newId order)
      else desk
  | .capture orderId paymentId =>
    match desk.orders.find? fun order => order.1 = orderId with
    | none => desk
    | some (_, paise) =>
      if newPayment desk paymentId then
        { desk with captures := desk.captures ++ [⟨orderId, paymentId, paise⟩] }
      else desk
  | .startVerification bookingId extensionId customerId details =>
    match desk.findTrip bookingId with
    | none => desk
    | some trip =>
      match checkPayment config trip extensionId customerId details with
      | .ok (some row) => { desk with inFlight := ⟨bookingId, row, details⟩ :: desk.inFlight }
      | .ok none => desk
      | .error _ => desk
  | .confirmExtension pending collision =>
    if pending ∈ desk.inFlight then
      { desk with inFlight := desk.inFlight.erase pending }.onTrip pending.bookingId fun trip =>
        trip.confirmExtension pending.row pending.details.razorpayPaymentId collision
    else desk
  | .setStatus bookingId status => desk.onTrip bookingId fun trip => step trip (.setStatus status)

/-! ## The law -/

/-- A confirmed extension has a captured payment of its own order, for its own price. -/
def PaidForItself (desk : ExtensionDesk) : Prop :=
  ∀ entry ∈ desk.extensionRows, entry.2.status = .confirmed → ∃ payment ∈ desk.captures,
    entry.2.razorpayPaymentId = some payment.paymentId ∧
      payment.orderId = entry.2.terms.razorpayOrderId ∧
      payment.paise = entry.2.terms.totalFare.paise

/-- One payment confirms one extension. -/
def PaidOnce (desk : ExtensionDesk) : Prop :=
  ∀ entry ∈ desk.extensionRows, ∀ other ∈ desk.extensionRows,
    entry.2.status = .confirmed → other.2.status = .confirmed →
      entry.2.razorpayPaymentId = other.2.razorpayPaymentId → rowKey entry = rowKey other

instance (desk : ExtensionDesk) : Decidable (PaidForItself desk) :=
  inferInstanceAs (Decidable (∀ entry ∈ desk.extensionRows, _ → ∃ payment ∈ desk.captures, _))

instance (desk : ExtensionDesk) : Decidable (PaidOnce desk) :=
  inferInstanceAs (Decidable (∀ entry ∈ desk.extensionRows, ∀ other ∈ desk.extensionRows, _))

/-- The step confirms an extension only while its booking is ongoing. -/
def ConfirmsOngoing (desk : ExtensionDesk) : ExtensionDeskAction → Prop
  | .confirmExtension pending collision =>
    pending ∈ desk.inFlight → collision = false →
      ∀ trip ∈ desk.findTrip pending.bookingId, trip.booking.status = .ongoing
  | _ => True

/-- The verification names the extension's own order, in the live mode, and meets an ongoing
booking. -/
def ConfirmsOwnOrder (config : ExtensionConfig) (desk : ExtensionDesk) :
    ExtensionDeskAction → Prop
  | .confirmExtension pending collision =>
    pending ∈ desk.inFlight → collision = false →
      config.useMock = false ∧
        pending.details.razorpayOrderId = pending.row.terms.razorpayOrderId ∧
        ∀ trip ∈ desk.findTrip pending.bookingId, trip.booking.status = .ongoing
  | _ => True

/-- Nobody but the gateway makes signatures, and it only signs what it has captured. -/
def Unforged (config : ExtensionConfig) (desk : ExtensionDesk) : ExtensionDeskAction → Prop
  | .startVerification _ _ _ details =>
    config.hmac details.body = details.razorpaySignature →
      ∃ payment ∈ desk.captures, signedBody payment.orderId payment.paymentId = details.body
  | _ => True

instance (config : ExtensionConfig) (desk : ExtensionDesk) (action : ExtensionDeskAction) :
    Decidable (ConfirmsOwnOrder config desk action) :=
  match action with
  | .confirmExtension pending collision =>
    inferInstanceAs (Decidable (pending ∈ desk.inFlight → collision = false → _ ∧ _ ∧
      ∀ trip ∈ desk.findTrip pending.bookingId, _))
  | .quoteExtension _ _ _ _ _ _ | .insertExtension _ _ _ _ | .capture _ _
  | .startVerification _ _ _ _ | .setStatus _ _ => .isTrue trivial

instance (config : ExtensionConfig) (desk : ExtensionDesk) (action : ExtensionDeskAction) :
    Decidable (Unforged config desk action) :=
  match action with
  | .startVerification _ _ _ details =>
    inferInstanceAs (Decidable (config.hmac details.body = _ → ∃ payment ∈ desk.captures, _))
  | .quoteExtension _ _ _ _ _ _ | .insertExtension _ _ _ _ | .capture _ _
  | .confirmExtension _ _ | .setStatus _ _ => .isTrue trivial

/-! ## The table of extensions -/

theorem append_separator_inj {α : Type*} {separator : α} {first rest first' rest' : List α}
    (hfirst : separator ∉ first) (hrest : separator ∉ rest)
    (h : first ++ separator :: rest = first' ++ separator :: rest') :
    first' = first ∧ rest' = rest := by
  obtain ⟨more, hmore, htail⟩ | ⟨more, hmore, htail⟩ := List.append_eq_append_iff.mp h
  · cases more with
    | nil => exact ⟨by simpa using hmore, (List.cons.inj htail).2.symm⟩
    | cons head more =>
      have hin : separator ∈ rest := by
        rw [(List.cons.inj htail).2]
        simp
      exact absurd hin hrest
  · cases more with
    | nil => exact ⟨by simpa using hmore.symm, (List.cons.inj htail).2⟩
    | cons head more =>
      have hin : separator ∈ first := by
        rw [hmore, ← (List.cons.inj htail).1]
        simp
      exact absurd hin hfirst

theorem signedBody_inj {orderId paymentId orderId' paymentId' : String}
    (horder : '|' ∉ orderId.toList) (hpayment : '|' ∉ paymentId.toList)
    (h : signedBody orderId paymentId = signedBody orderId' paymentId') :
    orderId' = orderId ∧ paymentId' = paymentId := by
  have hchars := congrArg String.toList h
  simp only [signedBody, String.toList_append, List.append_assoc] at hchars
  obtain ⟨hfirst, hrest⟩ := append_separator_inj horder hpayment hchars
  exact ⟨String.toList_inj.mp hfirst, String.toList_inj.mp hrest⟩

namespace ExtensionDesk

variable {desk : ExtensionDesk} {bookingId : Id} {f : ExtendedTrip → ExtendedTrip}
  {entry : Id × ExtensionRow}

theorem mem_extensionRows :
    entry ∈ desk.extensionRows ↔
      ∃ trip ∈ desk.trips, entry.2 ∈ trip.extensions ∧ tripId trip = entry.1 := by
  simp only [extensionRows, List.mem_flatMap, List.mem_map]
  constructor
  · rintro ⟨trip, htrip, row, hrow, rfl⟩
    exact ⟨trip, htrip, hrow, rfl⟩
  · rintro ⟨trip, htrip, hrow, hid⟩
    exact ⟨trip, htrip, entry.2, hrow, by rw [hid]⟩

theorem mem_onTrip (hf : ∀ trip, tripId (f trip) = tripId trip) :
    entry ∈ (desk.onTrip bookingId f).extensionRows ↔
      (∃ trip ∈ desk.trips, tripId trip = bookingId ∧ entry.1 = bookingId ∧
        entry.2 ∈ (f trip).extensions) ∨
      (entry ∈ desk.extensionRows ∧ entry.1 ≠ bookingId) := by
  simp only [mem_extensionRows, onTrip, mem_updateKey]
  constructor
  · rintro ⟨trip, ⟨old, hold, hid, rfl⟩ | ⟨htrip, hid⟩, hrow, hentry⟩
    · exact .inl ⟨old, hold, hid, by rw [← hentry, hf, hid], hrow⟩
    · exact .inr ⟨⟨trip, htrip, hrow, hentry⟩, hentry ▸ hid⟩
  · rintro (⟨old, hold, hid, hentry, hrow⟩ | ⟨⟨trip, htrip, hrow, hentry⟩, hid⟩)
    · exact ⟨f old, .inl ⟨old, hold, hid, rfl⟩, hrow, by rw [hf, hid, hentry]⟩
    · exact ⟨trip, .inr ⟨htrip, hentry ▸ hid⟩, hrow, hentry⟩

theorem extensionRows_onTrip (hf : ∀ trip, tripId (f trip) = tripId trip)
    (hsame : ∀ trip, (f trip).extensions = trip.extensions) :
    (desk.onTrip bookingId f).extensionRows = desk.extensionRows := by
  simp only [extensionRows, onTrip, updateKey, List.flatMap_map]
  refine List.flatMap_congr fun trip _ => ?_
  split
  · rw [hf, hsame]
  · rfl

def confirmEntry (paymentId : String) (entry : Id × ExtensionRow) : Id × ExtensionRow :=
  (entry.1, { entry.2 with status := .confirmed, razorpayPaymentId := some paymentId })

theorem extensionRows_confirm (row : ExtensionRow) (paymentId : String) :
    (desk.onTrip bookingId fun trip => trip.confirmExtension row paymentId false).extensionRows =
      updateKey rowKey (bookingId, row.id) (confirmEntry paymentId) desk.extensionRows := by
  simp only [extensionRows, onTrip, updateKey, List.flatMap_map, List.map_flatMap]
  refine List.flatMap_congr fun trip _ => ?_
  simp only [List.map_map, rowKey, Prod.mk.injEq]
  by_cases hid : tripId trip = bookingId
  · rw [if_pos hid, confirmExtension_eq]
    simp only [updateKey, List.map_map]
    refine List.map_congr_left fun other _ => ?_
    simp only [Function.comp]
    by_cases hkey : other.id = row.id
    · rw [if_pos hkey, if_pos ⟨hid, hkey⟩]
      rfl
    · rw [if_neg hkey, if_neg fun h => hkey h.2]
      rfl
  · rw [if_neg hid]
    refine List.map_congr_left fun other _ => ?_
    simp only [Function.comp]
    rw [if_neg fun h => hid h.1]

end ExtensionDesk

/-! ## What holds in every state -/

/-- Rows and gateway ids are unique, what is captured was ordered, every extension has an order
of its own and for its price, and what is being verified was read from the table with a
captured payment of the order that it names. -/
structure SoundDesk (config : ExtensionConfig) (desk : ExtensionDesk) : Prop where
  keys : ∀ entry ∈ desk.extensionRows, ∀ other ∈ desk.extensionRows,
    rowKey entry = rowKey other → entry = other
  trips : (desk.trips.map tripId).Nodup
  quoted : ∀ trip ∈ desk.trips, ∀ quote ∈ trip.quotes, OnGrid 2 quote.totalFare
  orders : (desk.orders.map Prod.fst).Nodup
  plain : ∀ order ∈ desk.orders, '|' ∉ order.1.toList
  captured : ∀ payment ∈ desk.captures,
    (payment.orderId, payment.paise) ∈ desk.orders ∧ '|' ∉ payment.paymentId.toList
  payments : (desk.captures.map CapturedPayment.paymentId).Nodup
  mock : config.useMock = true → desk.orders = []
  ordered : config.useMock = false → ∀ entry ∈ desk.extensionRows,
    (entry.2.terms.razorpayOrderId, entry.2.terms.totalFare.paise) ∈ desk.orders
  own : config.useMock = false → ∀ entry ∈ desk.extensionRows, ∀ other ∈ desk.extensionRows,
    entry.2.terms.razorpayOrderId = other.2.terms.razorpayOrderId → rowKey entry = rowKey other
  read : ∀ pending ∈ desk.inFlight, ∃ entry ∈ desk.extensionRows,
    rowKey entry = (pending.bookingId, pending.row.id) ∧ entry.2.terms = pending.row.terms
  signed : config.useMock = false → ∀ pending ∈ desk.inFlight, ∃ payment ∈ desk.captures,
    payment.orderId = pending.details.razorpayOrderId ∧
      payment.paymentId = pending.details.razorpayPaymentId

section Sound

variable {config : ExtensionConfig} {desk : ExtensionDesk} {bookingId : Id}
  {f : ExtendedTrip → ExtendedTrip}

theorem SoundDesk.onTrip (h : SoundDesk config desk) (hf : ∀ trip, tripId (f trip) = tripId trip)
    (hsame : ∀ trip, (f trip).extensions = trip.extensions)
    (hquoted : ∀ trip ∈ desk.trips, ∀ quote ∈ (f trip).quotes, OnGrid 2 quote.totalFare) :
    SoundDesk config (desk.onTrip bookingId f) := by
  have hrows : (desk.onTrip bookingId f).extensionRows = desk.extensionRows :=
    extensionRows_onTrip hf hsame
  constructor
  case trips =>
    rw [ExtensionDesk.onTrip, map_key_updateKey hf]
    exact h.trips
  case quoted =>
    intro trip htrip
    rcases mem_updateKey.mp htrip with ⟨old, hold, -, rfl⟩ | ⟨hold, -⟩
    · exact hquoted old hold
    · exact h.quoted trip hold
  case keys => rw [hrows]; exact h.keys
  case orders => exact h.orders
  case plain => exact h.plain
  case captured => exact h.captured
  case payments => exact h.payments
  case mock => exact h.mock
  case ordered => rw [hrows]; exact h.ordered
  case own => rw [hrows]; exact h.own
  case read => rw [hrows]; exact h.read
  case signed => exact h.signed

theorem SoundDesk.capture (h : SoundDesk config desk) {orderId paymentId : String} {paise : ℤ}
    (horder : (orderId, paise) ∈ desk.orders) (hnew : newPayment desk paymentId = true) :
    SoundDesk config { desk with captures := desk.captures ++ [⟨orderId, paymentId, paise⟩] } := by
  simp only [newPayment, Bool.and_eq_true, decide_eq_true_eq] at hnew
  obtain ⟨hplain, hfresh⟩ := hnew
  exact { h with
    captured := fun payment hpayment => by
      rcases List.mem_append.mp hpayment with hold | hlast
      · exact h.captured payment hold
      · rw [List.mem_singleton.mp hlast]
        exact ⟨horder, hplain⟩
    payments := nodup_map_concat h.payments hfresh
    signed := fun hlive pending hpending => by
      obtain ⟨payment, hpayment, hsame⟩ := h.signed hlive pending hpending
      exact ⟨payment, List.mem_append_left _ hpayment, hsame⟩ }

theorem SoundDesk.openOrder (h : SoundDesk config desk) (quote : ExtensionQuote)
    (gatewayOrder : Option String) :
    SoundDesk config (openOrder config desk quote gatewayOrder).1 := by
  unfold CarRental.openOrder
  split
  · exact h
  next hlive =>
    split
    · exact h
    next orderId =>
      split
      next hnew =>
        simp only [newOrder, Bool.and_eq_true, decide_eq_true_eq] at hnew
        obtain ⟨hplain, hfresh⟩ := hnew
        exact { h with
          orders := nodup_map_concat h.orders hfresh
          plain := fun order horder => by
            rcases List.mem_append.mp horder with hold | hlast
            · exact h.plain order hold
            · rw [List.mem_singleton.mp hlast]
              exact hplain
          captured := fun payment hpayment =>
            ⟨List.mem_append_left _ (h.captured payment hpayment).1,
              (h.captured payment hpayment).2⟩
          mock := fun hmock => absurd hmock hlive
          ordered := fun hlive entry hentry =>
            List.mem_append_left _ (h.ordered hlive entry hentry) }
      · exact h

variable {quote : ExtensionQuote}

theorem amountInPaise_eq {fare : Money} (hgrid : OnGrid 2 quote.totalFare)
    (h : Column.ofDecimal? quote.totalFare = some fare) : amountInPaise quote = fare.paise := by
  obtain ⟨n, hn⟩ := hgrid
  have hpaise : quote.totalFare * 100 = n := by
    rw [← hn]
    norm_num
  have hstored := Column.paise_of_ofDecimal? h
  rw [amountInPaise, hstored, hpaise, roundAway_intCast]
  exact round_intCast_half n
where
  round_intCast_half (n : ℤ) : ⌊(n : ℚ) + 1 / 2⌋ = n := by
    rw [Int.floor_intCast_add]
    norm_num

/-! ### Creations -/

theorem insertExtension_spec (trip : ExtendedTrip) (quote : ExtensionQuote) (newId : Id)
    (order : Option String) :
    let trip' := step trip (.insertExtension quote newId order)
    tripId trip' = tripId trip ∧ (∀ other ∈ trip'.quotes, other ∈ trip.quotes) ∧
      (trip'.extensions = trip.extensions ∨
        ∃ orderId terms, order = some orderId ∧ termsOf quote orderId = some terms ∧
          newId ∉ trip.extensions.map ExtensionRow.id ∧
          trip'.extensions = trip.extensions ++ [⟨newId, terms, .pendingPayment, none⟩]) := by
  simp only [step]
  split
  · rcases insertExtension_cases { trip with quotes := trip.quotes.erase quote } quote newId
      order with heq | ⟨orderId, terms, horder, hterms, -, hown, heq⟩
    · rw [heq]
      exact ⟨rfl, fun other => List.mem_of_mem_erase, .inl rfl⟩
    · rw [heq]
      exact ⟨rfl, fun other => List.mem_of_mem_erase, .inr ⟨orderId, terms, horder, hterms, hown, rfl⟩⟩
  · exact ⟨rfl, fun other hother => hother, .inl rfl⟩

variable {order : Option String} {entry : Id × ExtensionRow}

theorem SoundDesk.mem_insertExtension (h : SoundDesk config desk) {newId : Id}
    (hentry : entry ∈ (desk.onTrip bookingId fun trip =>
      step trip (.insertExtension quote newId order)).extensionRows) :
    entry ∈ desk.extensionRows ∨
      ∃ orderId terms, order = some orderId ∧ termsOf quote orderId = some terms ∧
        entry = (bookingId, ⟨newId, terms, .pendingPayment, none⟩) ∧
        ∀ other ∈ desk.extensionRows, rowKey other ≠ rowKey entry := by
  rcases (mem_onTrip fun trip => (insertExtension_spec trip quote newId order).1).mp hentry with
    ⟨trip, htrip, hid, hbooking, hrow⟩ | ⟨hold, -⟩
  · rcases (insertExtension_spec trip quote newId order).2.2 with
      heq | ⟨orderId, terms, horder, hterms, hnew, heq⟩
    · rw [heq] at hrow
      exact .inl (mem_extensionRows.mpr ⟨trip, htrip, hrow, hid.trans hbooking.symm⟩)
    · rw [heq] at hrow
      rcases List.mem_append.mp hrow with hold | hlast
      · exact .inl (mem_extensionRows.mpr ⟨trip, htrip, hold, hid.trans hbooking.symm⟩)
      · have hlast : entry.2 = ⟨newId, terms, .pendingPayment, none⟩ := List.mem_singleton.mp hlast
        refine .inr ⟨orderId, terms, horder, hterms, Prod.ext hbooking hlast, ?_⟩
        intro other hother hkey
        obtain ⟨trip', htrip', hrow', hid'⟩ := mem_extensionRows.mp hother
        have hsame : trip' = trip := eq_of_key_eq h.trips htrip' htrip
          (hid'.trans ((congrArg Prod.fst hkey).trans (hbooking.trans hid.symm)))
        have hkeyId : other.2.id = newId := by
          rw [show other.2.id = entry.2.id from congrArg Prod.snd hkey, hlast]
        exact hnew (hkeyId ▸ List.mem_map_of_mem (hsame ▸ hrow'))
  · exact .inl hold

theorem mem_insertExtension_of_mem {newId : Id} (hentry : entry ∈ desk.extensionRows) :
    entry ∈ (desk.onTrip bookingId fun trip =>
      step trip (.insertExtension quote newId order)).extensionRows := by
  refine (mem_onTrip fun trip => (insertExtension_spec trip quote newId order).1).mpr ?_
  by_cases hid : entry.1 = bookingId
  · obtain ⟨trip, htrip, hrow, hkey⟩ := mem_extensionRows.mp hentry
    refine .inl ⟨trip, htrip, hkey.trans hid, hid, ?_⟩
    rcases (insertExtension_spec trip quote newId order).2.2 with
      heq | ⟨orderId, terms, -, -, -, heq⟩
    · rwa [heq]
    · rw [heq]
      exact List.mem_append_left _ hrow
  · exact .inr ⟨hentry, hid⟩

theorem SoundDesk.insertExtension (h : SoundDesk config desk) (hgrid : OnGrid 2 quote.totalFare)
    (newId : Id)
    (horder : config.useMock = false → ∀ orderId, order = some orderId →
      (orderId, amountInPaise quote) ∈ desk.orders ∧
        ∀ entry ∈ desk.extensionRows, entry.2.terms.razorpayOrderId ≠ orderId) :
    SoundDesk config (desk.onTrip bookingId fun trip =>
      step trip (.insertExtension quote newId order)) := by
  constructor
  case keys =>
    intro entry hentry other hother hkey
    rcases h.mem_insertExtension hentry with hold | ⟨orderId, terms, ho, ht, rfl, hnew⟩
    · rcases h.mem_insertExtension hother with hold' | ⟨orderId, terms, ho, ht, rfl, hnew⟩
      · exact h.keys entry hold other hold' hkey
      · exact absurd hkey (hnew entry hold)
    · rcases h.mem_insertExtension hother with hold' | ⟨orderId', terms', ho', ht', rfl, -⟩
      · exact absurd hkey.symm (hnew other hold')
      · cases ho.symm.trans ho'
        cases ht.symm.trans ht'
        rfl
  case trips =>
    rw [ExtensionDesk.onTrip, map_key_updateKey fun trip =>
      (insertExtension_spec trip quote newId order).1]
    exact h.trips
  case quoted =>
    intro trip htrip other hother
    rcases mem_updateKey.mp htrip with ⟨old, hold, -, rfl⟩ | ⟨hold, -⟩
    · exact h.quoted old hold other ((insertExtension_spec old quote newId order).2.1 other hother)
    · exact h.quoted trip hold other hother
  case orders => exact h.orders
  case plain => exact h.plain
  case captured => exact h.captured
  case payments => exact h.payments
  case mock => exact h.mock
  case ordered =>
    intro hlive entry hentry
    rcases h.mem_insertExtension hentry with hold | ⟨orderId, terms, ho, ht, rfl, -⟩
    · exact h.ordered hlive entry hold
    · obtain ⟨-, -, hid, hfare⟩ := termsOf_eq_some ht
      have hopened := (horder hlive orderId ho).1
      rw [amountInPaise_eq hgrid hfare, ← hid] at hopened
      exact hopened
  -- a live order is new, so that no row of another extension names it
  case own =>
    intro hlive entry hentry other hother hsame
    rcases h.mem_insertExtension hentry with hold | ⟨orderId, terms, ho, ht, rfl, -⟩
    · rcases h.mem_insertExtension hother with hold' | ⟨orderId, terms, ho, ht, rfl, -⟩
      · exact h.own hlive entry hold other hold' hsame
      · exact absurd (hsame.trans (termsOf_eq_some ht).2.2.1) ((horder hlive orderId ho).2 entry hold)
    · rcases h.mem_insertExtension hother with hold' | ⟨orderId', terms', ho', ht', rfl, -⟩
      · exact absurd (hsame.symm.trans (termsOf_eq_some ht).2.2.1)
          ((horder hlive orderId ho).2 other hold')
      · rfl
  case read =>
    intro pending hpending
    obtain ⟨entry, hentry, hrest⟩ := h.read pending hpending
    exact ⟨entry, mem_insertExtension_of_mem hentry, hrest⟩
  case signed => exact h.signed

theorem openOrder_cases (config : ExtensionConfig) (desk : ExtensionDesk) (quote : ExtensionQuote)
    (gatewayOrder : Option String) :
    config.useMock = true ∧ openOrder config desk quote gatewayOrder = (desk, gatewayOrder) ∨
      openOrder config desk quote gatewayOrder = (desk, none) ∨
      ∃ orderId, newOrder desk orderId = true ∧ openOrder config desk quote gatewayOrder =
        ({ desk with orders := desk.orders ++ [(orderId, amountInPaise quote)] },
          some orderId) := by
  unfold openOrder
  split
  next hmock => exact .inl ⟨hmock, rfl⟩
  · split
    · exact .inr (.inl rfl)
    next orderId =>
      split
      next hnew => exact .inr (.inr ⟨orderId, hnew, rfl⟩)
      · exact .inr (.inl rfl)

theorem SoundDesk.openOrder_unused (h : SoundDesk config desk) {gatewayOrder : Option String}
    (hlive : config.useMock = false) {orderId : String}
    (horder : (CarRental.openOrder config desk quote gatewayOrder).2 = some orderId) :
    (orderId, amountInPaise quote) ∈ (CarRental.openOrder config desk quote gatewayOrder).1.orders ∧
      ∀ entry ∈ (CarRental.openOrder config desk quote gatewayOrder).1.extensionRows,
        entry.2.terms.razorpayOrderId ≠ orderId := by
  rcases openOrder_cases config desk quote gatewayOrder with
    ⟨hmock, -⟩ | heq | ⟨newId, hnew, heq⟩
  · rw [hlive] at hmock
    cases hmock
  · rw [heq] at horder
    cases horder
  · rw [heq] at horder ⊢
    cases horder
    refine ⟨List.mem_append_right _ (List.mem_singleton_self _), fun entry hentry hsame => ?_⟩
    simp only [newOrder, Bool.and_eq_true, decide_eq_true_eq] at hnew
    exact hnew.2 (List.mem_map.mpr ⟨_, h.ordered hlive entry hentry, hsame⟩)

/-! ### Verifications -/

variable {trip : ExtendedTrip} {row : ExtensionRow}

theorem checkPayment_eq_ok {extensionId customerId : Id} {details : PaymentDetails}
    (h : checkPayment config trip extensionId customerId details = .ok (some row)) :
    row ∈ trip.extensions ∧
      (config.useMock = false → config.hmac details.body = details.razorpaySignature) := by
  unfold checkPayment at h
  split at h
  next checked hok =>
    split at h
    · cases h
    split at h
    · cases h
    next hsigned =>
      cases h
      refine ⟨checkVerification_eq_ok hok, fun hlive => ?_⟩
      by_contra hne
      exact hsigned ⟨by simp [hlive], hne⟩
  next reply hother => exact absurd h (hother row)

theorem SoundDesk.startVerification (h : SoundDesk config desk) (htrip : trip ∈ desk.trips)
    {extensionId customerId : Id} {details : PaymentDetails}
    (hok : checkPayment config trip extensionId customerId details = .ok (some row))
    (hunforged : Unforged config desk (.startVerification (tripId trip) extensionId customerId
      details)) :
    SoundDesk config { desk with inFlight := ⟨tripId trip, row, details⟩ :: desk.inFlight } := by
  obtain ⟨hrow, hsigned⟩ := checkPayment_eq_ok hok
  exact { h with
    read := fun pending hpending => by
      rcases List.mem_cons.mp hpending with rfl | hold
      · exact ⟨(tripId trip, row), mem_extensionRows.mpr ⟨trip, htrip, hrow, rfl⟩, rfl, rfl⟩
      · exact h.read pending hold
    signed := fun hlive pending hpending => by
      rcases List.mem_cons.mp hpending with rfl | hold
      · obtain ⟨payment, hpayment, hbody⟩ := hunforged (hsigned hlive)
        obtain ⟨hopened, hplain⟩ := h.captured payment hpayment
        obtain ⟨horder, hpaid⟩ := signedBody_inj (h.plain _ hopened) hplain hbody
        exact ⟨payment, hpayment, horder.symm, hpaid.symm⟩
      · exact h.signed hlive pending hold }

theorem SoundDesk.erase (h : SoundDesk config desk) (pending : PendingVerification) :
    SoundDesk config { desk with inFlight := desk.inFlight.erase pending } :=
  { h with
    read := fun other hother => h.read other (List.mem_of_mem_erase hother)
    signed := fun hlive other hother => h.signed hlive other (List.mem_of_mem_erase hother) }

theorem mem_confirmed {paymentId : String}
    (hentry : entry ∈ (desk.onTrip bookingId fun trip =>
      trip.confirmExtension row paymentId false).extensionRows) :
    ∃ old ∈ desk.extensionRows, rowKey entry = rowKey old ∧ entry.2.terms = old.2.terms ∧
      (rowKey old = (bookingId, row.id) ∧ entry = confirmEntry paymentId old ∨ entry = old) := by
  rw [extensionRows_confirm] at hentry
  rcases mem_updateKey.mp hentry with ⟨old, hold, hkey, rfl⟩ | ⟨hold, -⟩
  · exact ⟨old, hold, rfl, rfl, .inl ⟨hkey, rfl⟩⟩
  · exact ⟨entry, hold, rfl, rfl, .inr rfl⟩

theorem confirmExtension_quotes (trip : ExtendedTrip) (row : ExtensionRow) (paymentId : String) :
    (trip.confirmExtension row paymentId false).quotes = trip.quotes := by
  rw [confirmExtension_eq]

theorem confirmExtension_tripId (trip : ExtendedTrip) (row : ExtensionRow) (paymentId : String) :
    tripId (trip.confirmExtension row paymentId false) = tripId trip := by
  rw [tripId, confirmExtension_eq]
  rfl

theorem SoundDesk.confirmExtension (h : SoundDesk config desk) (row : ExtensionRow)
    (paymentId : String) :
    SoundDesk config (desk.onTrip bookingId fun trip =>
      trip.confirmExtension row paymentId false) := by
  constructor
  case keys =>
    rw [extensionRows_confirm]
    intro entry hentry other hother hkey
    rcases mem_updateKey.mp hentry with ⟨old, hold, hk, rfl⟩ | ⟨hold, hk⟩
    · rcases mem_updateKey.mp hother with ⟨old', hold', -, rfl⟩ | ⟨hold', hk'⟩
      · rw [h.keys old hold old' hold' hkey]
      · exact absurd (hkey.symm.trans hk) hk'
    · rcases mem_updateKey.mp hother with ⟨old', hold', hk', rfl⟩ | ⟨hold', -⟩
      · exact absurd (hkey.trans hk') hk
      · exact h.keys entry hold other hold' hkey
  case trips =>
    rw [ExtensionDesk.onTrip, map_key_updateKey fun trip =>
      confirmExtension_tripId trip row paymentId]
    exact h.trips
  case quoted =>
    intro trip htrip
    rcases mem_updateKey.mp htrip with ⟨old, hold, -, rfl⟩ | ⟨hold, -⟩
    · rw [confirmExtension_quotes]
      exact h.quoted old hold
    · exact h.quoted trip hold
  case orders => exact h.orders
  case plain => exact h.plain
  case captured => exact h.captured
  case payments => exact h.payments
  case mock => exact h.mock
  -- a confirmation changes a row's status and payment, not its terms
  case ordered =>
    intro hlive entry hentry
    obtain ⟨old, hold, -, hterms, -⟩ := mem_confirmed hentry
    rw [hterms]
    exact h.ordered hlive old hold
  case own =>
    intro hlive entry hentry other hother hsame
    obtain ⟨old, hold, hkey, hterms, -⟩ := mem_confirmed hentry
    obtain ⟨old', hold', hkey', hterms', -⟩ := mem_confirmed hother
    rw [hterms, hterms'] at hsame
    rw [hkey, hkey']
    exact h.own hlive old hold old' hold' hsame
  case read =>
    intro pending hpending
    obtain ⟨old, hold, hkey, hterms⟩ := h.read pending hpending
    rw [extensionRows_confirm]
    by_cases hk : rowKey old = (bookingId, row.id)
    · exact ⟨confirmEntry paymentId old, mem_updateKey.mpr (.inl ⟨old, hold, hk, rfl⟩), hkey,
        hterms⟩
    · exact ⟨old, mem_updateKey.mpr (.inr ⟨hold, hk⟩), hkey, hterms⟩
  case signed => exact h.signed

/-! ## One step -/

theorem step_quoteExtension_spec (trip : ExtendedTrip) (customerId : Id) (requestedEndDate : ℤ)
    (blocked occupied : Bool) (commissionPercent : Decimal) :
    let trip' := step trip
      (.quoteExtension customerId requestedEndDate blocked occupied commissionPercent)
    tripId trip' = tripId trip ∧ trip'.extensions = trip.extensions ∧
      ∀ quote ∈ trip'.quotes, quote ∈ trip.quotes ∨ OnGrid 2 quote.totalFare := by
  simp only [step]
  split
  next quote hok =>
    refine ⟨rfl, rfl, fun other hother => ?_⟩
    rcases List.mem_cons.mp hother with rfl | hold
    · exact .inr (getQuote_eq_ok hok).2.2
    · exact .inl hold
  · exact ⟨rfl, rfl, fun other hother => .inl hother⟩

theorem findTrip_eq_some (h : desk.findTrip bookingId = some trip) :
    trip ∈ desk.trips ∧ tripId trip = bookingId :=
  ⟨List.mem_of_find?_eq_some h, of_decide_eq_true (List.find?_some h :)⟩

variable {action : ExtensionDeskAction}

theorem deskStep_sound (h : SoundDesk config desk) (hunforged : Unforged config desk action)
    : SoundDesk config (deskStep config desk action) := by
  cases action with
  | quoteExtension bookingId customerId requestedEndDate blocked occupied commissionPercent =>
    have hspec := fun trip => step_quoteExtension_spec trip customerId requestedEndDate blocked
      occupied commissionPercent
    refine h.onTrip (fun trip => (hspec trip).1) (fun trip => (hspec trip).2.1) ?_
    intro trip htrip quote hquote
    exact ((hspec trip).2.2 quote hquote).elim (h.quoted trip htrip quote) id
  | insertExtension bookingId quote newId gatewayOrder =>
    simp only [deskStep]
    split
    · exact h
    next trip hfind =>
      split
      next hquote =>
        have hgrid := h.quoted trip (findTrip_eq_some hfind).1 quote hquote
        exact (h.openOrder quote gatewayOrder).insertExtension hgrid newId
          fun hlive orderId horder => h.openOrder_unused hlive horder
      · exact h
  | capture orderId paymentId =>
    simp only [deskStep]
    split
    · exact h
    next paidOrder paise hfind =>
      split
      next hnew =>
        have hid : paidOrder = orderId := of_decide_eq_true (List.find?_some hfind :)
        exact h.capture (hid ▸ List.mem_of_find?_eq_some hfind) hnew
      · exact h
  | startVerification bookingId extensionId customerId details =>
    simp only [deskStep]
    split
    · exact h
    next trip hfind =>
      obtain ⟨htrip, rfl⟩ := findTrip_eq_some hfind
      split
      next row hok => exact h.startVerification htrip hok hunforged
      · exact h
      · exact h
  | confirmExtension pending collision =>
    simp only [deskStep]
    split
    · have herase := h.erase pending
      cases collision with
      | true =>
        refine herase.onTrip (fun trip => rfl) (fun trip => rfl) ?_
        exact fun trip htrip quote hquote => herase.quoted trip htrip quote hquote
      | false => exact herase.confirmExtension pending.row pending.details.razorpayPaymentId
    · exact h
  | setStatus bookingId status =>
    exact h.onTrip (fun trip => rfl) (fun trip => rfl) h.quoted

theorem SoundDesk.paidOnce (h : SoundDesk config desk) (hpaid : PaidForItself desk) :
    PaidOnce desk := by
  intro entry hentry other hother hstatus hstatus' hsame
  obtain ⟨payment, hpayment, hid, horder, -⟩ := hpaid entry hentry hstatus
  obtain ⟨payment', hpayment', hid', horder', -⟩ := hpaid other hother hstatus'
  have hone : payment = payment' := by
    refine eq_of_key_eq h.payments hpayment hpayment' (Option.some.inj ?_)
    rw [← hid, ← hid', hsame]
  have hlive : config.useMock = false := by
    by_contra hmock
    have hopened := (h.captured payment hpayment).1
    rw [h.mock (by simpa using hmock)] at hopened
    cases hopened
  exact h.own hlive entry hentry other hother (by rw [← horder, ← horder', hone])

theorem SoundDesk.confirmExtension_paid_iff (h : SoundDesk config desk)
    (hpaid : PaidForItself desk) {pending : PendingVerification} (hpending : pending ∈
      desk.inFlight) :
    PaidForItself (desk.onTrip pending.bookingId fun trip =>
        trip.confirmExtension pending.row pending.details.razorpayPaymentId false) ↔
      config.useMock = false ∧
        pending.details.razorpayOrderId = pending.row.terms.razorpayOrderId := by
  obtain ⟨old, hold, hkey, hterms⟩ := h.read pending hpending
  rw [PaidForItself, extensionRows_confirm]
  constructor
  · intro hpaid'
    obtain ⟨payment, hpayment, hid, horder, -⟩ :=
      hpaid' _ (mem_updateKey.mpr (.inl ⟨old, hold, hkey, rfl⟩)) rfl
    -- a mock desk opens no orders, so nothing can have been captured there
    have hlive : config.useMock = false := by
      by_contra hmock
      have hopened := (h.captured payment hpayment).1
      rw [h.mock (by simpa using hmock)] at hopened
      cases hopened
    obtain ⟨payment', hpayment', horder', hid'⟩ := h.signed hlive pending hpending
    -- the payment that was signed is the one that the row now names
    have hone : payment' = payment :=
      eq_of_key_eq h.payments hpayment' hpayment (hid'.trans (Option.some.inj hid))
    refine ⟨hlive, ?_⟩
    rw [← horder', hone, horder, ← hterms]
    rfl
  · rintro ⟨hlive, hown⟩ entry hentry hstatus
    rcases mem_updateKey.mp hentry with ⟨old', hold', hkey', rfl⟩ | ⟨hold', -⟩
    · have hsame : old' = old := h.keys old' hold' old hold (hkey'.trans hkey.symm)
      subst hsame
      obtain ⟨payment, hpayment, horder, hid⟩ := h.signed hlive pending hpending
      have horder' : payment.orderId = old'.2.terms.razorpayOrderId := by
        rw [horder, hown, hterms]
      refine ⟨payment, hpayment, congrArg some hid.symm, horder', ?_⟩
      exact congrArg Prod.snd (eq_of_key_eq h.orders (h.captured payment hpayment).1
        (h.ordered hlive old' hold') horder')
    · exact hpaid entry hold' hstatus

theorem PaidForItself.congr {desk' : ExtensionDesk} (h : PaidForItself desk)
    (hrows : desk'.extensionRows = desk.extensionRows)
    (hcaptures : ∀ payment ∈ desk.captures, payment ∈ desk'.captures) : PaidForItself desk' := by
  intro entry hentry hstatus
  rw [hrows] at hentry
  obtain ⟨payment, hpayment, hrest⟩ := h entry hentry hstatus
  exact ⟨payment, hcaptures payment hpayment, hrest⟩

theorem SoundDesk.insertExtension_paid (h : SoundDesk config desk) (hpaid : PaidForItself desk)
    (quote : ExtensionQuote) (newId : Id) (order : Option String) :
    PaidForItself (desk.onTrip bookingId fun trip =>
      step trip (.insertExtension quote newId order)) := by
  intro entry hentry hstatus
  rcases h.mem_insertExtension hentry with hold | ⟨orderId, terms, -, -, rfl, -⟩
  · exact hpaid entry hold hstatus
  · cases hstatus

theorem openOrder_paid (hpaid : PaidForItself desk) (quote : ExtensionQuote)
    (gatewayOrder : Option String) :
    PaidForItself (openOrder config desk quote gatewayOrder).1 := by
  rcases openOrder_cases config desk quote gatewayOrder with ⟨-, heq⟩ | heq | ⟨orderId, -, heq⟩
  · rwa [heq]
  · rwa [heq]
  · rw [heq]
    exact hpaid.congr rfl fun payment hpayment => hpayment

theorem deskStep_paid (h : SoundDesk config desk) (hpaid : PaidForItself desk)
    (hother : ∀ pending, action = .confirmExtension pending false → pending ∉ desk.inFlight) :
    PaidForItself (deskStep config desk action) := by
  cases action with
  | quoteExtension bookingId customerId requestedEndDate blocked occupied commissionPercent =>
    have hspec := fun trip => step_quoteExtension_spec trip customerId requestedEndDate blocked
      occupied commissionPercent
    exact hpaid.congr
      (extensionRows_onTrip (fun trip => (hspec trip).1) fun trip => (hspec trip).2.1)
      fun payment hpayment => hpayment
  | insertExtension bookingId quote newId gatewayOrder =>
    simp only [deskStep]
    split
    · exact hpaid
    · split
      · exact (h.openOrder quote gatewayOrder).insertExtension_paid
          (openOrder_paid hpaid quote gatewayOrder) quote newId _
      · exact hpaid
  | capture orderId paymentId =>
    simp only [deskStep]
    split
    · exact hpaid
    · split
      · exact hpaid.congr rfl fun payment hpayment => List.mem_append_left _ hpayment
      · exact hpaid
  | startVerification bookingId extensionId customerId details =>
    simp only [deskStep]
    split
    · exact hpaid
    · split
      · exact hpaid.congr rfl fun payment hpayment => hpayment
      · exact hpaid
      · exact hpaid
  | confirmExtension pending collision =>
    simp only [deskStep]
    split
    next hpending =>
      cases collision with
      | true =>
        exact hpaid.congr (extensionRows_onTrip (fun trip => rfl) fun trip => rfl)
          fun payment hpayment => hpayment
      | false => exact absurd hpending (hother pending rfl)
    · exact hpaid
  | setStatus bookingId status =>
    exact hpaid.congr (extensionRows_onTrip (fun trip => rfl) fun trip => rfl)
      fun payment hpayment => hpayment

theorem deskStep_paid_iff (h : SoundDesk config desk) (hpaid : PaidForItself desk)
    (hunforged : Unforged config desk action) :
    (PaidForItself (deskStep config desk action) ∧ PaidOnce (deskStep config desk action)) ∧
        ConfirmsOngoing desk action ↔
      ConfirmsOwnOrder config desk action := by
  have hnext := deskStep_sound h hunforged
  rw [and_iff_left_of_imp hnext.paidOnce]
  -- the invariant gives `PaidOnce`; only a confirmation can break the rest
  by_cases hconfirms : ∃ pending, action = .confirmExtension pending false ∧
      pending ∈ desk.inFlight
  · obtain ⟨pending, rfl, hpending⟩ := hconfirms
    -- what is in flight is written, whatever is left in flight
    have hiff := h.confirmExtension_paid_iff hpaid hpending
    have hsame : PaidForItself (deskStep config desk (.confirmExtension pending false)) ↔
        PaidForItself (desk.onTrip pending.bookingId fun trip =>
          trip.confirmExtension pending.row pending.details.razorpayPaymentId false) := by
      simp only [deskStep, if_pos hpending]
      exact Iff.rfl
    rw [hsame, hiff]
    simp only [ConfirmsOngoing, ConfirmsOwnOrder, hpending, forall_const, and_assoc]
  · have hother : ∀ pending, action = .confirmExtension pending false → pending ∉ desk.inFlight :=
      fun pending heq hpending => hconfirms ⟨pending, heq, hpending⟩
    refine iff_of_true ⟨deskStep_paid h hpaid hother, ?_⟩ ?_
    · cases action with
      | confirmExtension pending collision =>
        rintro hpending rfl
        exact absurd hpending (hother pending rfl)
      | _ => trivial
    · cases action with
      | confirmExtension pending collision =>
        rintro hpending rfl
        exact absurd hpending (hother pending rfl)
      | _ => trivial

end Sound

/-! ## Runs -/

def freshDesk (trips : List ExtendedTrip) : ExtensionDesk := ⟨trips, [], [], []⟩

theorem freshDesk_rows {trips : List ExtendedTrip} (hnew : ∀ trip ∈ trips, trip.extensions = []) :
    (freshDesk trips).extensionRows = [] := by
  rw [List.eq_nil_iff_forall_not_mem]
  intro entry hentry
  obtain ⟨trip, htrip, hrow, -⟩ := mem_extensionRows.mp hentry
  rw [hnew trip htrip] at hrow
  cases hrow

theorem freshDesk_sound (config : ExtensionConfig) {trips : List ExtendedTrip}
    (hids : (trips.map tripId).Nodup)
    (hnew : ∀ trip ∈ trips, trip.extensions = [] ∧ trip.quotes = []) :
    SoundDesk config (freshDesk trips) := by
  have hrows := freshDesk_rows fun trip htrip => (hnew trip htrip).1
  constructor
  case keys => rw [hrows]; exact fun entry hentry => absurd hentry List.not_mem_nil
  case trips => exact hids
  case quoted =>
    intro trip htrip quote hquote
    rw [(hnew trip htrip).2] at hquote
    cases hquote
  case orders => exact List.nodup_nil
  case plain => exact fun order horder => absurd horder List.not_mem_nil
  case captured => exact fun payment hpayment => absurd hpayment List.not_mem_nil
  case payments => exact List.nodup_nil
  case mock => exact fun _ => rfl
  case ordered => rw [hrows]; exact fun _ entry hentry => absurd hentry List.not_mem_nil
  case own => rw [hrows]; exact fun _ entry hentry => absurd hentry List.not_mem_nil
  case read => exact fun pending hpending => absurd hpending List.not_mem_nil
  case signed => exact fun _ pending hpending => absurd hpending List.not_mem_nil

/-- While nobody forges a signature, each confirmed extension is paid for by a captured payment
of its own, and is confirmed while its booking is ongoing, exactly along the runs whose
verifications name the extension's own order and meet an ongoing booking. -/
theorem extension_payments_iff (config : ExtensionConfig) {trips : List ExtendedTrip}
    (hids : (trips.map tripId).Nodup)
    (hnew : ∀ trip ∈ trips, trip.extensions = [] ∧ trip.quotes = [])
    {actions : List ExtensionDeskAction}
    (hunforged : Along (deskStep config) (Unforged config) (freshDesk trips) actions) :
    Everywhere (deskStep config) (fun desk => PaidForItself desk ∧ PaidOnce desk)
        (freshDesk trips) actions ∧
        Along (deskStep config) ConfirmsOngoing (freshDesk trips) actions ↔
      Along (deskStep config) (ConfirmsOwnOrder config) (freshDesk trips) actions := by
  have hsound := freshDesk_sound config hids hnew
  have hpaid : PaidForItself (freshDesk trips) := by
    rw [PaidForItself, freshDesk_rows fun trip htrip => (hnew trip htrip).1]
    exact fun entry hentry => absurd hentry List.not_mem_nil
  exact everywhere_and_along_iff_under (I := SoundDesk config)
    (fun desk action h _ _ hunforged => deskStep_sound h hunforged)
    (fun desk action _ h hpaid hunforged => deskStep_paid_iff h hpaid.1 hunforged)
    hunforged hsound ⟨hpaid, hsound.paidOnce hpaid⟩

/-! ### The cheaper order pays for the dearer extension -/

/-- The secret's hash only has to tell bodies apart. -/
def sampleGateway : ExtensionConfig := ⟨false, true, fun body => "signed " ++ body⟩

def ordered (requestedEndDate : ℤ) (quote : ExtensionQuote) (newId : Id) (orderId : String) :
    List ExtensionDeskAction :=
  [.quoteExtension "booking" "customer" requestedEndDate false false 10,
    .insertExtension "booking" quote newId (some orderId)]

/-- One extension is verified with the payment of an order, of its own or of another one. -/
def verifiedWith (quote : ExtensionQuote) (extensionId : Id) (own paid : String) :
    List ExtensionDeskAction :=
  let details : PaymentDetails := ⟨paid, "payment", "signed " ++ signedBody paid "payment"⟩
  [.capture paid "payment", .startVerification "booking" extensionId "customer" details] ++
    (termsOf quote own).toList.map fun terms =>
      .confirmExtension ⟨"booking", ⟨extensionId, terms, .pendingPayment, none⟩, details⟩ false

def paidByOwnOrder : List ExtensionDeskAction :=
  ordered (3 * day) longerQuote "longer" "dear" ++
    verifiedWith longerQuote "longer" "dear" "dear"

theorem own_order_paid :
    Everywhere (deskStep sampleGateway) (fun desk => PaidForItself desk ∧ PaidOnce desk)
        (freshDesk [sampleTrip.start]) paidByOwnOrder ∧
      Along (deskStep sampleGateway) ConfirmsOngoing (freshDesk [sampleTrip.start])
        paidByOwnOrder :=
  (extension_payments_iff sampleGateway (by decide) (by decide) (by decide +kernel)).mpr
    (by decide +kernel)

/-- Two days are confirmed by the payment for one. -/
theorem cheaper_order_confirms_dearer_extension :
    ¬ Everywhere (deskStep sampleGateway) (fun desk => PaidForItself desk ∧ PaidOnce desk)
      (freshDesk [sampleTrip.start])
      (ordered (2 * day) shorterQuote "shorter" "cheap" ++
        ordered (3 * day) longerQuote "longer" "dear" ++
        verifiedWith longerQuote "longer" "dear" "cheap") := by
  decide +kernel

end CarRental
