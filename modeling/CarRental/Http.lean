import CarRental.Money

/-!
# Replies

A service call commits some writes and then returns or throws, so it is a
function from a state to the state it leaves and its reply.  A transaction is a
function to `Except HttpError State`: when it throws, none of its writes happen.
-/

namespace CarRental

/-- The exceptions of the services, with their messages.  Everything that is not
raised by the services themselves (a failed database write) is `internal`. -/
inductive HttpError where
  | badRequest (message : String)
  | forbidden (message : String)
  | notFound (message : String)
  | conflict (message : String)
  | internal (message : String)
deriving DecidableEq, Repr

theorem bind_eq_ok {ε α β : Type} {x : Except ε α} {f : α → Except ε β} {b : β} :
    x.bind f = .ok b ↔ ∃ a, x = .ok a ∧ f a = .ok b := by
  cases x with
  | error e => simp [Except.bind]
  | ok a => simp [Except.bind]

theorem bind_map {ε α β γ : Type} (x : Except ε α) (f : α → Except ε β) (g : β → γ) :
    (x.bind fun a => (f a).map g) = (x.bind f).map g := by
  cases x with
  | error e => rfl
  | ok a => rfl

theorem toOption_eq_some {ε α : Type} {x : Except ε α} {a : α} :
    x.toOption = some a ↔ x = .ok a := by
  cases x with
  | error e => simp [Except.toOption]
  | ok b => simp [Except.toOption]

end CarRental
