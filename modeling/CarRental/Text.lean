import Mathlib.Data.Nat.Notation

/-!
# Optional text and case

Where the source tests a text for truth, an empty one counts as none.  Its mappings of case go code
point by code point, and one code point may become several.
-/

namespace CarRental

/-- The text, unless it is empty. -/
def given (text : Option String) : Option String :=
  text.filter (· ≠ "")

@[simp] theorem given_none : given none = none := rfl

theorem given_eq_some {text : Option String} {value : String} :
    given text = some value ↔ text = some value ∧ value ≠ "" := by
  simp [given]

theorem given_mem {text : Option String} {value : String} (h : given text = some value) :
    text = some value :=
  (given_eq_some.mp h).1

/-! ## Case -/

/-- The images of a code point in lower and in upper case. -/
structure CaseMapping where
  lower : Char → List Char
  upper : Char → List Char

namespace CaseMapping

/-- The mapping of the plain letters. -/
def ascii : CaseMapping := ⟨fun c => [c.toLower], fun c => [c.toUpper]⟩

def toLowerCase (mapping : CaseMapping) (text : String) : String :=
  String.ofList (text.toList.flatMap mapping.lower)

def toUpperCase (mapping : CaseMapping) (text : String) : String :=
  String.ofList (text.toList.flatMap mapping.upper)

theorem toLowerCase_append (mapping : CaseMapping) (first second : String) :
    mapping.toLowerCase (first ++ second) =
      mapping.toLowerCase first ++ mapping.toLowerCase second := by
  simp [toLowerCase]

end CaseMapping

end CarRental
