import Mathlib.Data.Rat.Defs
import CarRental.Text

/-!
# Domain events

The envelope of `DomainEventBusService`, with the values that payloads and configurations are
made of.
-/

namespace CarRental.Operations

/-- The values of JSON, and `undefined`.  An array is an object whose fields are its indices and
its length; of a primitive value no field is read. -/
inductive Json where
  | undefined
  | null
  | bool (value : Bool)
  | number (value : ℚ)
  | string (value : String)
  | object (fields : List (String × Json))

namespace Json

/-- `===`.  Objects are compared by identity, and no object of a payload is one of a
configuration. -/
def strictEquals : Json → Json → Bool
  | undefined, undefined => true
  | null, null => true
  | bool a, bool b => a == b
  | number a, number b => a == b
  | string a, string b => a == b
  | _, _ => false

/-- `current[part]` -/
def property : Json → String → Json
  | object fields, part => ((fields.find? fun field => field.1 = part).map (·.2)).getD undefined
  | _, _ => undefined

end Json

/-- The fields of a `Record<string, any>`, which are `undefined` where there are none. -/
abbrev Fields := String → Json

def extractFieldValue (obj : Fields) (path : Option String) : Json :=
  match (path.filter (· ≠ "")).map (·.splitOn ".") with
  | some (part :: parts) => parts.foldl Json.property (obj part)
  | _ => .undefined

/-- `Object.assign` -/
def Fields.assign (target : Fields) (source : List (String × Json)) : Fields :=
  source.foldl (fun obj field => Function.update obj field.1 field.2) target

structure TenantContext where
  tenantId : Option String
  vendorId : Option String
  branchId : Option String
deriving DecidableEq

structure Actor where
  id : String
  role : String
deriving DecidableEq

structure DomainEvent where
  eventId : String
  eventType : String
  aggregateType : String
  aggregateId : String
  tenantContext : Option TenantContext
  actor : Actor
  timestamp : String
  correlationId : String
  causationId : Option String
  version : ℕ
  payload : Fields

/-- What `emit` draws for an event: its identifier and the time. -/
structure Stamp where
  eventId : String
  timestamp : String
deriving DecidableEq

/-- The parameters of `emit` that a rule passes. -/
structure EmitParams where
  eventType : String
  aggregateType : String
  aggregateId : String
  payload : Fields
  correlationId : String
  causationId : Option String

/-- The envelope that `emit` publishes.  Its identifier is a new one, so that the bus does not
take it for an event it has seen. -/
def envelope (params : EmitParams) (stamp : Stamp) : DomainEvent where
  eventId := stamp.eventId
  eventType := params.eventType
  aggregateType := params.aggregateType
  aggregateId := params.aggregateId
  tenantContext := none
  actor := ⟨"SYSTEM", "SYSTEM"⟩
  timestamp := stamp.timestamp
  correlationId := params.correlationId
  causationId := params.causationId
  version := 1
  payload := params.payload

/-! ## Lemmas -/

theorem Fields.assign_apply (target : Fields) (source : List (String × Json)) (name : String) :
    target.assign source name = target name ∨ (name, target.assign source name) ∈ source := by
  induction source generalizing target with
  | nil => exact .inl rfl
  | cons field rest ih =>
    have hrest := ih (Function.update target field.1 field.2)
    rw [show Fields.assign target (field :: rest) =
      Fields.assign (Function.update target field.1 field.2) rest from rfl]
    rcases hrest with hkept | hmem
    · by_cases hname : name = field.1
      · subst hname
        rw [Function.update_self] at hkept
        rw [hkept]
        exact .inr (List.mem_cons_self ..)
      · rw [Function.update_of_ne hname] at hkept
        exact .inl hkept
    · exact .inr (List.mem_cons_of_mem _ hmem)

end CarRental.Operations
