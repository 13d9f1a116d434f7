import Mathlib.Data.List.Sort
import Mathlib.Data.Rat.Defs
import CarRental.Integrations.Runtime

/-!
# The provider catalogue

The entries of `ProviderCatalogService`, with the fields that a routing reads, and the states of the
circuits of the providers.
-/

namespace CarRental.Integrations

inductive ProviderEnvironment where
  | sandbox
  | live
deriving DecidableEq, Repr

inductive ProviderActivationState where
  | draft
  | active
  | suspended
  | deprecated
  | comingSoon
deriving DecidableEq, Repr

inductive ProviderLifecycleState where
  | discovered
  | catalogOnly
  | configurable
  | sandboxReady
  | liveReady
  | healthy
  | degraded
  | disabled
  | deprecated
deriving DecidableEq, Repr

inductive ProviderCertificationLevel where
  | catalog
  | contractValidated
  | sandboxValidated
  | webhookValidated
  | failoverValidated
  | productionValidated
deriving DecidableEq, Repr

inductive ProviderImplementationStatus where
  | catalogOnly
  | contractReady
  | adapterImplemented
  | sandboxVerified
  | liveReady
  | liveVerified
deriving DecidableEq, Repr

structure CatalogProviderMetadata where
  providerId : String
  category : IntegrationCategory
  name : String
  supportedEnvironments : List ProviderEnvironment
  supportedCapabilities : List String
  supportedCurrencies : List String
  supportedCountries : List String
  priority : ℚ
  lifecycleState : Option ProviderLifecycleState
  certificationLevel : Option ProviderCertificationLevel
  implementationStatus : Option ProviderImplementationStatus
  activationState : ProviderActivationState
  platformAvailability : Bool
  weight : Option ℚ
  fixedFee : Option ℚ
deriving DecidableEq

inductive CircuitState where
  | closed
  | open
  | halfOpen
deriving DecidableEq, Repr

/-- `sort` with a comparison of the source: in front is what compares as not greater. -/
def sortBy {α : Type} (compare : α → α → ℚ) (list : List α) : List α :=
  list.mergeSort fun a b => decide (compare a b ≤ 0)

theorem sortBy_perm {α : Type} (compare : α → α → ℚ) (list : List α) :
    (sortBy compare list).Perm list :=
  List.mergeSort_perm list _

end CarRental.Integrations
