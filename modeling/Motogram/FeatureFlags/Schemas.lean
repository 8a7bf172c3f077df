import Motogram.FeatureFlags.Service
import Motogram.Identifiers
import Motogram.Messaging.Schemas

/-!
# The schemas of feature flags

`feature-flag.schema.ts`: the schema a write is checked with, and the one of the value that is read. The
rules that tie the percentage and the users to the strategy are in the schema of the value alone.
-/

set_option autoImplicit false

namespace Motogram.FeatureFlags

open Foundation Schema
open Messaging (jsLength Issue issueIf)

/-! ## Writing -/

/-- `FeatureFlagStrategyEnum` -/
def strategyNames : List (String × FeatureFlagStrategy) :=
  [("OFF", .off), ("ON", .on), ("PERCENTAGE", .percentage), ("USER_LIST", .userList)]

/-- `FeatureFlagKeySchema` -/
def featureFlagKeySchema : Schema FlagKey := string isSnakeCaseKey

/-- `z.number().int().min(0).max(100).optional()` -/
def percentageSchema : Schema (Option Nat) := optional (natural 0 100)

/-- `z.array(z.string().uuid()).max(1000).optional()` -/
def userIdsSchema : Schema (Option (List String)) :=
  optional (array 1000 (string isUuid))

/-- `z.string().max(500).optional()` -/
def descriptionSchema : Schema (Option String) :=
  optional (string fun text => decide (jsLength text ≤ 500))

def upsertFeatureFlagSchema : Schema UpsertFeatureFlagDto := fun input => do
  let value ← object input
  let key ← featureFlagKeySchema (value.field "key")
  let strategy ← enumeration strategyNames (value.field "strategy")
  let percentage ← percentageSchema (value.field "percentage")
  let userIds ← userIdsSchema (value.field "userIds")
  let description ← descriptionSchema (value.field "description")
  some ⟨key, strategy, percentage, userIds, description⟩

/-! ## Reading -/

/-- A value `FeatureFlagValueSchema` parses to. -/
structure FeatureFlagValue where
  strategy : FeatureFlagStrategy
  percentage : Option Nat
  userIds : Option (List String)
  description : Option String
  updatedAt : Option String
  updatedBy : Option String
  deriving DecidableEq

/-- The refinement of `FeatureFlagValueSchema`. -/
def FeatureFlagValue.issues (value : FeatureFlagValue) : List Issue :=
  issueIf (decide (value.strategy = .percentage) && value.percentage.isNone) "percentage"
      "PERCENTAGE strategy icin `percentage` zorunlu" ++
    issueIf (decide (value.strategy = .userList) && (value.userIds.getD []).isEmpty) "userIds"
      "USER_LIST strategy icin en az 1 userId gerekli"

section Dates

-- `z.string().datetime()`, which the library decides
variable (datetime : String → Bool)

/-- `FeatureFlagValueSchema` without its refinement. -/
def featureFlagValueObject : Schema FeatureFlagValue := fun input => do
  let value ← object input
  let strategy ← enumeration strategyNames (value.field "strategy")
  let percentage ← percentageSchema (value.field "percentage")
  let userIds ← userIdsSchema (value.field "userIds")
  let description ← descriptionSchema (value.field "description")
  let updatedAt ← optional (string datetime) (value.field "updatedAt")
  let updatedBy ← optional (string isUuid) (value.field "updatedBy")
  some ⟨strategy, percentage, userIds, description, updatedAt, updatedBy⟩

def featureFlagValueSchema : Schema FeatureFlagValue := fun input =>
  (featureFlagValueObject datetime input).filter fun value => decide (value.issues = [])

/-- `FeatureFlagDtoSchema` -/
def featureFlagDtoSchema : Schema (FlagKey × FeatureFlagValue) := fun input => do
  let flag ← object input
  let key ← featureFlagKeySchema (flag.field "key")
  let value ← featureFlagValueSchema datetime (flag.field "value")
  some (key, value)

/-- `FeatureFlagsListResponseSchema` -/
def featureFlagsListResponseSchema : Schema (List (FlagKey × FeatureFlagValue))
  | some (.array items) => items.mapM fun item => featureFlagDtoSchema datetime (some item)
  | _ => none

end Dates

end Motogram.FeatureFlags
