import Motogram.Foundation.Interleaving
import Motogram.Literals

/-!
# Feature flags

`feature-flag.service.ts`: a flag is a Redis hash of texts under the key `feature_flag:{key}`. An
upsert deletes the hash and then writes the fields of the new value; an evaluation reads all fields at
once. Every call of Redis is atomic. What upserts have written is noted in `upserted`.
-/

set_option autoImplicit false

namespace Motogram.FeatureFlags

open Foundation

abbrev FlagKey := String

/-! ## Values -/

inductive FeatureFlagStrategy where
  | off
  | on
  | percentage
  | userList
  deriving DecidableEq

def FeatureFlagStrategy.text : FeatureFlagStrategy → String
  | .off => "OFF"
  | .on => "ON"
  | .percentage => "PERCENTAGE"
  | .userList => "USER_LIST"

def FeatureFlagStrategy.ofText? : String → Option FeatureFlagStrategy
  | "OFF" => some .off
  | "ON" => some .on
  | "PERCENTAGE" => some .percentage
  | "USER_LIST" => some .userList
  | _ => none

@[simp] theorem FeatureFlagStrategy.ofText?_text (strategy : FeatureFlagStrategy) :
    FeatureFlagStrategy.ofText? strategy.text = some strategy := by
  cases strategy <;> rfl

/-- A value `UpsertFeatureFlagSchema` parses to. -/
structure UpsertFeatureFlagDto where
  key : FlagKey
  strategy : FeatureFlagStrategy
  percentage : Option Nat
  userIds : Option (List String)
  description : Option String
  deriving DecidableEq

/-- What is read of a flag. The strategy is the text that is stored, whatever it is. -/
structure FeatureFlagValueDto where
  strategy : String
  percentage : Option ℚ
  userIds : Option (List String)
  description : Option String
  updatedAt : Option String
  updatedBy : Option String
  deriving DecidableEq

structure FeatureFlagEvaluationDto where
  key : FlagKey
  enabled : Bool
  strategy : FeatureFlagStrategy
  userId : Option String
  reason : Option String
  deriving DecidableEq

/-! ## The hash -/

/-- A Redis hash: the text of each field it has. -/
abbrev FlagHash := String → Option String

/-- A text counts as absent when it is empty. -/
def truthy (text : Option String) : Option String := text.filter fun text => text ≠ ""

/-- `ids.join(',')`. -/
def joined (ids : List String) : String := String.ofList (List.intercalate [','] (ids.map String.toList))

/-- `text.split(',')`. -/
def splitAtCommas (text : String) : List String := (text.toList.splitOn ',').map String.ofList

def upsertPayload (dto : UpsertFeatureFlagDto) (updatedBy : Option String) (now : Time) : FlagHash
  | "strategy" => some dto.strategy.text
  | "updatedAt" => some (toISOString now)
  | "percentage" => dto.percentage.map toString
  | "userIds" => (dto.userIds.filter fun ids => ids ≠ []).map joined
  | "description" => truthy dto.description
  | "updatedBy" => truthy updatedBy
  | _ => none

/-- `HSET`: the fields of the payload are written, the others stay. -/
def FlagHash.set (hash payload : FlagHash) : FlagHash := fun field => (payload field).or (hash field)

/-- The value the fields of a hash make. -/
def valueOf (raw : FlagHash) : FeatureFlagValueDto where
  strategy := (truthy (raw "strategy")).getD "OFF"
  percentage := (raw "percentage").map fun text => (finiteNumber text).getD 0
  userIds := (truthy (raw "userIds")).map fun text =>
    ((splitAtCommas text).map jsTrim).filter fun id => id ≠ ""
  description := truthy (raw "description")
  updatedAt := truthy (raw "updatedAt")
  updatedBy := truthy (raw "updatedBy")

/-! ## The store -/

structure State where
  now : Time
  -- a hash without fields is not kept
  hashes : FlagKey → Option FlagHash
  upserted : List (FlagKey × FlagHash)

section Setters

variable (s : State)

@[simps -fullyApplied] def State.without (flagKey : FlagKey) : State :=
  { s with hashes := Function.update s.hashes flagKey none }

/-- `HSET` makes a hash when there is none. -/
@[simps -fullyApplied] def State.written (flagKey : FlagKey) (payload : FlagHash) : State :=
  { s with
    hashes := Function.update s.hashes flagKey
      (some (FlagHash.set ((s.hashes flagKey).getD fun _ => none) payload))
    upserted := s.upserted ++ [(flagKey, payload)] }

@[simps -fullyApplied] def State.elapsed (milliseconds : Nat) : State := { s with now := s.now + milliseconds }

end Setters

inductive FlagCall where
  | dateNow
  | del (flagKey : FlagKey)
  | hset (flagKey : FlagKey) (payload : FlagHash)
  | hgetall (flagKey : FlagKey)
  | elapse (milliseconds : Nat)

@[reducible] def FlagReply : FlagCall → Type
  | .dateNow => Time
  | .del _ => Bool
  | .hset _ _ => Unit
  | .hgetall _ => Option FlagHash
  | .elapse _ => Unit

def answer : (call : FlagCall) → State → FlagReply call × State
  | .dateNow, s => (s.now, s)
  | .del flagKey, s => ((s.hashes flagKey).isSome, s.without flagKey)
  | .hset flagKey payload, s => ((), s.written flagKey payload)
  | .hgetall flagKey, s => (s.hashes flagKey, s)
  | .elapse milliseconds, s => ((), s.elapsed milliseconds)

/-- Nothing that the service throws itself. -/
abbrev Flow (Value : Type) := Program FlagCall FlagReply Empty Value

/-- Run a service function alone. -/
abbrev Flow.exec {Value : Type} (flow : Flow Value) (s : State) : Except Empty Value × State :=
  Program.run answer flow s

/-- Make one call and return its reply. -/
abbrev call (request : FlagCall) : Flow (FlagReply request) := .call request .done

/-! ## The service -/

def readValue (flagKey : FlagKey) : Flow (Option FeatureFlagValueDto) := do
  let raw : Option FlagHash ← call (.hgetall flagKey)
  pure (raw.map valueOf)

def upsert (dto : UpsertFeatureFlagDto) (updatedBy : Option String) : Flow (Option FeatureFlagValueDto) := do
  let now : Time ← call .dateNow
  let _ : Bool ← call (.del dto.key)
  let _ : Unit ← call (.hset dto.key (upsertPayload dto updatedBy now))
  readValue dto.key

def delete (flagKey : FlagKey) : Flow Bool := do
  let removed : Bool ← call (.del flagKey)
  pure removed

section Evaluation

-- `createHash('sha1')`
variable (sha1 : String → BitVec 160)

/-- The first eight digits of the digest, modulo 100. -/
def hashBucket (flagKey userId : String) : Nat :=
  ((sha1 (flagKey ++ ":" ++ userId)).extractLsb' 128 32).toNat % 100

/-- What a value says about a user. -/
def judged (flagKey : FlagKey) (userId : Option String) (value : FeatureFlagValueDto) :
    FeatureFlagEvaluationDto :=
  match FeatureFlagStrategy.ofText? value.strategy with
  | some .off => ⟨flagKey, false, .off, userId, none⟩
  | some .on => ⟨flagKey, true, .on, userId, none⟩
  | some .userList =>
    match truthy userId with
    | none => ⟨flagKey, false, .userList, none, some "userId_required"⟩
    | some id => ⟨flagKey, decide (id ∈ value.userIds.getD []), .userList, userId, none⟩
  | some .percentage =>
    let percentage := value.percentage.getD 0
    if percentage ≤ 0 then ⟨flagKey, false, .percentage, userId, none⟩
    else if 100 ≤ percentage then ⟨flagKey, true, .percentage, userId, none⟩
    else
      match truthy userId with
      | none => ⟨flagKey, false, .percentage, none, some "userId_required"⟩
      | some id => ⟨flagKey, decide ((hashBucket sha1 flagKey id : ℚ) < percentage), .percentage, userId, none⟩
  | none => ⟨flagKey, false, .off, none, some "unknown_strategy"⟩

/-- What a value, or none, says about a user. -/
def evaluation (flagKey : FlagKey) (userId : Option String) :
    Option FeatureFlagValueDto → FeatureFlagEvaluationDto
  | none => ⟨flagKey, false, .off, none, some "flag_not_found"⟩
  | some value => judged sha1 flagKey userId value

def evaluate (flagKey : FlagKey) (userId : Option String) : Flow FeatureFlagEvaluationDto := do
  let value ← readValue flagKey
  pure (evaluation sha1 flagKey userId value)

end Evaluation

end Motogram.FeatureFlags
