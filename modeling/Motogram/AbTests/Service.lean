import Motogram.AbTests.Schemas
import Motogram.Foundation.Glob

/-!
# A/B tests

`ab-test.service.ts`: a test is a Redis text under `ab_test:config:{key}`, and the variant a user was given
is one under `ab_test:assign:{key}:{userId}`. All names share one Redis; what is found by a pattern is found
by its name alone. Every call of Redis is atomic.
-/

set_option autoImplicit false

namespace Motogram.AbTests

open Foundation

/-! ## Names -/

def abTestConfigPrefix : String := "ab_test:config:"
def abTestAssignPrefix : String := "ab_test:assign:"

/-- `ab_test:config:{key}` -/
def configName (key : String) : String := abTestConfigPrefix ++ key

/-- `ab_test:assign:{key}:{userId}` -/
def assignName (key userId : String) : String := abTestAssignPrefix ++ key ++ ":" ++ userId

/-- `ab_test:assign:{key}:*` -/
def assignPattern (key : String) : String := abTestAssignPrefix ++ key ++ ":*"

theorem configName_toList (key : String) :
    (configName key).toList = "ab_test:config:".toList ++ key.toList := by
  rw [configName, String.toList_append]
  rfl

theorem assignName_toList (key userId : String) :
    (assignName key userId).toList = "ab_test:assign:".toList ++ (key.toList ++ ':' :: userId.toList) := by
  simp only [assignName, String.toList_append, List.append_assoc]
  rfl

theorem assignPattern_toList (key : String) :
    (assignPattern key).toList = ("ab_test:assign:".toList ++ key.toList ++ [':']) ++ ['*'] := by
  simp only [assignPattern, String.toList_append, List.append_assoc]
  rfl

theorem configName_injective {key other : String} (same : configName key = configName other) : key = other := by
  have letters := congrArg String.toList same
  rw [configName_toList, configName_toList] at letters
  exact String.toList_injective (List.append_cancel_left letters)

/-- A name of a test is none of an assignment. -/
theorem configName_ne_assignName (key other userId : String) : configName key ≠ assignName other userId := by
  intro same
  have letters := congrArg (fun name => name.toList.take 9) same
  rw [configName_toList, assignName_toList, List.take_append_of_le_length (by decide),
    List.take_append_of_le_length (by decide)] at letters
  exact absurd letters (by decide)

/-- Keys without a colon and users are read off the name of an assignment. -/
theorem assignName_injective {key other userId otherUser : String} (valid : isSnakeCaseKey key = true)
    (valid' : isSnakeCaseKey other = true) (same : assignName key userId = assignName other otherUser) :
    key = other ∧ userId = otherUser := by
  have letters := congrArg String.toList same
  rw [assignName_toList, assignName_toList] at letters
  have free : ':' ∉ key.toList := not_mem_of_isSnakeCaseKey valid rfl
  have free' : ':' ∉ other.toList := not_mem_of_isSnakeCaseKey valid' rfl
  obtain ⟨keys, users⟩ := eq_of_cut free free' (List.append_cancel_left letters)
  exact ⟨String.toList_injective keys, String.toList_injective users⟩

/-! ## The store -/

inductive Stored where
  | json (value : Json)
  | text (value : String)

structure State where
  now : Time
  redis : Table String Stored

section Setters

variable (s : State)

@[simps -fullyApplied] def State.written (name : String) (value : Stored) : State :=
  { s with redis := s.redis.put name value }

@[simps -fullyApplied] def State.without (names : List String) : State :=
  { s with redis := s.redis.eraseWhere fun name _ => decide (name ∈ names) }

@[simps -fullyApplied] def State.elapsed (milliseconds : Nat) : State := { s with now := s.now + milliseconds }

end Setters

def State.initial (now : Time) : State := ⟨now, .empty⟩

def State.keys (s : State) (pattern : String) : List String :=
  (s.redis.entries.map Prod.fst).filter fun name => globMatches pattern.toList name.toList

inductive AbTestCall where
  | dateNow
  | get (name : String)
  | set (name : String) (value : Stored)
  | del (names : List String)
  | keys (pattern : String)

@[reducible] def AbTestReply : AbTestCall → Type
  | .dateNow => Time
  | .get _ => Option Stored
  | .set _ _ => Unit
  | .del _ => Nat
  | .keys _ => List String

def answer : (call : AbTestCall) → State → AbTestReply call × State
  | .dateNow, s => (s.now, s)
  | .get name, s => (s.redis.find? name, s)
  | .set name value, s => ((), s.written name value)
  | .del names, s => (s.redis.count fun name _ => decide (name ∈ names), s.without names)
  | .keys pattern, s => (s.keys pattern, s)

inductive AbTestError where
  | notFound
  deriving DecidableEq

abbrev Flow (Value : Type) := Program AbTestCall AbTestReply AbTestError Value

/-- Run a service function alone. -/
abbrev Flow.exec {Value : Type} (flow : Flow Value) (s : State) : Except AbTestError Value × State :=
  Program.run answer flow s

/-- Make one call and return its reply. -/
abbrev call (request : AbTestCall) : Flow (AbTestReply request) := .call request .done

/-! ## The service -/

section Service

variable (datetime : String → Bool) (sha1 : String → BitVec 160)

structure UpsertBody (datetime : String → Bool) where
  input : Json
  dto : AbTestConfig
  accepts : abTestConfigSchema datetime (some input) = some dto

variable {datetime} in
def upsert (body : UpsertBody datetime) (updatedBy : Option String) : Flow Json := do
  let now : Time ← call .dateNow
  let config := storedConfig body.input (toISOString now) updatedBy
  let _ : Unit ← call (.set (configName body.dto.key) (.json config))
  pure config

/-- `delete` from the assignments it has found on. -/
def deleteFound (removed : Nat) (assignments : List String) : Flow Bool :=
  if assignments.length > 0 then do
    let _ : Nat ← call (.del assignments)
    pure (decide (removed > 0))
  else pure (decide (removed > 0))

def delete (key : String) : Flow Bool := do
  let removed : Nat ← call (.del [configName key])
  let assignments : List String ← call (.keys (assignPattern key))
  deleteFound removed assignments

def readConfig : Stored → Option AbTestConfig
  | .json value => abTestConfigSchema datetime (some value)
  | .text _ => none

def get (key : String) : Flow (Option AbTestConfig) := do
  let raw : Option Stored ← call (.get (configName key))
  pure (raw.bind (readConfig datetime))

/-- The first variant whose share the bucket is in, when the shares before it end there. -/
def pickFrom (bucket : Nat) : Nat → List AbTestVariant → Option String
  | _, [] => none
  | cum, variant :: rest =>
    if bucket < cum + variant.weight then some variant.id else pickFrom bucket (cum + variant.weight) rest

def firstId (variants : List AbTestVariant) : String := (variants.head?.map AbTestVariant.id).getD ""
def lastId (variants : List AbTestVariant) : String := (variants.getLast?.map AbTestVariant.id).getD ""

/-- The first eight digits of the digest, modulo the sum of the weights, fall into the share of a variant. -/
def pickVariant (config : AbTestConfig) (userId : String) : String :=
  let total := totalWeight config.variants
  let bucket := ((sha1 (config.key ++ ":" ++ userId)).extractLsb' 128 32).toNat % total
  (pickFrom bucket 0 config.variants).getD (lastId config.variants)

/-- The variant of an earlier assignment, when the test still has it. -/
def cachedVariant (config : AbTestConfig) : Option Stored → Option String
  | some (.text cached) =>
    if cached ≠ "" ∧ cached ∈ config.variants.map AbTestVariant.id then some cached else none
  | _ => none

def assign (key userId : String) : Flow String := do
  let config ← get datetime key
  match config with
  | none => .fail .notFound
  | some config =>
    if config.enabled = false then pure (firstId config.variants)
    else do
      let cached : Option Stored ← call (.get (assignName key userId))
      match cachedVariant config cached with
      | some cached => pure cached
      | none => do
        let variantId := pickVariant sha1 config userId
        let _ : Unit ← call (.set (assignName key userId) (.text variantId))
        pure variantId

end Service

end Motogram.AbTests
