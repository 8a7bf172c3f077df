import Motogram.Identifiers
import Motogram.Messaging.Schemas

/-!
# The schema of A/B tests

`ab-test.schema.ts`: the configuration of a test is written and read with the same schema. The service adds
the date and the user to what it was given and leaves the other fields as they are, so what it stores is
read as what it was given (`abTestConfigSchema_stored`).
-/

set_option autoImplicit false

namespace Motogram.AbTests

open Foundation Schema Option
open Messaging (jsLength Issue issueIf)

/-! ## Configurations -/

structure AbTestVariant where
  id : String
  weight : Nat
  label : Option String
  deriving DecidableEq

/-- A value `AbTestConfigSchema` parses to. -/
structure AbTestConfig where
  key : String
  description : Option String
  variants : List AbTestVariant
  enabled : Bool
  createdAt : Option String
  updatedBy : Option String
  deriving DecidableEq

/-- `/^[A-Z][A-Z0-9_]{0,31}$/` -/
def isVariantId (text : String) : Bool :=
  match text.toList with
  | [] => false
  | first :: rest => first.isUpper && decide (rest.length ≤ 31) &&
      rest.all fun letter => letter.isUpper || letter.isDigit || decide (letter = '_')

theorem isVariantId_ne_empty {text : String} (valid : isVariantId text = true) : text ≠ "" := by
  rintro rfl
  cases valid

/-! ## The schema -/

def abTestVariantSchema : Schema AbTestVariant := fun input => do
  let value ← Schema.object input
  let id ← Schema.string isVariantId (value.field "id")
  let weight ← natural 1 100 (value.field "weight")
  let label ← Schema.optional (Schema.string fun text => decide (jsLength text ≤ 120)) (value.field "label")
  some ⟨id, weight, label⟩

/-- `z.array(AbTestVariantSchema).min(2).max(6)` -/
def variantsSchema : Schema (List AbTestVariant) := fun input =>
  (Schema.array 6 abTestVariantSchema input).filter fun variants => decide (2 ≤ variants.length)

def totalWeight (variants : List AbTestVariant) : Nat := (variants.map AbTestVariant.weight).sum

/-- The refinement of `AbTestConfigSchema`. -/
def AbTestConfig.issues (config : AbTestConfig) : List Issue :=
  let total := totalWeight config.variants
  issueIf (decide (total ≠ 100)) "variants"
      ("Variant agirlik toplami 100 olmali (gelen: " ++ toString total ++ ")") ++
    issueIf (decide (¬ (config.variants.map AbTestVariant.id).Nodup)) "variants" "Variant id tekrar edemez"

section Dates

-- `z.string().datetime()`, which the library decides
variable (datetime : String → Bool)

/-- `AbTestConfigSchema` without its refinement. -/
def abTestConfigObject : Schema AbTestConfig := fun input => do
  let value ← Schema.object input
  let key ← Schema.string isSnakeCaseKey (value.field "key")
  let description ←
    Schema.optional (Schema.string fun text => decide (jsLength text ≤ 500)) (value.field "description")
  let variants ← variantsSchema (value.field "variants")
  let enabled ← withDefault true boolean (value.field "enabled")
  let createdAt ← Schema.optional (Schema.string datetime) (value.field "createdAt")
  let updatedBy ← Schema.optional (Schema.string isUuid) (value.field "updatedBy")
  some ⟨key, description, variants, enabled, createdAt, updatedBy⟩

/-- `AbTestConfigSchema` and `UpsertAbTestSchema` -/
def abTestConfigSchema : Schema AbTestConfig := fun input =>
  (abTestConfigObject datetime input).filter fun config => decide (config.issues = [])

end Dates

/-! ## What is stored -/

/-- `JSON.stringify` of the configuration `upsert` makes of a body: the fields it was given, the date and
the user. -/
def storedConfig (body : Json) (now : String) (updatedBy : Option String) : Json :=
  .object (Json.present "key" (body.field "key") ++ Json.present "description" (body.field "description") ++
    Json.present "variants" (body.field "variants") ++ Json.present "enabled" (body.field "enabled") ++
    Json.present "createdAt" (some (.string now)) ++ Json.present "updatedBy" (updatedBy.map .string))

variable {datetime : String → Bool}

theorem field_storedConfig (body : Json) (now : String) (updatedBy : Option String) :
    (storedConfig body now updatedBy).field "key" = body.field "key" ∧
      (storedConfig body now updatedBy).field "description" = body.field "description" ∧
      (storedConfig body now updatedBy).field "variants" = body.field "variants" ∧
      (storedConfig body now updatedBy).field "enabled" = body.field "enabled" ∧
      (storedConfig body now updatedBy).field "createdAt" = some (.string now) ∧
      (storedConfig body now updatedBy).field "updatedBy" = updatedBy.map .string := by
  simp [storedConfig, Json.field, Json.lookup_append, Json.lookup_present]

/-- **What is stored is read as what was given**, with the date and the user of the write. -/
theorem abTestConfigSchema_stored {body : Json} {config : AbTestConfig}
    (accepts : abTestConfigSchema datetime (some body) = some config) {now updatedBy : String}
    (dated : datetime now = true) (uuid : isUuid updatedBy = true) :
    abTestConfigSchema datetime (some (storedConfig body now (some updatedBy))) =
      some { config with createdAt := some now, updatedBy := some updatedBy } := by
  obtain ⟨sameKey, sameDescription, sameVariants, sameEnabled, isDate, isUser⟩ :=
    field_storedConfig body now (some updatedBy)
  obtain ⟨read, sound⟩ := filter_eq_some_iff.mp accepts
  obtain ⟨value, isObject, read⟩ := bind_eq_some_iff.mp read
  obtain ⟨key, isKey, read⟩ := bind_eq_some_iff.mp read
  obtain ⟨description, isDescription, read⟩ := bind_eq_some_iff.mp read
  obtain ⟨variants, areVariants, read⟩ := bind_eq_some_iff.mp read
  obtain ⟨enabled, isEnabled, read⟩ := bind_eq_some_iff.mp read
  obtain ⟨createdAt, -, read⟩ := bind_eq_some_iff.mp read
  obtain ⟨before, -, read⟩ := bind_eq_some_iff.mp read
  cases read
  obtain rfl : body = value := by
    cases body <;> cases isObject
    rfl
  have date : Schema.optional (Schema.string datetime) (some (.string now)) = some (some now) := by
    rw [Schema.optional, string_eq_some.mpr ⟨rfl, dated⟩, map_some]
  have user : Schema.optional (Schema.string isUuid) (some (.string updatedBy)) = some (some updatedBy) := by
    rw [Schema.optional, string_eq_some.mpr ⟨rfl, uuid⟩, map_some]
  have whole : Schema.object (some (storedConfig body now (some updatedBy))) =
      some (storedConfig body now (some updatedBy)) := rfl
  have object : abTestConfigObject datetime (some (storedConfig body now (some updatedBy))) =
      some ⟨key, description, variants, enabled, some now, some updatedBy⟩ := by
    simp only [abTestConfigObject, whole, bind_eq_bind, bind_some, sameKey, sameDescription,
      sameVariants, sameEnabled, isDate, isUser, map_some, isKey, isDescription, areVariants, isEnabled,
      date, user]
  rw [abTestConfigSchema, object]
  exact if_pos sound

/-- What the schema has found out about a configuration. -/
theorem accepted_of_schema {body : Json} {config : AbTestConfig}
    (accepts : abTestConfigSchema datetime (some body) = some config) :
    isSnakeCaseKey config.key = true ∧ 2 ≤ config.variants.length ∧ totalWeight config.variants = 100 ∧
      ∀ variant ∈ config.variants, isVariantId variant.id = true ∧ 1 ≤ variant.weight := by
  obtain ⟨read, sound⟩ := filter_eq_some_iff.mp accepts
  obtain ⟨value, isObject, read⟩ := bind_eq_some_iff.mp read
  obtain ⟨key, isKey, read⟩ := bind_eq_some_iff.mp read
  obtain ⟨description, -, read⟩ := bind_eq_some_iff.mp read
  obtain ⟨variants, areVariants, read⟩ := bind_eq_some_iff.mp read
  obtain ⟨enabled, -, read⟩ := bind_eq_some_iff.mp read
  obtain ⟨createdAt, -, read⟩ := bind_eq_some_iff.mp read
  obtain ⟨before, -, read⟩ := bind_eq_some_iff.mp read
  cases read
  obtain ⟨list, enough⟩ := filter_eq_some_iff.mp areVariants
  obtain ⟨total, -⟩ := List.append_eq_nil_iff.mp (of_decide_eq_true sound)
  refine ⟨(string_eq_some.mp isKey).2, of_decide_eq_true enough, ?_, fun variant member => ?_⟩
  · by_contra other
    rw [decide_eq_true other] at total
    cases total
  · obtain ⟨json, same⟩ := (array_eq_some list).2 variant member
    obtain ⟨value, -, same⟩ := bind_eq_some_iff.mp same
    obtain ⟨id, isId, same⟩ := bind_eq_some_iff.mp same
    obtain ⟨weight, isWeight, same⟩ := bind_eq_some_iff.mp same
    obtain ⟨label, -, same⟩ := bind_eq_some_iff.mp same
    cases same
    exact ⟨(string_eq_some.mp isId).2, (natural_eq_some isWeight).1⟩

end Motogram.AbTests
