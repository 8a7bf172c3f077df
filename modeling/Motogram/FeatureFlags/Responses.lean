import Motogram.FeatureFlags.Values

/-!
# The list of flags against its schema

`GET /feature-flags` answers with every flag that is stored, and the response is held against
`FeatureFlagsListResponseSchema`. That schema refuses a percentage rollout without a percentage and a list
of users without a user; the schema of a write lets both through. So every flag that is written passes
when it is read exactly when each write says what its strategy needs, and is stamped with a date the
library takes for one (`responses_conform_iff`).
-/

set_option autoImplicit false

namespace Motogram.FeatureFlags

open Foundation Program Function Schema Option
open Messaging (jsLength Issue issueIf)

variable {datetime : String → Bool} {dto : UpsertFeatureFlagDto} {s : State}

/-! ## The response -/

/-- The value as it is in the response; what is undefined is left out. -/
def FeatureFlagValueDto.json (value : FeatureFlagValueDto) : Json :=
  .object (Json.present "strategy" (some (.string value.strategy)) ++
    Json.present "percentage" (value.percentage.map .number) ++
    Json.present "userIds" (value.userIds.map fun ids => .array (ids.map .string)) ++
    Json.present "description" (value.description.map .string) ++
    Json.present "updatedAt" (value.updatedAt.map .string) ++
    Json.present "updatedBy" (value.updatedBy.map .string))

def flagJson (flag : FlagKey × FeatureFlagValueDto) : Json :=
  .object [("key", .string flag.1), ("value", flag.2.json)]

def listJson (flags : List (FlagKey × FeatureFlagValueDto)) : Json := .array (flags.map flagJson)

/-- The loop of `list`: the keys in the order they were found in, those without a value left out. -/
def readAll : List FlagKey → Flow (List (FlagKey × FeatureFlagValueDto))
  | [] => pure []
  | flagKey :: rest => do
    let value ← readValue flagKey
    let results ← readAll rest
    pure (match value with
      | none => results
      | some value => (flagKey, value) :: results)

/-- `list`, with the keys that `KEYS feature_flag:*` has found, the prefix taken off. -/
def list (localeCompare : FlagKey → FlagKey → Ordering) (keys : List FlagKey) :
    Flow (List (FlagKey × FeatureFlagValueDto)) := do
  let results ← readAll keys
  pure (results.mergeSort fun first second => (localeCompare first.1 second.1).isLE)

/-- The keys are those of the flags that are stored, each once. -/
structure Enumerates (keys : List FlagKey) (s : State) : Prop where
  nodup : keys.Nodup
  mem_iff : ∀ flagKey, flagKey ∈ keys ↔ (s.hashes flagKey).isSome

/-! ## Runs -/

structure UpsertBody where
  input : Json
  dto : UpsertFeatureFlagDto
  accepts : upsertFeatureFlagSchema (some input) = some dto

/-- What is called, one after the other; `updatedBy` is the user of the request. -/
inductive FlagChange where
  | upsert (body : UpsertBody) (updatedBy : { id : String // isUuid id = true })
  | delete (flagKey : FlagKey)
  | elapse (milliseconds : Nat)

def step (s : State) : FlagChange → State
  | .upsert body updatedBy => ((upsert body.dto (some updatedBy.val)).exec s).2
  | .delete flagKey => ((delete flagKey).exec s).2
  | .elapse milliseconds => s.elapsed milliseconds

/-- No flag is stored. -/
def State.initial (now : Time) : State := ⟨now, fun _ => none, []⟩

structure Conforms (datetime : String → Bool) (localeCompare : FlagKey → FlagKey → Ordering) (s : State) :
    Prop where
  values : ∀ flagKey value, ((readValue flagKey).exec s).1 = .ok (some value) →
    (featureFlagValueSchema datetime (some value.json)).isSome
  list : ∀ keys, Enumerates keys s → ∃ flags, ((list localeCompare keys).exec s).1 = .ok flags ∧
    (featureFlagsListResponseSchema datetime (some (listJson flags))).isSome

/-- The value says what its strategy needs. -/
def UpsertFeatureFlagDto.Complete (dto : UpsertFeatureFlagDto) : Prop :=
  (dto.strategy = .percentage → dto.percentage ≠ none) ∧ (dto.strategy = .userList → dto.userIds.getD [] ≠ [])

/-- A write is complete, and its date is one for the library. -/
def Sound (datetime : String → Bool) (s : State) : FlagChange → Prop
  | .upsert body _ => body.dto.Complete ∧ datetime (toISOString s.now) = true
  | _ => True

/-! ## One value -/

@[simp] theorem enumeration_strategyNames (strategy : FeatureFlagStrategy) :
    enumeration strategyNames (some (.string strategy.text)) = some strategy := by
  cases strategy <;> rfl

theorem FeatureFlagValueDto.field_json (value : FeatureFlagValueDto) :
    value.json.field "strategy" = some (.string value.strategy) ∧
      value.json.field "percentage" = value.percentage.map .number ∧
      value.json.field "userIds" = value.userIds.map (fun ids => .array (ids.map .string)) ∧
      value.json.field "description" = value.description.map .string ∧
      value.json.field "updatedAt" = value.updatedAt.map .string ∧
      value.json.field "updatedBy" = value.updatedBy.map .string := by
  simp [json, Json.field, Json.lookup_append, Json.lookup_present]

/-- The value the schema parses what was written to. -/
def UpsertFeatureFlagDto.parsed (dto : UpsertFeatureFlagDto) (updatedBy : String) (now : Time) :
    FeatureFlagValue where
  strategy := dto.strategy
  percentage := dto.percentage
  userIds := dto.userIds.filter fun ids => ids ≠ []
  description := truthy dto.description
  updatedAt := some (toISOString now)
  updatedBy := some updatedBy

/-- But for its date, what was written has the fields the schema asks for. -/
theorem featureFlagValueObject_json (accepted : dto.Accepted) {updatedBy : String}
    (uuid : isUuid updatedBy = true) (now : Time) :
    featureFlagValueObject datetime (some (dto.value (some updatedBy) now).json) =
      if datetime (toISOString now) = true then some (dto.parsed updatedBy now) else none := by
  obtain ⟨isStrategy, isPercentage, areIds, isDescription, isDate, isUser⟩ :=
    (dto.value (some updatedBy) now).field_json
  have percentage : percentageSchema ((dto.percentage.map fun percentage : Nat => (percentage : ℚ)).map .number) =
      some dto.percentage := by
    rw [map_map]
    exact optional_map (fun percentage : Nat => Json.number percentage) fun number given =>
      natural_of_le (Nat.zero_le _) (accepted.percentage number given)
  have userIds : userIdsSchema ((dto.userIds.filter fun ids => ids ≠ []).map fun ids =>
      .array (ids.map .string)) = some (dto.userIds.filter fun ids => ids ≠ []) := by
    refine optional_map (fun ids : List String => Json.array (ids.map .string)) fun ids given => ?_
    have isIds := (filter_eq_some_iff.mp given).1
    refine array_of_forall (accepted.few ids isIds) fun id member => ?_
    exact string_eq_some.mpr ⟨rfl, accepted.uuids ids isIds id member⟩
  have description : descriptionSchema ((truthy dto.description).map .string) = some (truthy dto.description) := by
    refine optional_map Json.string fun text given => string_eq_some.mpr ⟨rfl, ?_⟩
    exact decide_eq_true (accepted.description text (filter_eq_some_iff.mp given).1)
  have filled : truthy (some updatedBy) = some updatedBy := if_pos (decide_eq_true (isUuid_ne_empty uuid))
  have user : Schema.optional (Schema.string isUuid) ((truthy (some updatedBy)).map .string) =
      some (some updatedBy) := by
    rw [filled]
    exact optional_map Json.string fun id given => string_eq_some.mpr
      ⟨rfl, some.inj given ▸ uuid⟩
  have date : Schema.optional (Schema.string datetime) ((some (toISOString now)).map .string) =
      if datetime (toISOString now) = true then some (some (toISOString now)) else none := by
    by_cases dated : datetime (toISOString now) = true
    · rw [if_pos dated, map_some, Schema.optional, string_eq_some.mpr ⟨rfl, dated⟩, map_some]
    · rw [if_neg dated, map_some, Schema.optional, Schema.string, if_neg dated, map_none]
  have whole : Schema.object (some (dto.value (some updatedBy) now).json) =
      some (dto.value (some updatedBy) now).json := rfl
  simp only [featureFlagValueObject, whole, bind_eq_bind, bind_some, isStrategy, isPercentage, areIds,
    isDescription, isDate, isUser]
  simp only [UpsertFeatureFlagDto.value, enumeration_strategyNames, percentage, userIds, description, user, date,
    bind_some]
  by_cases dated : datetime (toISOString now) = true
  · rw [if_pos dated, if_pos dated]
    rfl
  · rw [if_neg dated, if_neg dated]
    rfl

theorem issueIf_eq_nil {condition : Bool} {path message : String} :
    issueIf condition path message = [] ↔ condition = false := by
  cases condition <;> simp [issueIf]

/-- The refinement has no issue with a value that says what its strategy needs. -/
theorem issues_parsed {updatedBy : String} {now : Time} :
    (dto.parsed updatedBy now).issues = [] ↔ dto.Complete := by
  have users : ((dto.userIds.filter fun ids => ids ≠ []).getD []).isEmpty = (dto.userIds.getD []).isEmpty := by
    cases dto.userIds with
    | none => rfl
    | some ids => cases ids <;> rfl
  rw [FeatureFlagValue.issues, List.append_eq_nil_iff, issueIf_eq_nil, issueIf_eq_nil,
    UpsertFeatureFlagDto.Complete]
  simp only [Bool.and_eq_false_imp, decide_eq_true_eq, isNone_eq_false_iff, ← ne_none_iff_isSome]
  rw [UpsertFeatureFlagDto.parsed, users, List.isEmpty_eq_false_iff]

/-- **What an upsert stores passes the schema of the value exactly when it is complete and dated.** -/
theorem featureFlagValueSchema_json (accepted : dto.Accepted) {updatedBy : String}
    (uuid : isUuid updatedBy = true) (now : Time) :
    (featureFlagValueSchema datetime (some (dto.value (some updatedBy) now).json)).isSome ↔
      dto.Complete ∧ datetime (toISOString now) = true := by
  rw [featureFlagValueSchema, featureFlagValueObject_json accepted uuid]
  by_cases dated : datetime (toISOString now) = true
  · rw [if_pos dated, isSome_filter, any_some, decide_eq_true_eq, issues_parsed]
    exact (and_iff_left dated).symm
  · rw [if_neg dated]
    exact iff_of_false nofun fun both => dated both.2

/-! ## The list -/

theorem isSome_featureFlagDtoSchema {flag : FlagKey × FeatureFlagValueDto} :
    (featureFlagDtoSchema datetime (some (flagJson flag))).isSome ↔
      isSnakeCaseKey flag.1 = true ∧ (featureFlagValueSchema datetime (some flag.2.json)).isSome := by
  have key : featureFlagKeySchema (some (.string flag.1)) =
      if isSnakeCaseKey flag.1 = true then some flag.1 else none := rfl
  have unfolded : featureFlagDtoSchema datetime (some (flagJson flag)) =
      (featureFlagKeySchema (some (.string flag.1))).bind fun key =>
        (featureFlagValueSchema datetime (some flag.2.json)).bind fun value => some (key, value) := rfl
  rw [unfolded, key]
  by_cases valid : isSnakeCaseKey flag.1 = true
  · rw [if_pos valid, bind_some, isSome_bind_some]
    exact (and_iff_right valid).symm
  · rw [if_neg valid]
    exact iff_of_false nofun fun both => valid both.1

theorem isSome_listResponse {flags : List (FlagKey × FeatureFlagValueDto)} :
    (featureFlagsListResponseSchema datetime (some (listJson flags))).isSome ↔
      ∀ flag ∈ flags, isSnakeCaseKey flag.1 = true ∧
        (featureFlagValueSchema datetime (some flag.2.json)).isSome := by
  rw [listJson, featureFlagsListResponseSchema, isSome_mapM, List.forall_mem_map]
  simp only [isSome_featureFlagDtoSchema]

theorem exec_readAll (keys : List FlagKey) (s : State) : (readAll keys).exec s =
    (.ok (keys.filterMap fun flagKey => (s.hashes flagKey).map fun raw => (flagKey, valueOf raw)), s) := by
  induction keys with
  | nil => rfl
  | cons flagKey rest ih =>
    have first : (readValue flagKey).exec s = (.ok ((s.hashes flagKey).map valueOf), s) := rfl
    rw [readAll, Flow.exec, run_bind_of_ok answer first, run_bind_of_ok answer ih]
    cases found : s.hashes flagKey with
    | none | some =>
      rw [List.filterMap_cons, found]
      rfl

theorem exec_list (localeCompare : FlagKey → FlagKey → Ordering) (keys : List FlagKey) (s : State) :
    ∃ flags, ((list localeCompare keys).exec s).1 = .ok flags ∧
      ∀ flag ∈ flags, ∃ raw, s.hashes flag.1 = some raw ∧ flag.2 = valueOf raw := by
  rw [list, Flow.exec, run_bind_of_ok answer (exec_readAll keys s)]
  refine ⟨_, rfl, fun flag member => ?_⟩
  obtain ⟨flagKey, -, found⟩ := List.mem_filterMap.mp (List.mem_mergeSort.mp member)
  obtain ⟨raw, stored, rfl⟩ := map_eq_some_iff.mp found
  exact ⟨raw, stored, rfl⟩

/-! ## Every write -/

def Passing (datetime : String → Bool) (s : State) : Prop :=
  ∀ flagKey raw, s.hashes flagKey = some raw →
    isSnakeCaseKey flagKey = true ∧ (featureFlagValueSchema datetime (some (valueOf raw).json)).isSome

theorem Passing.conforms (passing : Passing datetime s) (localeCompare : FlagKey → FlagKey → Ordering) :
    Conforms datetime localeCompare s where
  values := fun flagKey value read => by
    have same : ((readValue flagKey).exec s).1 = .ok ((s.hashes flagKey).map valueOf) := rfl
    obtain ⟨raw, stored, rfl⟩ := map_eq_some_iff.mp (Except.ok.inj (same.symm.trans read))
    exact (passing flagKey raw stored).2
  list := fun keys _ => by
    obtain ⟨flags, listed, members⟩ := exec_list localeCompare keys s
    refine ⟨flags, listed, isSome_listResponse.mpr fun flag member => ?_⟩
    obtain ⟨raw, stored, isValue⟩ := members flag member
    rw [isValue]
    exact passing flag.1 raw stored

theorem UpsertBody.accepted (body : UpsertBody) : body.dto.Accepted := accepted_of_schema body.accepts

theorem passing_step (s : State) (change : FlagChange) (passing : Passing datetime s)
    (sound : Sound datetime s change) : Passing datetime (step s change) := by
  cases change with
  | upsert body updatedBy =>
    intro flagKey raw stored
    rw [step, hashes_upsert] at stored
    by_cases same : flagKey = body.dto.key
    · subst same
      rw [update_self] at stored
      cases stored
      rw [valueOf_upsertPayload body.accepted]
      exact ⟨body.accepted.key, (featureFlagValueSchema_json body.accepted updatedBy.property s.now).mpr sound⟩
    · rw [update_of_ne same] at stored
      exact passing flagKey raw stored
  | delete flagKey =>
    intro other raw stored
    have without : (step s (.delete flagKey)).hashes = update s.hashes flagKey none := rfl
    obtain ⟨rfl, stored'⟩ | ⟨-, stored'⟩ := eq_of_update stored
    · cases stored'
    · exact passing other raw stored'
  | elapse milliseconds => exact passing

/-- A write that is not sound stores a value that does not pass. -/
theorem not_conforms_step (localeCompare : FlagKey → FlagKey → Ordering) (s : State) (change : FlagChange)
    (unsound : ¬ Sound datetime s change) : ¬ Conforms datetime localeCompare (step s change) := by
  intro conforms
  cases change with
  | upsert body updatedBy =>
    have read := readValue_upsert body.accepted (some updatedBy.val) s
    have passes := conforms.values body.dto.key _ read
    exact unsound ((featureFlagValueSchema_json body.accepted updatedBy.property s.now).mp passes)
  | delete | elapse => exact unsound trivial

/-- **Everything that is read of the flags passes its schema exactly when every write says what its
strategy needs**, and is made on a date the library takes for one. -/
theorem responses_conform_iff (datetime : String → Bool) (localeCompare : FlagKey → FlagKey → Ordering)
    (now : Time) (changes : List FlagChange) :
    Throughout step (Conforms datetime localeCompare) (.initial now) changes ↔
      EachStep step (Sound datetime) (.initial now) changes :=
  throughout_iff_eachStep (fun _ passing => Passing.conforms passing localeCompare) passing_step
    (fun s change _ => not_conforms_step localeCompare s change) (fun _ _ stored => by cases stored) changes

/-! ## A rollout without a percentage -/

/-- `{ key: 'voice_rooms', strategy: 'PERCENTAGE' }` -/
def rolloutBody : UpsertBody where
  input := .object [("key", .string "voice_rooms"), ("strategy", .string "PERCENTAGE")]
  dto := ⟨"voice_rooms", .percentage, none, none, none⟩
  accepts := by decide +kernel

/-- The user of the request. -/
def admin : { id : String // isUuid id = true } := ⟨"3f2504e0-4f89-11d3-9a0c-0305e82c3302", by decide +kernel⟩

/-- The schema of a write accepts it, and what is read of it does not pass, though the library takes every
text for a date. -/
theorem rollout_refused :
    ¬ Conforms (fun _ => true) compare (step (.initial 0) (.upsert rolloutBody admin)) := by
  refine not_conforms_step compare (.initial 0) (.upsert rolloutBody admin) ?_
  rintro ⟨⟨needs, -⟩, -⟩
  exact needs rfl rfl

end Motogram.FeatureFlags
