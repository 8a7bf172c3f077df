import Mathlib.Data.Set.Basic
import Motogram.FeatureFlags.Schemas

/-!
# What an upsert stores is what is read

A flag is flattened to texts: the percentage is written as a numeral, the users are joined with commas,
and an empty list or an empty text is left out. Reading parses the numeral, splits at the commas, trims
and drops what is empty. On what the schema of the write accepts the one undoes the other, whatever the
flag was before (`valueOf_upsertPayload`).

A share of users grows with its percentage, from nobody to everybody: the two ends are decided without
the bucket of the user, and between them the bucket is compared with the percentage.
-/

set_option autoImplicit false

namespace Motogram.FeatureFlags

open Foundation Function Schema Option
open Messaging (jsLength)

variable {dto : UpsertFeatureFlagDto} {updatedBy : Option String} {s : State}

/-! ## What the schema accepts -/

/-- What the schema of a write has found out about a value. -/
structure UpsertFeatureFlagDto.Accepted (dto : UpsertFeatureFlagDto) : Prop where
  key : isSnakeCaseKey dto.key = true
  percentage : ∀ percentage, dto.percentage = some percentage → percentage ≤ 100
  few : ∀ userIds, dto.userIds = some userIds → userIds.length ≤ 1000
  uuids : ∀ userIds, dto.userIds = some userIds → ∀ id ∈ userIds, isUuid id = true
  description : ∀ text, dto.description = some text → jsLength text ≤ 500

variable {ids : List String} {input : Option Json}

theorem percentageSchema_eq_some {percentage : Option Nat} (read : percentageSchema input = some percentage) :
    ∀ value, percentage = some value → value ≤ 100 := by
  intro value isValue
  obtain ⟨-, none⟩ | ⟨number, isNumber, parsed⟩ := optional_eq_some read
  · rw [none] at isValue
    cases isValue
  · obtain rfl : number = value := Option.some.inj (isNumber.symm.trans isValue)
    exact (natural_eq_some parsed).2

theorem userIdsSchema_eq_some {userIds : Option (List String)} (read : userIdsSchema input = some userIds) :
    ∀ ids, userIds = some ids → ids.length ≤ 1000 ∧ ∀ id ∈ ids, isUuid id = true := by
  intro ids isIds
  obtain ⟨-, none⟩ | ⟨list, isList, parsed⟩ := optional_eq_some read
  · rw [none] at isIds
    cases isIds
  · obtain rfl : list = ids := Option.some.inj (isList.symm.trans isIds)
    obtain ⟨short, members⟩ := array_eq_some parsed
    refine ⟨short, fun id member => ?_⟩
    obtain ⟨json, same⟩ := members id member
    exact (string_eq_some.mp same).2

theorem descriptionSchema_eq_some {description : Option String}
    (read : descriptionSchema input = some description) :
    ∀ text, description = some text → jsLength text ≤ 500 := by
  intro text isText
  obtain ⟨-, none⟩ | ⟨given, isGiven, parsed⟩ := optional_eq_some read
  · rw [none] at isText
    cases isText
  · obtain rfl : given = text := Option.some.inj (isGiven.symm.trans isText)
    exact of_decide_eq_true (string_eq_some.mp parsed).2

theorem accepted_of_schema (read : upsertFeatureFlagSchema input = some dto) : dto.Accepted := by
  obtain ⟨value, -, read⟩ := bind_eq_some_iff.mp read
  obtain ⟨key, isKey, read⟩ := bind_eq_some_iff.mp read
  obtain ⟨strategy, -, read⟩ := bind_eq_some_iff.mp read
  obtain ⟨percentage, isPercentage, read⟩ := bind_eq_some_iff.mp read
  obtain ⟨userIds, areIds, read⟩ := bind_eq_some_iff.mp read
  obtain ⟨description, isDescription, read⟩ := bind_eq_some_iff.mp read
  cases read
  refine ⟨(string_eq_some.mp isKey).2, percentageSchema_eq_some isPercentage, ?_, ?_,
    descriptionSchema_eq_some isDescription⟩
  · exact fun ids same => (userIdsSchema_eq_some areIds ids same).1
  · exact fun ids same => (userIdsSchema_eq_some areIds ids same).2

/-! ## Reading back -/

theorem truthy_truthy (text : Option String) : truthy (truthy text) = truthy text := by
  simp [truthy, filter_filter]

theorem finiteNumber_percentage {percentage : Nat} (small : percentage ≤ 100) :
    finiteNumber (toString percentage) = some (percentage : ℚ) := by
  have each : ∀ value : Nat, value < 101 → finiteNumber (toString value) = some (value : ℚ) := by decide +kernel
  exact each percentage (Nat.lt_succ_of_le small)

/-- A text without white space is trimmed to itself. -/
theorem jsTrim_of_isUuid {text : String} (valid : isUuid text = true) : jsTrim text = text := by
  have stays : ∀ letters : List Char, (∀ letter ∈ letters, isJsSpace letter = false) →
      letters.dropWhile isJsSpace = letters := by
    intro letters none
    cases letters with
    | nil => rfl
    | cons letter rest => rw [List.dropWhile_cons_of_neg (by simp [none letter (List.mem_cons_self ..)])]
  have none : ∀ letter ∈ text.toList, isJsSpace letter = false :=
    fun letter member => not_space_of_uuidLetter (uuidLetter_of_isUuid valid letter member)
  rw [jsTrim, stays _ none, stays _ fun letter member => none letter (List.mem_reverse.mp member),
    List.reverse_reverse, String.ofList_toList]

theorem splitAtCommas_joined (some_id : ids ≠ []) (uuids : ∀ id ∈ ids, isUuid id = true) :
    splitAtCommas (joined ids) = ids := by
  have free : ∀ letters ∈ ids.map String.toList, ',' ∉ letters := by
    intro letters member
    obtain ⟨id, among, rfl⟩ := List.mem_map.mp member
    exact not_mem_of_isUuid (uuids id among) (by decide)
  rw [splitAtCommas, joined, String.toList_ofList, List.splitOn_intercalate ',' free (by simpa using some_id),
    List.map_map]
  exact List.map_id'' (fun id => String.ofList_toList) ids

theorem joined_ne_empty (some_id : ids ≠ []) (uuids : ∀ id ∈ ids, isUuid id = true) : joined ids ≠ "" := by
  intro empty
  have whole := splitAtCommas_joined some_id uuids
  rw [empty] at whole
  have first : ids = [""] := whole.symm
  exact isUuid_ne_empty (uuids "" (by rw [first]; exact List.mem_singleton_self _)) rfl

theorem users_joined (some_id : ids ≠ []) (uuids : ∀ id ∈ ids, isUuid id = true) :
    ((splitAtCommas (joined ids)).map jsTrim).filter (fun id => id ≠ "") = ids := by
  rw [splitAtCommas_joined some_id uuids]
  have trimmed : ids.map jsTrim = ids := by
    conv_rhs => rw [← List.map_id ids]
    exact List.map_congr_left fun id member => jsTrim_of_isUuid (uuids id member)
  rw [trimmed, List.filter_eq_self]
  exact fun id member => decide_eq_true (isUuid_ne_empty (uuids id member))

theorem toISOString_ne_empty (time : Time) : toISOString time ≠ "" := by
  intro empty
  have last := congrArg (fun text => text.toList.getLast?) empty
  simp [toISOString] at last

/-- The value that is read of what an upsert writes. -/
def UpsertFeatureFlagDto.value (dto : UpsertFeatureFlagDto) (updatedBy : Option String) (now : Time) :
    FeatureFlagValueDto where
  strategy := dto.strategy.text
  percentage := dto.percentage.map fun percentage : Nat => (percentage : ℚ)
  userIds := dto.userIds.filter fun ids => ids ≠ []
  description := truthy dto.description
  updatedAt := some (toISOString now)
  updatedBy := truthy updatedBy

/-- **Reading undoes writing**, on the values the schema accepts. -/
theorem valueOf_upsertPayload (accepted : dto.Accepted) (updatedBy : Option String) (now : Time) :
    valueOf (upsertPayload dto updatedBy now) = dto.value updatedBy now := by
  have strategy : (truthy (some dto.strategy.text)).getD "OFF" = dto.strategy.text := by
    cases dto.strategy <;> rfl
  have percentage : (dto.percentage.map toString).map (fun text => (finiteNumber text).getD 0) =
      dto.percentage.map fun percentage : Nat => (percentage : ℚ) := by
    cases given : dto.percentage with
    | none => rfl
    | some number =>
      rw [map_some, map_some, finiteNumber_percentage (accepted.percentage number given)]
      rfl
  have userIds : (truthy ((dto.userIds.filter fun ids => ids ≠ []).map joined)).map (fun text =>
      ((splitAtCommas text).map jsTrim).filter fun id => id ≠ "") = dto.userIds.filter fun ids => ids ≠ [] := by
    cases given : dto.userIds with
    | none => rfl
    | some ids =>
      by_cases none_given : ids = []
      · subst none_given
        rfl
      · have uuids := accepted.uuids ids given
        have kept : Option.filter (fun ids => decide (ids ≠ [])) (some ids) = some ids :=
          if_pos (decide_eq_true none_given)
        have filled : truthy (some (joined ids)) = some (joined ids) :=
          if_pos (decide_eq_true (joined_ne_empty none_given uuids))
        rw [kept, map_some, filled, map_some, users_joined none_given uuids]
  have dated : truthy (some (toISOString now)) = some (toISOString now) :=
    if_pos (decide_eq_true (toISOString_ne_empty now))
  have described := truthy_truthy dto.description
  have named := truthy_truthy updatedBy
  show FeatureFlagValueDto.mk _ _ _ _ _ _ = FeatureFlagValueDto.mk _ _ _ _ _ _
  rw [FeatureFlagValueDto.mk.injEq]
  exact ⟨strategy, percentage, userIds, described, dated, named⟩

theorem hashes_upsert (dto : UpsertFeatureFlagDto) (updatedBy : Option String) (s : State) :
    ((upsert dto updatedBy).exec s).2.hashes =
      update s.hashes dto.key (some (upsertPayload dto updatedBy s.now)) := by
  have whole : ((upsert dto updatedBy).exec s).2 =
      (s.without dto.key).written dto.key (upsertPayload dto updatedBy s.now) := rfl
  rw [whole, State.written_hashes, State.without_hashes, update_self, update_idem]
  congr 2
  funext field
  exact or_none

theorem readValue_upsert (accepted : dto.Accepted) (updatedBy : Option String) (s : State) :
    ((readValue dto.key).exec ((upsert dto updatedBy).exec s).2).1 = .ok (some (dto.value updatedBy s.now)) := by
  have read : ((readValue dto.key).exec ((upsert dto updatedBy).exec s).2).1 =
      .ok ((((upsert dto updatedBy).exec s).2.hashes dto.key).map valueOf) := rfl
  rw [read, hashes_upsert, update_self, map_some, valueOf_upsertPayload accepted]

/-! ## Shares of users -/

section Shares

variable (sha1 : String → BitVec 160)

/-- The callers that the flag is enabled for after an upsert. A caller may give no user. -/
def enabledUsers (dto : UpsertFeatureFlagDto) (updatedBy : Option String) (s : State) : Set (Option String) :=
  {userId | ∃ evaluation, ((evaluate sha1 dto.key userId).exec ((upsert dto updatedBy).exec s).2).1 =
    .ok evaluation ∧ evaluation.enabled = true}

variable {sha1}

theorem mem_enabledUsers (accepted : dto.Accepted) {userId : Option String} :
    userId ∈ enabledUsers sha1 dto updatedBy s ↔
      (judged sha1 dto.key userId (dto.value updatedBy s.now)).enabled = true := by
  have evaluated : ((evaluate sha1 dto.key userId).exec ((upsert dto updatedBy).exec s).2).1 =
      .ok (evaluation sha1 dto.key userId ((((upsert dto updatedBy).exec s).2.hashes dto.key).map valueOf)) := rfl
  rw [hashes_upsert, update_self, map_some, valueOf_upsertPayload accepted]
    at evaluated
  constructor
  · rintro ⟨result, returned, enabled⟩
    rw [← Except.ok.inj (evaluated.symm.trans returned)] at enabled
    exact enabled
  · exact fun enabled => ⟨_, evaluated, enabled⟩

/-- Who is enabled under a percentage. -/
def InShare (sha1 : String → BitVec 160) (flagKey : FlagKey) (percentage : Nat) (userId : Option String) :
    Prop :=
  100 ≤ percentage ∨ ∃ id, truthy userId = some id ∧ hashBucket sha1 flagKey id < percentage

variable {flagKey : FlagKey} {userId : Option String}

theorem enabled_iff_inShare {value : FeatureFlagValueDto} {percentage : Nat}
    (strategy : value.strategy = FeatureFlagStrategy.percentage.text)
    (isPercentage : value.percentage = some (percentage : ℚ)) :
    (judged sha1 flagKey userId value).enabled = true ↔ InShare sha1 flagKey percentage userId := by
  unfold judged InShare
  rw [strategy, FeatureFlagStrategy.ofText?_text, isPercentage]
  dsimp only [getD_some]
  have nobody : (percentage : ℚ) ≤ 0 ↔ percentage = 0 := by
    rw [← Nat.cast_zero, Nat.cast_le, Nat.le_zero]
  have everybody : (100 : ℚ) ≤ percentage ↔ 100 ≤ percentage := Nat.ofNat_le_cast
  simp only [nobody, everybody]
  by_cases none : percentage = 0
  · subst none
    simp
  · rw [if_neg none]
    by_cases all : 100 ≤ percentage
    · rw [if_pos all]
      exact iff_of_true rfl (.inl all)
    · cases truthy userId with
      | none => simp [all]
      | some id => simp [all, Nat.cast_lt]

theorem InShare.mono {less more : Nat} (le : less ≤ more) (inShare : InShare sha1 flagKey less userId) :
    InShare sha1 flagKey more userId := by
  obtain all | ⟨id, isId, below⟩ := inShare
  · exact .inl (all.trans le)
  · exact .inr ⟨id, isId, below.trans_le le⟩

theorem not_inShare_zero : ¬ InShare sha1 flagKey 0 userId := by
  rintro (all | ⟨id, -, below⟩)
  · cases all
  · cases below

theorem enabledUsers_eq (accepted : dto.Accepted) (strategy : dto.strategy = .percentage) {percentage : Nat}
    (isPercentage : dto.percentage = some percentage) :
    enabledUsers sha1 dto updatedBy s = {userId | InShare sha1 dto.key percentage userId} := by
  ext userId
  rw [mem_enabledUsers accepted]
  refine enabled_iff_inShare ?_ ?_
  · rw [UpsertFeatureFlagDto.value, strategy]
  · rw [UpsertFeatureFlagDto.value, isPercentage]
    rfl

/-- **What is upserted is read back, and shares grow with their percentage.** After an upsert the flag
reads as the value that was given, whatever it was before; and of two percentages the smaller one enables
the flag for no caller the other does not, 0 for nobody and 100 for everybody. -/
theorem upsert_reads_back (sha1 : String → BitVec 160) {input : Json} {dto : UpsertFeatureFlagDto}
    (accepts : upsertFeatureFlagSchema (some input) = some dto) (updatedBy : Option String) (s : State) :
    ((readValue dto.key).exec ((upsert dto updatedBy).exec s).2).1 =
        .ok (some
          { strategy := dto.strategy.text
            percentage := dto.percentage.map fun percentage : Nat => (percentage : ℚ)
            userIds := dto.userIds.filter fun ids => ids ≠ []
            description := dto.description.filter fun text => text ≠ ""
            updatedAt := some (toISOString s.now)
            updatedBy := updatedBy.filter fun text => text ≠ "" }) ∧
      (dto.strategy = .percentage → ∀ percentage, dto.percentage = some percentage →
        (∀ otherInput other otherUpdatedBy otherState otherPercentage,
          upsertFeatureFlagSchema (some otherInput) = some other → other.key = dto.key →
            other.strategy = .percentage → other.percentage = some otherPercentage →
              percentage ≤ otherPercentage →
                enabledUsers sha1 dto updatedBy s ⊆ enabledUsers sha1 other otherUpdatedBy otherState) ∧
        (percentage = 0 → enabledUsers sha1 dto updatedBy s = ∅) ∧
        (percentage = 100 → enabledUsers sha1 dto updatedBy s = Set.univ)) := by
  have accepted := accepted_of_schema accepts
  refine ⟨readValue_upsert accepted updatedBy s, ?_⟩
  intro strategy percentage isPercentage
  rw [enabledUsers_eq accepted strategy isPercentage]
  refine ⟨?_, ?_, ?_⟩
  · intro otherInput other otherUpdatedBy otherState otherPercentage accepts' sameKey strategy' isPercentage' le
    rw [enabledUsers_eq (accepted_of_schema accepts') strategy' isPercentage', sameKey]
    exact fun userId inShare => inShare.mono le
  · rintro rfl
    exact Set.eq_empty_iff_forall_notMem.mpr fun userId => not_inShare_zero
  · rintro rfl
    exact Set.eq_univ_iff_forall.mpr fun userId => .inl le_rfl

def shareBody (percentage : ℚ) : Json :=
  .object [("key", .string "voice_rooms"), ("strategy", .string "PERCENTAGE"),
    ("percentage", .number percentage),
    ("userIds", .array [.string "3f2504e0-4f89-11d3-9a0c-0305e82c3301"]), ("description", .string "")]

/-- What the schema makes of it. -/
def shareDto (percentage : Nat) : UpsertFeatureFlagDto where
  key := "voice_rooms"
  strategy := .percentage
  percentage := some percentage
  userIds := some ["3f2504e0-4f89-11d3-9a0c-0305e82c3301"]
  description := some ""

/-- The digest of `voice_rooms:` and the user. -/
def riderDigest (_ : String) : BitVec 160 := 0x5d4d6e8a4b5044d36293e2bce6fd9d410c5e51b0

/-- A share of 30 percent, and one of 60. -/
theorem upsert_reads_back_small :
    ((readValue "voice_rooms").exec ((upsert (shareDto 30) none).exec ⟨0, fun _ => none, []⟩).2).1 =
        .ok (some ⟨"PERCENTAGE", some 30, some ["3f2504e0-4f89-11d3-9a0c-0305e82c3301"], none,
          some "1970-01-01T00:00:00.000Z", none⟩) ∧
      enabledUsers riderDigest (shareDto 30) none ⟨0, fun _ => none, []⟩ ⊆
        enabledUsers riderDigest (shareDto 60) none ⟨0, fun _ => none, []⟩ := by
  have accepts : upsertFeatureFlagSchema (some (shareBody 30)) = some (shareDto 30) := by decide +kernel
  have accepts' : upsertFeatureFlagSchema (some (shareBody 60)) = some (shareDto 60) := by decide +kernel
  obtain ⟨reads, shares⟩ := upsert_reads_back riderDigest accepts none ⟨0, fun _ => none, []⟩
  have dated : toISOString 0 = "1970-01-01T00:00:00.000Z" := by decide +kernel
  constructor
  · refine reads.trans ?_
    rw [dated]
    rfl
  · obtain ⟨grows, -, -⟩ := shares rfl 30 rfl
    exact grows _ _ none _ 60 accepts' rfl rfl rfl (by decide)

end Shares

end Motogram.FeatureFlags
