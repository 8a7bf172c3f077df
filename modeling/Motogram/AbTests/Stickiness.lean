import Motogram.AbTests.Service

/-!
# Assignments that stick

The first `assign` for a user while a test is enabled stores the variant, and later ones return it as long
as the test still has it. A test that is disabled answers with its first variant and leaves what is stored;
a test that is written anew, with other weights or in another order, leaves it too. So a variant that every
write keeps is the user's for good (`assignment_sticks`).

What carries this is that no other call writes the name of the assignment: keys have no colon, so the name
tells the key and the user apart, and for this key and user the stored variant is found before anything is
written.
-/

set_option autoImplicit false

namespace Motogram.AbTests

open Foundation Program Table

variable {datetime : String → Bool} {sha1 : String → BitVec 160} {s : State} {key userId x : String}

/-! ## Runs -/

/-- What is called, one after the other. A test is enabled and disabled by writing it. -/
inductive Op (datetime : String → Bool) where
  | upsert (body : UpsertBody datetime) (updatedBy : { id : String // isUuid id = true })
  | assign (key userId : String)
  | elapse (milliseconds : Nat)

def step (sha1 : String → BitVec 160) (s : State) : Op datetime → State
  | .upsert body updatedBy => ((upsert body (some updatedBy.val)).exec s).2
  | .assign key userId => ((assign datetime sha1 key userId).exec s).2
  | .elapse milliseconds => s.elapsed milliseconds

/-- The configuration of a test, as the service reads it. -/
def State.config (datetime : String → Bool) (s : State) (key : String) : Option AbTestConfig :=
  (s.redis.find? (configName key)).bind (readConfig datetime)

/-- The service reads a configuration that is enabled. -/
def Enabled (datetime : String → Bool) (key : String) (s : State) : Prop :=
  ∃ config, ((get datetime key).exec s).1 = .ok (some config) ∧ config.enabled = true

def KeepsVariant (key x : String) (_ : State) : Op datetime → Prop
  | .upsert body _ => body.dto.key = key → x ∈ body.dto.variants.map AbTestVariant.id
  | _ => True

/-- The library takes the date of a write, as `toISOString` writes it, for a date. -/
def Dated (s : State) : Op datetime → Prop
  | .upsert _ _ => datetime (toISOString s.now) = true
  | _ => True

instance (s : State) (op : Op datetime) : Decidable (KeepsVariant key x s op) := by
  unfold KeepsVariant
  split <;> infer_instance

instance (s : State) (op : Op datetime) : Decidable (Dated s op) := by
  unfold Dated
  split <;> infer_instance

/-! ## One call -/

theorem enabled_iff : Enabled datetime key s ↔
    ∃ config, s.config datetime key = some config ∧ config.enabled = true := by
  have read : ((get datetime key).exec s).1 = .ok (s.config datetime key) := rfl
  rw [Enabled, read]
  simp only [Except.ok.injEq]

/-- `assign`, by what is read of the test and of the assignment. -/
theorem exec_assign (key userId : String) (s : State) : (assign datetime sha1 key userId).exec s =
    match s.config datetime key with
    | none => (.error .notFound, s)
    | some config =>
      if config.enabled = false then (.ok (firstId config.variants), s)
      else
        match cachedVariant config (s.redis.find? (assignName key userId)) with
        | some cached => (.ok cached, s)
        | none => (.ok (pickVariant sha1 config userId),
            s.written (assignName key userId) (.text (pickVariant sha1 config userId))) := by
  have read : (get datetime key).exec s = (.ok (s.config datetime key), s) := rfl
  rw [assign, Flow.exec, run_bind_of_ok answer read]
  cases s.config datetime key with
  | none => rfl
  | some config =>
    dsimp only
    split
    · rfl
    · rw [call_bind, run_call]
      simp only [answer, done_bind]
      cases cachedVariant config (s.redis.find? (assignName key userId)) with
      | none | some => rfl

theorem pickFrom_mem {bucket cum : Nat} {variants : List AbTestVariant} {picked : String}
    (picks : pickFrom bucket cum variants = some picked) : picked ∈ variants.map AbTestVariant.id := by
  induction variants generalizing cum with
  | nil => cases picks
  | cons variant rest ih =>
    rw [pickFrom] at picks
    split at picks
    · cases picks
      exact List.mem_map_of_mem (List.mem_cons_self ..)
    · exact List.mem_cons_of_mem _ (ih picks)

theorem pickVariant_mem {config : AbTestConfig} (some_variant : config.variants ≠ []) (userId : String) :
    pickVariant sha1 config userId ∈ config.variants.map AbTestVariant.id := by
  unfold pickVariant
  dsimp only
  cases picks : pickFrom (((sha1 (config.key ++ ":" ++ userId)).extractLsb' 128 32).toNat %
      totalWeight config.variants) 0 config.variants with
  | some picked => exact pickFrom_mem picks
  | none =>
    rw [lastId, List.getLast?_eq_some_getLast some_variant]
    exact List.mem_map_of_mem (List.getLast_mem some_variant)

theorem accepted_of_config {config : AbTestConfig} (read : s.config datetime key = some config) :
    ∃ value, s.redis.find? (configName key) = some (.json value) ∧
      abTestConfigSchema datetime (some value) = some config := by
  obtain ⟨stored, found, parsed⟩ := Option.bind_eq_some_iff.mp read
  cases stored with
  | json value => exact ⟨value, found, parsed⟩
  | text value => cases parsed

theorem cachedVariant_of_mem {config : AbTestConfig} (read : s.config datetime key = some config)
    (offered : x ∈ config.variants.map AbTestVariant.id) : cachedVariant config (some (.text x)) = some x := by
  obtain ⟨value, -, accepts⟩ := accepted_of_config read
  obtain ⟨variant, member, isId⟩ := List.mem_map.mp offered
  have valid := ((accepted_of_schema accepts).2.2.2 variant member).1
  rw [isId] at valid
  exact if_pos ⟨isVariantId_ne_empty valid, offered⟩

theorem mem_of_cachedVariant {config : AbTestConfig} {cached : Option Stored}
    (returns : cachedVariant config cached = some x) :
    cached = some (.text x) ∧ x ∈ config.variants.map AbTestVariant.id := by
  unfold cachedVariant at returns
  split at returns
  · split at returns
    · rename_i found
      cases returns
      exact ⟨rfl, found.2⟩
    · cases returns
  · cases returns

/-! ## Every call -/

/-- The tests that are stored have the keys the schema accepts. -/
def Tidy (s : State) : Prop :=
  ∀ key stored, s.redis.find? (configName key) = some stored → isSnakeCaseKey key = true

/-- `assign` leaves the tests. -/
theorem config_assign (key userId other : String) (s : State) :
    ((assign datetime sha1 key userId).exec s).2.redis.find? (configName other) =
      s.redis.find? (configName other) := by
  rw [exec_assign]
  split
  · rfl
  · split
    · rfl
    · split
      · rfl
      · rw [State.written_redis, find?_put, if_neg (configName_ne_assignName other key userId)]

theorem tidy_step (s : State) (op : Op datetime) (tidy : Tidy s) : Tidy (step sha1 s op) := by
  intro key stored found
  cases op with
  | upsert body updatedBy =>
    have written : (step sha1 s (.upsert body updatedBy)).redis = s.redis.put (configName body.dto.key)
        (.json (storedConfig body.input (toISOString s.now) (some updatedBy.val))) := rfl
    rw [written, find?_put] at found
    by_cases same : configName key = configName body.dto.key
    · rw [configName_injective same]
      exact (accepted_of_schema body.accepts).1
    · rw [if_neg same] at found
      exact tidy key stored found
  | assign other userId =>
    rw [step, config_assign] at found
    exact tidy key stored found
  | elapse milliseconds => exact tidy key stored found

structure Sticks (datetime : String → Bool) (key userId x : String) (s : State) : Prop where
  tidy : Tidy s
  assigned : s.redis.find? (assignName key userId) = some (.text x)
  offered : ∃ config, s.config datetime key = some config ∧ x ∈ config.variants.map AbTestVariant.id

theorem Sticks.valid (sticks : Sticks datetime key userId x s) : isSnakeCaseKey key = true := by
  obtain ⟨config, read, -⟩ := sticks.offered
  obtain ⟨value, found, -⟩ := accepted_of_config read
  exact sticks.tidy key _ found

theorem Sticks.returns (sticks : Sticks datetime key userId x s) (enabled : Enabled datetime key s) :
    ((assign datetime sha1 key userId).exec s).1 = .ok x := by
  obtain ⟨config, read, offered⟩ := sticks.offered
  obtain ⟨other, read', isEnabled⟩ := enabled_iff.mp enabled
  obtain rfl : config = other := Option.some.inj (read.symm.trans read')
  rw [exec_assign, read]
  dsimp only
  rw [if_neg (by rw [isEnabled]; nofun), sticks.assigned, cachedVariant_of_mem read offered]

theorem Sticks.assign (sticks : Sticks datetime key userId x s) (other otherUser : String) :
    Sticks datetime key userId x (step sha1 s (.assign other otherUser : Op datetime)) := by
  refine ⟨tidy_step s _ sticks.tidy, ?_, ?_⟩
  · obtain ⟨config, read, offered⟩ := sticks.offered
    rw [step, exec_assign]
    cases read' : s.config datetime other with
    | none => exact sticks.assigned
    | some config' =>
      dsimp only
      split
      · exact sticks.assigned
      · cases cached : cachedVariant config' (s.redis.find? (assignName other otherUser)) with
        | some held => exact sticks.assigned
        | none =>
          -- for this key and user the variant is found, so the name that is written is another one
          have apart : assignName key userId ≠ assignName other otherUser := by
            intro same
            obtain ⟨value, found, -⟩ := accepted_of_config read'
            obtain ⟨rfl, rfl⟩ := assignName_injective sticks.valid (sticks.tidy other _ found) same
            obtain rfl : config = config' := Option.some.inj (read.symm.trans read')
            rw [sticks.assigned, cachedVariant_of_mem read offered] at cached
            cases cached
          rw [State.written_redis, find?_put, if_neg apart]
          exact sticks.assigned
  · have same : (step sha1 s (.assign other otherUser : Op datetime)).config datetime key =
        s.config datetime key := by
      rw [State.config, step, config_assign, State.config]
    rw [same]
    exact sticks.offered

theorem Sticks.upsert (sticks : Sticks datetime key userId x s) {body : UpsertBody datetime}
    {updatedBy : { id : String // isUuid id = true }} (keeps : KeepsVariant key x s (.upsert body updatedBy))
    (dated : datetime (toISOString s.now) = true) :
    Sticks datetime key userId x (step sha1 s (.upsert body updatedBy)) := by
  have written : (step sha1 s (.upsert body updatedBy)).redis = s.redis.put (configName body.dto.key)
      (.json (storedConfig body.input (toISOString s.now) (some updatedBy.val))) := rfl
  refine ⟨tidy_step s _ sticks.tidy, ?_, ?_⟩
  · rw [written, find?_put, if_neg (configName_ne_assignName body.dto.key key userId).symm]
    exact sticks.assigned
  · by_cases same : body.dto.key = key
    · refine ⟨{ body.dto with createdAt := some (toISOString s.now), updatedBy := some updatedBy.val }, ?_,
        keeps same⟩
      rw [State.config, written, same, find?_put, if_pos rfl]
      exact abTestConfigSchema_stored body.accepts dated updatedBy.property
    · have apart : configName key ≠ configName body.dto.key := fun equal => same (configName_injective equal).symm
      obtain ⟨config, read, offered⟩ := sticks.offered
      refine ⟨config, ?_, offered⟩
      rw [State.config, written, find?_put, if_neg apart]
      exact read

theorem sticks_step (s : State) (op : Op datetime) (sticks : Sticks datetime key userId x s)
    (allowed : KeepsVariant key x s op ∧ Dated s op) : Sticks datetime key userId x (step sha1 s op) := by
  cases op with
  | upsert body updatedBy => exact sticks.upsert allowed.1 allowed.2
  | assign other otherUser => exact sticks.assign other otherUser
  | elapse milliseconds => exact ⟨sticks.tidy, sticks.assigned, sticks.offered⟩

theorem assign_enabled {config : AbTestConfig} (read : s.config datetime key = some config)
    (on : config.enabled = true) (userId : String) :
    (∃ cached, cachedVariant config (s.redis.find? (assignName key userId)) = some cached ∧
        (assign datetime sha1 key userId).exec s = (.ok cached, s)) ∨
      (assign datetime sha1 key userId).exec s = (.ok (pickVariant sha1 config userId),
        s.written (assignName key userId) (.text (pickVariant sha1 config userId))) := by
  rw [exec_assign, read]
  dsimp only
  rw [if_neg (by rw [on]; nofun)]
  cases cachedVariant config (s.redis.find? (assignName key userId)) with
  | some cached => exact .inl ⟨cached, rfl, rfl⟩
  | none => exact .inr rfl

theorem sticks_of_assigned (tidy : Tidy s) (enabled : Enabled datetime key s)
    (assigned : ((assign datetime sha1 key userId).exec s).1 = .ok x) :
    Sticks datetime key userId x (step sha1 s (.assign key userId : Op datetime)) := by
  obtain ⟨config, read, on⟩ := enabled_iff.mp enabled
  have config_after : (step sha1 s (.assign key userId : Op datetime)).config datetime key = some config := by
    rw [State.config, step, config_assign]
    exact read
  obtain ⟨cached, isCached, whole⟩ | picked := assign_enabled read on userId
  · rw [whole] at assigned
    cases assigned
    obtain ⟨stored, offered⟩ := mem_of_cachedVariant isCached
    refine ⟨tidy_step s _ tidy, ?_, config, config_after, offered⟩
    rw [step, whole]
    exact stored
  · rw [picked] at assigned
    cases assigned
    obtain ⟨value, -, accepts⟩ := accepted_of_config read
    have some_variant : config.variants ≠ [] := by
      intro none
      have enough := (accepted_of_schema accepts).2.1
      rw [none] at enough
      exact absurd enough (by decide)
    refine ⟨tidy_step s _ tidy, ?_, config, config_after, pickVariant_mem some_variant userId⟩
    rw [step, picked, State.written_redis, find?_put, if_pos rfl]

/-! ## Every run -/

/-- **A variant that every write keeps is the user's for good.** Once `assign` has returned it while the
test was enabled, it returns it whenever the test is enabled, whatever is written, enabled, disabled or
assigned between. -/
theorem assignment_sticks (sha1 : String → BitVec 160) (now : Time) (earlier later : List (Op datetime))
    (key userId x : String) (enabled : Enabled datetime key (follow (step sha1) (.initial now) earlier))
    (assigned : ((assign datetime sha1 key userId).exec (follow (step sha1) (.initial now) earlier)).1 = .ok x)
    (keeps : EachStep (step sha1) (KeepsVariant key x)
      (follow (step sha1) (.initial now) (earlier ++ [.assign key userId])) later)
    (dated : EachStep (step sha1) Dated
      (follow (step sha1) (.initial now) (earlier ++ [.assign key userId])) later) :
    Throughout (step sha1) (fun t => Enabled datetime key t → ((assign datetime sha1 key userId).exec t).1 = .ok x)
      (follow (step sha1) (.initial now) (earlier ++ [.assign key userId])) later := by
  have tidy : Tidy (follow (step sha1) (.initial now) earlier) :=
    (throughout_of_invariant tidy_step (fun _ _ stored => by cases stored) earlier).last
  rw [follow_append] at keeps dated ⊢
  have sticks := sticks_of_assigned tidy enabled assigned
  exact (throughout_of_keeps sticks_step sticks (keeps.and dated)).mono fun t sticks => sticks.returns

/-- A test with two variants. -/
def feedInput (first second : String) (weight : Nat) (enabled : Bool) : Json :=
  .object [("key", .string "home_feed"),
    ("variants", .array [.object [("id", .string first), ("weight", .number weight)],
      .object [("id", .string second), ("weight", .number (100 - weight))]]),
    ("enabled", .bool enabled)]

def feedConfig (first second : String) (weight : Nat) (enabled : Bool) : AbTestConfig where
  key := "home_feed"
  description := none
  variants := [⟨first, weight, none⟩, ⟨second, 100 - weight, none⟩]
  enabled := enabled
  createdAt := none
  updatedBy := none

/-- The date every write of the run has. -/
def isEpoch (text : String) : Bool := decide (text = "1970-01-01T00:00:00.000Z")

/-- Half of the users are in the control group. -/
def feedHalves : UpsertBody isEpoch :=
  ⟨feedInput "CONTROL" "TREATMENT" 50 true, feedConfig "CONTROL" "TREATMENT" 50 true, by decide +kernel⟩

/-- The test is disabled, the control group has the second place and one percent. -/
def feedDisabled : UpsertBody isEpoch :=
  ⟨feedInput "TREATMENT" "CONTROL" 99 false, feedConfig "TREATMENT" "CONTROL" 99 false, by decide +kernel⟩

/-- It is enabled again as it is. -/
def feedReversed : UpsertBody isEpoch :=
  ⟨feedInput "TREATMENT" "CONTROL" 99 true, feedConfig "TREATMENT" "CONTROL" 99 true, by decide +kernel⟩

def feedRider : { id : String // isUuid id = true } := ⟨"3f2504e0-4f89-11d3-9a0c-0305e82c3301", by decide +kernel⟩

/-- The digest of `home_feed:` and the rider. -/
def feedDigest (_ : String) : BitVec 160 := 0x74c39f1587d824d58f340a3e2e118a28760100e0

/-- The rider stays in the control group when the test is disabled, reordered and enabled. -/
theorem assignment_sticks_small :
    Throughout (step feedDigest)
      (fun t => Enabled isEpoch "home_feed" t →
        ((assign isEpoch feedDigest "home_feed" feedRider).exec t).1 = .ok "CONTROL")
      (follow (step feedDigest) (.initial 0) [.upsert feedHalves feedRider, .assign "home_feed" feedRider])
      [.upsert feedDisabled feedRider, .assign "home_feed" feedRider, .upsert feedReversed feedRider] := by
  refine assignment_sticks feedDigest 0 [.upsert feedHalves feedRider] _ "home_feed" feedRider "CONTROL"
    ⟨{ feedConfig "CONTROL" "TREATMENT" 50 true with
      createdAt := some "1970-01-01T00:00:00.000Z", updatedBy := some feedRider }, ?_, rfl⟩ ?_ ?_ ?_
  · decide +kernel
  · decide +kernel
  · decide +kernel
  · decide +kernel

end Motogram.AbTests
