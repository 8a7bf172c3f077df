import Motogram.Location.Latest

/-!
# Whom the sweep removes

The sweep takes the age of a user from the ping key, and an absent key for a user who has
been away too long. The key lives for `userPingSeconds`, a tenth of the threshold the sweep
compares with: the comparison never decides anything, since a ping that is read at all is
younger than the threshold.

`Dated` adds to a state the time of the latest accepted update of each user.
`exec_sweepZombies` says what a sweep does to the shards it reads, `Dated.Pinged` what the
ping keys say along a run, and `sweeps_outdated_iff` in which runs every sweep removes the
users whose latest update is older than the threshold and nobody else.
-/

set_option autoImplicit false

namespace Motogram

open Foundation Program State

/-! ## One sweep -/

/-- The threshold of a sweep at the given time. -/
def zombieThreshold (now : Time) : Int := (now : Int) - (zombieThresholdSeconds * 1000 : Nat)

def State.pingOf (s : State) (userId : UserId) : Option Time :=
  (Expiring.live s.now (s.userPing userId)).map Expiring.value

/-- What the sweep takes for a zombie. -/
def State.isZombie (s : State) (userId : UserId) : Bool :=
  Motogram.isZombie (zombieThreshold s.now) (s.pingOf userId)

/-- `ZRANGE` reads the shard. -/
def State.readsShard (s : State) (shard : String) : Bool :=
  (LocationValue.zrange (s.locationKeys shard)).toBool

/-- The shards a sweep comes to: those of the shard index, up to one it cannot read. -/
def State.sweptShards (s : State) : List String :=
  match LocationValue.smembers (s.locationKeys userLocationShardIndex) with
  | .error _ => []
  | .ok shards => shards.takeWhile s.readsShard

/-- The zombies are gone from the shards, and everything else about positions and pings stays. -/
structure Sweeps (s t : State) (shards : List String) : Prop where
  deployment : t.deployment = s.deployment
  now : t.now = s.now
  userPing : t.userPing = s.userPing
  reads : t.readsShard = s.readsShard
  positions : ∀ shard entry, entry ∈ t.positions shard ↔
    entry ∈ s.positions shard ∧ ¬ (shard ∈ shards ∧ s.isZombie entry.1 = true)

variable {time now : Nat} {s : State} {shard : String}

theorem Sweeps.isZombie {t : State} {shards : List String} (sweeps : Sweeps s t shards) :
    t.isZombie = s.isZombie := by
  funext userId
  rw [State.isZombie, State.isZombie, State.pingOf, State.pingOf, sweeps.now, sweeps.userPing]

theorem Sweeps.nothing (s : State) : Sweeps s s [] :=
  ⟨rfl, rfl, rfl, rfl, fun _ _ =>
    ⟨fun member => ⟨member, fun swept => List.not_mem_nil swept.1⟩, And.left⟩⟩

theorem Sweeps.cons {t u : State} {shard : String} {shards : List String} (first : Sweeps s t [shard])
    (rest : Sweeps t u shards) : Sweeps s u (shard :: shards) where
  deployment := rest.deployment.trans first.deployment
  now := rest.now.trans first.now
  userPing := rest.userPing.trans first.userPing
  reads := rest.reads.trans first.reads
  positions := fun other entry => by
    rw [rest.positions, first.positions, first.isZombie, List.mem_singleton, List.mem_cons]
    tauto

/-! ## A shard -/

theorem exec_findZombies (s : State) (members : List UserId) :
    (findZombies (zombieThreshold s.now) members).exec s = (.ok (members.filter s.isZombie), s) := by
  induction members with
  | nil => rfl
  | cons userId members ih =>
    unfold findZombies Flow.exec
    rw [call_bind, run_call_of_answer _
      (rfl : answer (.getPing userId) s = (s.pingOf userId, s)), done_bind,
      run_bind_of_ok _ ih, List.filter_cons]
    rfl

theorem entries_zremAll_mem {userIds : List UserId} {value : Option LocationValue}
    {entry : UserId × Coordinates} :
    entry ∈ LocationValue.entries (userIds.foldl LocationValue.zrem value) ↔
      entry ∈ LocationValue.entries value ∧ entry.1 ∉ userIds := by
  induction userIds generalizing value with
  | nil => simp
  | cons userId rest ih =>
    rw [List.foldl_cons, ih, entries_zrem, mem_scoreRemove, List.mem_cons, not_or, and_assoc]

theorem zrange_zremAll (userIds : List UserId) (value : Option LocationValue) :
    (LocationValue.zrange (userIds.foldl LocationValue.zrem value)).toBool =
      (LocationValue.zrange value).toBool := by
  induction userIds generalizing value with
  | nil => rfl
  | cons userId rest ih =>
    rw [List.foldl_cons, ih]
    cases value with
    | none => rfl
    | some value =>
      cases value with
      | names members => rfl
      | geo entries =>
        simp only [LocationValue.zrem]
        cases scoreRemove entries userId <;> rfl

theorem foldl_hsetOffline (userIds : List UserId) (s : State) :
    ((userIds.map RedisCommand.hsetOffline).foldl redis s).locationKeys = s.locationKeys ∧
      ((userIds.map RedisCommand.hsetOffline).foldl redis s).userPing = s.userPing := by
  refine List.foldlRecOn (motive := fun t => t.locationKeys = s.locationKeys ∧
    t.userPing = s.userPing) _ redis ⟨rfl, rfl⟩ ?_
  intro t same command member
  obtain ⟨userId, -, rfl⟩ := List.mem_map.mp member
  exact same

theorem cleaned_sweeps {members : List UserId}
    (read : LocationValue.zrange (s.locationKeys shard) = .ok members) :
    Sweeps s ((cleanupCommands shard (members.filter s.isZombie)).foldl redis s) [shard] := by
  obtain ⟨now, deployment⟩ :=
    foldl_redis_clock (cleanupCommands shard (members.filter s.isZombie)) s
  obtain ⟨keys, userPing⟩ := foldl_hsetOffline (members.filter s.isZombie)
    (s.redis (.zremShardAll shard (members.filter s.isZombie)))
  have listed : ∀ entry ∈ s.positions shard, entry.1 ∈ members := by
    intro entry member
    rw [positions] at member
    cases here : s.locationKeys shard with
    | none =>
      rw [here] at member
      cases member
    | some value =>
      rw [here] at member read
      cases value with
      | names names => cases member
      | geo entries =>
        cases read
        exact List.mem_map_of_mem member
  refine ⟨deployment, now, userPing, funext fun other => ?_, fun other entry => ?_⟩
  · rw [readsShard, readsShard, cleanupCommands, List.foldl_cons, keys, redis,
      withLocationKey_locationKeys]
    by_cases same : other = shard
    · subst same
      rw [Function.update_self, zrange_zremAll]
    · rw [Function.update_of_ne same]
  · rw [positions, cleanupCommands, List.foldl_cons, keys, redis,
      withLocationKey_locationKeys, List.mem_singleton]
    by_cases same : other = shard
    · subst same
      rw [Function.update_self, entries_zremAll_mem, List.mem_filter]
      constructor
      · rintro ⟨member, kept⟩
        exact ⟨member, fun swept => kept ⟨listed entry member, swept.2⟩⟩
      · rintro ⟨member, kept⟩
        exact ⟨member, fun swept => kept ⟨rfl, swept.2⟩⟩
    · rw [Function.update_of_ne same]
      exact ⟨fun member => ⟨member, fun swept => same swept.1⟩, And.left⟩

theorem cleaned_of_nobody (s : State) (shard : String) : (cleanupCommands shard []).foldl redis s = s := by
  change s.withLocationKey shard (s.locationKeys shard) = s
  rw [withLocationKey, Function.update_eq_self]

theorem exec_sweepShard_of_reads (reads : s.readsShard shard = true) :
    ∃ counts t, (sweepShard (zombieThreshold s.now) shard).exec s = (.ok counts, t) ∧ Sweeps s t [shard] := by
  rw [readsShard] at reads
  unfold sweepShard Flow.exec
  rw [call_bind, run_call_of_answer _
    (rfl : answer (.zrangeShard shard) s = (LocationValue.zrange (s.locationKeys shard), s)),
    done_bind]
  cases read : LocationValue.zrange (s.locationKeys shard) with
  | error error =>
    rw [read] at reads
    cases reads
  | ok members =>
    have cleaned := cleaned_sweeps read
    dsimp only
    by_cases empty : members.isEmpty = true
    · rw [if_pos empty]
      rw [List.isEmpty_iff.mp empty, List.filter_nil, cleaned_of_nobody] at cleaned
      exact ⟨_, s, rfl, cleaned⟩
    · rw [if_neg empty, run_bind_of_ok _ (exec_findZombies s members)]
      by_cases nobody : (members.filter s.isZombie).isEmpty = true
      · rw [if_pos nobody]
        rw [List.isEmpty_iff.mp nobody, cleaned_of_nobody] at cleaned
        exact ⟨_, s, rfl, cleaned⟩
      · rw [if_neg nobody, run_bind_of_ok _ (exec_pipeline _ s)]
        exact ⟨_, _, rfl, cleaned⟩

theorem exec_sweepShard_of_not_reads (unread : s.readsShard shard = false) :
    ∃ error, (sweepShard (zombieThreshold s.now) shard).exec s = (.error error, s) := by
  rw [readsShard] at unread
  unfold sweepShard Flow.exec
  rw [call_bind, run_call_of_answer _
    (rfl : answer (.zrangeShard shard) s = (LocationValue.zrange (s.locationKeys shard), s))]
  cases read : LocationValue.zrange (s.locationKeys shard) with
  | error error => exact ⟨_, rfl⟩
  | ok members =>
    rw [read] at unread
    cases unread

/-! ## All shards -/

theorem exec_sweepShards (s : State) (shards : List String) :
    Sweeps s ((sweepShards (zombieThreshold s.now) shards).exec s).2 (shards.takeWhile s.readsShard) := by
  induction shards generalizing s with
  | nil => exact .nothing s
  | cons shard shards ih =>
    unfold sweepShards Flow.exec
    rw [List.takeWhile_cons]
    cases reads : s.readsShard shard with
    | false =>
      obtain ⟨error, ran⟩ := exec_sweepShard_of_not_reads reads
      rw [run_bind, show run answer _ s = _ from ran]
      exact .nothing s
    | true =>
      obtain ⟨counts, t, ran, first⟩ := exec_sweepShard_of_reads reads
      have rest := ih t
      rw [first.now, first.reads] at rest
      rw [← exec_wrap (sweepShards (zombieThreshold s.now) shards)
        fun last => (counts.1 + last.1, counts.2 + last.2)] at rest
      rw [run_bind_of_ok _ ran]
      exact first.cons rest

/-- **A sweep removes the zombies from the shards it comes to.** -/
theorem step_sweepZombies_sweeps (s : State) : Sweeps s (step s .sweepZombies) s.sweptShards := by
  rw [step_sweepZombies]
  unfold sweepZombies Flow.exec
  rw [call_bind, run_call_of_answer _ (rfl : answer .dateNow s = (s.now, s)),
    done_bind, call_bind, run_call_of_answer _
      (rfl : answer .smembersShardIndex s =
        (LocationValue.smembers (s.locationKeys userLocationShardIndex), s)), sweptShards]
  cases LocationValue.smembers (s.locationKeys userLocationShardIndex) with
  | error error => exact .nothing s
  | ok shards =>
    have swept := exec_sweepShards s shards
    rw [← exec_wrap (sweepShards (zombieThreshold s.now) shards)
      fun counts => SweepResult.mk counts.1 counts.2 shards.length] at swept
    exact swept

/-! ## The latest update of a user -/

structure Dated where
  state : State
  latest : UserId → Option Time

def Dated.step (t : Dated) (op : Op) : Dated where
  state := Motogram.step t.state op
  latest :=
    match op.accepted? t.state with
    | none => t.latest
    | some update => Function.update t.latest update.userId (some t.state.now)

/-- Before any update has been accepted. -/
def State.dated (s : State) : Dated := ⟨s, fun _ => none⟩

/-- The latest update of the user is older than the threshold. -/
def Dated.Outdated (t : Dated) (userId : UserId) : Prop :=
  ∃ time, t.latest userId = some time ∧ time + zombieThresholdSeconds * 1000 < t.state.now

/-- A sweep now removes from each shard the users whose latest update is older than the
threshold, and keeps all others. -/
def Dated.SweepsOutdated (t : Dated) : Prop :=
  ∀ shard entry, entry ∈ (t.step .sweepZombies).state.positions shard ↔
    entry ∈ t.state.positions shard ∧ ¬ t.Outdated entry.1

/-- An operation of a run of accepted updates and sweeps: any other operation, the lapse of
time included, writes and removes no position and no ping. -/
def Op.LocatesOrSweeps (s : State) (op : Op) : Prop :=
  op = .sweepZombies ∨ (op.accepted? s).isSome = true ∨
    (step s op).locationKeys = s.locationKeys ∧ (step s op).userPing = s.userPing

/-- The update of the user was made at the given time, and its ping is still alive; or it is
older than the threshold. An update at time zero counts as none. -/
def Dated.Decided (t : Dated) (time : Time) : Prop :=
  0 < time ∧ t.state.now < time + userPingSeconds * 1000 ∨
    time + zombieThresholdSeconds * 1000 < t.state.now

/-- Nobody the sweep comes to has made the latest update between the life of a ping and the
threshold, and the sweep comes to everybody who is older. -/
structure Dated.SweepDecides (t : Dated) : Prop where
  decided : ∀ shard ∈ t.state.sweptShards, ∀ userId, t.state.positions.Lists userId shard →
    ∀ time, t.latest userId = some time → t.Decided time
  reached : ∀ shard userId, t.state.positions.Lists userId shard → t.Outdated userId →
    shard ∈ t.state.sweptShards

/-- What the keys say: the ping of a user is that of the latest update, and everybody who is
listed has made one. -/
structure Dated.Pinged (t : Dated) : Prop where
  pings : ∀ userId time, t.latest userId = some time →
    t.state.userPing userId = some ⟨time, some (time + userPingSeconds * 1000)⟩
  listed : ∀ shard userId, t.state.positions.Lists userId shard → ∃ time, t.latest userId = some time

theorem lt_zombieThreshold_iff :
    (time : Int) < zombieThreshold now ↔ time + zombieThresholdSeconds * 1000 < now := by
  unfold zombieThreshold
  omega

theorem not_older_of_alive (alive : now < time + userPingSeconds * 1000) :
    ¬ time + zombieThresholdSeconds * 1000 < now := by
  unfold userPingSeconds at alive
  unfold zombieThresholdSeconds
  omega

theorem isZombie_of_alive (alive : now < time + userPingSeconds * 1000) :
    Motogram.isZombie (zombieThreshold now) (some time) = true ↔ time = 0 := by
  have young : ¬ (time : Int) < zombieThreshold now := fun older =>
    not_older_of_alive alive (lt_zombieThreshold_iff.mp older)
  unfold Motogram.isZombie
  simp only [Option.getD_some, Bool.or_eq_true, decide_eq_true_iff]
  rw [or_iff_left young]

/-- **The sweep takes a user for a zombie exactly when the ping has lapsed.** The threshold
decides nothing: it is ten times as long. -/
theorem Dated.Pinged.isZombie_iff {t : Dated} (pinged : t.Pinged) {userId : UserId} {time : Time}
    (latest : t.latest userId = some time) :
    t.state.isZombie userId = true ↔ ¬ (0 < time ∧ t.state.now < time + userPingSeconds * 1000) := by
  rw [State.isZombie, State.pingOf, pinged.pings userId time latest]
  by_cases alive : t.state.now < time + userPingSeconds * 1000
  · rw [Expiring.live_of_lt alive, Option.map_some, isZombie_of_alive alive, and_iff_left alive,
      Nat.pos_iff_ne_zero, not_not]
  · have lapsed : Expiring.live t.state.now
        (some (Expiring.mk time (some (time + userPingSeconds * 1000)))) = none := by
      rw [Expiring.live, Option.filter_some, if_neg]
      rw [Option.all_some, decide_eq_true_iff]
      exact alive
    rw [lapsed]
    exact ⟨fun _ young => alive young.2, fun _ => rfl⟩

/-- **A sweep is right exactly when the age of every user it comes to is decided, and it
comes to everybody who is older.** -/
theorem Dated.Pinged.sweepsOutdated_iff {t : Dated} (pinged : t.Pinged) : t.SweepsOutdated ↔ t.SweepDecides := by
  have swept := (step_sweepZombies_sweeps t.state).positions
  constructor
  · intro right
    refine ⟨fun shard reached userId lists time latest => ?_, fun shard userId lists outdated => ?_⟩
    · obtain ⟨coordinates, member⟩ := lists
      by_contra undecided
      rw [Dated.Decided, not_or] at undecided
      have zombie := (pinged.isZombie_iff latest).mpr undecided.1
      have stays := (right shard (userId, coordinates)).mpr ⟨member, ?_⟩
      · exact ((swept shard _).mp stays).2 ⟨reached, zombie⟩
      · rintro ⟨other, same, old⟩
        cases latest.symm.trans same
        exact undecided.2 old
    · obtain ⟨coordinates, member⟩ := lists
      by_contra unreached
      have stays := (swept shard (userId, coordinates)).mpr
        ⟨member, fun taken => unreached taken.1⟩
      exact ((right shard _).mp stays).2 outdated
  · rintro ⟨decided, reached⟩ shard entry
    rw [Dated.step, swept]
    refine and_congr_right fun member => not_congr ?_
    have lists : t.state.positions.Lists entry.1 shard := ⟨entry.2, member⟩
    obtain ⟨time, latest⟩ := pinged.listed shard entry.1 lists
    constructor
    · rintro ⟨comes, zombie⟩
      rcases decided shard comes entry.1 lists time latest with young | old
      · exact absurd young ((pinged.isZombie_iff latest).mp zombie)
      · exact ⟨time, latest, old⟩
    · intro outdated
      refine ⟨reached shard entry.1 lists outdated, (pinged.isZombie_iff latest).mpr fun young => ?_⟩
      obtain ⟨other, same, old⟩ := outdated
      cases latest.symm.trans same
      exact not_older_of_alive young.2 old

/-! ## Runs -/

theorem located_userPing (s : State) (update : Update) :
    (s.located update.userId update.dto update.user).userPing =
      Function.update s.userPing update.userId
        (some ⟨s.now, some (s.after userPingSeconds)⟩) := by
  cases named : update.dto.partyId with
  | none => simp [located, updateCommands, positionCommands, named, redis, after]
  | some partyId =>
    simp [located, updateCommands, positionCommands, named, redis, after]

theorem UpdateOutcome.userPing {after : State} {update : Update} {result : UpdateLocationResult}
    (outcome : UpdateOutcome s update.userId update.dto update.user (.ok result) after)
    (accepted : result.accepted = true) :
    after.userPing = Function.update s.userPing update.userId (some ⟨s.now, some (s.after userPingSeconds)⟩) := by
  cases outcome with
  | limited | disabled => cases accepted
  | accepted allowed counted shared =>
    have located := located_userPing (s.pinged update.userId) update
    exact located

theorem step_userPing {op : Op} {update : Update} (accepts : op.accepted? s = some update) :
    (step s op).userPing = Function.update s.userPing update.userId
      (some ⟨s.now, some (s.after userPingSeconds)⟩) := by
  obtain ⟨asks, accepted⟩ := Option.filter_eq_some_iff.mp accepts
  rw [(step_of_asked asks).userPing]
  have outcome : UpdateOutcome s update.userId update.dto update.user
      ((update.flow s.deployment).exec s).1 ((update.flow s.deployment).exec s).2 :=
    updateLocation_outcome s update.userId update.dto update.user
  rw [Update.accepted] at accepted
  cases ran : ((update.flow s.deployment).exec s).1 with
  | error error =>
    rw [ran] at accepted
    cases accepted
  | ok result =>
    rw [ran] at outcome accepted
    exact outcome.userPing accepted

theorem Dated.Pinged.initial (unlocated : ∀ shard, s.positions shard = []) : s.dated.Pinged := by
  refine ⟨fun userId time latest => (nomatch latest), ?_⟩
  rintro shard userId ⟨coordinates, member⟩
  rw [dated, unlocated shard] at member
  cases member

/-- **Every operation of such a run keeps the pings those of the latest updates.** -/
theorem Dated.Pinged.step {t : Dated} (pinged : t.Pinged) {op : Op}
    (permitted : op.LocatesOrSweeps t.state) : (t.step op).Pinged := by
  have kept := step_positions t.state op
  cases accepts : op.accepted? t.state with
  | none =>
    rw [accepts] at kept
    have same : (Motogram.step t.state op).userPing = t.state.userPing := by
      rcases permitted with rfl | accepted | ⟨-, same⟩
      · exact (step_sweepZombies_sweeps t.state).userPing
      · rw [accepts] at accepted
        cases accepted
      · exact same
    have latest : (t.step op).latest = t.latest := by rw [Dated.step, accepts]
    refine ⟨fun userId time made => ?_, fun shard userId lists => ?_⟩
    · rw [latest] at made
      exact (congrFun same userId).trans (pinged.pings userId time made)
    · rw [latest]
      exact pinged.listed shard userId (kept.positions.lists lists)
  | some update =>
    rw [accepts] at kept
    have pings := step_userPing accepts
    have latest : (t.step op).latest =
        Function.update t.latest update.userId (some t.state.now) := by
      rw [Dated.step, accepts]
    refine ⟨fun userId time made => ?_, fun shard userId lists => ?_⟩
    · refine (congrFun pings userId).trans ?_
      rw [latest] at made
      by_cases own : userId = update.userId
      · subst own
        rw [Function.update_self] at made ⊢
        cases made
        rfl
      · rw [Function.update_of_ne own] at made ⊢
        exact pinged.pings userId time made
    · rw [latest]
      by_cases own : userId = update.userId
      · subst own
        exact ⟨_, Function.update_self ..⟩
      · rw [Function.update_of_ne own]
        exact pinged.listed shard userId (kept.lists own lists)

/-- **In a run of accepted updates and sweeps, every sweep removes exactly the users whose
latest update is older than the threshold, exactly when the age of nobody it comes to lies
between the life of a ping and the threshold, and it comes to everybody who is older.** -/
theorem sweeps_outdated_iff (s : State) (unlocated : ∀ shard, s.positions shard = [])
    (ops : List Op)
    (permitted : EachStep Dated.step (fun t op => op.LocatesOrSweeps t.state) s.dated ops) :
    EachStep Dated.step (fun t op => op = .sweepZombies → t.SweepsOutdated) s.dated ops ↔
      EachStep Dated.step (fun t op => op = .sweepZombies → t.SweepDecides) s.dated ops := by
  have keeps : ∀ (t : Dated) (op : Op), t.Pinged → op.LocatesOrSweeps t.state →
      (t.step op).Pinged := fun t op pinged allowed => pinged.step allowed
  have pinged : Throughout Dated.step Dated.Pinged s.dated ops :=
    throughout_of_keeps keeps (.initial unlocated) permitted
  refine eachStep_congr (fun t op held => ?_) pinged
  exact imp_congr_right fun _ => held.sweepsOutdated_iff

/-- A rider whose last update a sweep finds old enough, and one who is still riding. -/
def sweptRun : List Op :=
  [.environment (.elapse 1000), .updateLocation 1 (updateAt 0 0 none),
    .environment (.elapse 301000), .updateLocation 2 (updateAt 1 1 none), .sweepZombies]

theorem sweeps_outdated_small :
    EachStep Dated.step (fun t op => op = .sweepZombies → t.SweepsOutdated)
        smallInstallation.dated sweptRun ↔
      EachStep Dated.step (fun t op => op = .sweepZombies → t.SweepDecides)
        smallInstallation.dated sweptRun :=
  sweeps_outdated_iff smallInstallation (fun _ => rfl) sweptRun
    ⟨.inr (.inr ⟨rfl, rfl⟩), .inr (.inl (by decide +kernel)), .inr (.inr ⟨rfl, rfl⟩),
      .inr (.inl (by decide +kernel)), .inl rfl, trivial⟩

/-- A rider who sends an update and stands still, and a sweep half a minute later. -/
def pauseRun : List Op :=
  [.environment (.elapse 1000), .updateLocation 1 (updateAt 0 0 none),
    .environment (.elapse 30000), .sweepZombies]

/-- The rider is removed, though the update is half a minute old and the threshold is five
minutes. -/
theorem sweep_removes_recent :
    EachStep Dated.step (fun t op => op.LocatesOrSweeps t.state) smallInstallation.dated pauseRun ∧
      ¬ EachStep Dated.step (fun t op => op = .sweepZombies → t.SweepsOutdated)
        smallInstallation.dated pauseRun := by
  refine ⟨⟨.inr (.inr ⟨rfl, rfl⟩), .inr (.inl (by decide +kernel)), .inr (.inr ⟨rfl, rfl⟩), .inl rfl,
    trivial⟩, ?_⟩
  rintro ⟨-, -, -, swept, -⟩
  have stays := (swept rfl "global" (1, ⟨0, 0⟩)).mpr ⟨by decide +kernel, ?_⟩
  · exact absurd stays (by decide +kernel)
  · rintro ⟨time, made, old⟩
    have latest : (follow Dated.step smallInstallation.dated (pauseRun.take 3)).latest 1 =
        some 1000 := by decide +kernel
    cases latest.symm.trans made
    exact absurd old (by decide +kernel)

end Motogram
