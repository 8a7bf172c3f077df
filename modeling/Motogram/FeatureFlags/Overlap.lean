import Motogram.Foundation.Staging
import Motogram.FeatureFlags.Service

/-!
# Upserts and evaluations that overlap

An upsert deletes the hash of its flag and then writes it, in two calls. Between them the flag is not
there, and the fields another upsert writes stay when this one does not write them.

A write is clean when it finds no field that it does not write itself; an evaluation is timely when it
finds the flag, or the flag was not there at the start either. In every interleaving of such calls each
evaluation goes by one complete value, that of the start or one that was upserted, and when the upserts
have ended the flag holds one of them (`flags_whole`).
-/

set_option autoImplicit false

namespace Motogram.FeatureFlags

open Foundation Function Pool

variable {Index : Type} {sha1 : String → BitVec 160} {s start : State} {flagKey : FlagKey}

/-! ## The calls -/

/-- An upsert, an evaluation, or the passing of time. -/
inductive FlagOp where
  | upsert (dto : UpsertFeatureFlagDto) (updatedBy : Option String)
  | evaluate (flagKey : FlagKey) (userId : Option String)
  | elapse (milliseconds : Nat)

inductive FlagResult where
  | upserted (value : Option FeatureFlagValueDto)
  | evaluated (evaluation : FeatureFlagEvaluationDto)
  | elapsed
  deriving DecidableEq

def FlagOp.flow (sha1 : String → BitVec 160) : FlagOp → Flow FlagResult
  | .upsert dto updatedBy => do
    let value ← FeatureFlags.upsert dto updatedBy
    pure (.upserted value)
  | .evaluate flagKey userId => do
    let evaluation ← FeatureFlags.evaluate sha1 flagKey userId
    pure (.evaluated evaluation)
  | .elapse milliseconds => do
    let _ : Unit ← call (.elapse milliseconds)
    pure .elapsed

abbrev FlagPool (Index : Type) := Pool Index FlagCall FlagReply Empty FlagResult State

/-- Calls that have not begun; what they upsert is noted from here on. -/
def flagCalls (sha1 : String → BitVec 160) (calls : Index → FlagOp) (s : State) : FlagPool Index where
  threads := fun index => (calls index).flow sha1
  store := { s with upserted := [] }

def FlagOp.Upserts (flagKey : FlagKey) : FlagOp → Prop
  | .upsert dto _ => dto.key = flagKey
  | _ => False

/-! ## Complete values -/

/-- The value of the flag at the start, or one that was upserted. -/
def Complete (start s : State) (flagKey : FlagKey) (hash : Option FlagHash) : Prop :=
  hash = start.hashes flagKey ∨ ∃ payload, (flagKey, payload) ∈ s.upserted ∧ hash = some payload

/-- Every evaluation that has ended went by a complete value; and when the upserts of a flag have
ended, and there was one, the flag holds a value that was upserted. -/
structure FlagsWhole (sha1 : String → BitVec 160) (calls : Index → FlagOp) (start : State)
    (pool : FlagPool Index) : Prop where
  evaluates : ∀ index flagKey userId result, calls index = .evaluate flagKey userId →
    pool.threads index = .done result →
      ∃ hash, Complete start pool.store flagKey hash ∧
        result = .evaluated (evaluation sha1 flagKey userId (hash.map valueOf))
  stores : ∀ flagKey, (∃ index, (calls index).Upserts flagKey) →
    (∀ index, (calls index).Upserts flagKey → (pool.threads index).Ended) →
      ∃ payload, (flagKey, payload) ∈ pool.store.upserted ∧ pool.store.hashes flagKey = some payload

/-- A write finds no field that it does not write itself, and an evaluation finds the flag when it was
there at the start. -/
def CleanAndTimely (calls : Index → FlagOp) (start : State) (pool : FlagPool Index) (index : Index) : Prop :=
  match pool.next? index with
  | some (.hset flagKey payload) =>
    ∀ hash, pool.store.hashes flagKey = some hash → ∀ field, payload field = none → hash field = none
  | some (.hgetall flagKey) =>
    (∃ userId, calls index = .evaluate flagKey userId) →
      pool.store.hashes flagKey = none → start.hashes flagKey = none
  | _ => True

/-! ## Stages -/

/-- How far a call has come. -/
inductive FlagStage where
  | begun
  | drawn (dto : UpsertFeatureFlagDto) (updatedBy : Option String) (now : Time)
  | deleted (dto : UpsertFeatureFlagDto) (updatedBy : Option String) (now : Time)
  | written (dto : UpsertFeatureFlagDto)
  | returned (result : FlagResult)

def FlagStage.program (sha1 : String → BitVec 160) (op : FlagOp) : FlagStage → Flow FlagResult
  | .begun => op.flow sha1
  | .drawn dto updatedBy now => do
    let _ : Bool ← call (.del dto.key)
    let _ : Unit ← call (.hset dto.key (upsertPayload dto updatedBy now))
    let value ← readValue dto.key
    pure (.upserted value)
  | .deleted dto updatedBy now => do
    let _ : Unit ← call (.hset dto.key (upsertPayload dto updatedBy now))
    let value ← readValue dto.key
    pure (.upserted value)
  | .written dto => do
    let value ← readValue dto.key
    pure (.upserted value)
  | .returned result => .done result

/-- One call of Redis: the stage before it and the stage after it, in the store that answers it. -/
inductive FlagMoves (sha1 : String → BitVec 160) :
    FlagOp → State → FlagStage → FlagCall → FlagStage → Prop where
  | draw {s : State} {dto : UpsertFeatureFlagDto} {updatedBy : Option String} :
      FlagMoves sha1 (.upsert dto updatedBy) s .begun .dateNow (.drawn dto updatedBy s.now)
  | delete {op : FlagOp} {s : State} {dto : UpsertFeatureFlagDto} {updatedBy : Option String} {now : Time} :
      FlagMoves sha1 op s (.drawn dto updatedBy now) (.del dto.key) (.deleted dto updatedBy now)
  | write {op : FlagOp} {s : State} {dto : UpsertFeatureFlagDto} {updatedBy : Option String} {now : Time} :
      FlagMoves sha1 op s (.deleted dto updatedBy now) (.hset dto.key (upsertPayload dto updatedBy now))
        (.written dto)
  | read {op : FlagOp} {s : State} {dto : UpsertFeatureFlagDto} :
      FlagMoves sha1 op s (.written dto) (.hgetall dto.key)
        (.returned (.upserted ((s.hashes dto.key).map valueOf)))
  | evaluate {s : State} {flagKey : FlagKey} {userId : Option String} :
      FlagMoves sha1 (.evaluate flagKey userId) s .begun (.hgetall flagKey)
        (.returned (.evaluated (evaluation sha1 flagKey userId ((s.hashes flagKey).map valueOf))))
  | elapse {s : State} {milliseconds : Nat} :
      FlagMoves sha1 (.elapse milliseconds) s .begun (.elapse milliseconds) (.returned .elapsed)

theorem flag_follows (op : FlagOp) (stage : FlagStage) (s : State) :
    Program.Follows answer (FlagStage.program sha1 op) (FlagMoves sha1 op) stage s := by
  cases stage with
  | begun =>
    cases op with
    | upsert dto updatedBy => exact .inr ⟨_, _, _, rfl, .draw, rfl⟩
    | evaluate flagKey userId => exact .inr ⟨_, _, _, rfl, .evaluate, rfl⟩
    | elapse milliseconds => exact .inr ⟨_, _, _, rfl, .elapse, rfl⟩
  | drawn dto updatedBy now => exact .inr ⟨_, _, _, rfl, .delete, rfl⟩
  | deleted dto updatedBy now => exact .inr ⟨_, _, _, rfl, .write, rfl⟩
  | written dto => exact .inr ⟨_, _, _, rfl, .read, rfl⟩
  | returned result => exact .inl rfl

/-- The stage is between the deletion of the flag and the write. -/
def FlagStage.Opens (flagKey : FlagKey) : FlagStage → Prop
  | .deleted dto _ _ => dto.key = flagKey
  | _ => False

/-- The value that is being upserted. -/
def FlagStage.dto? : FlagStage → Option UpsertFeatureFlagDto
  | .drawn dto _ _ | .deleted dto _ _ | .written dto => some dto
  | _ => none

/-- Nothing has been deleted yet. -/
def FlagStage.Early : FlagStage → Prop
  | .begun | .drawn _ _ _ => True
  | _ => False

/-! ## The invariant -/

/-- A flag is as at the start, and no upsert of it has deleted anything; or an upsert has still to
write it; or it holds a value that was upserted. -/
def Rests (calls : Index → FlagOp) (start : State) (stages : Index → FlagStage) (s : State)
    (flagKey : FlagKey) : Prop :=
  (s.hashes flagKey = start.hashes flagKey ∧
      ∀ index, (calls index).Upserts flagKey → (stages index).Early) ∨
    (∃ index, (stages index).Opens flagKey) ∨
      ∃ payload, (flagKey, payload) ∈ s.upserted ∧ s.hashes flagKey = some payload

structure FlagsSound (sha1 : String → BitVec 160) (calls : Index → FlagOp) (start : State)
    (stages : Index → FlagStage) (s : State) : Prop where
  own : ∀ index dto, (stages index).dto? = some dto → ∃ updatedBy, calls index = .upsert dto updatedBy
  whole : ∀ flagKey, s.hashes flagKey = none ∨ Complete start s flagKey (s.hashes flagKey)
  rests : ∀ flagKey, Rests calls start stages s flagKey
  results : ∀ index flagKey userId result, calls index = .evaluate flagKey userId →
    stages index = .returned result → ∃ hash, Complete start s flagKey hash ∧
      result = .evaluated (evaluation sha1 flagKey userId (hash.map valueOf))

theorem Complete.later {hash : Option FlagHash} (complete : Complete start s flagKey hash) {t : State}
    (more : ∀ entry ∈ s.upserted, entry ∈ t.upserted) : Complete start t flagKey hash := by
  obtain before | ⟨payload, member, equal⟩ := complete
  · exact .inl before
  · exact .inr ⟨payload, more _ member, equal⟩

section Moves

variable [DecidableEq Index] {calls : Index → FlagOp} {stages : Index → FlagStage} {index : Index}
  {stage' : FlagStage}

/-- What was in the other stages stays, and what is said of the new one. -/
theorem FlagsSound.others (sound : FlagsSound sha1 calls start stages s) {t : State}
    (more : ∀ entry ∈ s.upserted, entry ∈ t.upserted)
    (own : ∀ dto, stage'.dto? = some dto → ∃ updatedBy, calls index = .upsert dto updatedBy)
    (whole : ∀ flagKey, t.hashes flagKey = none ∨ Complete start t flagKey (t.hashes flagKey))
    (rests : ∀ flagKey, Rests calls start (update stages index stage') t flagKey)
    (result : ∀ flagKey userId result, calls index = .evaluate flagKey userId → stage' = .returned result →
      ∃ hash, Complete start t flagKey hash ∧
        result = .evaluated (evaluation sha1 flagKey userId (hash.map valueOf))) :
    FlagsSound sha1 calls start (update stages index stage') t where
  own := by
    intro other dto here
    by_cases same : other = index
    · subst same
      rw [update_self] at here
      exact own dto here
    · rw [update_of_ne same] at here
      exact sound.own other dto here
  whole := whole
  rests := rests
  results := by
    intro other flagKey userId value called here
    obtain ⟨rfl, here'⟩ | ⟨-, here'⟩ := eq_of_update here
    · exact result flagKey userId value called here'
    · obtain ⟨hash, complete, equal⟩ := sound.results other flagKey userId value called here'
      exact ⟨hash, complete.later more, equal⟩

theorem Rests.keep (rests : Rests calls start stages s flagKey) {t : State}
    (hashes : t.hashes flagKey = s.hashes flagKey) (more : ∀ entry ∈ s.upserted, entry ∈ t.upserted)
    (early : (calls index).Upserts flagKey → (stages index).Early → stage'.Early)
    (closed : ¬ (stages index).Opens flagKey) : Rests calls start (update stages index stage') t flagKey := by
  obtain ⟨before, none⟩ | ⟨other, opens⟩ | ⟨payload, member, stored⟩ := rests
  · refine .inl ⟨hashes.trans before, fun other upserts => ?_⟩
    by_cases same : other = index
    · subst same
      rw [update_self]
      exact early upserts (none other upserts)
    · rw [update_of_ne same]
      exact none other upserts
  · have apart : other ≠ index := by
      intro same
      subst same
      exact closed opens
    refine .inr (.inl ⟨other, ?_⟩)
    rw [update_of_ne apart]
    exact opens
  · exact .inr (.inr ⟨payload, more _ member, hashes.trans stored⟩)

/-- A move that leaves the store of flags. -/
theorem FlagsSound.quiet (sound : FlagsSound sha1 calls start stages s) {t : State}
    (hashes : t.hashes = s.hashes) (log : t.upserted = s.upserted)
    (own : ∀ dto, stage'.dto? = some dto → ∃ updatedBy, calls index = .upsert dto updatedBy)
    (early : ∀ flagKey, (calls index).Upserts flagKey → (stages index).Early → stage'.Early)
    (closed : ∀ flagKey, ¬ (stages index).Opens flagKey)
    (result : ∀ flagKey userId result, calls index = .evaluate flagKey userId → stage' = .returned result →
      ∃ hash, Complete start s flagKey hash ∧
        result = .evaluated (evaluation sha1 flagKey userId (hash.map valueOf))) :
    FlagsSound sha1 calls start (update stages index stage') t := by
  have more : ∀ entry ∈ s.upserted, entry ∈ t.upserted := by
    intro entry member
    rw [log]
    exact member
  refine sound.others more own (fun flagKey => ?_) (fun flagKey => ?_) fun flagKey userId value called here => ?_
  · rw [hashes]
    exact (sound.whole flagKey).imp_right fun complete => complete.later more
  · exact (sound.rests flagKey).keep (by rw [hashes]) more (early flagKey) (closed flagKey)
  · obtain ⟨hash, complete, equal⟩ := result flagKey userId value called here
    exact ⟨hash, complete.later more, equal⟩

/-- **A clean and timely move keeps the invariant.** -/
theorem FlagsSound.move (sound : FlagsSound sha1 calls start stages s) {request : FlagCall}
    (moved : FlagMoves sha1 (calls index) s (stages index) request stage')
    (writes : ∀ flagKey payload, request = .hset flagKey payload →
      ∀ hash, s.hashes flagKey = some hash → ∀ field, payload field = none → hash field = none)
    (reads : ∀ flagKey userId, calls index = .evaluate flagKey userId → request = .hgetall flagKey →
      s.hashes flagKey = none → start.hashes flagKey = none) :
    FlagsSound sha1 calls start (update stages index stage') (answer request s).2 := by
  generalize here : stages index = stage at moved
  generalize called : calls index = op at moved
  cases moved with
  | @draw s dto updatedBy =>
    refine sound.quiet rfl rfl ?_ (fun _ _ _ => trivial) ?_ fun _ _ _ _ => nofun
    · rintro dto' ⟨⟩
      exact ⟨updatedBy, called⟩
    · rw [here]
      exact fun _ => id
  | @delete op s dto updatedBy now =>
    obtain ⟨author, own⟩ := sound.own index dto (by rw [here]; rfl)
    refine sound.others (fun _ => id) ?_ (fun flagKey => ?_) (fun flagKey => ?_) fun _ _ _ _ => nofun
    · rintro dto' ⟨⟩
      exact ⟨author, own⟩
    · by_cases same : flagKey = dto.key
      · subst same
        exact .inl (update_self _ _ _)
      · have hashes : (answer (.del dto.key) s).2.hashes flagKey = s.hashes flagKey :=
          update_of_ne same _ _
        rw [hashes]
        exact sound.whole flagKey
    · by_cases same : flagKey = dto.key
      · refine .inr (.inl ⟨index, ?_⟩)
        rw [update_self]
        exact same.symm
      · refine (sound.rests flagKey).keep (update_of_ne same _ _) (fun _ => id) ?_ ?_
        · rw [own]
          exact fun upserts => absurd upserts.symm same
        · rw [here]
          exact id
  | @write op s dto updatedBy now =>
    have more : ∀ entry ∈ s.upserted,
        entry ∈ (answer (.hset dto.key (upsertPayload dto updatedBy now)) s).2.upserted :=
      fun entry member => List.mem_append_left _ member
    have logged : (dto.key, upsertPayload dto updatedBy now) ∈
        (answer (.hset dto.key (upsertPayload dto updatedBy now)) s).2.upserted :=
      List.mem_append_right _ List.mem_cons_self
    have stored : (answer (.hset dto.key (upsertPayload dto updatedBy now)) s).2.hashes dto.key =
        some (upsertPayload dto updatedBy now) := by
      refine (update_self _ _ _).trans (congrArg some ?_)
      funext field
      rw [FlagHash.set]
      cases written : upsertPayload dto updatedBy now field with
      | some text => rfl
      | none =>
        cases found : s.hashes dto.key with
        | none => rfl
        | some hash => exact writes dto.key _ rfl hash found field written
    obtain ⟨author, own⟩ := sound.own index dto (by rw [here]; rfl)
    refine sound.others more ?_ (fun flagKey => ?_) (fun flagKey => ?_) fun _ _ _ _ => nofun
    · rintro dto' ⟨⟩
      exact ⟨author, own⟩
    · by_cases same : flagKey = dto.key
      · subst same
        exact .inr (.inr ⟨_, logged, stored⟩)
      · have hashes : (answer (.hset dto.key (upsertPayload dto updatedBy now)) s).2.hashes flagKey =
            s.hashes flagKey :=
          update_of_ne same _ _
        rw [hashes]
        exact (sound.whole flagKey).imp_right fun complete => complete.later more
    · by_cases same : flagKey = dto.key
      · subst same
        exact .inr (.inr ⟨_, logged, stored⟩)
      · refine (sound.rests flagKey).keep (update_of_ne same _ _) more ?_ ?_
        · rw [own]
          exact fun upserts => absurd upserts.symm same
        · rw [here]
          exact fun opens => same opens.symm
  | @read op s dto =>
    obtain ⟨author, own⟩ := sound.own index dto (by rw [here]; rfl)
    refine sound.quiet rfl rfl (fun _ => nofun) ?_ ?_ ?_
    · rw [here]
      exact fun _ _ early => early.elim
    · rw [here]
      exact fun _ => id
    · rw [own]
      exact fun _ _ _ => nofun
  | @evaluate s flagKey userId =>
    refine sound.quiet rfl rfl (fun _ => nofun) ?_ ?_ ?_
    · rw [called]
      exact fun _ upserts => upserts.elim
    · rw [here]
      exact fun _ => id
    · rintro flagKey' userId' value called' ⟨⟩
      cases called.symm.trans called'
      refine ⟨s.hashes flagKey, ?_, rfl⟩
      obtain absent | complete := sound.whole flagKey
      · rw [absent]
        exact .inl (reads flagKey userId called rfl absent).symm
      · exact complete
  | elapse =>
    refine sound.quiet rfl rfl (fun _ => nofun) ?_ ?_ ?_
    · rw [called]
      exact fun _ upserts => upserts.elim
    · rw [here]
      exact fun _ => id
    · rw [called]
      exact fun _ _ _ => nofun

end Moves

/-! ## Whole interleavings -/

section Whole

variable {calls : Index → FlagOp}

theorem flagsSound_start (sha1 : String → BitVec 160) (calls : Index → FlagOp) (start : State) :
    FlagsSound sha1 calls start (fun _ => .begun) { start with upserted := [] } where
  own := fun _ _ => nofun
  whole := fun _ => .inr (.inl rfl)
  rests := fun _ => .inl ⟨rfl, fun _ _ => trivial⟩
  results := fun _ _ _ _ _ => nofun

theorem FlagStage.over_of_done {op : FlagOp} {stage : FlagStage} {result : FlagResult}
    (returned : stage.program sha1 op = .done result) : stage = .returned result := by
  cases stage with
  | begun => cases op <;> cases returned
  | returned value =>
    cases returned
    rfl
  | _ => cases returned

/-- A call that has ended is past its first calls and has nothing to write. -/
theorem FlagStage.ended {op : FlagOp} {stage : FlagStage} (ended : (stage.program sha1 op).Ended) :
    ¬ stage.Early ∧ ∀ flagKey, ¬ stage.Opens flagKey := by
  cases stage with
  | begun => cases op <;> cases ended
  | returned result => exact ⟨id, fun _ => id⟩
  | _ => cases ended

theorem FlagsSound.flagsWhole {stages : Index → FlagStage} {pool : FlagPool Index}
    (sound : FlagsSound sha1 calls start stages pool.store)
    (staged : pool.InStages (fun index => FlagStage.program sha1 (calls index)) stages) :
    FlagsWhole sha1 calls start pool where
  evaluates := by
    intro index flagKey userId result called returned
    rw [staged index] at returned
    exact sound.results index flagKey userId result called (FlagStage.over_of_done returned)
  stores := by
    rintro flagKey ⟨index, upserts⟩ ended
    have settled : ∀ other, (calls other).Upserts flagKey →
        ¬ (stages other).Early ∧ ∀ flagKey, ¬ (stages other).Opens flagKey := by
      intro other upserts'
      have past := ended other upserts'
      rw [staged other] at past
      exact FlagStage.ended past
    obtain ⟨-, none⟩ | ⟨other, opens⟩ | stored := sound.rests flagKey
    · exact absurd (none index upserts) (settled index upserts).1
    · cases here : stages other with
      | deleted dto updatedBy now =>
        obtain ⟨author, own⟩ := sound.own other dto (by rw [here]; rfl)
        rw [here] at opens
        have upserts' : (calls other).Upserts flagKey := by
          rw [own]
          exact opens
        have closed := (settled other upserts').2 flagKey
        rw [here] at closed
        exact absurd opens closed
      | _ =>
        rw [here] at opens
        exact opens.elim
    · exact stored

/-- **Evaluations go by complete values and upserts leave one, in every interleaving in which no write
mixes two values and no evaluation misses a flag that was there.** -/
theorem flags_whole [DecidableEq Index] (sha1 : String → BitVec 160) (calls : Index → FlagOp) (start : State)
    (schedule : List Index)
    (steps : EachStep (advance answer) (CleanAndTimely calls start) (flagCalls sha1 calls start) schedule) :
    Throughout (advance answer) (FlagsWhole sha1 calls start) (flagCalls sha1 calls start) schedule := by
  have staged : (flagCalls sha1 calls start).InStages (fun index => FlagStage.program sha1 (calls index))
      fun _ => .begun := fun _ => rfl
  have through := throughout_of_stages (fun index => FlagMoves sha1 (calls index))
    (FlagsSound sha1 calls start) (CleanAndTimely calls start)
    (fun stages s index _ => flag_follows (calls index) (stages index) s)
    (fun pool stages index request stage' _ sound met asked moved => by
      rw [CleanAndTimely, asked] at met
      refine sound.move moved ?_ ?_
      · rintro flagKey payload rfl
        exact met
      · rintro flagKey userId called rfl
        exact met ⟨userId, called⟩)
    staged (flagsSound_start sha1 calls start) steps
  refine through.mono fun pool held => ?_
  obtain ⟨stages, staged', sound⟩ := held
  exact sound.flagsWhole staged'

end Whole

/-! ## An evaluation between the calls of an upsert -/

def mapFlag (strategy : FeatureFlagStrategy) (percentage : Option Nat) (userIds : Option (List String)) :
    UpsertFeatureFlagDto where
  key := "enable_map"
  strategy := strategy
  percentage := percentage
  userIds := userIds
  description := none

/-- The flag is on for everyone. -/
def smallInstallation : State where
  now := 0
  hashes := fun flagKey =>
    if flagKey = "enable_map" then some (upsertPayload (mapFlag .on none none) none 0) else none
  upserted := []

def confirmed : Bool → FlagOp
  | false => .upsert (mapFlag .on none none) none
  | true => .evaluate "enable_map" (some "rider")

/-- Two upserts. -/
def contested : Bool → FlagOp
  | false => .upsert (mapFlag .percentage (some 50) none) none
  | true => .upsert (mapFlag .on none none) none

def noDigest (_ : String) : BitVec 160 := 0

/-- The evaluation before the upsert. -/
theorem flags_whole_small :
    Throughout (advance answer) (FlagsWhole noDigest confirmed smallInstallation)
      (flagCalls noDigest confirmed smallInstallation) [true, false, false, false, false] := by
  refine flags_whole noDigest confirmed smallInstallation _ ⟨?_, trivial, trivial, ?_, ?_, trivial⟩
  · rintro - ⟨⟩
  · rintro hash ⟨⟩
  · rintro ⟨userId, ⟨⟩⟩

/-- An evaluation between the deletion and the write finds no flag, though the flag is on before and
after; and of two upserts that overlap the flag keeps the percentage of one and the strategy of the
other. -/
theorem upsert_interrupted :
    ¬ (∀ schedule, Throughout (advance answer) (FlagsWhole noDigest confirmed smallInstallation)
        (flagCalls noDigest confirmed smallInstallation) schedule) ∧
      ¬ (∀ schedule, Throughout (advance answer) (FlagsWhole noDigest contested smallInstallation)
        (flagCalls noDigest contested smallInstallation) schedule) := by
  constructor
  · intro claim
    have whole := (claim [false, false, true]).last
    obtain ⟨hash, complete, equal⟩ := whole.evaluates true "enable_map" (some "rider")
      (.evaluated ⟨"enable_map", false, .off, none, some "flag_not_found"⟩) rfl rfl
    obtain before | ⟨payload, ⟨⟩, -⟩ := complete
    · rw [before] at equal
      exact absurd equal (by decide +kernel)
  · intro claim
    have whole := (claim [false, false, true, true, false, true, false, true]).last
    obtain ⟨payload, member, stored⟩ := whole.stores "enable_map" ⟨false, rfl⟩ fun index _ => by
      cases index <;> rfl
    have mixed := congrFun (Option.some.inj stored)
    obtain ⟨⟩ | ⟨-, ⟨⟩ | ⟨-, ⟨⟩⟩⟩ := member
    · exact absurd (mixed "strategy") (by decide +kernel)
    · exact absurd (mixed "percentage") (by decide +kernel)

end Motogram.FeatureFlags
