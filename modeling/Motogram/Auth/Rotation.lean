import Mathlib.Data.Fintype.Basic
import Motogram.Auth.Sessions

/-!
# A refresh token is redeemed once

`refresh` looks the key of the token up and deletes it in two calls. Two refreshes
of one token that both look before either deletes are both given a new pair
(`token_redeemed_twice`).

When every refresh that finds its key finds no other refresh of the same token
between its lookup and its deletion, no token is redeemed twice, in any state of
any interleaving of refreshes, logouts, logins and the calls that drop every
session (`tokens_redeemed_once`). What carries the proof is that a key is set only
once: its identifier is fresh when it is drawn, and the thread that has drawn it
is the only one to set it.
-/

set_option autoImplicit false

namespace Motogram.Auth

open Foundation Program Function Pool

variable {Index : Type}

def SessionCall.Presents (key : RefreshKey) (request : SessionCall) : Prop :=
  request.own.map RefreshToken.key = some key

instance (key : RefreshKey) (request : SessionCall) : Decidable (request.Presents key) :=
  inferInstanceAs (Decidable (_ = _))

def Redeems (calls : Index → SessionCall) (key : RefreshKey)
    (pool : Pool Index AuthCall AuthReply ServiceError (Option TokenPair) State) (index : Index) :
    Prop :=
  (calls index).Presents key ∧ ∃ pair, pool.threads index = .done (some pair)

instance (calls : Index → SessionCall) (key : RefreshKey)
    (pool : Pool Index AuthCall AuthReply ServiceError (Option TokenPair) State) (index : Index) :
    Decidable (Redeems calls key pool index) :=
  decidable_of_iff ((calls index).Presents key ∧
      ((pool.threads index).value?.bind id).isSome) (by
    rw [Redeems]
    cases pool.threads index with
    | done value => cases value <;> simp [value?]
    | fail error => simp [value?]
    | call request next => simp [value?])

def RedeemedOnce (calls : Index → SessionCall)
    (pool : Pool Index AuthCall AuthReply ServiceError (Option TokenPair) State) : Prop :=
  ∀ key first second, Redeems calls key pool first → Redeems calls key pool second → first = second

/-- A refresh that finds the key of a token of an active user finds no other refresh
of the token between its lookup and its deletion. -/
def ChecksAlone (calls : Index → SessionCall)
    (pool : Pool Index AuthCall AuthReply ServiceError (Option TokenPair) State) (index : Index) :
    Prop :=
  match pool.next? index with
  | some (.getRefreshToken key) =>
    (pool.store.refreshTokens.get? pool.store.now key).isSome →
      pool.store.activeUser key.userId → ∀ other, other ≠ index → (calls other).Presents key →
        pool.next? other ≠ some (.delRefreshToken key)
  | _ => True

instance [Fintype Index] [DecidableEq Index] (calls : Index → SessionCall)
    (pool : Pool Index AuthCall AuthReply ServiceError (Option TokenPair) State) (index : Index) :
    Decidable (ChecksAlone calls pool index) := by
  unfold ChecksAlone
  split <;> infer_instance

/-- The identifiers of the stored keys are below the counter they are drawn from. -/
def State.FreshKeys (s : State) : Prop :=
  ∀ time key, (s.refreshTokens.get? time key).isSome → key.jti < s.fresh

/-! ## What a stage has done -/

/-- The identifier a thread has drawn and not yet set. -/
def Stage.drawn? : Stage → Option Jti
  | .sign _ _ _ jti => some jti
  | .countersign _ _ _ jti _ => some jti
  | .store key _ => some key.jti
  | _ => none

/-- The user has been found active. -/
def Stage.Issuing : Stage → Prop
  | .draw _ _ _ => True
  | .sign _ _ _ _ => True
  | .countersign _ _ _ _ _ => True
  | .store _ _ => True
  | .finished (.ok (some _)) => True
  | _ => False

/-- The key has been deleted. -/
def Stage.Spent : Stage → Prop
  | .lookup _ => True
  | stage => stage.Issuing

/-- The key has been found. -/
def Stage.Committed : Stage → Prop
  | .spend _ => True
  | stage => stage.Spent

theorem Stage.Spent.committed {stage : Stage} (spent : stage.Spent) : stage.Committed := by
  cases stage <;> trivial

theorem Stage.Issuing.spent {stage : Stage} (issuing : stage.Issuing) : stage.Spent := by
  cases stage <;> trivial

theorem Stage.Committed.cases {stage : Stage} (committed : stage.Committed) :
    stage.Spent ∨ ∃ token, stage = .spend token := by
  cases stage with
  | spend token => exact .inr ⟨token, rfl⟩
  | _ => exact .inl committed

section Moves

variable {role : Role} {s : State} {stage stage' : Stage} {request : AuthCall}

theorem Lands.drawn (lands : Lands role stage) : stage.drawn? = none := by
  cases lands <;> rfl

theorem Lands.not_committed (lands : Lands role stage) (stays : ¬ role.logsIn) : ¬ stage.Committed := by
  cases lands with
  | draw _ _ _ logsIn => exact absurd logsIn stays
  | _ => exact id

theorem Moves.drawn (moves : Moves role s stage request stage') {jti : Jti} (drawn : stage'.drawn? = some jti) :
    stage.drawn? = some jti ∨ (jti = s.fresh ∧ (answer request s).2.fresh = s.fresh + 1) := by
  cases moves with
  | quiet quiet lands =>
    rw [lands.drawn] at drawn
    cases drawn
  | draw =>
    cases drawn
    exact .inr ⟨rfl, rfl⟩
  | sign | countersign => exact .inl drawn
  | _ => cases drawn

/-- A new key is the one the thread has drawn, which it lets go of. -/
theorem Moves.present (moves : Moves role s stage request stage') {time : Nat} {key : RefreshKey}
    (present : ((answer request s).2.refreshTokens.get? time key).isSome) :
    (s.refreshTokens.get? time key).isSome ∨ (stage.drawn? = some key.jti ∧ stage'.drawn? = none) := by
  by_cases adds : ∃ key seconds, request = .setRefreshToken key seconds
  · obtain ⟨other, seconds, rfl⟩ := adds
    cases moves with
    | quiet quiet lands => cases quiet
    | store =>
      simp only [answer, State.withRefreshTokens_refreshTokens, Keyspace.get?_set] at present
      split at present
      · rename_i same
        exact .inr ⟨by rw [same]; rfl, rfl⟩
      · exact .inl present
  · exact .inl (present_of_answer (fun key seconds set => adds ⟨key, seconds, set⟩) present)

theorem Moves.commits (moves : Moves role s stage request stage') (stays : ¬ role.logsIn)
    (committed : stage'.Committed) :
    stage.Committed ∨ ∃ token, stage = .check token ∧ request = .getRefreshToken token.key ∧
      (s.refreshTokens.get? s.now token.key).isSome := by
  cases moves with
  | quiet quiet lands => exact absurd committed (lands.not_committed stays)
  | pass present => exact .inr ⟨_, rfl, rfl, present⟩
  | refuse | inactive | listNone | list | drop => cases committed
  | _ => exact .inl trivial

theorem Moves.spends (moves : Moves role s stage request stage') (stays : ¬ role.logsIn) (spent : stage'.Spent) :
    stage.Spent ∨ ∃ token, stage = .spend token ∧ request = .delRefreshToken token.key := by
  cases moves with
  | quiet quiet lands => exact absurd spent.committed (lands.not_committed stays)
  | spend => exact .inr ⟨_, rfl, rfl⟩
  | pass | refuse | inactive | listNone | list | drop => cases spent
  | _ => exact .inl trivial

theorem Moves.issues (moves : Moves role s stage request stage') (stays : ¬ role.logsIn)
    (issuing : stage'.Issuing) : stage.Issuing ∨ ∃ token, stage = .lookup token ∧ s.activeUser token.sub := by
  cases moves with
  | quiet quiet lands => exact absurd issuing.spent.committed (lands.not_committed stays)
  | active user active => exact .inr ⟨_, rfl, active⟩
  | pass | refuse | spend | inactive | listNone | list | drop => cases issuing
  | _ => exact .inl trivial

end Moves

/-! ## The invariant -/

/-- A session call may count on nothing here, and drop whatever it drops. -/
def SessionCall.anyRole (request : SessionCall) : Role := request.role (fun _ => True) fun _ => True

theorem SessionCall.not_logsIn {request : SessionCall} {token : RefreshToken}
    (own : request.own = some token) : ¬ request.anyRole.logsIn := by
  cases request with
  | login identifier password => cases own
  | _ => exact Bool.false_ne_true

/-- What holds of the stages and the store: identifiers are fresh, a key is set
once, and of two refreshes of one token that have both found its key neither will
be given a pair. -/
structure Sound (calls : Index → SessionCall) (stages : Index → Stage) (s : State) : Prop
    extends Located (fun index => (calls index).anyRole) stages where
  issued : ∀ time key, (s.refreshTokens.get? time key).isSome →
    key.jti < s.fresh ∧ ∀ index, (stages index).drawn? ≠ some key.jti
  drawn : ∀ index jti, (stages index).drawn? = some jti → jti < s.fresh
  apart : ∀ first second jti, (stages first).drawn? = some jti →
    (stages second).drawn? = some jti → first = second
  committed : ∀ index token, (calls index).own = some token → (stages index).Committed →
    token.jti < s.fresh ∧ ∀ other, (stages other).drawn? ≠ some token.jti
  spent : ∀ index token, (calls index).own = some token → (stages index).Spent →
    ∀ time, s.refreshTokens.get? time token.key = none
  issuing : ∀ index token, (calls index).own = some token → (stages index).Issuing →
    s.activeUser token.sub
  alone : ∀ first second token token', first ≠ second → (calls first).own = some token →
    (calls second).own = some token' → token.key = token'.key → (stages first).Committed →
      (stages second).Committed → ¬ s.activeUser token.sub

section Advance

variable {calls : Index → SessionCall} {stages : Index → Stage}
  {pool : Pool Index AuthCall AuthReply ServiceError (Option TokenPair) State} {index : Index}
  {request : AuthCall} {stage' : Stage}

theorem Moves.absent {role : Role} {s : State} {stage : Stage} (moves : Moves role s stage request stage')
    {key : RefreshKey} (undrawn : stage.drawn? ≠ some key.jti) {time : Nat}
    (absent : s.refreshTokens.get? time key = none) :
    (answer request s).2.refreshTokens.get? time key = none := by
  rw [← Option.not_isSome_iff_eq_none] at absent ⊢
  intro present
  obtain before | ⟨drawn, -⟩ := moves.present present
  · exact absent before
  · exact undrawn drawn

variable [DecidableEq Index]

/-- **A move keeps the invariant** when the thread checks its token alone. -/
theorem Sound.advance (sound : Sound calls stages pool.store)
    (staged : pool.InStages (fun _ => Stage.program) stages) (checks : ChecksAlone calls pool index)
    (asked : pool.next? index = some request)
    (moves : Moves (calls index).anyRole pool.store (stages index) request stage') :
    Sound calls (update stages index stage') (answer request pool.store).2 := by
  have steady := answer_steady request pool.store
  -- a thread that draws, draws what nobody has
  have undrawn {jti : Jti} (old : jti < pool.store.fresh)
      (free : ∀ other, (stages other).drawn? ≠ some jti) (other : Index) :
      (update stages index stage' other).drawn? ≠ some jti := by
    refine forall_update (fun _ stage => stage.drawn? ≠ some jti) free ?_ other
    intro drawn
    obtain before | ⟨fresh, -⟩ := moves.drawn drawn
    · exact free index before
    · exact absurd (fresh ▸ old) (Nat.lt_irrefl _)
  constructor
  case toLocated => exact sound.toLocated.advance moves
  case issued =>
    intro time key present
    obtain before | ⟨drawn, let_go⟩ := moves.present present
    · obtain ⟨old, free⟩ := sound.issued time key before
      exact ⟨Nat.lt_of_lt_of_le old steady.fresh, undrawn old free⟩
    · refine ⟨Nat.lt_of_lt_of_le (sound.drawn index _ drawn) steady.fresh, fun other again => ?_⟩
      by_cases same : other = index
      · subst same
        rw [update_self, let_go] at again
        cases again
      · rw [update_of_ne same] at again
        exact same (sound.apart other index _ again drawn)
  case drawn =>
    refine forall_update (fun _ stage => ∀ jti, stage.drawn? = some jti →
      jti < (answer request pool.store).2.fresh) (fun other jti drawn => ?_) fun jti drawn => ?_
    · exact Nat.lt_of_lt_of_le (sound.drawn other jti drawn) steady.fresh
    · obtain before | ⟨rfl, next⟩ := moves.drawn drawn
      · exact Nat.lt_of_lt_of_le (sound.drawn index jti before) steady.fresh
      · rw [next]
        exact Nat.lt_succ_self _
  case apart =>
    -- the moved thread shares its identifier with no other
    have moved (other : Index) (different : other ≠ index) (jti : Jti)
        (here : stage'.drawn? = some jti) (there : (stages other).drawn? = some jti) : False := by
      obtain before | ⟨fresh, -⟩ := moves.drawn here
      · exact different (sound.apart other index jti there before)
      · exact absurd (fresh ▸ sound.drawn other jti there) (Nat.lt_irrefl _)
    intro first second jti one two
    by_cases same : first = index
    · subst same
      by_cases same' : second = first
      · exact same'.symm
      · rw [update_self] at one
        rw [update_of_ne same'] at two
        exact (moved second same' jti one two).elim
    · rw [update_of_ne same] at one
      by_cases same' : second = index
      · subst same'
        rw [update_self] at two
        exact (moved first same jti two one).elim
      · rw [update_of_ne same'] at two
        exact sound.apart first second jti one two
  case committed =>
    refine forall_update (fun other stage => ∀ token, (calls other).own = some token →
      stage.Committed → token.jti < (answer request pool.store).2.fresh ∧
        ∀ third, (update stages index stage' third).drawn? ≠ some token.jti)
      (fun other token own committed => ?_) fun token own committed => ?_
    · obtain ⟨old, free⟩ := sound.committed other token own committed
      exact ⟨Nat.lt_of_lt_of_le old steady.fresh, undrawn old free⟩
    · obtain ⟨old, free⟩ : token.jti < pool.store.fresh ∧
          ∀ other, (stages other).drawn? ≠ some token.jti := by
        obtain before | ⟨found, here, -, present⟩ :=
          moves.commits (SessionCall.not_logsIn own) committed
        · exact sound.committed index token own before
        · obtain rfl := Option.some.inj
            ((sound.tokens index found (by rw [here]; rfl)).symm.trans own)
          exact sound.issued _ _ present
      exact ⟨Nat.lt_of_lt_of_le old steady.fresh, undrawn old free⟩
  case spent =>
    refine forall_update (fun other stage => ∀ token, (calls other).own = some token →
      stage.Spent → ∀ time, (answer request pool.store).2.refreshTokens.get? time token.key = none)
      (fun other token own spent time => ?_) fun token own spent time => ?_
    · exact moves.absent ((sound.committed other token own spent.committed).2 index)
        (sound.spent other token own spent time)
    · obtain before | ⟨found, here, rfl⟩ := moves.spends (SessionCall.not_logsIn own) spent
      · exact moves.absent ((sound.committed index token own before.committed).2 index)
          (sound.spent index token own before time)
      · obtain rfl := Option.some.inj
          ((sound.tokens index found (by rw [here]; rfl)).symm.trans own)
        simp only [answer, State.withRefreshTokens_refreshTokens, Keyspace.get?_delete, if_true]
  case issuing =>
    refine forall_update (fun other stage => ∀ token, (calls other).own = some token →
      stage.Issuing → (answer request pool.store).2.activeUser token.sub)
      (fun other token own issuing => ?_) fun token own issuing => ?_
    · exact (steady.active _).mpr (sound.issuing other token own issuing)
    · obtain before | ⟨found, here, active⟩ := moves.issues (SessionCall.not_logsIn own) issuing
      · exact (steady.active _).mpr (sound.issuing index token own before)
      · obtain rfl := Option.some.inj
          ((sound.tokens index found (by rw [here]; rfl)).symm.trans own)
        exact (steady.active _).mpr active
  case alone =>
    -- a refresh that finds its key finds no other that has found it
    have moved (other : Index) (token token' : RefreshToken) (different : other ≠ index)
        (own : (calls index).own = some token) (own' : (calls other).own = some token')
        (same : token.key = token'.key) (committed : stage'.Committed)
        (committed' : (stages other).Committed) : ¬ pool.store.activeUser token.sub := by
      obtain before | ⟨found, here, rfl, present⟩ :=
        moves.commits (SessionCall.not_logsIn own) committed
      · exact sound.alone index other token token' (Ne.symm different) own own' same before committed'
      · obtain rfl := Option.some.inj
          ((sound.tokens index found (by rw [here]; rfl)).symm.trans own)
        intro active
        rw [ChecksAlone, asked] at checks
        have presents : (calls other).Presents found.key := by
          rw [SessionCall.Presents, own', Option.map_some, same]
        have waits := checks present active other different presents
        obtain spent | ⟨found', there⟩ := committed'.cases
        · rw [same, sound.spent other token' own' spent] at present
          cases present
        · obtain rfl := Option.some.inj
            ((sound.tokens other found' (by rw [there]; rfl)).symm.trans own')
          rw [staged.next? other, there, same] at waits
          exact waits rfl
    intro first second token token' different own own' same committed committed' active
    rw [steady.active] at active
    by_cases here : first = index
    · subst here
      rw [update_self] at committed
      rw [update_of_ne (Ne.symm different)] at committed'
      exact moved second token token' (Ne.symm different) own own' same committed committed' active
    · rw [update_of_ne here] at committed
      by_cases there : second = index
      · subst there
        rw [update_self] at committed'
        have key : token.sub = token'.sub := congrArg RefreshKey.userId same
        exact moved first token' token here own' own same.symm committed' committed (key ▸ active)
      · rw [update_of_ne there] at committed'
        exact sound.alone first second token token' different own own' same committed committed' active

/-- Two refreshes of one token of an active user have both found its key. -/
def Doubled (calls : Index → SessionCall) (stages : Index → Stage) (s : State) : Prop :=
  ∃ first second token token', first ≠ second ∧ (calls first).own = some token ∧
    (calls second).own = some token' ∧ token.key = token'.key ∧ (stages first).Committed ∧
      (stages second).Committed ∧ s.activeUser token.sub

theorem Moves.stays_committed {role : Role} {s : State} {stage : Stage}
    (moves : Moves role s stage request stage') (committed : stage.Committed)
    (active : ∀ token, stage.token? = some token → s.activeUser token.sub) : stage'.Committed := by
  cases moves with
  | quiet | pass | refuse | listNone | list | drop => cases committed
  | inactive inactive => exact absurd (active _ rfl) inactive
  | _ => trivial

theorem committed_of_deletes {request : SessionCall} {stage : Stage} {token : RefreshToken} {key : RefreshKey}
    (own : request.own = some token) (poised : ∀ program, stage = .quiet program → Poised request.anyRole program)
    (deletes : stage.program.next? = some (.delRefreshToken key)) : stage.Committed := by
  cases stage with
  | quiet program =>
    obtain ⟨sent, next, rfl, quiet, -⟩ := poised program rfl
    cases deletes
    have none : request.own = none := quiet
    rw [own] at none
    cases none
  | spend token => trivial
  | finished outcome => cases outcome <;> cases deletes
  | _ => cases deletes

theorem Doubled.advance {s : State} (doubled : Doubled calls stages s)
    (located : Located (fun index => (calls index).anyRole) stages)
    (moves : Moves (calls index).anyRole s (stages index) request stage') :
    Doubled calls (update stages index stage') (answer request s).2 := by
  obtain ⟨first, second, token, token', different, own, own', same, committed, committed', active⟩ :=
    doubled
  have goes_on (other : Index) (named : RefreshToken) (presents : (calls other).own = some named)
      (acts : s.activeUser named.sub) (found : (stages other).Committed) :
      (update stages index stage' other).Committed := by
    by_cases here : other = index
    · subst here
      rw [update_self]
      refine moves.stays_committed found fun token'' holds => ?_
      obtain rfl := Option.some.inj ((located.tokens other token'' holds).symm.trans presents)
      exact acts
    · rwa [update_of_ne here]
  have key : token.sub = token'.sub := congrArg RefreshKey.userId same
  refine ⟨first, second, token, token', different, own, own', same,
    goes_on first token own active committed, goes_on second token' own' (key ▸ active) committed', ?_⟩
  exact ((answer_steady request s).active _).mpr active

theorem Sound.doubles (sound : Sound calls stages pool.store)
    (staged : pool.InStages (fun _ => Stage.program) stages)
    (fails : ¬ ChecksAlone calls pool index) (asked : pool.next? index = some request)
    (moves : Moves (calls index).anyRole pool.store (stages index) request stage') :
    Doubled calls (update stages index stage') (answer request pool.store).2 := by
  rw [ChecksAlone, asked] at fails
  generalize here : stages index = stage at moves
  cases moves with
  | @pass token present =>
    have own := sound.tokens index token (by rw [here]; rfl)
    obtain ⟨active, other, different, presents, waits⟩ : pool.store.activeUser token.sub ∧
        ∃ other, other ≠ index ∧ (calls other).Presents token.key ∧
          pool.next? other = some (.delRefreshToken token.key) := by
      by_contra none
      refine fails fun _ active other different presents waits => ?_
      exact none ⟨active, other, different, presents, waits⟩
    obtain ⟨token', own', same⟩ := Option.map_eq_some_iff.mp presents
    rw [staged.next? other] at waits
    have committed := committed_of_deletes own' (sound.poised other) waits
    refine ⟨index, other, token, token', Ne.symm different, own, own', same.symm, ?_, ?_, active⟩
    · rw [update_self]
      trivial
    · rwa [update_of_ne different]
  | refuse absent =>
    exact absurd (fun present => by rw [absent] at present; cases present) fails
  | @quiet program request stage' quiet lands =>
    cases request with
    | getRefreshToken key => cases quiet
    | _ => exact absurd trivial fails
  | _ => exact absurd trivial fails

/-! ## Interleavings -/

omit [DecidableEq Index] in
theorem sound_sessions (calls : Index → SessionCall) {s : State} (fresh : s.FreshKeys) :
    ∃ stages, (sessions calls s).InStages (fun _ => Stage.program) stages ∧ Sound calls stages s := by
  obtain ⟨stages, staged, lands⟩ := sessions_land calls s (fun _ _ => True) (fun _ _ => True)
    (fun _ => trivial) fun _ _ _ _ _ => trivial
  refine ⟨stages, staged, ?_⟩
  have undrawn (index : Index) (jti : Jti) : (stages index).drawn? ≠ some jti := by
    rw [(lands index).drawn]
    rintro ⟨⟩
  have early (index : Index) (token : RefreshToken) (own : (calls index).own = some token) :
      ¬ (stages index).Committed := (lands index).not_committed (SessionCall.not_logsIn own)
  exact
    { toLocated := located_of_lands lands
      issued := fun time key present => ⟨fresh time key present, fun index => undrawn index _⟩
      drawn := fun index jti drawn => absurd drawn (undrawn index jti)
      apart := fun first _ jti drawn _ => absurd drawn (undrawn first jti)
      committed := fun index token own committed => absurd committed (early index token own)
      spent := fun index token own spent => absurd spent.committed (early index token own)
      issuing := fun index token own issuing =>
        absurd issuing.spent.committed (early index token own)
      alone := fun first _ token _ _ own _ _ committed => absurd committed (early first token own) }

omit [DecidableEq Index] in
theorem Sound.redeemed {calls : Index → SessionCall} {stages : Index → Stage}
    {pool : Pool Index AuthCall AuthReply ServiceError (Option TokenPair) State}
    (sound : Sound calls stages pool.store)
    (staged : pool.InStages (fun _ => Stage.program) stages) {key : RefreshKey} {index : Index}
    (redeems : Redeems calls key pool index) :
    ∃ token, (calls index).own = some token ∧ token.key = key ∧ (stages index).Committed ∧
      pool.store.activeUser token.sub := by
  obtain ⟨presents, pair, returned⟩ := redeems
  obtain ⟨token, own, same⟩ := Option.map_eq_some_iff.mp presents
  rw [staged index] at returned
  have finished := Stage.finished_of_done returned (sound.poised index)
  have issuing : (stages index).Issuing := by rw [finished]; trivial
  exact ⟨token, own, same, issuing.spent.committed, sound.issuing index token own issuing⟩

omit [DecidableEq Index] in
theorem redeems_of_committed {calls : Index → SessionCall} {stages : Index → Stage}
    {pool : Pool Index AuthCall AuthReply ServiceError (Option TokenPair) State}
    (staged : pool.InStages (fun _ => Stage.program) stages) {index : Index}
    (committed : (stages index).Committed) (ended : (pool.threads index).Ended)
    {key : RefreshKey} (presents : (calls index).Presents key) : Redeems calls key pool index := by
  refine ⟨presents, ?_⟩
  rw [staged index] at ended ⊢
  cases stage : stages index with
  | finished outcome =>
    rw [stage] at committed
    cases outcome with
    | error error => cases committed
    | ok result =>
      cases result with
      | none => cases committed
      | some pair => exact ⟨pair, rfl⟩
  | quiet | check | list | drop =>
    rw [stage] at committed
    cases committed
  | _ =>
    rw [stage] at ended
    cases ended

/-- **No token is redeemed twice when every refresh checks its token alone**, in any
state of an interleaving; and when the interleaving is complete, only then. -/
theorem tokens_redeemed_once_iff (calls : Index → SessionCall) (s : State) (fresh : s.FreshKeys)
    (schedule : List Index) :
    (EachStep (advance answer) (ChecksAlone calls) (sessions calls s) schedule →
        Throughout (advance answer) (RedeemedOnce calls) (sessions calls s) schedule) ∧
      ((∀ index, ((follow (advance answer) (sessions calls s) schedule).threads index).Ended) →
        Throughout (advance answer) (RedeemedOnce calls) (sessions calls s) schedule →
          EachStep (advance answer) (ChecksAlone calls) (sessions calls s) schedule) := by
  obtain ⟨stages, staged, sound⟩ := sound_sessions calls fresh
  have follows (stages : Index → Stage) (s : State) (index : Index)
      (located : Located (fun index => (calls index).anyRole) stages) :
      Follows answer Stage.program (Moves (calls index).anyRole) (stages index) s :=
    stage_follows _ (stages index) trivial (located.poised index)
  constructor
  · intro steps
    have through := throughout_of_stages (fun index => Moves (calls index).anyRole)
      (Sound calls) (ChecksAlone calls)
      (fun stages s index sound => follows stages s index sound.toLocated)
      (fun pool stages index request stage' staged sound checks asked moves =>
        sound.advance staged checks asked moves) staged sound steps
    refine through.mono fun pool held => ?_
    obtain ⟨stages, staged, sound⟩ := held
    intro key first second one two
    obtain ⟨token, own, rfl, committed, active⟩ := sound.redeemed staged one
    obtain ⟨token', own', same, committed', -⟩ := sound.redeemed staged two
    by_contra different
    exact sound.alone first second token token' different own own' same.symm committed committed'
      active
  · intro completed once
    refine eachStep_of_stages (fun index => Moves (calls index).anyRole) (Sound calls)
      (fun stages s => Located (fun index => (calls index).anyRole) stages ∧ Doubled calls stages s) (ChecksAlone calls)
      (fun stages s index held => ?_) (fun pool index silent => ?_)
      (fun pool stages index request stage' staged sound checks asked moves => ?_)
      (fun pool stages index request stage' staged sound fails asked moves => ?_)
      (fun stages s index request stage' held moves => ?_) staged sound ?_
    · exact follows stages s index (held.elim Sound.toLocated And.left)
    · rw [ChecksAlone, silent]
      trivial
    · exact sound.advance staged checks asked moves
    · exact ⟨sound.toLocated.advance moves, sound.doubles staged fails asked moves⟩
    · exact ⟨held.1.advance moves, held.2.advance held.1 moves⟩
    · rintro ⟨stages, staged, -, first, second, token, token', different, own, own', same,
        committed, committed', -⟩
      refine different (once.last token.key first second ?_ ?_)
      · exact redeems_of_committed staged committed (completed first)
          (by rw [SessionCall.Presents, own, Option.map_some])
      · exact redeems_of_committed staged committed' (completed second)
          (by rw [SessionCall.Presents, own', Option.map_some, same])

end Advance

def loggedIn : State := ((login smallDeployment "rider" "secret").exec smallInstallation).2

/-- The refresh token he was given. -/
def riderToken : RefreshToken := ⟨1, 0, .refresh, refreshTtlSeconds⟩

def twoRefreshes (_ : Bool) : SessionCall := .refresh (some riderToken)

theorem loggedIn_freshKeys : loggedIn.FreshKeys := by
  intro time key present
  have every : ∀ key ∈ loggedIn.refreshTokens.table.entries.map Prod.fst,
      key.jti < loggedIn.fresh := by decide +kernel
  exact every key (Keyspace.mem_of_present present)

/-- One after the other. -/
theorem tokens_redeemed_once_small :
    EachStep (advance answer) (ChecksAlone twoRefreshes) (sessions twoRefreshes loggedIn)
        (List.replicate 9 false ++ List.replicate 9 true) ∧
      Throughout (advance answer) (RedeemedOnce twoRefreshes)
        (sessions twoRefreshes loggedIn) (List.replicate 9 false ++ List.replicate 9 true) := by
  have steps : EachStep (advance answer) (ChecksAlone twoRefreshes)
      (sessions twoRefreshes loggedIn) (List.replicate 9 false ++ List.replicate 9 true) := by
    decide +kernel
  exact ⟨steps, (tokens_redeemed_once_iff twoRefreshes loggedIn loggedIn_freshKeys _).1 steps⟩

/-- Both refreshes look the key up before either deletes it. -/
def crossedRefreshes : List Bool :=
  [false, false, true, true] ++ List.replicate 6 false ++ List.replicate 6 true

/-- Both are given a new pair. -/
theorem token_redeemed_twice : ¬ RedeemedOnce twoRefreshes
    (follow (advance answer) (sessions twoRefreshes loggedIn) crossedRefreshes) := by
  intro once
  exact absurd (once riderToken.key false true (by decide +kernel) (by decide +kernel)) (by decide)

end Motogram.Auth
