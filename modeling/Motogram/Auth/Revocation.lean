import Motogram.Auth.Lifetime
import Motogram.Auth.Rotation

/-!
# Dropping every session of a user

`revokeAllUserRefreshTokens` lists the keys of the user and deletes the listed
ones. A refresh that has found its key before the listing, or between the listing
and the deletion, stores a new key afterwards, and the session lives on
(`session_survives`).

When no refresh of the user stands between its check and its new key at the
listing, and none finds its key between listing and deletion, no token of the user
can be redeemed once the call has returned, in any state of any interleaving
(`sessions_dropped`).
-/

set_option autoImplicit false

namespace Motogram.Auth

open Foundation Function Pool State AuthCall

variable {Index : Type}

def SessionCall.RefreshesFor (userId : UserId) (request : SessionCall) : Prop :=
  request.own.map RefreshToken.sub = some userId

instance (userId : UserId) (request : SessionCall) : Decidable (request.RefreshesFor userId) :=
  inferInstanceAs (Decidable (_ = _))

/-- The calls of a refresh that has found its key, up to the one that stores the new
one. -/
def AuthCall.rotates : AuthCall → Bool
  | .delRefreshToken _ | .userFindUnique _ | .uuidv4 | .jwtSign | .setRefreshToken _ _ => true
  | _ => false

def AuthCall.deletesListed : AuthCall → Bool
  | .delRefreshTokens _ => true
  | _ => false

/-- The listing finds no refresh for the user between its check and its new key, and
between the listing and the deletion no refresh finds a key of the user. The user is
an active one; others are given no key. -/
def RevokesAlone (calls : Index → SessionCall) (op : Index) (userId : UserId)
    (pool : Pool Index AuthCall AuthReply ServiceError (Option TokenPair) State) (index : Index) :
    Prop :=
  match pool.next? index with
  | some (.keysRefreshTokens _) =>
    pool.store.activeUser userId → ∀ other, (calls other).RefreshesFor userId →
      (pool.next? other).any rotates = false
  | some (.getRefreshToken key) =>
    pool.store.activeUser userId → key.userId = userId →
      (pool.next? op).any deletesListed = true →
        pool.store.refreshTokens.get? pool.store.now key = none
  | _ => True

instance [Fintype Index] (calls : Index → SessionCall) (op : Index) (userId : UserId)
    (pool : Pool Index AuthCall AuthReply ServiceError (Option TokenPair) State) (index : Index) :
    Decidable (RevokesAlone calls op userId pool index) := by
  unfold RevokesAlone
  generalize pool.next? index = next
  rcases next with _ | request
  · exact instDecidableTrue
  · cases request <;> infer_instance

/-- When the call has returned, no token of the user can be redeemed. -/
def Dropped (op : Index) (userId : UserId)
    (pool : Pool Index AuthCall AuthReply ServiceError (Option TokenPair) State) : Prop :=
  (∃ result, pool.threads op = .done result) →
    ∀ token, token.sub = userId → ¬ Redeemable pool.store token

def State.Keyless (s : State) (userId : UserId) : Prop :=
  ∀ key, key.userId = userId → s.refreshTokens.get? s.now key = none

/-! ## The invariant -/

def Stage.issuesFor? : Stage → Option UserId
  | .draw userId _ _ => some userId
  | .sign userId _ _ _ => some userId
  | .countersign userId _ _ _ _ => some userId
  | .store key _ => some key.userId
  | _ => none

/-- A refresh has found its key and has not yet stored the new one. -/
def Stage.InFlight (stage : Stage) : Prop :=
  (∃ token, stage = .spend token ∨ stage = .lookup token) ∨ stage.issuesFor?.isSome

/-- The keys have been listed. -/
def Stage.Past : Stage → Prop
  | .drop _ => True
  | .finished (.ok _) => True
  | _ => False

/-- The keys have been listed, and those that were found are being deleted or are
gone. -/
def Stage.Listed (userId : UserId) (s : State) : Stage → Prop
  | .drop keys => ∀ key, key.userId = userId → (s.refreshTokens.get? s.now key).isSome → key ∈ keys
  | .finished (.ok _) => s.Keyless userId
  | _ => False

/-- The roles of refreshes beside the call that drops the sessions of the user. -/
def revocationRole (calls : Index → SessionCall) (op : Index) (userId : UserId)
    (deployment : Deployment) (index : Index) : Role :=
  (calls index).role (fun target => index = op ∧ target = userId) fun s =>
    ∀ target, (calls index).Targets deployment s target → index = op ∧ target = userId

section Moves

variable {role : Role} {s : State} {stage stage' : Stage} {request : AuthCall}

theorem Lands.past (lands : Lands role stage) (past : stage.Past) : role.returns := by
  cases lands with
  | done returns => exact returns
  | _ => cases past

theorem Lands.issuesFor (lands : Lands role stage) (stays : ¬ role.logsIn) : stage.issuesFor? = none := by
  cases lands with
  | draw _ _ _ logsIn => exact absurd logsIn stays
  | _ => rfl

theorem Lands.lists (lands : Lands role stage) {userId : UserId} (lists : stage = .list userId) :
    role.drops userId := by
  subst lists
  cases lands with
  | list _ drops => exact drops

theorem Moves.issuesFor (moves : Moves role s stage request stage') (stays : ¬ role.logsIn)
    {userId : UserId} (issues : stage'.issuesFor? = some userId) :
    stage.issuesFor? = some userId ∨
      ∃ token, stage = .lookup token ∧ token.sub = userId ∧ s.activeUser userId := by
  cases moves with
  | quiet quiet lands =>
    rw [lands.issuesFor stays] at issues
    cases issues
  | active user active =>
    cases issues
    exact .inr ⟨_, rfl, rfl, active⟩
  | draw | sign | countersign => exact .inl issues
  | _ => cases issues

theorem Moves.lists (moves : Moves role s stage request stage') {userId : UserId}
    (lists : stage' = .list userId) : role.drops userId := by
  cases moves with
  | quiet quiet lands => exact lands.lists lists
  | _ => cases lists

theorem Moves.inFlight (moves : Moves role s stage request stage') (stays : ¬ role.logsIn)
    (flies : stage'.InFlight) :
    stage.InFlight ∨ ∃ token, stage = .check token ∧ request = .getRefreshToken token.key ∧
      (s.refreshTokens.get? s.now token.key).isSome := by
  cases moves with
  | pass present => exact .inr ⟨_, rfl, rfl, present⟩
  | spend => exact .inl (.inl ⟨_, .inl rfl⟩)
  | active user active => exact .inl (.inl ⟨_, .inr rfl⟩)
  | draw | sign | countersign => exact .inl (.inr rfl)
  | quiet quiet lands =>
    obtain ⟨token, here | here⟩ | issues := flies
    · cases lands <;> cases here
    · cases lands <;> cases here
    · rw [lands.issuesFor stays] at issues
      cases issues
  | _ =>
    obtain ⟨token, here | here⟩ | issues := flies
    · cases here
    · cases here
    · cases issues

theorem Moves.stores (moves : Moves role s stage request stage') {key : RefreshKey}
    (new : ((answer request s).2.refreshTokens.get? (answer request s).2.now key).isSome) :
    (s.refreshTokens.get? s.now key).isSome ∨ stage.issuesFor? = some key.userId := by
  by_cases adds : ∃ key seconds, request = .setRefreshToken key seconds
  · obtain ⟨other, seconds, rfl⟩ := adds
    cases moves with
    | quiet quiet lands => cases quiet
    | store =>
      simp only [answer, withRefreshTokens_refreshTokens, withRefreshTokens_now,
        Keyspace.get?_set] at new
      split at new
      · rename_i same
        exact .inr (by rw [same]; rfl)
      · exact .inl new
  · have before := present_of_answer (fun key seconds set => adds ⟨key, seconds, set⟩) new
    exact .inl (Keyspace.get?_isSome_of_le (answer_steady request s).now before)

/-- What the call that drops the sessions has listed stays listed while nobody stores a
key of the user. -/
theorem Stage.Listed.mono {userId : UserId} {s' : State} (listed : stage.Listed userId s)
    (fewer : ∀ key, key.userId = userId → (s'.refreshTokens.get? s'.now key).isSome →
      (s.refreshTokens.get? s.now key).isSome) : stage.Listed userId s' := by
  cases stage with
  | drop keys => exact fun key owner present => listed key owner (fewer key owner present)
  | finished outcome =>
    cases outcome with
    | error error => cases listed
    | ok result =>
      intro key owner
      have absent := listed key owner
      rw [← Option.not_isSome_iff_eq_none] at absent ⊢
      exact fun present => absent (fewer key owner present)
  | _ => cases listed

end Moves

/-- What holds of the stages and the store: once the keys are listed, no refresh for
the active user is in flight. -/
structure Revoking (calls : Index → SessionCall) (op : Index) (userId : UserId)
    (deployment : Deployment) (stages : Index → Stage) (s : State) : Prop
    extends Located (revocationRole calls op userId deployment) stages where
  counts : ∀ index, (revocationRole calls op userId deployment index).counts s
  owner : ∀ index target, (stages index).issuesFor? = some target →
    (∃ token, (calls index).own = some token ∧ token.sub = target) ∧ s.activeUser target
  lists : ∀ index target, stages index = .list target → index = op ∧ target = userId
  listed : (stages op).Past → (stages op).Listed userId s
  grounded : (stages op).Past → ∀ index, (calls index).RefreshesFor userId →
    (stages index).InFlight → ¬ s.activeUser userId

theorem SessionCall.Targets.before {deployment : Deployment} {s s' : State} {target : UserId}
    {request : SessionCall} (steady : Steady s s') (targets : request.Targets deployment s' target) :
    request.Targets deployment s target := by
  cases request with
  | resetPassword token newPassword =>
    obtain ⟨id, stored, found, hash, owner⟩ := targets
    obtain ⟨before, present, hash', owner'⟩ := steady.resets id stored found
    exact ⟨id, before, present, hash'.symm.trans hash, owner'.symm.trans owner⟩
  | verifyEmailChange token =>
    obtain ⟨id, stored, found, hash, owner⟩ := targets
    obtain ⟨before, present, hash', owner'⟩ := steady.emails id stored found
    exact ⟨id, before, present, hash'.symm.trans hash, owner'.symm.trans owner⟩
  | _ => exact targets

/-- A thread in flight is about to make one of the calls of a rotation. -/
theorem Stage.InFlight.rotates {stage : Stage} (flies : stage.InFlight) :
    stage.program.next?.any rotates = true := by
  obtain ⟨token, rfl | rfl⟩ | issues := flies
  · rfl
  · rfl
  · cases stage with
    | draw | sign | countersign | store => rfl
    | _ => cases issues

section Advance

variable [DecidableEq Index] {calls : Index → SessionCall} {op : Index} {userId : UserId}
  {deployment : Deployment} {stages : Index → Stage}
  {pool : Pool Index AuthCall AuthReply ServiceError (Option TokenPair) State} {index : Index}
  {request : AuthCall} {stage' : Stage}

omit [DecidableEq Index] in
theorem own_of_dropsAll {request : SessionCall} (drops : request.dropsAll = true) : request.own = none := by
  cases request with
  | refresh presented => cases drops
  | _ => rfl

omit [DecidableEq Index] in
theorem Revoking.stores (revoking : Revoking calls op userId deployment stages pool.store)
    (moves : Moves (revocationRole calls op userId deployment index) pool.store (stages index)
      request stage') {key : RefreshKey} (owned : key.userId = userId)
    (new : ((answer request pool.store).2.refreshTokens.get? (answer request pool.store).2.now
      key).isSome) :
    (pool.store.refreshTokens.get? pool.store.now key).isSome ∨
      ((calls index).RefreshesFor userId ∧ (stages index).InFlight ∧
        pool.store.activeUser userId) := by
  obtain before | issues := moves.stores new
  · exact .inl before
  · obtain ⟨⟨token, own, same⟩, active⟩ := revoking.owner index key.userId issues
    refine .inr ⟨?_, .inr (by rw [issues]; rfl), owned ▸ active⟩
    rw [SessionCall.RefreshesFor, own, Option.map_some, same, owned]

omit [DecidableEq Index] in
theorem Revoking.passes (revoking : Revoking calls op userId deployment stages pool.store)
    (drops : (calls op).dropsAll = true)
    (moves : Moves (revocationRole calls op userId deployment op) pool.store (stages op)
      request stage') (past : stage'.Past) :
    stage'.Listed userId (answer request pool.store).2 ∧
      ((stages op).Past ∨ request = .keysRefreshTokens userId) := by
  generalize here : stages op = stage at moves
  cases moves with
  | quiet quiet lands =>
    have never : (calls op).dropsAll = false := lands.past past
    exact absurd (never.symm.trans drops) Bool.false_ne_true
  | @store key pair =>
    obtain ⟨⟨token, own, -⟩, -⟩ := revoking.owner op key.userId (by rw [here]; rfl)
    rw [own_of_dropsAll drops] at own
    cases own
  | @listNone target empty =>
    obtain ⟨-, rfl⟩ := revoking.lists op target here
    refine ⟨fun key owned => ?_, .inr rfl⟩
    have unlisted : key ∉ pool.store.refreshTokens.keys pool.store.now fun key =>
        decide (key.userId = target) := by
      rw [empty]
      exact List.not_mem_nil
    rw [Keyspace.mem_keys, not_and] at unlisted
    exact Option.not_isSome_iff_eq_none.mp (unlisted (decide_eq_true owned))
  | @list target =>
    obtain ⟨-, rfl⟩ := revoking.lists op target here
    refine ⟨fun key owned present => ?_, .inr rfl⟩
    exact Keyspace.mem_keys.mpr ⟨decide_eq_true owned, present⟩
  | @drop keys =>
    have listed := revoking.listed (by rw [here]; trivial)
    rw [here] at listed
    refine ⟨fun key owned => ?_, .inl trivial⟩
    simp only [answer, withRefreshTokens_refreshTokens, withRefreshTokens_now,
      Keyspace.get?_deleteWhere]
    by_cases member : key ∈ keys
    · rw [if_pos (decide_eq_true member)]
    · rw [if_neg (by simpa using member), ← Option.not_isSome_iff_eq_none]
      exact fun present => member (listed key owned present)
  | _ => cases past

/-- **A move keeps the invariant** when the sessions are revoked alone. -/
theorem Revoking.advance (revoking : Revoking calls op userId deployment stages pool.store)
    (staged : pool.InStages (fun _ => Stage.program) stages) (drops : (calls op).dropsAll = true)
    (stays : ∀ index, (calls index).isLogin = false) (alone : RevokesAlone calls op userId pool index)
    (asked : pool.next? index = some request)
    (moves : Moves (revocationRole calls op userId deployment index) pool.store (stages index) request stage') :
    Revoking calls op userId deployment (update stages index stage') (answer request pool.store).2 := by
  have steady := answer_steady request pool.store
  have out (index : Index) : ¬ (revocationRole calls op userId deployment index).logsIn := by
    have never := stays index
    exact fun logsIn => by rw [show (calls index).isLogin = true from logsIn] at never; cases never
  constructor
  case toLocated => exact revoking.toLocated.advance moves
  case counts => exact fun other target targets => revoking.counts other target (targets.before steady)
  case owner =>
    refine forall_update (fun other stage => ∀ target, stage.issuesFor? = some target →
      (∃ token, (calls other).own = some token ∧ token.sub = target) ∧
        (answer request pool.store).2.activeUser target) (fun other target issues => ?_)
      fun target issues => ?_
    · obtain ⟨own, active⟩ := revoking.owner other target issues
      exact ⟨own, (steady.active target).mpr active⟩
    · obtain before | ⟨token, here, same, active⟩ := moves.issuesFor (out index) issues
      · obtain ⟨own, active⟩ := revoking.owner index target before
        exact ⟨own, (steady.active target).mpr active⟩
      · exact ⟨⟨token, revoking.tokens index token (by rw [here]; rfl), same⟩,
          (steady.active target).mpr active⟩
  case lists =>
    refine forall_update (fun other stage => ∀ target, stage = .list target →
      other = op ∧ target = userId) revoking.lists fun target here => ?_
    exact moves.lists here
  case listed =>
    by_cases own : index = op
    · subst own
      rw [update_self]
      exact fun past => (revoking.passes drops moves past).1
    · rw [update_of_ne (Ne.symm own)]
      intro past
      refine (revoking.listed past).mono fun key owned new => ?_
      obtain before | ⟨refreshes, flies, active⟩ := revoking.stores moves owned new
      · exact before
      · exact absurd active (revoking.grounded past index refreshes flies)
  case grounded =>
    intro past other refreshes flies
    rw [steady.active]
    by_cases own : index = op
    · subst own
      rw [update_self] at past
      have apart : other ≠ index := by
        rintro rfl
        rw [SessionCall.RefreshesFor, own_of_dropsAll drops] at refreshes
        cases refreshes
      rw [update_of_ne apart] at flies
      obtain before | rfl := (revoking.passes drops moves past).2
      · exact revoking.grounded before other refreshes flies
      · -- the listing finds nobody in flight
        intro active
        rw [RevokesAlone, asked] at alone
        have lands := alone active other refreshes
        rw [staged.next? other, flies.rotates] at lands
        cases lands
    · rw [update_of_ne (Ne.symm own)] at past
      obtain ⟨rfl, flies'⟩ | ⟨-, flies'⟩ := of_update flies
      · obtain before | ⟨token, checks, rfl, present⟩ := moves.inFlight (out other) flies'
        · exact revoking.grounded past other refreshes before
        · -- the key was found: the call is not over, and the user is not active
          have presents := revoking.tokens other token (by rw [checks]; rfl)
          have owned : token.key.userId = userId := by
            have same : (calls other).own = some token := presents
            rw [SessionCall.RefreshesFor, same] at refreshes
            exact Option.some.inj refreshes
          intro active
          rw [RevokesAlone, asked] at alone
          have absent : pool.store.refreshTokens.get? pool.store.now token.key = none := by
            cases stage : stages op with
            | drop keys =>
              exact alone active owned (by rw [staged.next? op, stage]; rfl)
            | finished outcome =>
              have listed := revoking.listed past
              rw [stage] at listed past
              cases outcome with
              | error error => cases past
              | ok result => exact listed token.key owned
            | _ =>
              rw [stage] at past
              cases past
          rw [absent] at present
          cases present
      · exact revoking.grounded past other refreshes flies'

omit [DecidableEq Index] in
theorem not_targets_of_dropsAll {request : SessionCall} (keeps : request.dropsAll = false)
    {s : State} {target : UserId} : ¬ request.Targets deployment s target := by
  cases request with
  | logout caller presented allDevices =>
    rintro ⟨all, -⟩
    exact Bool.false_ne_true (keeps.symm.trans all)
  | changePassword | resetPassword | verifyEmailChange => cases keeps
  | _ => exact id

omit [DecidableEq Index] in
theorem revoking_sessions {s : State} (drops : (calls op).dropsAll = true)
    (target : ∀ target, (calls op).Targets s.deployment s target → target = userId)
    (others : ∀ index, index ≠ op → (calls index).dropsAll = false)
    (stays : ∀ index, (calls index).isLogin = false) :
    ∃ stages, (sessions calls s).InStages (fun _ => Stage.program) stages ∧
      Revoking calls op userId s.deployment stages s := by
  have counts (index : Index) : (revocationRole calls op userId s.deployment index).counts s := by
    intro aim targets
    by_cases own : index = op
    · subst own
      exact ⟨rfl, target aim targets⟩
    · exact absurd targets (not_targets_of_dropsAll (others index own))
  obtain ⟨stages, staged, lands⟩ := sessions_land calls s
    (fun index target => index = op ∧ target = userId)
    (fun index => (revocationRole calls op userId s.deployment index).counts) counts
    fun index s' counted aim targets => counted aim targets
  have early : ¬ (stages op).Past := by
    intro past
    have keeps : (calls op).dropsAll = false := (lands op).past past
    exact Bool.false_ne_true (keeps.symm.trans drops)
  have silent (index : Index) : (stages index).issuesFor? = none :=
    (lands index).issuesFor fun logsIn => Bool.false_ne_true ((stays index).symm.trans logsIn)
  refine ⟨stages, staged, located_of_lands lands, counts, ?_, ?_, ?_, ?_⟩
  · intro index aim issues
    rw [silent index] at issues
    cases issues
  · exact fun index aim lists => (lands index).lists lists
  · exact fun past => absurd past early
  · exact fun past => absurd past early

/-- **No token of the user can be redeemed once every session of his was dropped**,
when the sessions were revoked alone. -/
theorem sessions_dropped (calls : Index → SessionCall) (op : Index) (userId : UserId) (s : State)
    (drops : (calls op).dropsAll = true)
    (target : ∀ target, (calls op).Targets s.deployment s target → target = userId)
    (others : ∀ index, index ≠ op →
      (calls index).dropsAll = false ∧ (calls index).isLogin = false) (schedule : List Index)
    (steps : EachStep (advance answer) (RevokesAlone calls op userId) (sessions calls s)
      schedule) :
    Throughout (advance answer) (Dropped op userId) (sessions calls s) schedule := by
  have stays (index : Index) : (calls index).isLogin = false := by
    by_cases own : index = op
    · subst own
      cases call : calls index with
      | login identifier password =>
        rw [call] at drops
        cases drops
      | _ => rfl
    · exact (others index own).2
  obtain ⟨stages, staged, revoking⟩ :=
    revoking_sessions drops target (fun index own => (others index own).1) stays
  have through := throughout_of_stages
    (fun index => Moves (revocationRole calls op userId s.deployment index))
    (Revoking calls op userId s.deployment) (RevokesAlone calls op userId)
    (fun stages s' index revoking =>
      stage_follows _ (stages index) (revoking.counts index) (revoking.poised index))
    (fun pool stages index request stage' staged revoking alone asked moves =>
      revoking.advance staged drops stays alone asked moves) staged revoking steps
  refine through.mono fun pool held => ?_
  obtain ⟨stages, staged, revoking⟩ := held
  rintro ⟨result, returned⟩ token owned redeemable
  rw [staged op] at returned
  have finished := Stage.finished_of_done returned (revoking.poised op)
  have keyless := revoking.listed (by rw [finished]; trivial)
  rw [finished] at keyless
  have present := ((redeemable_iff pool.store token).mp redeemable).2.2.1
  rw [keyless token.key owned] at present
  cases present

end Advance

def passwordChange : Bool → SessionCall
  | true => .changePassword 1 "secret" "better"
  | false => .refresh (some riderToken)

/-- The refresh is over before the password is changed. -/
theorem sessions_dropped_small :
    EachStep (advance answer) (RevokesAlone passwordChange true 1)
        (sessions passwordChange loggedIn) (List.replicate 8 false ++ List.replicate 6 true) ∧
      Throughout (advance answer) (Dropped true 1)
        (sessions passwordChange loggedIn) (List.replicate 8 false ++ List.replicate 6 true) := by
  have steps : EachStep (advance answer) (RevokesAlone passwordChange true 1)
      (sessions passwordChange loggedIn) (List.replicate 8 false ++ List.replicate 6 true) := by
    decide +kernel
  refine ⟨steps, sessions_dropped passwordChange true 1 loggedIn rfl (fun target => Eq.symm)
    (fun index different => ?_) _ steps⟩
  cases index with
  | false => exact ⟨rfl, rfl⟩
  | true => exact absurd rfl different

/-- The refresh finds its key, the password is changed and every key deleted, and the
refresh stores a new one. -/
def crossedChange : Pool Bool AuthCall AuthReply ServiceError (Option TokenPair) State :=
  follow (advance answer) (sessions passwordChange loggedIn)
    ([false, false] ++ List.replicate 6 true ++ List.replicate 6 false)

/-- Both calls have returned, and the token the refresh was given in exchange for the
old one can still be redeemed. -/
theorem session_survives :
    (crossedChange.threads true).value? = some none ∧
      (crossedChange.threads false).value? = some (some (pairOf 1 "rider" .user 2 0 0)) ∧
        Redeemable crossedChange.store (pairOf 1 "rider" .user 2 0 0).refreshToken := by
  refine ⟨by decide +kernel, by decide +kernel, ?_⟩
  exact (redeemable_iff _ _).mpr
    ⟨by decide +kernel, by decide +kernel, by decide +kernel, by decide +kernel⟩

end Motogram.Auth
