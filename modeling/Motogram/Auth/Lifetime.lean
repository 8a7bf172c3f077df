import Motogram.Auth.Sessions

/-!
# How long a token can be redeemed

`refresh` run alone, as equations, and from them when a token can be redeemed
(`redeemable_iff`). A refresh that succeeds gives a token that can be redeemed in the
state it leaves behind (`refresh_of_redeemable`).

A session call that runs alone stores at most a key whose identifier it draws. So a
token that has been issued and cannot be redeemed any more cannot be redeemed after
further calls (`Later.redeemable`).
-/

set_option autoImplicit false

namespace Motogram.Auth

open Foundation Program

/-! ## A refresh alone -/

/-- A refresh with this token alone returns a pair. -/
def Redeemable (s : State) (token : RefreshToken) : Prop :=
  ∃ pair, ((refresh (some token)).exec s).1 = .ok pair

/-- After a pair was issued to the user. -/
def State.issued (s : State) (userId : UserId) : State :=
  (s.withFresh (s.fresh + 1)).withRefreshTokens
    (s.refreshTokens.set ⟨userId, s.fresh⟩ () (some (s.now + refreshTtlSeconds * 1000)))

variable (s : State) (token : RefreshToken)

theorem exec_issueTokenPair (userId : UserId) (username : String) (role : UserRole) :
    (issueTokenPair userId username role).exec s =
      (.ok (pairOf userId username role s.fresh s.now s.now), s.issued userId) := rfl

/-- The key of a new pair is present. -/
theorem issued_present (userId : UserId) :
    ((s.issued userId).refreshTokens.get? s.now ⟨userId, s.fresh⟩).isSome := by
  have ahead : s.now < s.now + refreshTtlSeconds * 1000 := Nat.lt_add_of_pos_right (by decide)
  have alive : ((some (s.now + refreshTtlSeconds * 1000)).all fun time =>
      decide (s.now < time)) = true := by rw [Option.all_some, decide_eq_true ahead]
  rw [State.issued, State.withRefreshTokens_refreshTokens, Keyspace.get?_set, if_pos rfl,
    if_pos alive]
  rfl

theorem exec_reissue :
    (∃ username role, (reissue token).exec s =
        (.ok (pairOf token.sub username role s.fresh s.now s.now), s.issued token.sub) ∧
          s.activeUser token.sub) ∨
      ((reissue token).exec s = (.error userInactive, s) ∧ ¬ s.activeUser token.sub) := by
  unfold reissue Flow.exec
  simp only [call_bind, done_bind]
  rw [run_call_of_answer _ (rfl : answer (.userFindUnique token.sub) s =
    (s.users.find? token.sub, s))]
  cases found : s.users.find? token.sub with
  | none => exact .inr ⟨rfl, by simp [State.activeUser, found]⟩
  | some user =>
    rw [run_throwIf_bind]
    by_cases gone : user.isBanned = true ∨ user.deletedAt.isSome
    · rw [if_pos gone]
      refine .inr ⟨rfl, ?_⟩
      rintro ⟨other, same, acts⟩
      obtain rfl := Option.some.inj (found.symm.trans same)
      exact acts gone
    · rw [if_neg gone]
      exact .inl ⟨user.username, user.role, exec_issueTokenPair _ _ _ _, user, found, gone⟩

def State.spent (s : State) (token : RefreshToken) : State :=
  s.withRefreshTokens (s.refreshTokens.delete token.key)

theorem exec_redeem :
    (redeem token).exec s =
      if (s.refreshTokens.get? s.now token.key).isSome = false then
        (.error refreshTokenRevoked, s)
      else (reissue token).exec (s.spent token) := by
  unfold redeem isRefreshActive Flow.exec
  simp only [call_bind, done_bind]
  rw [run_call_of_answer _ (rfl : answer (.getRefreshToken token.key) s =
    ((s.refreshTokens.get? s.now token.key).isSome, s)), run_throwIf_bind]
  rfl

theorem exec_refresh (presented : Option RefreshToken) :
    (refresh presented).exec s =
      match presented.filter fun token => decide (s.now / 1000 < token.exp) with
      | none => (.error refreshTokenInvalid, s)
      | some token =>
        if token.typ ≠ .refresh then (.error wrongTokenType, s) else (redeem token).exec s := by
  unfold refresh verifyRefresh Flow.exec
  simp only [call_bind, done_bind, pure_eq]
  rw [run_call_of_answer _ (rfl : answer .dateNow s = (s.now, s))]
  cases presented.filter fun token => decide (s.now / 1000 < token.exp) with
  | none => rfl
  | some token => exact run_throwIf_bind answer _ _ _ s

/-- **A token can be redeemed** when it has not expired, is a refresh token, its key
is present and its user is active, and only then. -/
theorem redeemable_iff :
    Redeemable s token ↔ s.now / 1000 < token.exp ∧ token.typ = .refresh ∧
      (s.refreshTokens.get? s.now token.key).isSome ∧ s.activeUser token.sub := by
  rw [Redeemable, exec_refresh, Option.filter_some]
  by_cases fresh : s.now / 1000 < token.exp
  · rw [if_pos (decide_eq_true fresh)]
    dsimp only
    by_cases typ : token.typ = .refresh
    · rw [if_neg (not_not.mpr typ), exec_redeem]
      by_cases absent : (s.refreshTokens.get? s.now token.key).isSome = false
      · rw [absent]
        exact iff_of_false (by rintro ⟨pair, ⟨⟩⟩) fun all => Bool.false_ne_true all.2.2.1
      · rw [if_neg absent]
        have present : (s.refreshTokens.get? s.now token.key).isSome :=
          Bool.not_eq_false _ ▸ absent
        obtain ⟨username, role, issued, active⟩ | ⟨refused, inactive⟩ :=
          exec_reissue (s.spent token) token
        · rw [issued]
          exact iff_of_true ⟨_, rfl⟩ ⟨fresh, typ, present, active⟩
        · rw [refused]
          exact iff_of_false (by rintro ⟨pair, ⟨⟩⟩) fun all => inactive all.2.2.2
    · rw [if_pos typ]
      exact iff_of_false (by rintro ⟨pair, ⟨⟩⟩) fun all => typ all.2.1
  · rw [if_neg (by simpa using fresh)]
    exact iff_of_false (by rintro ⟨pair, ⟨⟩⟩) fun all => fresh all.1

/-- **A refresh that succeeds gives a token that can be redeemed.** -/
theorem refresh_of_redeemable {s : State} {token : RefreshToken} (redeemable : Redeemable s token) :
    ∃ pair s', (refresh (some token)).exec s = (.ok pair, s') ∧ Redeemable s' pair.refreshToken := by
  obtain ⟨fresh, typ, present, active⟩ := (redeemable_iff s token).mp redeemable
  have here : ¬ (s.refreshTokens.get? s.now token.key).isSome = false := by
    rw [present]
    exact Bool.noConfusion
  rw [exec_refresh, Option.filter_some, if_pos (decide_eq_true fresh)]
  dsimp only
  rw [if_neg (not_not.mpr typ), exec_redeem, if_neg here]
  obtain ⟨username, role, issued, -⟩ | ⟨-, inactive⟩ := exec_reissue (s.spent token) token
  · refine ⟨_, _, issued, (redeemable_iff _ _).mpr ⟨?_, rfl, ?_, active⟩⟩
    · exact Nat.lt_add_of_pos_right (by decide)
    · exact issued_present (s.spent token) token.sub
  · exact absurd active inactive

/-! ## What calls leave behind -/

/-- What calls leave behind: what lasts has lasted, and a new key has an identifier
that was drawn meanwhile. -/
structure Later (s s' : State) : Prop extends Steady s s' where
  new : ∀ time key, (s'.refreshTokens.get? time key).isSome →
    (s.refreshTokens.get? time key).isSome ∨ (s.fresh ≤ key.jti ∧ key.jti < s'.fresh)

variable {s s' s'' : State}

theorem Steady.trans (first : Steady s s') (second : Steady s' s'') : Steady s s'' where
  deployment := second.deployment.trans first.deployment
  now := first.now.trans second.now
  fresh := first.fresh.trans second.fresh
  active := fun userId => (second.active userId).trans (first.active userId)
  resets := fun id stored found => by
    obtain ⟨before, present, hash, owner⟩ := second.resets id stored found
    obtain ⟨earlier, present', hash', owner'⟩ := first.resets id before present
    exact ⟨earlier, present', hash.trans hash', owner.trans owner'⟩
  emails := fun id stored found => by
    obtain ⟨before, present, hash, owner⟩ := second.emails id stored found
    obtain ⟨earlier, present', hash', owner'⟩ := first.emails id before present
    exact ⟨earlier, present', hash.trans hash', owner.trans owner'⟩

theorem Later.refl (s : State) : Later s s where
  toSteady := .refl s
  new := fun _ _ => .inl

theorem Later.trans (first : Later s s') (second : Later s' s'') : Later s s'' where
  toSteady := first.toSteady.trans second.toSteady
  new := fun time key present => by
    obtain before | ⟨drawn, below⟩ := second.new time key present
    · obtain earlier | ⟨drawn, below⟩ := first.new time key before
      · exact .inl earlier
      · exact .inr ⟨drawn, Nat.lt_of_lt_of_le below second.fresh⟩
    · exact .inr ⟨first.fresh.trans drawn, below⟩

theorem later_answer {request : AuthCall} (adds : ∀ key seconds,
    request ≠ .setRefreshToken key seconds) (s : State) : Later s (answer request s).2 where
  toSteady := answer_steady request s
  new := fun _ _ present => .inl (present_of_answer adds present)

theorem later_issued (s : State) (userId : UserId) : Later s (s.issued userId) where
  toSteady := (answer_steady .uuidv4 s).trans
    (answer_steady (.setRefreshToken ⟨userId, s.fresh⟩ refreshTtlSeconds)
      (s.withFresh (s.fresh + 1)))
  new := fun time key present => by
    rw [State.issued, State.withRefreshTokens_refreshTokens, Keyspace.get?_set] at present
    split at present
    · rename_i same
      rw [same]
      exact .inr ⟨Nat.le_refl _, Nat.lt_succ_self _⟩
    · exact .inl present


theorem later_reissue (s : State) (token : RefreshToken) : Later s ((reissue token).exec s).2 := by
  obtain ⟨username, role, issued, -⟩ | ⟨refused, -⟩ := exec_reissue s token
  · rw [issued]
    exact later_issued s token.sub
  · rw [refused]
    exact .refl s

theorem later_redeem (s : State) (token : RefreshToken) : Later s ((redeem token).exec s).2 := by
  rw [exec_redeem]
  split
  · exact .refl s
  · have spent : Later s (answer (.delRefreshToken token.key) s).2 :=
      later_answer (fun _ _ => by rintro ⟨⟩) s
    exact spent.trans (later_reissue _ token)

theorem later_revokeAllForUser (s : State) (userId : UserId) : Later s ((revokeAllForUser userId).exec s).2 := by
  have listed : Later s (answer (.keysRefreshTokens userId) s).2 :=
    later_answer (fun _ _ => by rintro ⟨⟩) s
  unfold revokeAllForUser Flow.exec
  simp only [run_sends]
  split
  · exact listed
  · exact listed.trans (later_answer (fun _ _ => by rintro ⟨⟩) _)

/-- A value that is passed on changes no store. -/
theorem run_map {Value Result : Type} (flow : Flow Value) (next : Value → Result) (s : State) :
    run answer (flow >>= fun value => pure (next value)) s = ((flow.exec s).1.map next, (flow.exec s).2) := by
  unfold Flow.exec
  rw [run_bind]
  cases run answer flow s with
  | mk outcome after => cases outcome <;> rfl

/-- A session call that runs alone sets at most a key it has drawn. -/
theorem Restful.later {role : Role} (counts : ∀ s, role.counts s) {program : SessionFlow}
    (restful : Restful role program) (s : State) : Later s (run answer program s).2 := by
  induction restful generalizing s with
  | done | fail => exact .refl s
  | quiet request quiet rest ih =>
    have sets : ∀ key seconds, request ≠ .setRefreshToken key seconds := by
      rintro key seconds rfl
      cases quiet
    exact (later_answer sets s).trans (ih s (counts s) _)
  | check token own =>
    rw [Stage.program, run_map]
    exact later_redeem s token
  | draw userId username userRole logsIn =>
    exact later_issued s userId
  | list userId drops =>
    rw [Stage.program, run_map]
    exact later_revokeAllForUser s userId

theorem Restful.issues {role : Role} (counts : ∀ s, role.counts s) {program : SessionFlow}
    (restful : Restful role program) {s s' : State} {pair : TokenPair}
    (returned : run answer program s = (.ok (some pair), s')) : pair.refreshToken.jti < s'.fresh := by
  induction restful generalizing s with
  | done | fail => cases returned
  | quiet request quiet rest ih => exact ih s (counts s) returned
  | check token own =>
    rw [Stage.program, run_map, exec_redeem] at returned
    split at returned
    · cases returned
    · obtain ⟨username, role, issued, -⟩ | ⟨refused, -⟩ := exec_reissue (s.spent token) token
      · rw [issued] at returned
        cases returned
        exact Nat.lt_succ_self _
      · rw [refused] at returned
        cases returned
  | draw userId username userRole logsIn =>
    cases returned
    exact Nat.lt_succ_self _
  | list userId drops =>
    rw [Stage.program, run_map] at returned
    generalize (revokeAllForUser userId).exec s = outcome at returned
    obtain ⟨result, after⟩ := outcome
    cases result <;> cases returned

def serveSession (s : State) (request : SessionCall) : State :=
  (run answer (sessionProgram s.deployment request) s).2

theorem restful_alone (s : State) (request : SessionCall) :
    Restful (request.role (fun _ => True) fun _ => True) (sessionProgram s.deployment request) :=
  restful_sessionProgram s.deployment request (fun _ _ _ _ => trivial) ⟨s, trivial⟩

theorem later_serveSession (s : State) (request : SessionCall) : Later s (serveSession s request) :=
  (restful_alone s request).later (fun _ => trivial) s

/-- The three endpoints a client with one session uses. -/
theorem later_refresh (s : State) (presented : Option RefreshToken) : Later s ((refresh presented).exec s).2 := by
  have later := later_serveSession s (.refresh presented)
  rwa [serveSession, sessionProgram, run_map] at later

theorem later_logout (s : State) (userId : UserId) (presented : Option (Option RefreshToken))
    (allDevices : Bool) : Later s ((logout userId presented allDevices).exec s).2 := by
  have later := later_serveSession s (.logout userId presented allDevices)
  rwa [serveSession, sessionProgram, run_map] at later

theorem later_login (s : State) (identifier password : String) :
    Later s ((login s.deployment identifier password).exec s).2 := by
  have later := later_serveSession s (.login identifier password)
  rwa [serveSession, sessionProgram, run_map] at later

theorem refresh_issues {presented : Option RefreshToken} {pair : TokenPair}
    (returned : (refresh presented).exec s = (.ok pair, s')) : pair.refreshToken.jti < s'.fresh := by
  have whole : run answer (sessionProgram s.deployment (.refresh presented)) s =
      (.ok (some pair), s') := by
    rw [sessionProgram, run_map, returned]
    rfl
  exact (restful_alone s (.refresh presented)).issues (fun _ => trivial) whole

theorem login_issues {identifier password : String} {userId : UserId} {pair : TokenPair}
    (returned : (login s.deployment identifier password).exec s = (.ok (userId, pair), s')) :
    pair.refreshToken.jti < s'.fresh := by
  have whole : run answer (sessionProgram s.deployment (.login identifier password)) s =
      (.ok (some pair), s') := by
    rw [sessionProgram, run_map, returned]
    rfl
  exact (restful_alone s (.login identifier password)).issues (fun _ => trivial) whole

/-- **A token that was issued and cannot be redeemed stays so.** -/
theorem Later.redeemable (later : Later s s') {token : RefreshToken} (issued : token.jti < s.fresh)
    (redeemable : Redeemable s' token) : Redeemable s token := by
  rw [redeemable_iff] at redeemable ⊢
  obtain ⟨fresh, typ, present, active⟩ := redeemable
  refine ⟨?_, typ, ?_, (later.active _).mp active⟩
  · exact Nat.lt_of_le_of_lt (Nat.div_le_div_right later.now) fresh
  · obtain before | ⟨drawn, -⟩ := later.new _ _ present
    · exact Keyspace.get?_isSome_of_le later.now before
    · exact absurd issued (Nat.not_lt.mpr drawn)

end Motogram.Auth
