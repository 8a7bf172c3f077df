import Motogram.Auth.Lifetime

/-!
# The session of the mobile client

`api-client.ts` and `auth.api.ts` on the one side, `jwt-auth.guard.ts` and
`AuthController.logout` on the other. `apiRequest` sends a request with the stored
access token; on a 401 it refreshes once and sends the request again, or drops what
it has stored.

`logoutRequest` sends `{ allDevices }` alone, and without a refresh token in its body
the server revokes nothing. So a session that is closed by it stays usable, unless its
token could not be redeemed before (`logout_ends_session_iff`).
-/

set_option autoImplicit false

namespace Motogram.Mobile

open Foundation Auth

/-! ## The server side -/

def missingToken : ServiceError := .http .unauthorized "missing_token" .unauthorized none
def tokenInvalid : ServiceError := .http .unauthorized "token_invalid" .tokenInvalid none

/-- `JwtAuthGuard`: the user the access token names. A request without one has no
`Authorization` header. -/
def jwtAuthGuard (accessToken : Option AccessToken) (now : Time) : Except ServiceError UserId :=
  match accessToken with
  | none => .error missingToken
  | some token => if now / 1000 < token.exp then .ok token.sub else .error tokenInvalid

/-- The body of `POST /auth/logout`. A string that is no signed token is
`some none`. -/
structure LogoutBody where
  allDevices : Bool
  refreshToken : Option (Option RefreshToken)

/-- A route of the server: what it answers to a request with this access token. -/
abbrev Route (Value : Type) := Option AccessToken → Auth.State → Except ServiceError Value × Auth.State

/-- `POST /auth/logout`. -/
def logoutRoute (body : LogoutBody) : Route Unit := fun accessToken s =>
  match jwtAuthGuard accessToken s.now with
  | .error error => (.error error, s)
  | .ok userId => (logout userId body.refreshToken body.allDevices).exec s

/-- `POST /auth/login`, a public route. -/
def loginRoute (identifier password : String) : Route (UserId × TokenPair) := fun _ s =>
  (login s.deployment identifier password).exec s

/-- Any other route behind the guard; none of them touches the sessions. -/
def guardedRoute : Route UserId := fun accessToken s => (jwtAuthGuard accessToken s.now, s)

/-- The answer has status 401. -/
def isUnauthorized {Value : Type} : Except ServiceError Value → Bool
  | .error (.http .unauthorized _ _ _) => true
  | _ => false

/-! ## The client -/

/-- What the client stores of a session. -/
structure Storage where
  userId : Option UserId
  accessToken : Option AccessToken
  refreshToken : Option RefreshToken

/-- `clearSession`, and what `apiRequest` deletes after a failed refresh. -/
def Storage.cleared : Storage := ⟨none, none, none⟩

/-- A client and the server it talks to. -/
structure Device where
  server : Auth.State
  storage : Storage

/-- `tryRefresh`: exchange the stored refresh token for a new pair. -/
def tryRefresh (device : Device) : Option TokenPair × Device :=
  match device.storage.refreshToken with
  | none => (none, device)
  | some token =>
    match (refresh (some token)).exec device.server with
    | (.error _, server) => (none, ⟨server, device.storage⟩)
    | (.ok pair, server) =>
      (some pair, ⟨server, { device.storage with
        accessToken := some pair.accessToken, refreshToken := some pair.refreshToken }⟩)

/-- One exchange of `apiRequest`. -/
def doRequest {Value : Type} (route : Route Value) (skipAuth : Bool) (device : Device) :
    Except ServiceError Value × Device :=
  let answered := route (if skipAuth then none else device.storage.accessToken) device.server
  (answered.1, ⟨answered.2, device.storage⟩)

/-- `apiRequest`. An error answer rejects the promise. -/
def apiRequest {Value : Type} (route : Route Value) (skipAuth : Bool) (device : Device) :
    Except ServiceError Value × Device :=
  let first := doRequest route skipAuth device
  if isUnauthorized first.1 && !skipAuth then
    match tryRefresh first.2 with
    | (some _, refreshed) => doRequest route skipAuth refreshed
    | (none, refused) => (first.1, ⟨refused.server, .cleared⟩)
  else first

/-- `loginRequest` and, when it has resolved, `setSession`. -/
def loginRequest (identifier password : String) (device : Device) :
    Except ServiceError (UserId × TokenPair) × Device :=
  match apiRequest (loginRoute identifier password) true device with
  | (.ok (userId, pair), after) =>
    (.ok (userId, pair), ⟨after.server,
      ⟨some userId, some pair.accessToken, some pair.refreshToken⟩⟩)
  | (.error error, after) => (.error error, after)

/-- `logoutRequest`. -/
def logoutRequest (allDevices : Bool) (device : Device) : Except ServiceError Unit × Device :=
  apiRequest (logoutRoute ⟨allDevices, none⟩) false device

/-! ## Runs -/

/-- What can happen: the client logs in, asks for something behind the guard, or logs
out, and others call the session endpoints or time passes. -/
inductive Action where
  | login (identifier password : String)
  | request
  | logout (allDevices : Bool)
  | elsewhere (request : SessionCall)

def step (device : Device) : Action → Device
  | .login identifier password => (loginRequest identifier password device).2
  | .request => (apiRequest guardedRoute false device).2
  | .logout allDevices => (logoutRequest allDevices device).2
  | .elsewhere request => ⟨serveSession device.server request, device.storage⟩

def Device.Holds (device : Device) (token : RefreshToken) : Prop :=
  device.storage.refreshToken = some token

def Device.Issued (device : Device) : Prop :=
  ∀ token, device.Holds token → token.jti < device.server.fresh

/-- A client that holds nothing and a server. -/
def Device.initial (server : Auth.State) : Device := ⟨server, .cleared⟩

/-! ## What an action keeps -/

/-- What an action does to the tokens: others that were issued do not come back to
life, and what the client holds afterwards was issued. -/
structure Device.Acts (device device' : Device) : Prop where
  later : Later device.server device'.server
  issued : ∀ token, device'.Holds token →
    device.Holds token ∨ token.jti < device'.server.fresh

theorem Device.Acts.refl (device : Device) : device.Acts device := ⟨.refl _, fun _ => .inl⟩

theorem Device.Acts.trans {first second third : Device} (earlier : first.Acts second)
    (later : second.Acts third) : first.Acts third where
  later := earlier.later.trans later.later
  issued := fun token holds => by
    obtain before | drawn := later.issued token holds
    · obtain start | drawn := earlier.issued token before
      · exact .inl start
      · exact .inr (Nat.lt_of_lt_of_le drawn later.later.fresh)
    · exact .inr drawn

theorem tryRefresh_acts (device : Device) : device.Acts (tryRefresh device).2 := by
  unfold tryRefresh
  cases held : device.storage.refreshToken with
  | none => exact .refl device
  | some token =>
    dsimp only
    cases refreshed : (refresh (some token)).exec device.server with
    | mk outcome server =>
      have later := later_refresh device.server (some token)
      rw [refreshed] at later
      cases outcome with
      | error error => exact ⟨later, fun token holds => .inl holds⟩
      | ok pair =>
        refine ⟨later, fun token holds => .inr ?_⟩
        cases holds
        exact refresh_issues refreshed

/-- A route leaves what calls leave behind. -/
def Route.Acts {Value : Type} (route : Route Value) : Prop :=
  ∀ accessToken s, Later s (route accessToken s).2

theorem logoutRoute_acts (body : LogoutBody) : (logoutRoute body).Acts := by
  intro accessToken s
  unfold logoutRoute
  split
  · exact .refl s
  · exact later_logout s _ _ _

theorem guardedRoute_acts : guardedRoute.Acts := fun _ s => .refl s

theorem doRequest_acts {Value : Type} {route : Route Value} (acts : route.Acts) (skipAuth : Bool)
    (device : Device) : device.Acts (doRequest route skipAuth device).2 :=
  ⟨acts _ _, fun _ => .inl⟩

theorem apiRequest_acts {Value : Type} {route : Route Value} (acts : route.Acts) (skipAuth : Bool)
    (device : Device) : device.Acts (apiRequest route skipAuth device).2 := by
  have first := doRequest_acts acts skipAuth device
  unfold apiRequest
  dsimp only
  split
  · have refreshed := tryRefresh_acts (doRequest route skipAuth device).2
    cases outcome : tryRefresh (doRequest route skipAuth device).2 with
    | mk pair after =>
      rw [outcome] at refreshed
      cases pair with
      | some pair => exact (first.trans refreshed).trans (doRequest_acts acts skipAuth after)
      | none =>
        refine ⟨(first.trans refreshed).later, fun token holds => ?_⟩
        cases holds
  · exact first

theorem loginRequest_acts (identifier password : String) (device : Device) :
    device.Acts (loginRequest identifier password device).2 := by
  have later := later_login device.server identifier password
  have whole : loginRequest identifier password device =
      match (login device.server.deployment identifier password).exec device.server with
      | (.ok (userId, pair), server) => (.ok (userId, pair),
          ⟨server, ⟨some userId, some pair.accessToken, some pair.refreshToken⟩⟩)
      | (.error error, server) => (.error error, ⟨server, device.storage⟩) := by
    simp only [loginRequest, apiRequest, doRequest, loginRoute, Bool.not_true, Bool.and_false,
      Bool.false_eq_true, if_false]
    cases (login device.server.deployment identifier password).exec device.server with
    | mk outcome server => cases outcome <;> rfl
  rw [whole]
  cases answered : (login device.server.deployment identifier password).exec device.server with
  | mk outcome server =>
    rw [answered] at later
    cases outcome with
    | error error => exact ⟨later, fun token holds => .inl holds⟩
    | ok result =>
      refine ⟨later, fun token holds => .inr ?_⟩
      cases holds
      exact login_issues answered

theorem step_acts (device : Device) (action : Action) : device.Acts (step device action) := by
  cases action with
  | login identifier password =>
    exact loginRequest_acts identifier password device
  | request => exact apiRequest_acts guardedRoute_acts false device
  | logout allDevices => exact apiRequest_acts (logoutRoute_acts _) false device
  | elsewhere request => exact ⟨later_serveSession device.server request, fun _ => .inl⟩

theorem follow_acts (device : Device) (actions : List Action) : device.Acts (follow step device actions) := by
  induction actions generalizing device with
  | nil => exact .refl device
  | cons action actions ih => exact (step_acts device action).trans (ih (step device action))

/-- The client and the server after a run that starts without a session. -/
def reached (server : Auth.State) (actions : List Action) : Device :=
  follow step (.initial server) actions

theorem reached_issued (server : Auth.State) (actions : List Action) : (reached server actions).Issued := by
  intro token holds
  obtain none | issued := (follow_acts (.initial server) actions).issued token holds
  · cases none
  · exact issued

/-! ## Logging out -/

/-- What the client sends revokes nothing: behind the guard the server answers and
changes nothing. -/
theorem logoutRoute_alone (accessToken : Option AccessToken) (s : Auth.State) :
    logoutRoute ⟨false, none⟩ accessToken s = ((jwtAuthGuard accessToken s.now).map fun _ => (), s) := by
  unfold logoutRoute
  cases jwtAuthGuard accessToken s.now <;> rfl

theorem isUnauthorized_guard {accessToken : Option AccessToken} {now : Time} {error : ServiceError}
    (refused : jwtAuthGuard accessToken now = .error error) :
    isUnauthorized (.error error : Except ServiceError Unit) = true := by
  unfold jwtAuthGuard at refused
  split at refused
  · cases refused
    rfl
  · split at refused
    · cases refused
    · cases refused
      rfl

/-- A refresh on the way exchanges a token that could be redeemed for another one. -/
theorem tryRefresh_eq_some {device after : Device} {pair : TokenPair}
    (refreshed : tryRefresh device = (some pair, after)) :
    ∃ token, device.Holds token ∧ Redeemable device.server token ∧
      after.Holds pair.refreshToken ∧ Redeemable after.server pair.refreshToken := by
  unfold tryRefresh at refreshed
  cases held : device.storage.refreshToken with
  | none =>
    rw [held] at refreshed
    cases refreshed
  | some token =>
    rw [held] at refreshed
    dsimp only at refreshed
    cases outcome : (refresh (some token)).exec device.server with
    | mk result server =>
      rw [outcome] at refreshed
      cases result with
      | error error => cases refreshed
      | ok pair' =>
        cases refreshed
        have redeemable : Redeemable device.server token :=
          ⟨pair, by rw [outcome]⟩
        obtain ⟨pair', server', same, alive⟩ := refresh_of_redeemable redeemable
        rw [outcome] at same
        cases same
        exact ⟨token, held, redeemable, rfl, alive⟩

/-- A logout that resolves without `allDevices` leaves everything as it was, or the
client has refreshed its token on the way. -/
theorem logoutRequest_resolves {device : Device}
    (resolved : (logoutRequest false device).1 = .ok ()) :
    (logoutRequest false device).2 = device ∨
      ∃ token token', device.Holds token ∧ Redeemable device.server token ∧
        (logoutRequest false device).2.Holds token' ∧
          Redeemable (logoutRequest false device).2.server token' := by
  revert resolved
  unfold logoutRequest apiRequest doRequest
  simp only [logoutRoute_alone, Bool.not_false, Bool.and_true, Bool.false_eq_true, if_false]
  cases guarded : jwtAuthGuard device.storage.accessToken device.server.now with
  | ok userId => exact fun _ => .inl rfl
  | error error =>
    rw [Except.map, if_pos (isUnauthorized_guard guarded)]
    cases refreshed : tryRefresh device with
    | mk pair after =>
      cases pair with
      | none => rintro ⟨⟩
      | some pair =>
        intro _
        obtain ⟨token, holds, redeemable, holds', redeemable'⟩ :=
          tryRefresh_eq_some refreshed
        exact .inr ⟨token, pair.refreshToken, holds, redeemable, holds', redeemable'⟩

/-- **Logging out ends the session exactly when the session had ended before**: the
token the client holds could not be redeemed when `logoutRequest` was called. -/
theorem logout_ends_session_iff (server : Auth.State) (before : List Action)
    (resolved : (logoutRequest false (reached server before)).1 = .ok ()) :
    (∀ later token, (reached server before).Holds token ∨
        (logoutRequest false (reached server before)).2.Holds token →
      ¬ Redeemable (follow step (logoutRequest false (reached server before)).2 later).server
        token) ↔
      ∀ token, (reached server before).Holds token →
        ¬ Redeemable (reached server before).server token := by
  have issued := reached_issued server before
  revert issued resolved
  generalize reached server before = device
  intro resolved issued
  obtain same | ⟨token, pair, holds, redeemable, holds', redeemable'⟩ :=
    logoutRequest_resolves resolved
  · rw [same]
    constructor
    · exact fun ended token holds => ended [] token (.inl holds)
    · intro dead later token holds redeemable
      have held : device.Holds token := holds.elim id id
      exact dead token held
        ((follow_acts device later).later.redeemable (issued token held) redeemable)
  · exact iff_of_false (fun ended => ended [] pair (.inr holds') redeemable')
      fun dead => dead token holds redeemable

/-- The refresh token rider 1 is given at his login. -/
def heldToken : RefreshToken := ⟨1, 0, .refresh, refreshTtlSeconds⟩

def changedElsewhere : List Action :=
  [.login "rider" "secret", .elsewhere (.changePassword 1 "secret" "better")]

/-- His session has ended before he logs out. -/
theorem logout_ends_session_small :
    (logoutRequest false (reached smallInstallation changedElsewhere)).1 = .ok () ∧
      ∀ later token, (reached smallInstallation changedElsewhere).Holds token ∨
          (logoutRequest false (reached smallInstallation changedElsewhere)).2.Holds token →
        ¬ Redeemable (follow step (logoutRequest false
          (reached smallInstallation changedElsewhere)).2 later).server token := by
  have resolves : (logoutRequest false (reached smallInstallation changedElsewhere)).1 = .ok () := by
    decide +kernel
  refine ⟨resolves, (logout_ends_session_iff smallInstallation changedElsewhere resolves).mpr ?_⟩
  intro token holds redeemable
  have held : (reached smallInstallation changedElsewhere).storage.refreshToken =
      some heldToken := by decide +kernel
  obtain rfl := Option.some.inj (held.symm.trans holds)
  have present := ((redeemable_iff _ _).mp redeemable).2.2.1
  exact absurd present (by decide +kernel)

/-- He logs in and logs out: the token he held can still be redeemed. -/
theorem closed_session_lives :
    (logoutRequest false (reached smallInstallation [.login "rider" "secret"])).1 = .ok () ∧
      (reached smallInstallation [.login "rider" "secret"]).Holds heldToken ∧
        Redeemable (logoutRequest false
          (reached smallInstallation [.login "rider" "secret"])).2.server heldToken := by
  refine ⟨by decide +kernel, ?_, (redeemable_iff _ _).mpr ⟨?_, ?_, ?_, ?_⟩⟩
  · show (reached smallInstallation [.login "rider" "secret"]).storage.refreshToken =
      some heldToken
    decide +kernel
  · decide +kernel
  · decide +kernel
  · decide +kernel
  · decide +kernel

end Motogram.Mobile
