import Mathlib.Tactic.Simps.Basic
import Motogram.Foundation.Run

/-!
# The two copies of the session

`api-client.ts` and `auth.store.ts` of the mobile client. The session is kept in the storage and in the
auth store. Signing in and out writes both; `apiRequest` reads and writes the storage alone, and when a
request is answered 401 it exchanges the refresh token, one exchange for all requests that wait.

Everything happens in one thread: what a function does between two awaits is one step, and the steps of
any number of calls follow each other in any order. A refresh is a request of its own, with the tokens
it submits and brings noted in `log`.
-/

set_option autoImplicit false

namespace Motogram.ApiClient

/-! ## The copies -/

/-- The texts under the keys of a session. -/
structure Storage where
  userId : Option String
  accessToken : Option String
  refreshToken : Option String
  deriving DecidableEq

/-- What `apiRequest` and `clearSession` leave of it. -/
def Storage.deleted : Storage := ⟨none, none, none⟩

structure AuthState where
  userId : Option String
  accessToken : Option String
  refreshToken : Option String
  isHydrated : Bool
  deriving DecidableEq

/-- A text counts as absent when it is empty. -/
def truthy (text : Option String) : Option String := text.filter fun text => text ≠ ""

def AuthState.isAuthenticated (auth : AuthState) : Bool :=
  (truthy auth.accessToken).isSome && (truthy auth.userId).isSome

/-! ## Requests -/

/-- How far a call of `apiRequest` is. -/
inductive Phase where
  | requested (skipAuth : Bool)
  -- awaits the promise that `refreshInFlight` was
  | awaiting (refresh : Nat)
  -- `tryRefresh` has resolved: to a pair, or to null
  | resolved (refreshed : Bool)
  | repeated
  | done
  deriving DecidableEq

/-- A request for `/auth/refresh` whose response is outstanding, with the token in its body. -/
structure Refresh where
  id : Nat
  refreshToken : String
  deriving DecidableEq

/-- The response to a refresh: `fetch` or `json` fails or the status is not ok, or there is a body, with
the texts that it has for the two tokens. -/
inductive RefreshResponse where
  | failed
  | body (accessToken refreshToken : Option String)
  deriving DecidableEq

inductive Entry where
  -- a request with this token in its `Authorization` header
  | sent (authorization : Option String)
  -- a refresh request with this token in its body
  | submitted (refreshToken : String)
  -- the pair that came for this token is stored
  | stored (refreshToken : String)
  deriving DecidableEq

/-! ## The client -/

structure State where
  storage : Storage
  auth : AuthState
  refreshInFlight : Option Nat
  refreshes : List Refresh
  -- the number of refresh requests so far
  count : Nat
  calls : List Phase
  log : List Entry
  -- the refresh tokens the server has issued
  issued : List String
  -- `clearSession` was called, and `setSession` has not been called since
  signedOut : Bool
  deriving DecidableEq

section Setters

variable (s : State)

@[simps] def State.moved (call : Nat) (phase : Phase) : State := { s with calls := s.calls.set call phase }

@[simps] def State.wiped : State := { s with storage := .deleted }

/-- `fetch` of `doRequest`, with the access token that is stored. -/
@[simps] def State.sending (skipAuth : Bool) : State :=
  { s with log := s.log ++ [.sent (if skipAuth then none else truthy s.storage.accessToken)] }

@[simps] def State.submitting (refreshToken : String) : State :=
  { s with
    refreshInFlight := some s.count
    refreshes := s.refreshes ++ [{ id := s.count, refreshToken := refreshToken }]
    count := s.count + 1
    log := s.log ++ [.submitted refreshToken] }

end Setters

/-- `tryRefresh`, as far as it gets at once, for a call. -/
def tryRefresh (s : State) (call : Nat) : State :=
  match s.refreshInFlight with
  | some refresh => s.moved call (.awaiting refresh)
  | none =>
    match truthy s.storage.refreshToken with
    | none => s.moved call (.resolved false)
    | some refreshToken => (s.submitting refreshToken).moved call (.awaiting s.count)

/-- What `setString` takes of a pair: nothing, the first token or both. -/
inductive Stores where
  | nothing
  | half (accessToken : String)
  | pair (accessToken refreshToken : String)
  deriving DecidableEq

/-- What of a response is stored: with `strictSchema` a body without both texts is not accepted; without
it, `setString` is called for one token after the other, until one is no text. -/
def RefreshResponse.stores (strictSchema : Bool) : RefreshResponse → Stores
  | .body (some accessToken) (some refreshToken) => .pair accessToken refreshToken
  | .body (some accessToken) none => if strictSchema then .nothing else .half accessToken
  | _ => .nothing

def Stores.write : Stores → Storage → Storage
  | .nothing, storage => storage
  | .half accessToken, storage => { storage with accessToken := some accessToken }
  | .pair accessToken refreshToken, storage =>
    { storage with accessToken := some accessToken, refreshToken := some refreshToken }

/-- `tryRefresh` resolves to a pair. -/
def Stores.isPair : Stores → Bool
  | .pair _ _ => true
  | _ => false

def RefreshResponse.issued : RefreshResponse → Option String
  | .failed => none
  | .body _ refreshToken => refreshToken

/-- The rest of the promise in `tryRefresh`, and its value for the calls that await it. -/
def settle (strictSchema : Bool) (s : State) (refresh : Refresh) (response : RefreshResponse) : State :=
  let stores := response.stores strictSchema
  { s with
    storage := stores.write s.storage
    refreshInFlight := none
    refreshes := s.refreshes.filter fun other => other.id ≠ refresh.id
    calls := s.calls.map fun phase =>
      if phase = .awaiting refresh.id then .resolved stores.isPair else phase
    log := s.log ++ if stores.isPair then [.stored refresh.refreshToken] else []
    issued := s.issued ++ response.issued.toList }

inductive Event where
  -- `apiRequest` is called
  | apiRequest (skipAuth : Bool)
  -- the response to a call arrives, or its `fetch` fails
  | responded (call : Nat) (unauthorized : Bool)
  -- the response to a refresh arrives
  | refreshed (refresh : Nat) (response : RefreshResponse)
  -- a call goes on after `await tryRefresh()`
  | continued (call : Nat)
  | setSession (userId accessToken refreshToken : String)
  | clearSession
  | hydrate
  deriving DecidableEq

def setSession (s : State) (userId accessToken refreshToken : String) : State :=
  { s with
    storage := ⟨some userId, some accessToken, some refreshToken⟩
    auth := ⟨some userId, some accessToken, some refreshToken, s.auth.isHydrated⟩
    signedOut := false }

def clearSession (s : State) : State :=
  { s with
    storage := .deleted
    auth := ⟨none, none, none, s.auth.isHydrated⟩
    signedOut := true }

def hydrate (s : State) : State :=
  { s with auth := ⟨s.storage.userId, s.storage.accessToken, s.storage.refreshToken, true⟩ }

def step (strictSchema : Bool) (s : State) : Event → State
  | .apiRequest skipAuth =>
    let sent := s.sending skipAuth
    { sent with calls := sent.calls ++ [.requested skipAuth] }
  | .responded call unauthorized =>
    match s.calls[call]? with
    | some (.requested skipAuth) =>
      if unauthorized && !skipAuth then tryRefresh s call else s.moved call .done
    | some .repeated => s.moved call .done
    | _ => s
  | .refreshed id response =>
    match s.refreshes.find? fun refresh => refresh.id = id with
    | some refresh => settle strictSchema s refresh response
    | none => s
  | .continued call =>
    match s.calls[call]? with
    | some (.resolved true) => (s.sending false).moved call .repeated
    | some (.resolved false) => s.wiped.moved call .done
    | _ => s
  | .setSession userId accessToken refreshToken => setSession s userId accessToken refreshToken
  | .clearSession => clearSession s
  | .hydrate => hydrate s

/-- A client that has read its storage and has no request out; the server has issued the token it
stores, and others. -/
def start (storage : Storage) (issued : List String) : State where
  storage := storage
  auth := ⟨storage.userId, storage.accessToken, storage.refreshToken, true⟩
  refreshInFlight := none
  refreshes := []
  count := 0
  calls := []
  log := []
  issued := issued ++ storage.refreshToken.toList
  signedOut := false

/-! ## What a step does -/

variable (strictSchema : Bool)

/-- A response is answered in one of four ways. -/
theorem responded_cases (s : State) (call : Nat) (unauthorized : Bool) :
    step strictSchema s (.responded call unauthorized) = s ∨
      step strictSchema s (.responded call unauthorized) = s.moved call .done ∨
      (∃ refresh, s.refreshInFlight = some refresh ∧
        step strictSchema s (.responded call unauthorized) = s.moved call (.awaiting refresh)) ∨
      (s.refreshInFlight = none ∧ truthy s.storage.refreshToken = none ∧
        step strictSchema s (.responded call unauthorized) = s.moved call (.resolved false)) ∨
      ∃ refreshToken, s.refreshInFlight = none ∧ truthy s.storage.refreshToken = some refreshToken ∧
        step strictSchema s (.responded call unauthorized) =
          (s.submitting refreshToken).moved call (.awaiting s.count) := by
  unfold step
  dsimp only
  split
  · split
    · unfold tryRefresh
      split
      · rename_i refresh inFlight
        exact .inr (.inr (.inl ⟨refresh, inFlight, rfl⟩))
      · rename_i inFlight
        split
        · rename_i absent
          exact .inr (.inr (.inr (.inl ⟨inFlight, absent, rfl⟩)))
        · rename_i refreshToken present
          exact .inr (.inr (.inr (.inr ⟨refreshToken, inFlight, present, rfl⟩)))
    · exact .inr (.inl rfl)
  · exact .inr (.inl rfl)
  · exact .inl rfl

/-- A call goes on after its refresh, or has none to wait for. -/
theorem continued_cases (s : State) (call : Nat) :
    step strictSchema s (.continued call) = s ∨
      (s.calls[call]? = some (.resolved true) ∧
        step strictSchema s (.continued call) = (s.sending false).moved call .repeated) ∨
      (s.calls[call]? = some (.resolved false) ∧
        step strictSchema s (.continued call) = s.wiped.moved call .done) := by
  unfold step
  dsimp only
  split
  · rename_i refreshed
    exact .inr (.inl ⟨refreshed, rfl⟩)
  · rename_i refused
    exact .inr (.inr ⟨refused, rfl⟩)
  · exact .inl rfl

theorem refreshed_cases (s : State) (id : Nat) (response : RefreshResponse) :
    step strictSchema s (.refreshed id response) = s ∨
      ∃ refresh ∈ s.refreshes, refresh.id = id ∧
        step strictSchema s (.refreshed id response) = settle strictSchema s refresh response := by
  unfold step
  dsimp only
  split
  · rename_i refresh found
    have same : refresh.id = id := by simpa using List.find?_some found
    exact .inr ⟨refresh, List.mem_of_find?_eq_some found, same, rfl⟩
  · exact .inl rfl

theorem refreshed_of_outstanding {s : State} {id : Nat} (response : RefreshResponse)
    (outstanding : ∃ refresh ∈ s.refreshes, refresh.id = id) :
    ∃ refresh, step strictSchema s (.refreshed id response) = settle strictSchema s refresh response := by
  cases found : s.refreshes.find? fun refresh => refresh.id = id with
  | none =>
    obtain ⟨refresh, member, same⟩ := outstanding
    exact absurd (decide_eq_true same) (List.find?_eq_none.mp found refresh member)
  | some refresh =>
    refine ⟨refresh, ?_⟩
    simp only [step, found]

end Motogram.ApiClient
