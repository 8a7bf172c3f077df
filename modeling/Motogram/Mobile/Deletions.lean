import Motogram.Mobile.ApiClient

/-!
# Why the tokens are deleted

`tryRefresh` resolves to null when its request fails in the network, when it is answered with any status
that is not ok, when the body is no pair, and when there is no refresh token to submit. A call that goes on
after null deletes the tokens, whatever the reason (`deleted_offline`).

When every refresh is answered 401 or brings a pair, and every call that is answered 401 finds a refresh in
flight or a refresh token, or nothing stored at all, tokens are deleted only by calls whose refresh was
answered 401 (`deletions_justified`). What carries the proof is that a call whose refresh is null knows a 401
for it, or there has been nothing to delete since.
-/

set_option autoImplicit false

namespace Motogram.ApiClient

open Foundation

variable {strictSchema : Bool}

/-! ## Outcomes of a refresh -/

/-- How a refresh request ends: `fetch` fails, or there is an answer, with the texts its body has for the
two tokens when `json` succeeds. -/
inductive Outcome where
  | unreachable
  | answered (status : Nat) (tokens : Option (Option String × Option String))
  deriving DecidableEq

/-- What `tryRefresh` makes of it: an answer counts when `res.ok`. -/
def Outcome.response : Outcome → RefreshResponse
  | .answered status (some (accessToken, refreshToken)) =>
    if 200 ≤ status ∧ status ≤ 299 then .body accessToken refreshToken else .failed
  | _ => .failed

/-- The server rejects the refresh token. -/
def Outcome.rejects : Outcome → Bool
  | .answered status _ => decide (status = 401)
  | .unreachable => false

/-! ## Runs of `apiRequest` -/

/-- What happens while nobody signs in or out. -/
inductive RequestEvent where
  | apiRequest (skipAuth : Bool)
  | responded (call : Nat) (unauthorized : Bool)
  | refreshed (refresh : Nat) (outcome : Outcome)
  | continued (call : Nat)
  deriving DecidableEq

def RequestEvent.toEvent : RequestEvent → Event
  | .apiRequest skipAuth => .apiRequest skipAuth
  | .responded call unauthorized => .responded call unauthorized
  | .refreshed refresh outcome => .refreshed refresh outcome.response
  | .continued call => .continued call

/-- A client, and how the refresh ended that a call has awaited. -/
structure Traced where
  client : State
  reasons : Nat → Option Outcome

def Traced.learn (t : Traced) : RequestEvent → Nat → Option Outcome
  | .refreshed id outcome, call =>
    if (t.client.refreshes.any fun refresh => decide (refresh.id = id)) ∧
        t.client.calls[call]? = some (.awaiting id) then some outcome
    else t.reasons call
  | _, call => t.reasons call

def tracedStep (strictSchema : Bool) (t : Traced) (event : RequestEvent) : Traced where
  client := step strictSchema t.client event.toEvent
  reasons := t.learn event

def Traced.start (storage : Storage) (issued : List String) : Traced :=
  ⟨ApiClient.start storage issued, fun _ => none⟩

/-- A token that was stored is gone. -/
def Storage.Loses (before after : Storage) : Prop :=
  ((truthy before.accessToken).isSome ∧ after.accessToken = none) ∨
    ((truthy before.refreshToken).isSome ∧ after.refreshToken = none)

/-- Tokens are deleted only by a call whose refresh was answered 401. -/
def Justified (strictSchema : Bool) (t : Traced) (event : RequestEvent) : Prop :=
  t.client.storage.Loses (tracedStep strictSchema t event).client.storage →
    ∃ call outcome, event = .continued call ∧ t.reasons call = some outcome ∧ outcome.rejects = true

/-- A refresh is answered 401 or brings a pair, and a call that is answered 401 finds a refresh in flight, or
a refresh token, or no token at all. -/
def Told (strictSchema : Bool) (t : Traced) : RequestEvent → Prop
  | .refreshed id outcome => (∃ refresh ∈ t.client.refreshes, refresh.id = id) →
      outcome.rejects = true ∨ (outcome.response.stores strictSchema).isPair = true
  | .responded call true => t.client.calls[call]? = some (.requested false) →
      t.client.refreshInFlight.isSome ∨ (truthy t.client.storage.refreshToken).isSome ∨
        truthy t.client.storage.accessToken = none
  | _ => True

instance (strictSchema : Bool) (t : Traced) (event : RequestEvent) :
    Decidable (Told strictSchema t event) := by
  unfold Told
  split <;> infer_instance

/-! ## Each step -/

/-- A call that is answered 401 tries a refresh; no other response matters. -/
theorem responded_asks (strictSchema : Bool) (s : State) (call : Nat) (unauthorized : Bool) :
    (unauthorized = true ∧ s.calls[call]? = some (.requested false) ∧
        step strictSchema s (.responded call unauthorized) = tryRefresh s call) ∨
      step strictSchema s (.responded call unauthorized) = s ∨
      step strictSchema s (.responded call unauthorized) = s.moved call .done := by
  unfold step
  dsimp only
  split
  · rename_i skipAuth requested
    cases unauthorized <;> cases skipAuth
    · exact .inr (.inr rfl)
    · exact .inr (.inr rfl)
    · exact .inl ⟨rfl, requested, rfl⟩
    · exact .inr (.inr rfl)
  · exact .inr (.inr rfl)
  · exact .inr (.inl rfl)

structure Bare (s : State) : Prop where
  flight : s.refreshInFlight = none
  accessToken : truthy s.storage.accessToken = none
  refreshToken : truthy s.storage.refreshToken = none

def OneFlight (s : State) : Prop :=
  (s.refreshInFlight = none ∧ s.refreshes = []) ∨
    ∃ refresh, s.refreshInFlight = some refresh.id ∧ s.refreshes = [refresh]

/-- A call whose refresh is null knows a 401 for it, or there is nothing to delete. -/
structure Explained (t : Traced) : Prop where
  flight : OneFlight t.client
  refused : ∀ call, t.client.calls[call]? = some (.resolved false) →
    (∃ outcome, t.reasons call = some outcome ∧ outcome.rejects = true) ∨ Bare t.client

variable {s : State} (t : Traced)

theorem Bare.moved (bare : Bare s) (call : Nat) (phase : Phase) : Bare (s.moved call phase) :=
  { bare with }

theorem Bare.wiped (bare : Bare s) : Bare s.wiped := ⟨bare.flight, rfl, rfl⟩

theorem Bare.sending (bare : Bare s) (skipAuth : Bool) : Bare (s.sending skipAuth) := { bare with }

/-- Without a refresh token and without a refresh nothing is stored any more. -/
theorem bare_step (bare : Bare s) (none : s.refreshes = []) (event : RequestEvent) :
    Bare (step strictSchema s event.toEvent) := by
  cases event with
  | apiRequest skipAuth => exact { bare with }
  | responded call unauthorized =>
    obtain ⟨-, -, asks⟩ | same | done := responded_asks strictSchema s call unauthorized
    · have refused : tryRefresh s call = s.moved call (.resolved false) := by
        simp only [tryRefresh, bare.flight, bare.refreshToken]
      rw [RequestEvent.toEvent, asks, refused]
      exact bare.moved call _
    · rw [RequestEvent.toEvent, same]
      exact bare
    · rw [RequestEvent.toEvent, done]
      exact bare.moved call _
  | refreshed id outcome =>
    obtain same | ⟨refresh, member, -, -⟩ := refreshed_cases strictSchema s id outcome.response
    · rw [RequestEvent.toEvent, same]
      exact bare
    · rw [none] at member
      cases member
  | continued call =>
    obtain same | ⟨-, again⟩ | ⟨-, wipes⟩ := continued_cases strictSchema s call
    · rw [RequestEvent.toEvent, same]
      exact bare
    · rw [RequestEvent.toEvent, again]
      exact (bare.sending false).moved call _
    · rw [RequestEvent.toEvent, wipes]
      exact bare.wiped.moved call _

theorem OneFlight.none_of_flight (flight : OneFlight s) (none : s.refreshInFlight = none) : s.refreshes = [] := by
  obtain ⟨-, empty⟩ | ⟨refresh, some, -⟩ := flight
  · exact empty
  · rw [none] at some
    cases some

theorem oneFlight_step (flight : OneFlight s) (event : RequestEvent) :
    OneFlight (step strictSchema s event.toEvent) := by
  cases event with
  | apiRequest skipAuth => exact flight
  | responded call unauthorized =>
    obtain same | done | ⟨refresh, -, awaits⟩ | ⟨-, -, refused⟩ | ⟨refreshToken, none, -, submits⟩ :=
      responded_cases strictSchema s call unauthorized
    · rw [RequestEvent.toEvent, same]
      exact flight
    · rw [RequestEvent.toEvent, done]
      exact flight
    · rw [RequestEvent.toEvent, awaits]
      exact flight
    · rw [RequestEvent.toEvent, refused]
      exact flight
    · rw [RequestEvent.toEvent, submits]
      refine .inr ⟨{ id := s.count, refreshToken := refreshToken }, rfl, ?_⟩
      rw [State.moved_refreshes, State.submitting_refreshes, flight.none_of_flight none, List.nil_append]
  | refreshed id outcome =>
    obtain same | ⟨refresh, member, -, settles⟩ := refreshed_cases strictSchema s id outcome.response
    · rw [RequestEvent.toEvent, same]
      exact flight
    · rw [RequestEvent.toEvent, settles]
      refine .inl ⟨rfl, ?_⟩
      obtain ⟨-, empty⟩ | ⟨other, -, one⟩ := flight
      · rw [empty] at member
        cases member
      · rw [one] at member
        rw [List.mem_singleton.mp member]
        simp [settle, one]
  | continued call =>
    obtain same | ⟨-, again⟩ | ⟨-, wipes⟩ := continued_cases strictSchema s call
    · rw [RequestEvent.toEvent, same]
      exact flight
    · rw [RequestEvent.toEvent, again]
      exact flight
    · rw [RequestEvent.toEvent, wipes]
      exact flight

theorem refused_of_moved {calls : List Phase} {moved call : Nat} {phase : Phase}
    (other : phase ≠ .resolved false) (refused : (calls.set moved phase)[call]? = some (.resolved false)) :
    calls[call]? = some (.resolved false) := by
  rw [List.getElem?_set] at refused
  split at refused
  · split at refused
    · exact absurd (Option.some.inj refused) other
    · cases refused
  · exact refused

theorem refused_step (event : RequestEvent) (call : Nat)
    (refused : (tracedStep strictSchema t event).client.calls[call]? = some (.resolved false)) :
    (t.client.calls[call]? = some (.resolved false) ∧
        (tracedStep strictSchema t event).reasons call = t.reasons call) ∨
      (∃ id outcome, event = .refreshed id outcome ∧ (∃ refresh ∈ t.client.refreshes, refresh.id = id) ∧
        (outcome.response.stores strictSchema).isPair = false ∧
        (tracedStep strictSchema t event).reasons call = some outcome) ∨
      (event = .responded call true ∧ t.client.calls[call]? = some (.requested false) ∧
        t.client.refreshInFlight = none ∧ truthy t.client.storage.refreshToken = none) := by
  cases event with
  | apiRequest skipAuth =>
    refine .inl ⟨?_, rfl⟩
    change (t.client.calls ++ [.requested skipAuth])[call]? = _ at refused
    rw [List.getElem?_append] at refused
    split at refused
    · exact refused
    · rw [List.getElem?_singleton] at refused
      split at refused <;> cases refused
  | responded other unauthorized =>
    change (step strictSchema t.client (.responded other unauthorized)).calls[call]? = _ at refused
    obtain ⟨rfl, requested, asks⟩ | same | done :=
      responded_asks strictSchema t.client other unauthorized
    · rw [asks] at refused
      unfold tryRefresh at refused
      split at refused
      · exact .inl ⟨refused_of_moved (by rintro ⟨⟩) refused, rfl⟩
      · rename_i none
        split at refused
        · rename_i absent
          by_cases here : call = other
          · subst here
            exact .inr (.inr ⟨rfl, requested, none, absent⟩)
          · rw [State.moved_calls, List.getElem?_set_ne (Ne.symm here)] at refused
            exact .inl ⟨refused, rfl⟩
        · exact .inl ⟨refused_of_moved (by rintro ⟨⟩) refused, rfl⟩
    · rw [same] at refused
      exact .inl ⟨refused, rfl⟩
    · rw [done] at refused
      exact .inl ⟨refused_of_moved (by rintro ⟨⟩) refused, rfl⟩
  | refreshed id outcome =>
    change (step strictSchema t.client (.refreshed id outcome.response)).calls[call]? = _ at refused
    have kept : t.client.calls[call]? = some (.resolved false) →
        t.learn (.refreshed id outcome) call = t.reasons call := by
      intro before
      refine if_neg fun awaits => ?_
      rw [before] at awaits
      cases awaits.2
    obtain same | ⟨refresh, member, rfl, settles⟩ := refreshed_cases strictSchema t.client id outcome.response
    · rw [same] at refused
      exact .inl ⟨refused, kept refused⟩
    · rw [settles] at refused
      simp only [settle, List.getElem?_map] at refused
      obtain ⟨phase, before, after⟩ := Option.map_eq_some_iff.mp refused
      split at after
      · rename_i awaits
        refine .inr (.inl ⟨refresh.id, outcome, rfl, ⟨refresh, member, rfl⟩, ?_, if_pos ⟨?_, ?_⟩⟩)
        · exact Phase.resolved.inj after
        · exact List.any_eq_true.mpr ⟨refresh, member, decide_eq_true rfl⟩
        · rw [before, awaits]
      · rw [after] at before
        exact .inl ⟨before, kept before⟩
  | continued other =>
    change (step strictSchema t.client (.continued other)).calls[call]? = _ at refused
    obtain same | ⟨-, again⟩ | ⟨-, wipes⟩ := continued_cases strictSchema t.client other
    · rw [same] at refused
      exact .inl ⟨refused, rfl⟩
    · rw [again] at refused
      exact .inl ⟨refused_of_moved (by rintro ⟨⟩) refused, rfl⟩
    · rw [wipes] at refused
      exact .inl ⟨refused_of_moved (by rintro ⟨⟩) refused, rfl⟩

theorem explained_step (event : RequestEvent) (explained : Explained t) (told : Told strictSchema t event) :
    Explained (tracedStep strictSchema t event) := by
  refine ⟨oneFlight_step explained.flight event, fun call refused => ?_⟩
  have bare : Bare t.client → Bare (tracedStep strictSchema t event).client := fun bare =>
    bare_step bare (explained.flight.none_of_flight bare.flight) event
  obtain ⟨before, same⟩ | ⟨id, outcome, rfl, outstanding, failed, reason⟩ | ⟨rfl, requested, none, absent⟩ :=
    refused_step t event call refused
  · rw [same]
    exact (explained.refused call before).imp id bare
  · obtain rejects | pair := told outstanding
    · exact .inl ⟨outcome, reason, rejects⟩
    · rw [failed] at pair
      cases pair
  · obtain flight | present | nothing := told requested
    · rw [none] at flight
      cases flight
    · rw [absent] at present
      cases present
    · exact .inr (bare ⟨none, nothing, absent⟩)

theorem not_loses_self (storage : Storage) : ¬ storage.Loses storage := by
  rintro (⟨stored, gone⟩ | ⟨stored, gone⟩)
  · rw [gone] at stored
    cases stored
  · rw [gone] at stored
    cases stored

/-- What is stored of a response deletes nothing. -/
theorem not_loses_write (stores : Stores) (storage : Storage) : ¬ storage.Loses (stores.write storage) := by
  cases stores with
  | nothing => exact not_loses_self storage
  | half accessToken =>
    rintro (⟨-, ⟨⟩⟩ | ⟨stored, gone⟩)
    exact not_loses_self storage (.inr ⟨stored, gone⟩)
  | pair accessToken refreshToken => rintro (⟨-, ⟨⟩⟩ | ⟨-, ⟨⟩⟩)

/-- Only a call that goes on after null deletes tokens. -/
theorem loses_step (event : RequestEvent)
    (loses : t.client.storage.Loses (tracedStep strictSchema t event).client.storage) :
    ∃ call, event = .continued call ∧ t.client.calls[call]? = some (.resolved false) := by
  have kept : ∀ {after}, (tracedStep strictSchema t event).client = after →
      after.storage = t.client.storage → False := by
    intro after is same
    rw [is, same] at loses
    exact not_loses_self t.client.storage loses
  cases event with
  | apiRequest skipAuth => exact (kept rfl rfl).elim
  | responded call unauthorized =>
    obtain same | done | ⟨refresh, -, awaits⟩ | ⟨-, -, refused⟩ | ⟨refreshToken, -, -, submits⟩ :=
      responded_cases strictSchema t.client call unauthorized
    · exact (kept same rfl).elim
    · exact (kept done rfl).elim
    · exact (kept awaits rfl).elim
    · exact (kept refused rfl).elim
    · exact (kept submits rfl).elim
  | refreshed id outcome =>
    obtain same | ⟨refresh, -, -, settles⟩ := refreshed_cases strictSchema t.client id outcome.response
    · exact (kept same rfl).elim
    · have written : (tracedStep strictSchema t (.refreshed id outcome)).client =
          settle strictSchema t.client refresh outcome.response := settles
      rw [written] at loses
      exact absurd loses (not_loses_write _ _)
  | continued call =>
    obtain same | ⟨-, again⟩ | ⟨refused, -⟩ := continued_cases strictSchema t.client call
    · exact (kept same rfl).elim
    · exact (kept again rfl).elim
    · exact ⟨call, rfl, refused⟩

/-- **Tokens are deleted only by calls whose refresh was answered 401**, when every refresh is answered 401
or brings a pair, and every call that is answered 401 finds a refresh in flight, or a refresh token, or no
token at all. -/
theorem deletions_justified (storage : Storage) (issued : List String) (events : List RequestEvent)
    (told : EachStep (tracedStep strictSchema) (Told strictSchema) (.start storage issued) events) :
    EachStep (tracedStep strictSchema) (Justified strictSchema) (.start storage issued) events := by
  refine eachStep_of_keeps explained_step (fun t event explained _ loses => ?_)
    ⟨.inl ⟨rfl, rfl⟩, fun call => by rintro ⟨⟩⟩ told
  obtain ⟨call, rfl, refused⟩ := loses_step t event loses
  obtain ⟨outcome, reason, rejects⟩ | bare := explained.refused call refused
  · exact ⟨call, outcome, rfl, reason, rejects⟩
  · obtain ⟨stored, -⟩ | ⟨stored, -⟩ := loses
    · rw [bare.accessToken] at stored
      cases stored
    · rw [bare.refreshToken] at stored
      cases stored

/-! ## A client that goes offline -/

/-- A session of rider 1. -/
def signedInStorage : Storage := ⟨some "1", some "access", some "refresh"⟩

/-- A request is answered 401, and so is the refresh. -/
theorem deletions_justified_small :
    EachStep (tracedStep true) (Justified true) (.start signedInStorage [])
      [.apiRequest false, .responded 0 true, .refreshed 0 (.answered 401 none), .continued 0] :=
  deletions_justified signedInStorage [] _ (by decide)

/-- A request is answered 401, and the refresh ends like this. -/
def endsWith (outcome : Outcome) : List RequestEvent :=
  [.apiRequest false, .responded 0 true, .refreshed 0 outcome]

/-- The tokens are deleted when the network fails or the server has an error; and an access token is deleted
without a refresh. -/
theorem deleted_offline :
    ¬ Justified true (follow (tracedStep true) (.start signedInStorage []) (endsWith .unreachable))
        (.continued 0) ∧
      ¬ Justified true (follow (tracedStep true) (.start signedInStorage []) (endsWith (.answered 500 none)))
        (.continued 0) ∧
      ¬ Justified true (follow (tracedStep true) (.start ⟨some "1", some "access", none⟩ [])
        [.apiRequest false, .responded 0 true]) (.continued 0) := by
  refine ⟨fun justified => ?_, fun justified => ?_, fun justified => ?_⟩
  · obtain ⟨call, outcome, ⟨⟩, ⟨⟩, rejects⟩ := justified (.inl ⟨by decide, by decide⟩)
    exact absurd rejects (by decide)
  · obtain ⟨call, outcome, ⟨⟩, ⟨⟩, rejects⟩ := justified (.inl ⟨by decide, by decide⟩)
    exact absurd rejects (by decide)
  · obtain ⟨call, outcome, ⟨⟩, ⟨⟩, -⟩ := justified (.inl ⟨by decide, by decide⟩)

end Motogram.ApiClient
