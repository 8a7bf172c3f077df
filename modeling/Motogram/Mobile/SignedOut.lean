import Motogram.Mobile.ApiClient

/-!
# Signing out while a refresh is in flight

`clearSession` deletes what is stored and knows nothing of `refreshInFlight`. A refresh that was submitted
before goes on, and its response is stored whenever it comes. So nothing is stored while the user is
signed out exactly when no refresh brings tokens in that time (`signed_out_iff`).
-/

set_option autoImplicit false

namespace Motogram.ApiClient

open Foundation

variable {strictSchema : Bool}

def ForgetsSession (s : State) : Prop :=
  s.signedOut = true → s.storage.accessToken = none ∧ s.storage.refreshToken = none

instance (s : State) : Decidable (ForgetsSession s) :=
  inferInstanceAs (Decidable (_ → _))

/-- A response to an outstanding refresh has no tokens to store, when it comes after a sign-out and before
the next sign-in. -/
def NothingLate (strictSchema : Bool) (s : State) : Event → Prop
  | .refreshed id response =>
    s.signedOut = true → (∃ refresh ∈ s.refreshes, refresh.id = id) →
      response.stores strictSchema = .nothing
  | _ => True

/-! ## Each step -/

theorem write_accessToken {stores : Stores} (some_token : stores ≠ .nothing) (storage : Storage) :
    (stores.write storage).accessToken ≠ none := by
  cases stores with
  | nothing => exact absurd rfl some_token
  | half | pair => exact nofun

theorem forgets_step (s : State) (event : Event) (forgets : ForgetsSession s)
    (late : NothingLate strictSchema s event) : ForgetsSession (step strictSchema s event) := by
  cases event with
  | apiRequest | hydrate => exact forgets
  | responded call unauthorized =>
    obtain same | done | ⟨refresh, -, awaits⟩ | ⟨-, -, refused⟩ | ⟨refreshToken, -, -, submits⟩ :=
      responded_cases strictSchema s call unauthorized
    · rw [same]
      exact forgets
    · rw [done]
      exact forgets
    · rw [awaits]
      exact forgets
    · rw [refused]
      exact forgets
    · rw [submits]
      exact forgets
  | refreshed id response =>
    obtain same | ⟨refresh, member, sameId, settles⟩ := refreshed_cases strictSchema s id response
    · rw [same]
      exact forgets
    · rw [settles]
      intro signedOut
      have nothing := late signedOut ⟨refresh, member, sameId⟩
      simp only [settle, nothing, Stores.write]
      exact forgets signedOut
  | continued call =>
    obtain same | ⟨-, again⟩ | ⟨-, refused⟩ := continued_cases strictSchema s call
    · rw [same]
      exact forgets
    · rw [again]
      exact forgets
    · rw [refused]
      exact fun _ => ⟨rfl, rfl⟩
  | setSession userId accessToken refreshToken => exact fun signedOut => nomatch signedOut
  | clearSession => exact fun _ => ⟨rfl, rfl⟩

theorem remembers_step (s : State) (event : Event) (_ : ForgetsSession s)
    (late : ¬ NothingLate strictSchema s event) : ¬ ForgetsSession (step strictSchema s event) := by
  cases event with
  | refreshed id response =>
    unfold NothingLate at late
    push Not at late
    obtain ⟨signedOut, outstanding, stores⟩ := late
    obtain ⟨refresh, settles⟩ := refreshed_of_outstanding strictSchema response outstanding
    rw [settles]
    intro forgets
    exact write_accessToken stores s.storage (forgets signedOut).1
  | apiRequest | responded | continued | setSession | clearSession | hydrate => exact absurd trivial late

/-- **No token is stored while the user is signed out exactly when no refresh brings tokens after the
sign-out**, in every run. -/
theorem signed_out_iff (storage : Storage) (issued : List String) (events : List Event) :
    Throughout (step strictSchema) ForgetsSession (start storage issued) events ↔
      EachStep (step strictSchema) (NothingLate strictSchema) (start storage issued) events := by
  have initially : ForgetsSession (start storage issued) := fun signedOut => nomatch signedOut
  exact throughout_iff_eachStep (fun _ => id) forgets_step remembers_step initially events

/-- A request is answered 401 and its refresh is in flight when the user signs out; then the response
comes, and the new pair is stored. -/
theorem signed_out_refreshed :
    ¬ Throughout (step true) ForgetsSession (start ⟨some "u", some "a1", some "r1"⟩ [])
      [.apiRequest false, .responded 0 true, .clearSession, .refreshed 0 (.body (some "a2") (some "r2"))] := by
  decide +kernel

end Motogram.ApiClient
