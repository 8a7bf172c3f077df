import Motogram.Mobile.ApiClient

/-!
# One refresh at a time

Many calls can be answered 401 for the same access token. The first of them submits the refresh token
and leaves its promise in `refreshInFlight`; the others await that promise, until the new pair is stored
and the promise is gone, both in one step. So there is one refresh at most, and a token whose successor
is stored is not found in the storage again (`single_flight`).
-/

set_option autoImplicit false

namespace Motogram.ApiClient

open Foundation

variable {strictSchema : Bool}

/-- Nobody signs in or out, and a refresh token that the server issues is different from those it has
issued before. -/
def Undisturbed (s : State) : Event → Prop
  | .refreshed _ response => ∀ refreshToken, response.issued = some refreshToken → refreshToken ∉ s.issued
  | .setSession _ _ _ | .clearSession => False
  | _ => True

instance (s : State) (event : Event) : Decidable (Undisturbed s event) :=
  match event with
  | .refreshed _ response =>
    inferInstanceAs (Decidable (∀ refreshToken ∈ response.issued, refreshToken ∉ s.issued))
  | .setSession _ _ _ | .clearSession => inferInstanceAs (Decidable False)
  | .apiRequest _ | .responded _ _ | .continued _ | .hydrate => inferInstanceAs (Decidable True)

/-- No token is submitted after the pair that came for it has been stored. -/
def NotResubmitted (log : List Entry) : Prop :=
  log.Pairwise fun earlier later =>
    ∀ refreshToken, earlier = .stored refreshToken → later ≠ .submitted refreshToken

/-- One refresh at most is outstanding, and no token is submitted once it is spent. -/
structure SingleFlight (s : State) : Prop where
  outstanding : s.refreshes.length ≤ 1
  spent : NotResubmitted s.log

/-! ## What every step keeps -/

/-- The refresh that is outstanding is the one in `refreshInFlight`, and the token in the storage is not
spent. -/
structure Sound (s : State) : Prop where
  flight : (s.refreshInFlight = none ∧ s.refreshes = []) ∨
    ∃ refresh, s.refreshInFlight = some refresh.id ∧ s.refreshes = [refresh]
  held : ∀ refreshToken, s.storage.refreshToken = some refreshToken →
    refreshToken ∈ s.issued ∧ .stored refreshToken ∉ s.log
  submitted : ∀ refresh ∈ s.refreshes, refresh.refreshToken ∈ s.issued
  stored : ∀ refreshToken, .stored refreshToken ∈ s.log → refreshToken ∈ s.issued
  spent : NotResubmitted s.log

theorem Sound.single {s : State} (sound : Sound s) : SingleFlight s where
  outstanding := by
    obtain ⟨-, none⟩ | ⟨refresh, -, one⟩ := sound.flight
    · rw [none]
      exact Nat.zero_le 1
    · rw [one]
      exact Nat.le_refl 1
  spent := sound.spent

theorem sound_start (storage : Storage) (issued : List String) : Sound (start storage issued) where
  flight := .inl ⟨rfl, rfl⟩
  held := fun _ held =>
    ⟨List.mem_append_right _ (Option.mem_toList.mpr held), List.not_mem_nil⟩
  submitted := fun _ => nofun
  stored := fun _ => nofun
  spent := List.Pairwise.nil

theorem notResubmitted_concat {log : List Entry} {entry : Entry} (spent : NotResubmitted log)
    (fresh : ∀ refreshToken, entry = .submitted refreshToken → .stored refreshToken ∉ log) :
    NotResubmitted (log ++ [entry]) := by
  refine List.pairwise_append.mpr ⟨spent, List.pairwise_singleton _ _, ?_⟩
  intro earlier member later isLast refreshToken stored submitted
  rw [List.mem_singleton.mp isLast] at submitted
  exact fresh refreshToken submitted (stored ▸ member)

theorem Sound.moved {s : State} (sound : Sound s) (call : Nat) (phase : Phase) :
    Sound (s.moved call phase) := { sound with }

theorem Sound.wiped {s : State} (sound : Sound s) : Sound s.wiped :=
  { sound with held := fun _ => nofun }

theorem Sound.sending {s : State} (sound : Sound s) (skipAuth : Bool) : Sound (s.sending skipAuth) where
  flight := sound.flight
  held := fun refreshToken held => by
    obtain ⟨issued, unspent⟩ := sound.held refreshToken held
    refine ⟨issued, fun member => ?_⟩
    obtain old | new := List.mem_append.mp member
    · exact unspent old
    · cases List.mem_singleton.mp new
  submitted := sound.submitted
  stored := fun refreshToken member => by
    obtain old | new := List.mem_append.mp member
    · exact sound.stored refreshToken old
    · cases List.mem_singleton.mp new
  spent := notResubmitted_concat sound.spent fun _ => nofun

theorem Sound.submitting {s : State} (sound : Sound s) {refreshToken : String} (none : s.refreshInFlight = none)
    (held : s.storage.refreshToken = some refreshToken) : Sound (s.submitting refreshToken) := by
  obtain ⟨issued, unspent⟩ := sound.held refreshToken held
  have empty : s.refreshes = [] := by
    obtain ⟨-, empty⟩ | ⟨refresh, some, -⟩ := sound.flight
    · exact empty
    · rw [none] at some
      cases some
  refine ⟨.inr ⟨{ id := s.count, refreshToken := refreshToken }, rfl, ?_⟩, ?_, ?_, ?_, ?_⟩
  · rw [State.submitting_refreshes, empty, List.nil_append]
  · intro other held'
    obtain ⟨issued', unspent'⟩ := sound.held other held'
    refine ⟨issued', fun member => ?_⟩
    obtain old | new := List.mem_append.mp member
    · exact unspent' old
    · cases List.mem_singleton.mp new
  · intro refresh member
    rw [State.submitting_refreshes, empty] at member
    rw [List.mem_singleton.mp member]
    exact issued
  · intro other member
    obtain old | new := List.mem_append.mp member
    · exact sound.stored other old
    · cases List.mem_singleton.mp new
  · refine notResubmitted_concat sound.spent fun other same => ?_
    cases same
    exact unspent

theorem settle_pair (s : State) (refresh : Refresh) {response : RefreshResponse}
    {accessToken refreshToken : String}
    (pair : response.stores strictSchema = .pair accessToken refreshToken) :
    response.issued = some refreshToken ∧
      (settle strictSchema s refresh response).storage.refreshToken = some refreshToken ∧
      (settle strictSchema s refresh response).log = s.log ++ [.stored refresh.refreshToken] := by
  refine ⟨?_, ?_, ?_⟩
  · unfold RefreshResponse.stores at pair
    split at pair
    · cases pair
      rfl
    · split at pair <;> cases pair
    · cases pair
  · simp only [settle, pair, Stores.write]
  · simp only [settle, pair, Stores.isPair, if_true]

theorem settle_unpaired (s : State) (refresh : Refresh) {response : RefreshResponse}
    (unpaired : (response.stores strictSchema).isPair = false) :
    (settle strictSchema s refresh response).storage.refreshToken = s.storage.refreshToken ∧
      (settle strictSchema s refresh response).log = s.log := by
  refine ⟨?_, ?_⟩
  · cases stores : response.stores strictSchema with
    | nothing | half => simp only [settle, stores, Stores.write]
    | pair accessToken refreshToken =>
      rw [stores] at unpaired
      cases unpaired
  · simp only [settle, unpaired, Bool.false_eq_true, if_false, List.append_nil]

theorem Sound.settle {s : State} (sound : Sound s) {refresh : Refresh} (member : refresh ∈ s.refreshes)
    {response : RefreshResponse}
    (fresh : ∀ refreshToken, response.issued = some refreshToken → refreshToken ∉ s.issued) :
    Sound (settle strictSchema s refresh response) := by
  have only : s.refreshes = [refresh] := by
    obtain ⟨-, empty⟩ | ⟨other, -, one⟩ := sound.flight
    · rw [empty] at member
      cases member
    · rw [one] at member
      rw [one, List.mem_singleton.mp member]
  have empty : (ApiClient.settle strictSchema s refresh response).refreshes = [] := by
    simp [ApiClient.settle, only]
  have consumed := sound.submitted refresh member
  have kept : ∀ token, token ∈ s.issued → token ∈ (ApiClient.settle strictSchema s refresh response).issued :=
    fun token issued => List.mem_append_left _ issued
  have none_left : ∀ other ∈ (ApiClient.settle strictSchema s refresh response).refreshes,
      other.refreshToken ∈ (ApiClient.settle strictSchema s refresh response).issued := by
    rw [empty]
    exact fun _ => nofun
  cases isPair : (response.stores strictSchema).isPair with
  | false =>
    obtain ⟨sameToken, sameLog⟩ := settle_unpaired s refresh isPair
    refine ⟨.inl ⟨rfl, empty⟩, ?_, none_left, ?_, ?_⟩
    · rw [sameToken, sameLog]
      exact fun token held => ⟨kept token (sound.held token held).1, (sound.held token held).2⟩
    · rw [sameLog]
      exact fun token stored => kept token (sound.stored token stored)
    · rw [sameLog]
      exact sound.spent
  | true =>
    cases stores : response.stores strictSchema with
    | nothing | half =>
      rw [stores] at isPair
      cases isPair
    | pair accessToken refreshToken =>
      obtain ⟨brought, newToken, newLog⟩ := settle_pair s refresh stores
      have unissued := fresh refreshToken brought
      refine ⟨.inl ⟨rfl, empty⟩, ?_, none_left, ?_, ?_⟩
      · rw [newToken, newLog]
        rintro token ⟨⟩
        refine ⟨List.mem_append_right _ (Option.mem_toList.mpr brought), fun member' => ?_⟩
        obtain old | new := List.mem_append.mp member'
        · exact unissued (sound.stored refreshToken old)
        · cases List.mem_singleton.mp new
          exact unissued consumed
      · rw [newLog]
        intro token stored
        obtain old | new := List.mem_append.mp stored
        · exact kept token (sound.stored token old)
        · cases List.mem_singleton.mp new
          exact kept _ consumed
      · rw [newLog]
        exact notResubmitted_concat sound.spent fun _ => nofun

theorem sound_step (s : State) (event : Event) (sound : Sound s) (undisturbed : Undisturbed s event) :
    Sound (step strictSchema s event) := by
  cases event with
  | apiRequest skipAuth => exact { sound.sending skipAuth with }
  | responded call unauthorized =>
    obtain same | done | ⟨refresh, -, awaits⟩ | ⟨-, -, refused⟩ | ⟨refreshToken, none, held, submits⟩ :=
      responded_cases strictSchema s call unauthorized
    · rw [same]
      exact sound
    · rw [done]
      exact sound.moved call .done
    · rw [awaits]
      exact sound.moved call _
    · rw [refused]
      exact sound.moved call _
    · rw [submits]
      have stored := (Option.filter_eq_some_iff.mp held).1
      exact (sound.submitting none stored).moved call _
  | refreshed id response =>
    obtain same | ⟨refresh, member, -, settles⟩ :=
      refreshed_cases strictSchema s id response
    · rw [same]
      exact sound
    · rw [settles]
      exact sound.settle member undisturbed
  | continued call =>
    obtain same | ⟨-, again⟩ | ⟨-, refused⟩ := continued_cases strictSchema s call
    · rw [same]
      exact sound
    · rw [again]
      exact (sound.sending false).moved call _
    · rw [refused]
      exact sound.wiped.moved call _
  | setSession | clearSession => exact undisturbed.elim
  | hydrate => exact { sound with }

/-- **One refresh at most is outstanding, and a token is not submitted again once the pair that came for
it is stored**, whatever calls there are and however their steps follow each other. -/
theorem single_flight (storage : Storage) (issued : List String) (events : List Event)
    (undisturbed : EachStep (step strictSchema) Undisturbed (start storage issued) events) :
    Throughout (step strictSchema) SingleFlight (start storage issued) events := by
  have sound : Throughout (step strictSchema) Sound (start storage issued) events :=
    throughout_of_keeps sound_step (sound_start storage issued) undisturbed
  exact sound.mono fun s sound => sound.single

/-- Two calls are answered 401 and share a refresh; a third one is answered 401 afterwards and submits
the new token. -/
theorem single_flight_small :
    let events : List Event := [.apiRequest false, .apiRequest false, .responded 0 true, .responded 1 true,
      .refreshed 0 (.body (some "a2") (some "r2")), .continued 0, .apiRequest false, .responded 2 true,
      .continued 1]
    Throughout (step false) SingleFlight (start ⟨some "u", some "a1", some "r1"⟩ []) events ∧
      (follow (step false) (start ⟨some "u", some "a1", some "r1"⟩ []) events).log =
        [.sent (some "a1"), .sent (some "a1"), .submitted "r1", .stored "r1", .sent (some "a2"),
          .sent (some "a2"), .submitted "r2", .sent (some "a2")] :=
  ⟨single_flight _ _ _ (by decide +kernel), by decide +kernel⟩

end Motogram.ApiClient
