import Motogram.Mobile.ApiClient

/-!
# Where the two copies part

`apiRequest` writes the storage alone. After a refresh the auth store still holds the old pair, and when a
refresh is refused it holds a session that the storage has lost. The copies agree in every state exactly
when no refresh brings other tokens than those in the auth store and no call drops what is stored while
the auth store holds something (`copies_always_agree_iff`); so they agree whenever no request is in flight
(`copies_agree`).
-/

set_option autoImplicit false

namespace Motogram.ApiClient

open Foundation

variable {strictSchema : Bool}

/-! ## Agreement -/

/-- No request is in flight: every call has ended, and no refresh is outstanding. -/
def Idle (s : State) : Prop := s.refreshes = [] ∧ ∀ phase ∈ s.calls, phase = .done

/-- Both tokens are stored. -/
def Storage.HasTokens (storage : Storage) : Prop :=
  storage.accessToken.isSome = true ∧ storage.refreshToken.isSome = true

/-- The auth store holds what is stored, and counts as signed in when tokens are stored. -/
structure CopiesAgree (s : State) : Prop where
  userId : s.auth.userId = s.storage.userId
  accessToken : s.auth.accessToken = s.storage.accessToken
  refreshToken : s.auth.refreshToken = s.storage.refreshToken
  authenticated : s.auth.isAuthenticated = true ↔ s.storage.HasTokens

/-- Tokens are stored with the id of their user, and neither is empty. -/
def Storage.Consistent (storage : Storage) : Prop :=
  ((truthy storage.accessToken).isSome && (truthy storage.userId).isSome) = true ↔ storage.HasTokens

instance (s : State) : Decidable (Idle s) := inferInstanceAs (Decidable (_ ∧ _))

instance (storage : Storage) : Decidable storage.HasTokens := inferInstanceAs (Decidable (_ ∧ _))

instance (storage : Storage) : Decidable storage.Consistent := inferInstanceAs (Decidable (_ ↔ _))

def AuthState.Holds (auth : AuthState) : Stores → Prop
  | .nothing => True
  | .half accessToken => auth.accessToken = some accessToken
  | .pair accessToken refreshToken =>
    auth.accessToken = some accessToken ∧ auth.refreshToken = some refreshToken

/-- The step leaves the storage as the auth store has it: a refresh brings no other tokens, a call whose
refresh was refused finds nobody signed in, and a user who signs in has an id and an access token. -/
def InStep (strictSchema : Bool) (s : State) : Event → Prop
  | .refreshed id response =>
    (∃ refresh ∈ s.refreshes, refresh.id = id) → s.auth.Holds (response.stores strictSchema)
  | .continued call =>
    s.calls[call]? = some (.resolved false) →
      s.auth.userId = none ∧ s.auth.accessToken = none ∧ s.auth.refreshToken = none
  | .setSession userId accessToken _ => userId ≠ "" ∧ accessToken ≠ ""
  | _ => True

instance (auth : AuthState) (stores : Stores) : Decidable (auth.Holds stores) := by
  unfold AuthState.Holds
  split <;> infer_instance

instance (s : State) (event : Event) : Decidable (InStep strictSchema s event) := by
  unfold InStep
  split <;> infer_instance

/-! ## Each step -/

theorem copiesAgree_iff {s : State} :
    CopiesAgree s ↔ s.auth.userId = s.storage.userId ∧ s.auth.accessToken = s.storage.accessToken ∧
      s.auth.refreshToken = s.storage.refreshToken ∧ s.storage.Consistent := by
  constructor
  · intro agree
    refine ⟨agree.userId, agree.accessToken, agree.refreshToken, ?_⟩
    have authenticated := agree.authenticated
    rw [AuthState.isAuthenticated, agree.accessToken, agree.userId] at authenticated
    exact authenticated
  · rintro ⟨userId, accessToken, refreshToken, consistent⟩
    refine ⟨userId, accessToken, refreshToken, ?_⟩
    rw [AuthState.isAuthenticated, accessToken, userId]
    exact consistent

/-- What is already held is written without effect. -/
theorem write_eq_self {s : State} (agree : CopiesAgree s) {stores : Stores} (holds : s.auth.Holds stores) :
    stores.write s.storage = s.storage := by
  cases stores with
  | nothing => rfl
  | half accessToken =>
    have stored : s.storage.accessToken = some accessToken := agree.accessToken ▸ holds
    rw [Stores.write, ← stored]
  | pair accessToken refreshToken =>
    have stored : s.storage.accessToken = some accessToken := agree.accessToken ▸ holds.1
    have stored' : s.storage.refreshToken = some refreshToken := agree.refreshToken ▸ holds.2
    rw [Stores.write, ← stored, ← stored']

theorem holds_of_settle {s : State} {refresh : Refresh} {response : RefreshResponse}
    (agree : CopiesAgree (settle strictSchema s refresh response)) :
    s.auth.Holds (response.stores strictSchema) := by
  have accessToken := agree.accessToken
  have refreshToken := agree.refreshToken
  simp only [settle] at accessToken refreshToken
  cases stores : response.stores strictSchema with
  | nothing => trivial
  | half accessToken' =>
    rw [stores] at accessToken
    exact accessToken
  | pair accessToken' refreshToken' =>
    rw [stores] at accessToken refreshToken
    exact ⟨accessToken, refreshToken⟩

theorem truthy_isSome {text : String} : (truthy (some text)).isSome = true ↔ text ≠ "" := by
  rw [truthy, Option.filter_some]
  by_cases empty : text = ""
  · simp [empty]
  · simp [empty]

theorem consistent_session {userId accessToken refreshToken : String} :
    Storage.Consistent ⟨some userId, some accessToken, some refreshToken⟩ ↔
      userId ≠ "" ∧ accessToken ≠ "" := by
  unfold Storage.Consistent
  rw [Bool.and_eq_true, truthy_isSome, truthy_isSome]
  have stored : Storage.HasTokens ⟨some userId, some accessToken, some refreshToken⟩ := ⟨rfl, rfl⟩
  exact ⟨fun same => (same.mpr stored).symm, fun both => ⟨fun _ => stored, fun _ => both.symm⟩⟩

theorem agree_step (s : State) (event : Event) (agree : CopiesAgree s)
    (inStep : InStep strictSchema s event) : CopiesAgree (step strictSchema s event) := by
  cases event with
  | apiRequest skipAuth => exact { agree with }
  | responded call unauthorized =>
    obtain same | done | ⟨refresh, -, awaits⟩ | ⟨-, -, refused⟩ | ⟨refreshToken, -, -, submits⟩ :=
      responded_cases strictSchema s call unauthorized
    · rw [same]
      exact agree
    · rw [done]
      exact { agree with }
    · rw [awaits]
      exact { agree with }
    · rw [refused]
      exact { agree with }
    · rw [submits]
      exact { agree with }
  | refreshed id response =>
    obtain same | ⟨refresh, member, sameId, settles⟩ := refreshed_cases strictSchema s id response
    · rw [same]
      exact agree
    · have unchanged := write_eq_self agree (inStep ⟨refresh, member, sameId⟩)
      rw [settles, copiesAgree_iff]
      simp only [settle, unchanged]
      exact copiesAgree_iff.mp agree
  | continued call =>
    obtain same | ⟨-, again⟩ | ⟨refused, wiped⟩ := continued_cases strictSchema s call
    · rw [same]
      exact agree
    · rw [again]
      exact { agree with }
    · obtain ⟨userId, accessToken, refreshToken⟩ := inStep refused
      rw [wiped, copiesAgree_iff]
      refine ⟨userId, accessToken, refreshToken, ?_⟩
      change Storage.deleted.Consistent
      decide
  | setSession userId accessToken refreshToken =>
    exact ⟨rfl, rfl, rfl, consistent_session.mpr inStep⟩
  | clearSession =>
    refine ⟨rfl, rfl, rfl, ?_⟩
    change Storage.deleted.Consistent
    decide
  | hydrate =>
    exact ⟨rfl, rfl, rfl, (copiesAgree_iff.mp agree).2.2.2⟩

theorem part_step (s : State) (event : Event) (_ : CopiesAgree s)
    (inStep : ¬ InStep strictSchema s event) : ¬ CopiesAgree (step strictSchema s event) := by
  intro agree
  refine inStep ?_
  cases event with
  | refreshed id response =>
    intro outstanding
    obtain ⟨refresh, settles⟩ := refreshed_of_outstanding strictSchema response outstanding
    rw [settles] at agree
    exact holds_of_settle agree
  | continued call =>
    intro refused
    simp only [step, refused] at agree
    exact ⟨agree.userId, agree.accessToken, agree.refreshToken⟩
  | setSession userId accessToken refreshToken =>
    exact consistent_session.mp (copiesAgree_iff.mp agree).2.2.2
  | apiRequest | responded | clearSession | hydrate => trivial

/-! ## Runs -/

theorem copies_always_agree_iff {storage : Storage} (consistent : storage.Consistent) (issued : List String)
    (events : List Event) :
    Throughout (step strictSchema) CopiesAgree (start storage issued) events ↔
      EachStep (step strictSchema) (InStep strictSchema) (start storage issued) events := by
  have initially : CopiesAgree (start storage issued) := copiesAgree_iff.mpr ⟨rfl, rfl, rfl, consistent⟩
  exact throughout_iff_eachStep (fun _ => id) agree_step part_step initially events

/-- **Whenever no request is in flight the copies agree**, in every run whose steps all leave the storage
as the auth store has it. -/
theorem copies_agree {storage : Storage} (consistent : storage.Consistent) (issued : List String)
    (events : List Event)
    (inStep : EachStep (step strictSchema) (InStep strictSchema) (start storage issued) events) :
    Throughout (step strictSchema) (fun s => Idle s → CopiesAgree s) (start storage issued) events := by
  have always := (copies_always_agree_iff consistent issued events).mpr inStep
  exact always.mono fun s agree _ => agree

/-- A user signs in, asks for something and signs out, and a request without a session is refused. -/
theorem copies_agree_small :
    let events : List Event := [.setSession "u" "a1" "r1", .apiRequest false, .responded 0 false,
      .clearSession, .apiRequest false, .responded 1 true, .continued 1]
    Throughout (step true) (fun s => Idle s → CopiesAgree s) (start .deleted []) events ∧
      Idle (follow (step true) (start .deleted []) events) :=
  ⟨copies_agree (by decide) _ _ (by decide +kernel), by decide +kernel⟩

/-- A request is answered 401, refreshed and repeated; then nothing is in flight, and the auth store has
the old tokens. -/
theorem copies_part :
    ¬ Throughout (step true) (fun s => Idle s → CopiesAgree s) (start ⟨some "u", some "a1", some "r1"⟩ [])
      [.apiRequest false, .responded 0 true, .refreshed 0 (.body (some "a2") (some "r2")), .continued 0,
        .responded 0 false] := by
  intro agree
  have last := agree.last (by decide +kernel)
  exact absurd last.accessToken (by decide +kernel)

end Motogram.ApiClient
