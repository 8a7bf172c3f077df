import Motogram.Auth.Lifetime
import Motogram.Auth.Rotation

/-!
# A refresh while a store fails

`refresh` reads the key of the token, deletes it, looks up the user and stores the key of a new pair.
Any of these calls may fail, and a call that fails may have been carried out.

The calls a refresh with a token that can be redeemed sends are listed once, each with the state it is
sent to (`issued_refresh`). Up to the deletion nothing has changed; from the deletion on the key is gone,
and the only key set after it is a new one. So the session outlives the failure of the read, and that of a
deletion that was not carried out, and no other (`session_outlives_iff`).
-/

set_option autoImplicit false

namespace Motogram.Auth

open Foundation Program

/-- The calls Postgres or Redis answers; the others are made in the process. -/
def AuthCall.inStore : AuthCall → Bool
  | .emitLogin _ _ | .bcryptCompare _ _ | .bcryptHash _ | .otpCompare _ _ _ | .uuidv4 | .jwtSign
  | .dateNow | .elapse _ => false
  | _ => true

/-- After a refresh that was cut short the token can still be redeemed, or the pair that was returned
can. -/
def Outlives (token : RefreshToken) (outcome : Option (Except ServiceError TokenPair) × State) : Prop :=
  Redeemable outcome.2 token ∨
    ∃ pair, outcome.1 = some (.ok pair) ∧ Redeemable outcome.2 pair.refreshToken

/-- The key is left alone by the call: it is read, or the deletion is not carried out. -/
def Spared (token : RefreshToken) (request : AuthCall) (applied : Bool) : Prop :=
  request = .getRefreshToken token.key ∨ request = .delRefreshToken token.key ∧ applied = false

instance (token : RefreshToken) (request : AuthCall) (applied : Bool) :
    Decidable (Spared token request applied) := by
  unfold Spared
  infer_instance

/-! ## The calls of a refresh -/

variable {s : State} {token : RefreshToken}

theorem issued_rotate (active : s.activeUser token.sub) :
    (rotate token).issued answer s =
      (.delRefreshToken token.key, s) :: (.userFindUnique token.sub, s.spent token) ::
        [(.uuidv4, s.spent token), (.jwtSign, (s.spent token).withFresh (s.fresh + 1)),
          (.jwtSign, (s.spent token).withFresh (s.fresh + 1)),
          (.setRefreshToken ⟨token.sub, s.fresh⟩ refreshTtlSeconds,
            (s.spent token).withFresh (s.fresh + 1))] := by
  obtain ⟨user, found, acts⟩ := active
  have looked : answer (.userFindUnique token.sub) (s.spent token) = (some user, s.spent token) := by
    rw [← found]
    rfl
  have deleted : answer (.delRefreshToken token.key) s = ((), s.spent token) := rfl
  unfold rotate revokeRefresh
  simp only [call_bind, done_bind, issued_call, deleted, looked]
  rw [throwIf_of_not acts, done_bind]
  rfl

/-- The calls of a refresh with a token that can be redeemed, each with the state it finds. -/
theorem issued_refresh (redeemable : Redeemable s token) :
    (refresh (some token)).issued answer s =
      (.dateNow, s) :: (.getRefreshToken token.key, s) :: (rotate token).issued answer s := by
  obtain ⟨fresh, typ, present, -⟩ := (redeemable_iff s token).mp redeemable
  have verified : (some token).filter (fun token => decide (s.now / 1000 < token.exp)) =
      some token := by rw [Option.filter_some, if_pos (decide_eq_true fresh)]
  have dated : answer .dateNow s = (s.now, s) := rfl
  have read : answer (.getRefreshToken token.key) s = (true, s) := by
    rw [← present]
    rfl
  unfold refresh verifyRefresh isRefreshActive
  simp only [call_bind, done_bind, pure_eq, issued_call, dated,
    verified]
  rw [throwIf_of_not (not_not.mpr typ), done_bind]
  simp only [issued_call, read]
  rw [throwIf_of_not (by decide), done_bind]

/-! ## What a failing call leaves -/

/-- A token whose key has been deleted is not redeemed. -/
theorem not_redeemable_spent (s : State) (token : RefreshToken) : ¬ Redeemable (s.spent token) token := by
  rw [redeemable_iff]
  rintro ⟨-, -, present, -⟩
  rw [State.spent, State.withRefreshTokens_refreshTokens, Keyspace.get?_delete, if_pos rfl] at present
  cases present

theorem not_redeemable_later {s' : State} {token : RefreshToken} (fresh : s.FreshKeys)
    (redeemable : Redeemable s token) (later : Later (s.spent token) s') : ¬ Redeemable s' token := by
  intro again
  obtain ⟨-, -, present, -⟩ := (redeemable_iff s token).mp redeemable
  exact not_redeemable_spent s token (later.redeemable (fresh s.now token.key present) again)

/-- The state a failing call leaves behind. -/
def left (entry : AuthCall × State) (applied : Bool) : State :=
  if applied then (answer entry.1 entry.2).2 else entry.2

/-- From the lookup of the user on, no failure brings the key back. -/
theorem gone_after_deletion (fresh : s.FreshKeys) (redeemable : Redeemable s token)
    {entry : AuthCall × State} (sent : entry ∈ ((rotate token).issued answer s).tail) (applied : Bool) :
    ¬ Redeemable (left entry applied) token := by
  have active : s.activeUser token.sub := ((redeemable_iff s token).mp redeemable).2.2.2
  have drawn : Later (s.spent token) (answer .uuidv4 (s.spent token)).2 :=
    later_answer (fun _ _ => by rintro ⟨⟩) (s.spent token)
  rw [issued_rotate active, List.tail_cons] at sent
  refine not_redeemable_later fresh redeemable ?_
  simp only [List.mem_cons, List.not_mem_nil, or_false] at sent
  obtain rfl | rfl | rfl | rfl | rfl := sent
  · cases applied <;> exact .refl _
  · cases applied
    · exact .refl _
    · exact drawn
  · cases applied <;> exact drawn
  · cases applied <;> exact drawn
  · cases applied
    · exact drawn
    · exact later_issued (s.spent token) token.sub

/-- **The session outlives a failing call** when the call is the read of the key, or the deletion of the
key and the deletion was not carried out, and only then. -/
theorem session_outlives_iff {s : State} (fresh : s.FreshKeys) {token : RefreshToken}
    (redeemable : Redeemable s token) {position : Nat} {request : AuthCall} {found : State}
    (sent : ((refresh (some token)).issued answer s)[position]? = some (request, found))
    (stored : request.inStore = true) (applied : Bool) :
    Outlives token ((refresh (some token)).interrupted answer applied position s) ↔
      Spared token request applied := by
  have cut : ((refresh (some token)).interrupted answer applied position s).1 = none :=
    interrupted_fst answer sent
  have leaves : ((refresh (some token)).interrupted answer applied position s).2 =
      left (request, found) applied := interrupted_snd answer sent
  have outlives : Outlives token ((refresh (some token)).interrupted answer applied position s) ↔
      Redeemable (left (request, found) applied) token := by
    rw [Outlives, cut, leaves]
    exact or_iff_left (by rintro ⟨pair, ⟨⟩, -⟩)
  rw [outlives]
  have member := List.mem_of_getElem? sent
  have active : s.activeUser token.sub := ((redeemable_iff s token).mp redeemable).2.2.2
  rw [issued_refresh redeemable, List.mem_cons, List.mem_cons] at member
  obtain dated | read | rotates := member
  · cases dated
    cases stored
  · cases read
    have unchanged : left (.getRefreshToken token.key, s) applied = s := by cases applied <;> rfl
    rw [unchanged]
    exact iff_of_true redeemable (.inl rfl)
  · have later : (request, found) ∈ ((rotate token).issued answer s).tail ∨
        (request, found) = (.delRefreshToken token.key, s) := by
      exact (List.mem_cons.mp rotates).symm
    obtain later | deletes := later
    · refine iff_of_false (gone_after_deletion fresh redeemable later applied) ?_
      rw [issued_rotate active] at later
      rintro (rfl | ⟨rfl, -⟩) <;> simp at later
    · cases deletes
      cases applied with
      | true => exact iff_of_false (not_redeemable_spent s token) (by simp [Spared])
      | false => exact iff_of_true redeemable (.inr ⟨rfl, rfl⟩)

/-- Rider 1 refreshes, and Redis does not answer when the key is to be read. -/
theorem session_outlives_small :
    Outlives riderToken ((refresh (some riderToken)).interrupted answer false 1 loggedIn) :=
  (session_outlives_iff loggedIn_freshKeys ⟨_, rfl⟩ rfl rfl false).mpr (.inl rfl)

/-- Rider 1 refreshes, and Redis does not answer when the new key is to be stored. Neither token can be
redeemed. -/
theorem session_lost :
    Redeemable loggedIn riderToken ∧
      ((refresh (some riderToken)).issued answer loggedIn)[7]?.map Prod.fst =
        some (.setRefreshToken ⟨1, 1⟩ refreshTtlSeconds) ∧
      ¬ Outlives riderToken ((refresh (some riderToken)).interrupted answer false 7 loggedIn) := by
  refine ⟨⟨_, rfl⟩, by decide +kernel, ?_⟩
  rintro (redeemable | ⟨pair, returned, -⟩)
  · obtain ⟨-, -, present, -⟩ := (redeemable_iff _ _).mp redeemable
    exact absurd present (by decide +kernel)
  · exact absurd returned (by rintro ⟨⟩)

end Motogram.Auth
