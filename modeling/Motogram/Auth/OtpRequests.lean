import Motogram.Auth.Service

/-!
# What requests for a one-time code reveal

`requestOtp` answers success whether or not the number belongs to a user. A
caller who sends several requests sees more: the cooldown is kept for numbers
that belong to an active user only.

Two installations that differ only in whether one number belongs to an active
user answer a sequence of requests alike exactly when no request for that number
comes within the cooldown of the code before it
(`requests_reveal_nothing_iff`).
-/

set_option autoImplicit false

namespace Motogram.Auth

open Foundation Program Table State

/-- A request for a code: how long after the request before it comes, the number,
and the code that is drawn if one is. -/
structure OtpRequest where
  wait : Nat
  phoneNumber : String
  plain : String

def OtpRequest.phone (request : OtpRequest) : String := jsTrim request.phoneNumber

def serve (s : State) (request : OtpRequest) : Except ServiceError Unit × State :=
  (requestOtp s.deployment request.phoneNumber request.plain).exec (s.elapsed request.wait)

/-- The responses a caller sees to a sequence of requests. -/
def responses : State → List OtpRequest → List (Except ServiceError Unit)
  | _, [] => []
  | s, request :: requests => (serve s request).1 :: responses (serve s request).2 requests

/-- When the latest unused code of a number was made. -/
def State.lastCode (s : State) (phone : String) : Option Time :=
  (latestCode (s.unusedCodes phone)).map fun entry => entry.2.createdAt

/-- The number belongs to an active user. -/
def State.registered (s : State) (phone : String) : Bool := (s.userByPhone phone).isSome

/-- The latest unused code of the number is not old enough for another one. -/
def State.cooling (s : State) (phone : String) : Bool :=
  (s.lastCode phone).any fun createdAt => decide ((s.now : Int) - createdAt < otpCooldownMs)

/-- Every request for the number comes after the cooldown of the code before it. -/
def Spaced (phone : String) : Option Time → Time → List OtpRequest → Prop
  | _, _, [] => True
  | last, now, request :: requests =>
    if request.phone = phone then
      (∀ createdAt ∈ last, ¬ (((now + request.wait : Nat) : Int) - createdAt < otpCooldownMs)) ∧
        Spaced phone (some (now + request.wait)) (now + request.wait) requests
    else Spaced phone last (now + request.wait) requests

/-- The ids of the codes are below the counter they are taken from. -/
def State.FreshIds (s : State) : Prop := ∀ id, (s.otpCodes.find? id).isSome → id < s.fresh

/-! ## One request -/

def State.otpSent (s : State) (phone plain : String) : State :=
  ((((s.withOtpCodes (s.otpCodes.modifyWhere
      (fun _ row => decide (row.phone = phone) && row.usedAt.isNone)
        fun row => { row with usedAt := some s.now })).withFresh (s.fresh + 1)).withOtpCodes
    ((s.otpCodes.modifyWhere (fun _ row => decide (row.phone = phone) && row.usedAt.isNone)
        fun row => { row with usedAt := some s.now }).insert (s.fresh + 1)
      (newOtpCode s.now phone (s.deployment.bcrypt.hash s.fresh plain)
        (s.now + otpTtlMs)))).withFresh (s.fresh + 1 + 1)).withSms phone plain

theorem exec_sendOtp (s : State) (phone plain : String) :
    (sendOtp phone plain).exec s = (.ok (), s.otpSent phone plain) := rfl

/-- What `requestOtp` does when it runs alone. -/
theorem exec_requestOtp (s : State) (phoneNumber plain : String) :
    (requestOtp s.deployment phoneNumber plain).exec s =
      if s.deployment.otpAuthEnabled = false then (.error otpDisabled, s)
      else if s.registered (jsTrim phoneNumber) = false then (.ok (), s)
      else if s.cooling (jsTrim phoneNumber) = true then (.error otpRateLimited, s)
      else (.ok (), s.otpSent (jsTrim phoneNumber) plain) := by
  unfold requestOtp assertOtpEnabled Flow.exec
  rw [run_throwIf_bind]
  by_cases off : s.deployment.otpAuthEnabled = false
  · rw [if_pos off, if_pos off]
  · rw [if_neg off, if_neg off]
    simp only [call_bind, done_bind, run_call, answer]
    cases known : s.userByPhone (jsTrim phoneNumber) with
    | none =>
      rw [if_pos (by rw [registered, known]; rfl)]
      rfl
    | some userId =>
      rw [if_neg (by rw [registered, known]; simp)]
      simp only [run_call, answer]
      cases latest : latestCode (s.unusedCodes (jsTrim phoneNumber)) with
      | none =>
        rw [if_neg (by rw [cooling, lastCode, latest]; simp)]
        exact exec_sendOtp s (jsTrim phoneNumber) plain
      | some entry =>
        obtain ⟨id, row⟩ := entry
        rw [run_call_of_answer _ (rfl : answer .dateNow s = (s.now, s)),
          run_throwIf_bind]
        have same : s.cooling (jsTrim phoneNumber) = true ↔
            (s.now : Int) - row.createdAt < otpCooldownMs := by
          rw [cooling, lastCode, latest]
          simp
        by_cases soon : (s.now : Int) - row.createdAt < otpCooldownMs
        · rw [if_pos soon, if_pos (same.mpr soon)]
        · rw [if_neg soon, if_neg (mt same.mp soon)]
          exact exec_sendOtp s (jsTrim phoneNumber) plain

theorem serve_eq (s : State) (request : OtpRequest) :
    serve s request =
      if s.deployment.otpAuthEnabled = false then (.error otpDisabled, s.elapsed request.wait)
      else if s.registered request.phone = false then (.ok (), s.elapsed request.wait)
      else if (s.elapsed request.wait).cooling request.phone = true then
        (.error otpRateLimited, s.elapsed request.wait)
      else (.ok (), (s.elapsed request.wait).otpSent request.phone request.plain) :=
  exec_requestOtp (s.elapsed request.wait) request.phoneNumber request.plain

/-! ## What a sent code changes -/

theorem State.FreshIds.otpSent {s : State} (fresh : s.FreshIds) (phone plain : String) :
    (s.otpSent phone plain).FreshIds := by
  intro id present
  simp only [State.otpSent, State.withSms_otpCodes, State.withFresh_otpCodes,
    State.withOtpCodes_otpCodes, find?_insert] at present
  split at present
  · rename_i here
    exact here.1 ▸ Nat.lt_succ_self (s.fresh + 1)
  · rw [find?_modifyWhere, Option.isSome_map] at present
    exact Nat.lt_succ_of_lt (Nat.lt_succ_of_lt (fresh id present))

theorem unusedCodes_otpSent {s : State} (fresh : s.FreshIds) (phone plain other : String) :
    (s.otpSent phone plain).unusedCodes other =
      if other = phone then
        [(s.fresh + 1, newOtpCode s.now phone (s.deployment.bcrypt.hash s.fresh plain)
          (s.now + otpTtlMs))]
      else s.unusedCodes other := by
  have free : (s.otpCodes.modifyWhere (fun _ row => decide (row.phone = phone) &&
      row.usedAt.isNone) fun row => { row with usedAt := some s.now }).find? (s.fresh + 1) =
        none := by
    rw [find?_modifyWhere]
    cases taken : s.otpCodes.find? (s.fresh + 1) with
    | none => rfl
    | some row =>
      have below := fresh (s.fresh + 1) (Option.isSome_of_eq_some taken)
      exact absurd below Nat.not_succ_lt_self
  simp only [unusedCodes, State.otpSent, State.withSms_otpCodes, State.withFresh_otpCodes,
    State.withOtpCodes_otpCodes]
  rw [select_insert free]
  by_cases same : other = phone
  · subst same
    rw [select_modifyWhere_eq_nil]
    · simp [newOtpCode]
    · intro id row
      by_cases here : row.phone = other
      · cases unused : row.usedAt with
        | none => simp [here]
        | some usedAt => simp [here, unused]
      · simp [here]
  · rw [if_neg same, select_modifyWhere_of_apart]
    · simp [newOtpCode, Ne.symm same]
    · intro id row changed
      have here : row.phone = phone := by
        have both := changed
        simp only [Bool.and_eq_true, decide_eq_true_eq] at both
        exact both.1
      simp [here, Ne.symm same]

theorem lastCode_otpSent {s : State} (fresh : s.FreshIds) (phone plain other : String) :
    (s.otpSent phone plain).lastCode other = if other = phone then some s.now else s.lastCode other := by
  rw [lastCode, unusedCodes_otpSent fresh]
  by_cases same : other = phone
  · rw [if_pos same, if_pos same]
    rfl
  · rw [if_neg same, if_neg same, lastCode]

/-! ## Two installations -/

/-- The installations differ in whether the number belongs to an active user, and
for the rest in nothing a request looks at. -/
structure Alike (phone : String) (known unknown : State) : Prop where
  deployment : known.deployment = unknown.deployment
  now : known.now = unknown.now
  registered : known.registered phone = true
  unregistered : unknown.registered phone = false
  others : ∀ other, other ≠ phone → known.registered other = unknown.registered other
  codes : ∀ other, other ≠ phone → known.lastCode other = unknown.lastCode other
  freshKnown : known.FreshIds
  freshUnknown : unknown.FreshIds

section

variable {phone : String} {known unknown : State}

theorem Alike.elapsed (alike : Alike phone known unknown) (milliseconds : Nat) :
    Alike phone (known.elapsed milliseconds) (unknown.elapsed milliseconds) where
  deployment := alike.deployment
  now := congrArg (· + milliseconds) alike.now
  registered := alike.registered
  unregistered := alike.unregistered
  others := alike.others
  codes := alike.codes
  freshKnown := alike.freshKnown
  freshUnknown := alike.freshUnknown

theorem Alike.sentHere (alike : Alike phone known unknown) (plain : String) :
    Alike phone (known.otpSent phone plain) unknown where
  deployment := alike.deployment
  now := alike.now
  registered := alike.registered
  unregistered := alike.unregistered
  others := alike.others
  codes := fun other different => by
    rw [lastCode_otpSent alike.freshKnown, if_neg different]
    exact alike.codes other different
  freshKnown := alike.freshKnown.otpSent phone plain
  freshUnknown := alike.freshUnknown

theorem Alike.sentElsewhere (alike : Alike phone known unknown) (other plain : String) :
    Alike phone (known.otpSent other plain) (unknown.otpSent other plain) where
  deployment := alike.deployment
  now := alike.now
  registered := alike.registered
  unregistered := alike.unregistered
  others := alike.others
  codes := fun third different => by
    rw [lastCode_otpSent alike.freshKnown, lastCode_otpSent alike.freshUnknown, alike.now,
      alike.codes third different]
  freshKnown := alike.freshKnown.otpSent other plain
  freshUnknown := alike.freshUnknown.otpSent other plain

theorem Alike.serveElsewhere (alike : Alike phone known unknown) {request : OtpRequest}
    (different : request.phone ≠ phone) :
    (serve known request).1 = (serve unknown request).1 ∧
      Alike phone (serve known request).2 (serve unknown request).2 ∧
        (serve known request).2.lastCode phone = known.lastCode phone ∧
          (serve known request).2.now = known.now + request.wait := by
  have here := alike.elapsed request.wait
  have cooling : (known.elapsed request.wait).cooling request.phone =
      (unknown.elapsed request.wait).cooling request.phone := by
    rw [cooling, cooling, here.codes _ different, here.now]
  rw [serve_eq, serve_eq, alike.deployment, alike.others _ different, cooling]
  split
  · exact ⟨rfl, here, rfl, rfl⟩
  · split
    · exact ⟨rfl, here, rfl, rfl⟩
    · split
      · exact ⟨rfl, here, rfl, rfl⟩
      · refine ⟨rfl, here.sentElsewhere _ _, ?_, rfl⟩
        rw [lastCode_otpSent here.freshKnown, if_neg (Ne.symm different)]
        rfl

/-- The installation that does not know the number answers success. -/
theorem Alike.serveUnknown (alike : Alike phone known unknown) (on : known.deployment.otpAuthEnabled = true)
    {request : OtpRequest} (same : request.phone = phone) :
    serve unknown request = (.ok (), unknown.elapsed request.wait) := by
  rw [serve_eq, ← alike.deployment, same, if_neg (by simp [on]), if_pos alike.unregistered]

/-- The installation that knows it answers success after the cooldown only. -/
theorem Alike.serveKnown (alike : Alike phone known unknown)
    (on : known.deployment.otpAuthEnabled = true) {request : OtpRequest}
    (same : request.phone = phone) :
    serve known request =
      if (known.elapsed request.wait).cooling phone = true then
        (.error otpRateLimited, known.elapsed request.wait)
      else (.ok (), (known.elapsed request.wait).otpSent phone request.plain) := by
  rw [serve_eq, same, if_neg (by simp [on]), if_neg (by simp [alike.registered])]

theorem not_cooling_iff (s : State) (phone : String) :
    ¬ s.cooling phone = true ↔ ∀ createdAt ∈ s.lastCode phone, ¬ ((s.now : Int) - createdAt < otpCooldownMs) := by
  rw [cooling]
  cases s.lastCode phone with
  | none | some => simp

theorem Alike.responses_eq_iff (alike : Alike phone known unknown)
    (on : known.deployment.otpAuthEnabled = true) (requests : List OtpRequest) :
    responses known requests = responses unknown requests ↔
      Spaced phone (known.lastCode phone) known.now requests := by
  induction requests generalizing known unknown with
  | nil => exact iff_of_true rfl trivial
  | cons request requests ih =>
    rw [responses, responses, Spaced, List.cons.injEq]
    by_cases same : request.phone = phone
    · rw [if_pos same, alike.serveUnknown on same, alike.serveKnown on same]
      have here := alike.elapsed request.wait
      have rested := not_cooling_iff (known.elapsed request.wait) phone
      by_cases cooling : (known.elapsed request.wait).cooling phone = true
      · -- the one answers that the limit is reached, the other success
        rw [if_pos cooling]
        refine iff_of_false (fun equal => by cases equal.1) fun spaced => ?_
        exact rested.mpr spaced.1 cooling
      · rw [if_neg cooling]
        have later := here.sentHere request.plain
        have rest := ih later on
        rw [lastCode_otpSent here.freshKnown, if_pos rfl] at rest
        exact ⟨fun equal => ⟨rested.mp cooling, rest.mp equal.2⟩,
          fun spaced => ⟨rfl, rest.mpr spaced.2⟩⟩
    · rw [if_neg same]
      obtain ⟨equal, later, last, now⟩ := alike.serveElsewhere same
      have kept : (serve known request).2.deployment = known.deployment := by
        rw [serve_eq]
        split
        · rfl
        · split
          · rfl
          · split <;> rfl
      have rest := ih later (kept ▸ on)
      rw [last, now] at rest
      exact ⟨fun both => rest.mp both.2, fun spaced => ⟨equal, rest.mpr spaced⟩⟩

theorem responses_of_disabled {s : State} (off : s.deployment.otpAuthEnabled = false)
    (requests : List OtpRequest) : responses s requests = requests.map fun _ => .error otpDisabled := by
  induction requests generalizing s with
  | nil => rfl
  | cons request requests ih =>
    have refused : serve s request = (.error otpDisabled, s.elapsed request.wait) := by
      rw [serve_eq, if_pos off]
    have later : (s.elapsed request.wait).deployment.otpAuthEnabled = false := off
    rw [responses, refused]
    exact congrArg (_ :: ·) (ih later)

end

/-- **Requests for one-time codes reveal nothing about a number exactly when they
are spaced by the cooldown**, or the feature is off. -/
theorem requests_reveal_nothing_iff (s : State) (users : Table UserId User) (phone : String)
    (fresh : s.FreshIds) (registered : s.registered phone = true)
    (unregistered : (s.withUsers users).registered phone = false)
    (others : ∀ other, other ≠ phone →
      s.registered other = (s.withUsers users).registered other)
    (requests : List OtpRequest) :
    responses s requests = responses (s.withUsers users) requests ↔
      s.deployment.otpAuthEnabled = false ∨ Spaced phone (s.lastCode phone) s.now requests := by
  by_cases off : s.deployment.otpAuthEnabled = false
  · have other : (s.withUsers users).deployment.otpAuthEnabled = false := off
    rw [responses_of_disabled off, responses_of_disabled other]
    exact iff_of_true rfl (.inl off)
  · have alike : Alike phone s (s.withUsers users) :=
      ⟨rfl, rfl, registered, unregistered, others, fun _ _ => rfl, fresh, fresh⟩
    rw [alike.responses_eq_iff (by simpa using off)]
    exact ⟨Or.inr, fun either => either.resolve_left off⟩

/-- Two requests for the number of rider 1, a minute apart. -/
theorem requests_reveal_nothing_small :
    responses smallInstallation [⟨0, "+905550000001", "111111"⟩, ⟨60000, "+905550000001", "222222"⟩] =
        responses (smallInstallation.withUsers .empty)
          [⟨0, "+905550000001", "111111"⟩, ⟨60000, "+905550000001", "222222"⟩] ↔
      smallInstallation.deployment.otpAuthEnabled = false ∨
        Spaced "+905550000001" (smallInstallation.lastCode "+905550000001") smallInstallation.now
          [⟨0, "+905550000001", "111111"⟩, ⟨60000, "+905550000001", "222222"⟩] := by
  refine requests_reveal_nothing_iff smallInstallation .empty "+905550000001" (fun id present => ?_)
    (by decide +kernel) (by decide +kernel) (fun other different => ?_) _
  · cases present
  · have absent : ¬ ("+905550000001" = other) := Ne.symm different
    simp [State.registered, State.userByPhone, smallInstallation, State.initial, Table.insert,
      Table.empty, smallUser, absent]

/-- The second of two requests within a minute tells whether the number belongs to
an active user. -/
theorem second_request_reveals :
    responses smallInstallation [⟨0, "+905550000001", "111111"⟩, ⟨1000, "+905550000001", "222222"⟩] ≠
      responses (smallInstallation.withUsers .empty)
        [⟨0, "+905550000001", "111111"⟩, ⟨1000, "+905550000001", "222222"⟩] := by
  decide +kernel

end Motogram.Auth
