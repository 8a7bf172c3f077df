import Motogram.Account.Deletion
import Motogram.Account.Registration

/-!
# Addresses that belong to one rider

An address of a rider is the email or the pending email. Registration asks for both columns of
all rows; the request of a new email asks for both, of the rows that are not deleted; a sign-in
that creates a rider asks for the email only.

In a run of these functions no address belongs to two riders exactly when no request takes an
address of a deleted rider, whose row may come back, and no sign-in creates a rider with the
pending address of another (`addresses_apart_iff`).
-/

set_option autoImplicit false

namespace Motogram.Account

open Foundation Program Function Table Option

/-! ## The addresses of all riders -/

/-- The email and the pending email of each rider. -/
abbrev AddressBook := UserId → Option (String × Option String)

def addressBook (s : Auth.State) : AddressBook :=
  fun userId => (s.users.find? userId).map fun user => (user.email, user.pendingEmail)

/-- The rider has the address. -/
def AddressBook.Owns (book : AddressBook) (userId : UserId) (address : String) : Prop :=
  ∃ email pending, book userId = some (email, pending) ∧ (email = address ∨ pending = some address)

/-- No address belongs to two riders, when letters that `fold` makes one are one. -/
def AddressBook.Apart (fold : String → String) (book : AddressBook) : Prop :=
  ∀ first second address address', book.Owns first address → book.Owns second address' →
    fold address = fold address' → first = second

section Book

variable {fold : String → String} {book : AddressBook} {userId : UserId} {email : String}
  {pending : Option String}

/-- What the riders own when the row of one of them is written. -/
theorem AddressBook.owns_update_iff {other : UserId} {address : String} :
    AddressBook.Owns (update book userId (some (email, pending))) other address ↔
      (other = userId ∧ (email = address ∨ pending = some address)) ∨
        (other ≠ userId ∧ book.Owns other address) := by
  unfold Owns
  by_cases same : other = userId
  · subst same
    simp only [update_self, Option.some.injEq, Prod.mk.injEq, true_and, ne_eq, not_true_eq_false,
      false_and, or_false]
    constructor
    · rintro ⟨_, _, ⟨rfl, rfl⟩, has⟩
      exact has
    · intro has
      exact ⟨email, pending, ⟨rfl, rfl⟩, has⟩
  · simp only [update_of_ne same, same, false_and, ne_eq, not_false_eq_true, true_and, false_or]

/-- A row may be written when nobody else has its addresses. -/
theorem AddressBook.Apart.update (apart : book.Apart fold)
    (free : ∀ other address address', other ≠ userId → book.Owns other address →
      email = address' ∨ pending = some address' → fold address ≠ fold address') :
    AddressBook.Apart fold (update book userId (some (email, pending))) := by
  intro first second address address' owns owns' same
  rw [owns_update_iff] at owns owns'
  obtain ⟨rfl, has⟩ | ⟨different, owns⟩ := owns
  · obtain ⟨rfl, -⟩ | ⟨different', owns'⟩ := owns'
    · rfl
    · exact absurd same.symm (free second address' address different' owns' has)
  · obtain ⟨rfl, has'⟩ | ⟨-, owns'⟩ := owns'
    · exact absurd same (free first address address' different owns has')
    · exact apart first second address address' owns owns' same

/-- A row that is written with an address somebody else has. -/
theorem AddressBook.not_apart_update {other : UserId} {address address' : String} (different : other ≠ userId)
    (owns : book.Owns other address) (has : email = address' ∨ pending = some address')
    (same : fold address = fold address') :
    ¬ AddressBook.Apart fold (update book userId (some (email, pending))) := by
  intro apart
  refine different (apart other userId address address' ?_ ?_ same)
  · exact owns_update_iff.mpr (.inr ⟨different, owns⟩)
  · exact owns_update_iff.mpr (.inl ⟨rfl, has⟩)

end Book

/-! ## What is kept -/

def IdsDrawn (s : Auth.State) : Prop := ∀ userId, addressBook s userId ≠ none → userId < s.fresh

structure AddressesSound (fold : String → String) (s : Auth.State) : Prop where
  apart : (addressBook s).Apart fold
  normalized : ∀ userId email pending, addressBook s userId = some (email, some pending) →
    Auth.normalize s.deployment pending = pending
  drawn : IdsDrawn s

structure SameAddresses (s t : Auth.State) : Prop where
  deployment : t.deployment = s.deployment
  fresh : s.fresh ≤ t.fresh
  book : addressBook t = addressBook s

theorem SameAddresses.refl (s : Auth.State) : SameAddresses s s := ⟨rfl, Nat.le_refl _, rfl⟩

theorem SameAddresses.trans {s t u : Auth.State} (first : SameAddresses s t) (second : SameAddresses t u) :
    SameAddresses s u :=
  ⟨second.deployment.trans first.deployment, first.fresh.trans second.fresh, second.book.trans first.book⟩

theorem AddressesSound.same {fold : String → String} {s t : Auth.State} (sound : AddressesSound fold s)
    (same : SameAddresses s t) : AddressesSound fold t := by
  refine ⟨?_, fun userId email pending => ?_, fun userId => ?_⟩
  · rw [same.book]
    exact sound.apart
  · rw [same.book, same.deployment]
    exact sound.normalized userId email pending
  · rw [same.book]
    exact fun here => (sound.drawn userId here).trans_le same.fresh

/-! ## Calls that write no address -/

inductive AccountCall.LeavesAddresses : AccountCall → Prop where
  | dateNow : LeavesAddresses (.auth .dateNow)
  | bcryptHash (plain : String) : LeavesAddresses (.auth (.bcryptHash plain))
  | bcryptCompare (plain passwordHash : String) : LeavesAddresses (.auth (.bcryptCompare plain passwordHash))
  | uuidv4 : LeavesAddresses (.auth .uuidv4)
  | jwtSign : LeavesAddresses (.auth .jwtSign)
  | setRefreshToken (key : Auth.RefreshKey) (seconds : Nat) :
      LeavesAddresses (.auth (.setRefreshToken key seconds))
  | emitLogin (userId : UserId) (at' : Time) : LeavesAddresses (.auth (.emitLogin userId at'))
  | elapse (milliseconds : Nat) : LeavesAddresses (.auth (.elapse milliseconds))
  | userFindUnique (userId : UserId) : LeavesAddresses (.auth (.userFindUnique userId))
  | userUpdateLastSeen (userId : UserId) : LeavesAddresses (.auth (.userUpdateLastSeen userId))
  | accountDeletionFindUnique (userId : UserId) : LeavesAddresses (.auth (.accountDeletionFindUnique userId))
  | userFindFirstRegistered (email username : String) :
      LeavesAddresses (.userFindFirstRegistered email username)
  | userFindFirstEmailTaken (userId : UserId) (email : String) :
      LeavesAddresses (.userFindFirstEmailTaken userId email)
  | userFindUniqueBySub (provider : Provider) (sub : String) : LeavesAddresses (.userFindUniqueBySub provider sub)
  | userFindFirstByEmail (email : String) : LeavesAddresses (.userFindFirstByEmail email)
  | emailChangeTokenDeleteUnused (userId : UserId) : LeavesAddresses (.emailChangeTokenDeleteUnused userId)
  | emailChangeMailEnqueue (userId : UserId) (newEmail plainToken : String) :
      LeavesAddresses (.emailChangeMailEnqueue userId newEmail plainToken)
  | randomBytes : LeavesAddresses .randomBytes
  | requestDeletionTransaction (userId : UserId) (now scheduledFor : Time) (reason : Option String) :
      LeavesAddresses (.requestDeletionTransaction userId now scheduledFor reason)
  | accountDeletionSetJobId (userId : UserId) (jobId : JobId) :
      LeavesAddresses (.accountDeletionSetJobId userId jobId)
  | cancelDeletionTransaction (userId : UserId) : LeavesAddresses (.cancelDeletionTransaction userId)
  | queueAdd (jobId : JobId) (delayMs : Nat) : LeavesAddresses (.queueAdd jobId delayMs)
  | queueGetJob (jobId : JobId) : LeavesAddresses (.queueGetJob jobId)
  | jobGetState (jobId : JobId) : LeavesAddresses (.jobGetState jobId)
  | jobRemove (jobId : JobId) : LeavesAddresses (.jobRemove jobId)

theorem AccountCall.Cancels.leavesAddresses {request : AccountCall} (cancels : request.Cancels) :
    request.LeavesAddresses := by
  cases cancels <;> constructor

/-- The rows show the same later on, as far as `view` looks at them. -/
structure SameThrough {View : Type} (view : Auth.User → View) (s t : State) : Prop where
  installation : t.deployment = s.deployment
  deployment : t.auth.deployment = s.auth.deployment
  fresh : s.auth.fresh ≤ t.auth.fresh
  book : (fun userId => (t.auth.users.find? userId).map view) = fun userId => (s.auth.users.find? userId).map view

/-- The view looks neither at the last visit of a rider nor at the mark of the deletion. -/
structure Unmarked {View : Type} (view : Auth.User → View) : Prop where
  lastSeen : ∀ user at', view { user with lastSeenAt := at' } = view user
  deleted : ∀ user at', view { user with deletedAt := at' } = view user

section Views

variable {View : Type} {view : Auth.User → View} {s t u : State}

theorem SameThrough.refl (s : State) : SameThrough view s s :=
  ⟨rfl, rfl, Nat.le_refl _, rfl⟩

theorem SameThrough.trans (first : SameThrough view s t) (second : SameThrough view t u) : SameThrough view s u :=
  ⟨second.installation.trans first.installation, second.deployment.trans first.deployment,
    first.fresh.trans second.fresh, second.book.trans first.book⟩

theorem sameThrough_modify (s : State) (userId : UserId) {change : Auth.User → Auth.User}
    (same : ∀ user, view (change user) = view user) :
    (fun other => ((s.auth.users.modify userId change).find? other).map view) =
      fun other => (s.auth.users.find? other).map view := by
  funext other
  rw [find?_modify]
  split
  · cases s.auth.users.find? other with
    | none => rfl
    | some user => simp only [map_some, same]
  · rfl

theorem sameThrough_answer (unmarked : Unmarked view) {request : AccountCall} (leaves : request.LeavesAddresses)
    (s : State) : SameThrough view s (answer request s).2 := by
  cases leaves with
  | bcryptHash | uuidv4 | randomBytes => exact ⟨rfl, rfl, Nat.le_succ _, rfl⟩
  | userUpdateLastSeen userId =>
    simp only [answer, Auth.answer, State.withAuth]
    split
    · exact .refl s
    · exact ⟨rfl, rfl, Nat.le_refl _, sameThrough_modify s userId fun user => unmarked.lastSeen user _⟩
  | requestDeletionTransaction userId now scheduledFor reason =>
    simp only [answer]
    split
    · exact .refl s
    · exact ⟨rfl, rfl, Nat.le_refl _, sameThrough_modify s userId fun user => unmarked.deleted user _⟩
  | cancelDeletionTransaction userId =>
    simp only [answer]
    split
    · exact ⟨rfl, rfl, Nat.le_refl _, sameThrough_modify s userId fun user => unmarked.deleted user _⟩
    · exact .refl s
  | accountDeletionSetJobId | queueAdd | queueGetJob | jobGetState =>
    simp only [answer]
    split <;> exact ⟨rfl, rfl, Nat.le_refl _, rfl⟩
  | jobRemove =>
    simp only [answer]
    split
    · exact .refl s
    · split <;> exact ⟨rfl, rfl, Nat.le_refl _, rfl⟩
  | _ => exact ⟨rfl, rfl, Nat.le_refl _, rfl⟩

theorem sameThrough_run (unmarked : Unmarked view) {Value : Type} {flow : Flow Value}
    (uses : flow.Uses AccountCall.LeavesAddresses) (s : State) : SameThrough view s (flow.exec s).2 := by
  have keeps : ∀ request (t : State), AccountCall.LeavesAddresses request → SameThrough view s t →
      SameThrough view s (answer request t).2 :=
    fun request t leaves same => same.trans (sameThrough_answer unmarked leaves t)
  exact Uses.run_keeps answer uses keeps (.refl s)

theorem sameThrough_bind (unmarked : Unmarked view) {Value Value' : Type} (flow : Flow Value)
    {next : Value → Flow Value'} (uses : ∀ value, (next value).Uses AccountCall.LeavesAddresses) (s : State) :
    SameThrough view (flow.exec s).2 (run answer (flow >>= next) s).2 := by
  rw [run_bind, Flow.exec]
  cases run answer flow s with
  | mk outcome after =>
    cases outcome with
    | ok value => exact sameThrough_run unmarked (uses value) after
    | error error => exact .refl _

end Views

/-- The addresses of a row. -/
def addressesOf (user : Auth.User) : String × Option String := (user.email, user.pendingEmail)

theorem unmarked_addressesOf : Unmarked addressesOf := ⟨fun _ _ => rfl, fun _ _ => rfl⟩

theorem SameThrough.addresses {s t : State} (same : SameThrough addressesOf s t) :
    SameAddresses s.auth t.auth := ⟨same.deployment, same.fresh, same.book⟩

theorem sameAddresses_answer {request : AccountCall} (leaves : request.LeavesAddresses) (s : State) :
    SameAddresses s.auth (answer request s).2.auth :=
  (sameThrough_answer unmarked_addressesOf leaves s).addresses

variable {Value : Type} (userId : UserId) (s : State)

theorem sameAddresses_run {flow : Flow Value} (uses : flow.Uses AccountCall.LeavesAddresses) (s : State) :
    SameAddresses s.auth (flow.exec s).2.auth :=
  (sameThrough_run unmarked_addressesOf uses s).addresses

theorem sameAddresses_bind {Value' : Type} (flow : Flow Value) {next : Value → Flow Value'}
    (uses : ∀ value, (next value).Uses AccountCall.LeavesAddresses) (s : State) :
    SameAddresses (flow.exec s).2.auth (run answer (flow >>= next) s).2.auth :=
  (sameThrough_bind unmarked_addressesOf flow uses s).addresses

/-! ## Flows that write no address -/

theorem issueTokenPair_leaves (username : String) (role : Auth.UserRole) :
    (auth (Auth.issueTokenPair userId username role)).Uses AccountCall.LeavesAddresses :=
  ⟨.uuidv4, fun _ => ⟨.jwtSign, fun _ => ⟨.jwtSign, fun _ => ⟨.setRefreshToken _ _, fun _ => trivial⟩⟩⟩⟩

theorem assertPasswordlessUserCanLogin_leaves (user : Auth.User) :
    (assertPasswordlessUserCanLogin userId user).Uses AccountCall.LeavesAddresses := by
  refine Uses.bind (uses_throwIf _ _) fun _ => ?_
  split
  · trivial
  · exact .send (.accountDeletionFindUnique userId) fun _ => .send .dateNow fun _ => uses_throwIf _ _

theorem issueSessionAfterLogin_leaves (user : Auth.User) :
    (issueSessionAfterLogin userId user).Uses AccountCall.LeavesAddresses := by
  refine (assertPasswordlessUserCanLogin_leaves userId user).bind fun _ => ?_
  refine .send (.userUpdateLastSeen userId) fun updated => (rethrow_uses updated _).bind fun _ => ?_
  refine .send .dateNow fun now => .send (.emitLogin userId now) fun _ => ?_
  exact (issueTokenPair_leaves userId _ _).bind fun _ => trivial

theorem toStatus_leaves (record : Option Auth.AccountDeletion) :
    (toStatus record).Uses AccountCall.LeavesAddresses :=
  (toStatus_cancels record).mono fun _ => AccountCall.Cancels.leavesAddresses

theorem scheduleDeletion_leaves (reason : Option String) :
    (scheduleDeletion userId reason).Uses AccountCall.LeavesAddresses := by
  refine .send .dateNow fun now => .send (.requestDeletionTransaction userId now _ reason) fun requested => ?_
  refine (rethrow_uses requested _).bind fun record => Uses.bind ?_ fun _ => toStatus_leaves _
  refine .send (.queueAdd _ _) fun added => ?_
  cases added with
  | error error => trivial
  | ok _ => exact .send (.accountDeletionSetJobId userId _) fun _ => trivial

theorem requestDeletion_leaves (reason : Option String) :
    (requestDeletion userId reason).Uses AccountCall.LeavesAddresses := by
  refine .send (.userFindUnique userId) fun user => ?_
  cases user with
  | none => trivial
  | some user =>
    refine .send (.accountDeletionFindUnique userId) fun deletion => ?_
    cases deletion with
    | none => exact scheduleDeletion_leaves userId reason
    | some deletion =>
      dsimp only
      split
      · exact toStatus_leaves _
      · exact scheduleDeletion_leaves userId reason

/-! ## Writing the addresses of one rider -/

/-- The addresses of one rider have been written. -/
structure WritesAddresses (s t : Auth.State) (userId : UserId) (email : String) (pending : Option String) :
    Prop where
  deployment : t.deployment = s.deployment
  fresh : s.fresh ≤ t.fresh
  known : userId < t.fresh
  book : addressBook t = update (addressBook s) userId (some (email, pending))

section Writes

variable {fold : String → String} {s t u : Auth.State} {userId : UserId} {email : String}
  {pending : Option String}

theorem WritesAddresses.before (writes : WritesAddresses t u userId email pending) (same : SameAddresses s t) :
    WritesAddresses s u userId email pending :=
  ⟨writes.deployment.trans same.deployment, same.fresh.trans writes.fresh, writes.known,
    by rw [writes.book, same.book]⟩

theorem WritesAddresses.after (writes : WritesAddresses s t userId email pending) (same : SameAddresses t u) :
    WritesAddresses s u userId email pending :=
  ⟨same.deployment.trans writes.deployment, writes.fresh.trans same.fresh, writes.known.trans_le same.fresh,
    same.book.trans writes.book⟩

theorem AddressesSound.writes (sound : AddressesSound fold s) (writes : WritesAddresses s t userId email pending)
    (normalized : ∀ text, pending = some text → Auth.normalize s.deployment text = text)
    (free : ∀ other address address', other ≠ userId → (addressBook s).Owns other address →
      email = address' ∨ pending = some address' → fold address ≠ fold address') :
    AddressesSound fold t := by
  refine ⟨?_, fun other email' pending' here => ?_, fun other here => ?_⟩
  · rw [writes.book]
    exact sound.apart.update free
  · rw [writes.book] at here
    rw [writes.deployment]
    by_cases same : other = userId
    · rw [same, update_self, Option.some.injEq, Prod.mk.injEq] at here
      exact normalized pending' here.2
    · rw [update_of_ne same] at here
      exact sound.normalized other email' pending' here
  · rw [writes.book] at here
    by_cases same : other = userId
    · rw [same]
      exact writes.known
    · rw [update_of_ne same] at here
      exact (sound.drawn other here).trans_le writes.fresh

end Writes

/-- A new rider is written under the id that is drawn. -/
theorem writes_create {s : State} {row : NewUser}
    (admitted : (s.auth.users.entries.any fun entry => clashes row entry.2) = false)
    (free : addressBook s.auth s.auth.fresh = none) :
    answer (.userCreate row) s = (.ok (s.auth.fresh, row.toAuth), (answer (.userCreate row) s).2) ∧
      WritesAddresses s.auth (answer (.userCreate row) s).2.auth s.auth.fresh row.email none := by
  have absent : s.auth.users.find? s.auth.fresh = none := map_eq_none_iff.mp free
  have created : answer (.userCreate row) s = (.ok (s.auth.fresh, row.toAuth), s.withRiders
      { s.auth with users := s.auth.users.insert s.auth.fresh row.toAuth, fresh := s.auth.fresh + 1 }
      (s.social.withUsers (s.social.users.insert s.auth.fresh row.toSocial))) := by
    simp only [answer, admitted, Bool.false_eq_true, if_false]
  rw [created]
  refine ⟨rfl, rfl, Nat.le_succ _, Nat.lt_succ_self _, funext fun other => ?_⟩
  by_cases same : other = s.auth.fresh
  · subst same
    rw [update_self, addressBook]
    simp only [State.withRiders_auth, find?_insert_self absent]
    rfl
  · rw [update_of_ne same, addressBook]
    simp only [State.withRiders_auth, find?_insert_of_ne _ same]
    rfl

theorem answer_create_of_clash {s : State} {row : NewUser}
    (clash : (s.auth.users.entries.any fun entry => clashes row entry.2) = true) :
    answer (.userCreate row) s = (.error .uniqueViolation, s) := by
  simp only [answer, clash, if_true]

theorem owns_iff {s : Auth.State} {userId : UserId} {address : String} :
    (addressBook s).Owns userId address ↔
      ∃ user, s.users.find? userId = some user ∧ (user.email = address ∨ user.pendingEmail = some address) := by
  unfold AddressBook.Owns addressBook
  constructor
  · rintro ⟨email, pending, here, has⟩
    obtain ⟨user, found, same⟩ := map_eq_some_iff.mp here
    rw [Prod.mk.injEq] at same
    rw [← same.1, ← same.2] at has
    exact ⟨user, found, has⟩
  · rintro ⟨user, found, has⟩
    exact ⟨user.email, user.pendingEmail, by rw [found]; rfl, has⟩

theorem IdsDrawn.free {s : Auth.State} (drawn : IdsDrawn s) : addressBook s s.fresh = none := by
  by_contra here
  exact lt_irrefl _ (drawn s.fresh here)

theorem IdsDrawn.same {s t : Auth.State} (drawn : IdsDrawn s) (same : SameAddresses s t) : IdsDrawn t := by
  intro userId here
  rw [same.book] at here
  exact (drawn userId here).trans_le same.fresh

/-! ## Registration -/

/-- The row that a registration is to write. -/
def registeredRow (s : State) (email username password : String) (name : Option String) : NewUser where
  email := Auth.normalize s.auth.deployment email
  username := Auth.normalize s.auth.deployment username
  passwordHash := some (s.auth.deployment.bcrypt.hash s.auth.fresh password)
  appleSub := none
  googleSub := none
  name := name

/-- **A registration ends where somebody is found, or goes on to write the row** and then nothing more
of it. -/
theorem register_cases (email username password : String) (name : Option String) :
    ((answer (.userFindFirstRegistered (Auth.normalize s.auth.deployment email)
          (Auth.normalize s.auth.deployment username)) s).1 = true ∧
        ((register s.auth.deployment email username password name).exec s).2 = s) ∨
      ((answer (.userFindFirstRegistered (Auth.normalize s.auth.deployment email)
          (Auth.normalize s.auth.deployment username)) s).1 = false ∧
        ∃ flow : Flow (UserId × Auth.TokenPair), flow.Uses AccountCall.LeavesAddresses ∧
          ((register s.auth.deployment email username password name).exec s).2 =
            (flow.exec (answer (.userCreate (registeredRow s email username password name))
              (answer (.auth (.bcryptHash password)) s).2).2).2) := by
  unfold register Flow.exec
  rw [run_sends, run_throwIf_bind]
  cases taken : (answer (.userFindFirstRegistered (Auth.normalize s.auth.deployment email)
      (Auth.normalize s.auth.deployment username)) s).1 with
  | true =>
    exact .inl ⟨rfl, rfl⟩
  | false =>
    rw [run_sends,
      run_sends]
    refine .inr ⟨rfl, _, ?_, rfl⟩
    exact (rethrow_uses _ _).bind fun user =>
      (issueTokenPair_leaves user.1 user.2.username user.2.role).bind fun _ => trivial

/-- Registration writes nothing, or a new row with an address that is free. -/
theorem register_addresses (drawn : IdsDrawn s.auth) (email username password : String)
    (name : Option String) :
    SameAddresses s.auth ((register s.auth.deployment email username password name).exec s).2.auth ∨
      ((∀ other address, (addressBook s.auth).Owns other address → s.auth.deployment.equalsInsensitive
          address (Auth.normalize s.auth.deployment email) = false) ∧
        WritesAddresses s.auth ((register s.auth.deployment email username password name).exec s).2.auth
          (s.auth.fresh + 1) (Auth.normalize s.auth.deployment email) none) := by
  let hashed := (answer (.auth (.bcryptHash password)) s).2
  let row := registeredRow s email username password name
  have same : SameAddresses s.auth hashed.auth := sameAddresses_answer (.bcryptHash password) s
  obtain ⟨-, ran⟩ | ⟨taken, flow, leaves, ran⟩ := register_cases s email username password name
  · rw [ran]
    exact .inl (.refl _)
  · rw [ran]
    have free : ∀ other address, (addressBook s.auth).Owns other address →
        s.auth.deployment.equalsInsensitive address (Auth.normalize s.auth.deployment email) = false := by
      intro other address owns
      obtain ⟨user, found, has⟩ := owns_iff.mp owns
      have unmatched := List.any_eq_false.mp taken (other, user) ((mem_entries_iff _).mpr found)
      simp only [Bool.or_eq_true, not_or, any_eq_true, not_exists, not_and] at unmatched
      obtain rfl | pending := has
      · exact Bool.eq_false_iff.mpr unmatched.1.1
      · exact Bool.eq_false_iff.mpr (unmatched.1.2 address pending)
    have after := sameAddresses_run leaves (answer (.userCreate row) hashed).2
    cases clash : hashed.auth.users.entries.any fun entry => clashes row entry.2 with
    | true =>
      have refused : (answer (.userCreate row) hashed).2 = hashed := by rw [answer_create_of_clash clash]
      refine .inl (SameAddresses.trans ?_ after)
      rw [refused]
      exact same
    | false =>
      have writes := (writes_create clash (drawn.same same).free).2
      exact .inr ⟨free, (writes.before same).after after⟩

/-! ## Sign-in with a provider -/

def FreeUsername (s : State) (emailNorm : String) (attempt : Nat) : Prop :=
  ∀ userId user, s.auth.users.find? userId = some user → user.username ≠
    usernameCandidateFromEmail s.auth.deployment emailNorm (s.deployment.randomHex (s.auth.fresh + attempt))

/-- Nobody has the subject or the address. -/
def Unknown (s : State) (provider : Provider) (sub emailNorm : String) : Prop :=
  ∀ userId user, s.auth.users.find? userId = some user → subOf provider user ≠ some sub ∧ user.email ≠ emailNorm

theorem clashes_oauthUser {s : State} {provider : Provider} {sub emailNorm : String}
    (unknown : Unknown s provider sub emailNorm) (name : Option String) (username : String) :
    (s.auth.users.entries.any fun entry => clashes (oauthUser provider sub emailNorm username name) entry.2) = false ↔
      ∀ userId user, s.auth.users.find? userId = some user → user.username ≠ username := by
  rw [List.any_eq_false]
  constructor
  · intro none userId user found same
    have apart := none (userId, user) ((mem_entries_iff _).mpr found)
    exact apart (by simp [clashes, oauthUser, same])
  · rintro free ⟨userId, user⟩ member
    have found := (mem_entries_iff _).mp member
    obtain ⟨stranger, address⟩ := unknown userId user found
    have username' := free userId user found
    cases provider with
    | apple | google =>
      rw [subOf] at stranger
      by_cases empty : sub = ""
      · simp [clashes, oauthUser, username', address, empty]
      · simp [clashes, oauthUser, username', address, empty, stranger]

/-- The state after random bytes are drawn, and the row that is made of them. -/
def State.afterDraw (s : State) : State := s.withAuth (s.auth.withFresh (s.auth.fresh + 1))

def nextOAuthUser (s : State) (provider : Provider) (sub emailNorm : String) (name : Option String) : NewUser :=
  oauthUser provider sub emailNorm
    (usernameCandidateFromEmail s.auth.deployment emailNorm (s.deployment.randomHex s.auth.fresh)) name

variable (emailNorm : String) (provider : Provider) (sub : String)

theorem exec_createOAuthUserIn (emailNorm : String) (name : Option String) (attempts : Nat) :
    (createOAuthUserIn s.auth.deployment provider sub emailNorm name (attempts + 1)).exec s =
      match answer (.userCreate (nextOAuthUser s provider sub emailNorm name)) s.afterDraw with
      | (.ok user, after) => (.ok user, after)
      | (.error .uniqueViolation, after) =>
        (createOAuthUserIn s.auth.deployment provider sub emailNorm name attempts).exec after
      | (.error error, after) => (.error (.prisma error), after) := by
  have draws : answer .randomBytes s = (s.deployment.randomHex s.auth.fresh, s.afterDraw) := rfl
  rw [Flow.exec, createOAuthUserIn, run_sends_of draws,
    call_bind]
  cases tried : answer (.userCreate (nextOAuthUser s provider sub emailNorm name)) s.afterDraw with
  | mk created after =>
    unfold nextOAuthUser at tried
    rw [run_call_of_answer _ tried]
    cases created with
    | ok user => rfl
    | error error => cases error <;> rfl

theorem createOAuthUserIn_addresses (attempts : Nat) (s : State) (drawn : IdsDrawn s.auth) (provider : Provider)
    (sub emailNorm : String) (name : Option String) (unknown : Unknown s provider sub emailNorm) :
    ((∃ attempt < attempts, FreeUsername s emailNorm attempt) ∧ ∃ userId, addressBook s.auth userId = none ∧
      WritesAddresses s.auth ((createOAuthUserIn s.auth.deployment provider sub emailNorm name attempts).exec
        s).2.auth userId emailNorm none) ∨
      ((¬ ∃ attempt < attempts, FreeUsername s emailNorm attempt) ∧
        SameAddresses s.auth ((createOAuthUserIn s.auth.deployment provider sub emailNorm name attempts).exec
          s).2.auth) := by
  induction attempts generalizing s with
  | zero =>
    refine .inr ⟨?_, .refl _⟩
    rintro ⟨attempt, less, -⟩
    exact absurd less (Nat.not_lt_zero _)
  | succ attempts ih =>
    have same : SameAddresses s.auth s.afterDraw.auth := sameAddresses_answer .randomBytes s
    have later : ∀ attempt, FreeUsername s.afterDraw emailNorm attempt ↔ FreeUsername s emailNorm (attempt + 1) := by
      intro attempt
      have shifted : s.auth.fresh + 1 + attempt = s.auth.fresh + (attempt + 1) := by omega
      simp only [FreeUsername, State.afterDraw, State.withAuth, Auth.State.withFresh, shifted]
    have split : (∃ attempt < attempts + 1, FreeUsername s emailNorm attempt) ↔
        FreeUsername s emailNorm 0 ∨ ∃ attempt < attempts, FreeUsername s.afterDraw emailNorm attempt := by
      rw [Nat.exists_lt_succ_left]
      simp only [later]
    have admits := clashes_oauthUser unknown name
      (usernameCandidateFromEmail s.auth.deployment emailNorm (s.deployment.randomHex s.auth.fresh))
    rw [exec_createOAuthUserIn, split]
    cases clash : s.afterDraw.auth.users.entries.any fun entry =>
        clashes (nextOAuthUser s provider sub emailNorm name) entry.2 with
    | true =>
      rw [answer_create_of_clash clash]
      have taken : ¬ FreeUsername s emailNorm 0 := by
        intro free
        rw [nextOAuthUser, State.afterDraw, State.withAuth_auth, Auth.State.withFresh_users,
          admits.mpr free] at clash
        cases clash
      rw [or_iff_right taken]
      obtain ⟨free, userId, new, writes⟩ | ⟨none, unwritten⟩ := ih s.afterDraw (drawn.same same) unknown
      · exact .inl ⟨free, userId, new, writes.before same⟩
      · exact .inr ⟨none, same.trans unwritten⟩
    | false =>
      obtain ⟨created, writes⟩ := writes_create clash (drawn.same same).free
      rw [created]
      have new := (drawn.same same).free
      exact .inl ⟨.inl (admits.mp clash), _, new, writes.before same⟩

/-- The sign-in creates a rider: nobody has the subject or the address, and one of the usernames
that are tried is free. -/
def SignInCreates (s : State) (provider : Provider) (sub emailNorm : String) : Prop :=
  (∀ userId user, s.auth.users.find? userId = some user → subOf provider user ≠ some sub ∧
      s.auth.deployment.equalsInsensitive user.email emailNorm = false) ∧
    ∃ attempt < oauthAttempts, FreeUsername s emailNorm attempt

theorem run_assertNoOAuthEmailConflict_bind (rest : Flow Value)
    (stranger : ∀ userId user, s.auth.users.find? userId = some user → subOf provider user ≠ some sub) :
    run answer (assertNoOAuthEmailConflict emailNorm provider sub >>= fun _ => rest) s =
      if s.auth.users.entries.any fun entry => s.auth.deployment.equalsInsensitive entry.2.email emailNorm then
        (.error oauthEmailProviderMismatch, s)
      else run answer rest s := by
  rw [assertNoOAuthEmailConflict, call_bind, call_bind, run_call, done_bind]
  simp only [answer]
  cases found : s.auth.users.entries.find? fun entry =>
      s.auth.deployment.equalsInsensitive entry.2.email emailNorm with
  | none =>
    rw [if_neg]
    · rfl
    · rw [List.any_eq_true]
      rintro ⟨entry, member, same⟩
      exact List.find?_eq_none.mp found entry member same
  | some entry =>
    obtain ⟨userId, user⟩ := entry
    have member := List.mem_of_find?_eq_some found
    have other := stranger userId user ((mem_entries_iff _).mp member)
    rw [if_pos (List.any_eq_true.mpr ⟨_, member, List.find?_some found⟩)]
    dsimp only [map_some]
    rw [run_throwIf_bind, if_pos other]

/-- **A sign-in of somebody known writes no address**, and one of somebody unknown goes on to create the
rider. -/
theorem oauthSignIn_cases (emailNorm : String) (name : Option String) :
    ((∃ userId user, s.auth.users.find? userId = some user ∧ (subOf provider user = some sub ∨
          s.auth.deployment.equalsInsensitive user.email emailNorm = true)) ∧
        ∃ flow : Flow (UserId × Auth.TokenPair), flow.Uses AccountCall.LeavesAddresses ∧
          (oauthSignIn s.auth.deployment provider sub emailNorm name).exec s = flow.exec s) ∨
      ((∀ userId user, s.auth.users.find? userId = some user → subOf provider user ≠ some sub ∧
          s.auth.deployment.equalsInsensitive user.email emailNorm = false) ∧
        (oauthSignIn s.auth.deployment provider sub emailNorm name).exec s =
          (createOAuthUser s.auth.deployment provider sub emailNorm name >>= fun user =>
            issueSessionAfterLogin user.1 user.2).exec s) := by
  have looked : answer (.userFindUniqueBySub provider sub) s =
      (s.auth.users.entries.find? fun entry => decide (subOf provider entry.2 = some sub), s) := rfl
  unfold oauthSignIn Flow.exec
  rw [run_sends_of looked]
  cases bySub : s.auth.users.entries.find? fun entry => decide (subOf provider entry.2 = some sub) with
  | some entry =>
    obtain ⟨userId, user⟩ := entry
    have found := (mem_entries_iff _).mp (List.mem_of_find?_eq_some bySub)
    refine .inl ⟨⟨userId, user, found, .inl ?_⟩, _, issueSessionAfterLogin_leaves userId user, rfl⟩
    simpa using List.find?_some bySub
  | none =>
    have stranger : ∀ userId user, s.auth.users.find? userId = some user → subOf provider user ≠ some sub := by
      intro userId user found same
      exact List.find?_eq_none.mp bySub (userId, user) ((mem_entries_iff _).mpr found)
        (decide_eq_true same)
    rw [run_assertNoOAuthEmailConflict_bind s emailNorm provider sub _ stranger]
    by_cases known : s.auth.users.entries.any fun entry =>
        s.auth.deployment.equalsInsensitive entry.2.email emailNorm
    · rw [if_pos known]
      obtain ⟨⟨userId, user⟩, member, same⟩ := List.any_eq_true.mp known
      have found := (mem_entries_iff _).mp member
      exact .inl ⟨⟨userId, user, found, .inr same⟩, .fail oauthEmailProviderMismatch, trivial, rfl⟩
    · rw [if_neg known]
      refine .inr ⟨fun userId user found => ⟨stranger userId user found, ?_⟩, rfl⟩
      rw [Bool.eq_false_iff]
      intro same
      exact known (List.any_eq_true.mpr ⟨(userId, user), (mem_entries_iff _).mpr found, same⟩)

/-- Nobody has the subject or the address when the database finds neither. -/
theorem unknown_of_unfound {s : State} (reflexive : ∀ text, s.auth.deployment.equalsInsensitive text text = true)
    {provider : Provider} {sub emailNorm : String}
    (unfound : ∀ userId user, s.auth.users.find? userId = some user → subOf provider user ≠ some sub ∧
      s.auth.deployment.equalsInsensitive user.email emailNorm = false) : Unknown s provider sub emailNorm := by
  intro userId user found
  obtain ⟨stranger, apart⟩ := unfound userId user found
  refine ⟨stranger, ?_⟩
  rintro rfl
  rw [reflexive] at apart
  cases apart

/-- **A sign-in writes the row it creates**, under an id nobody has, or no address. -/
theorem oauthSignIn_addresses (drawn : IdsDrawn s.auth)
    (reflexive : ∀ text, s.auth.deployment.equalsInsensitive text text = true) (provider : Provider)
    (sub emailNorm : String) (name : Option String) :
    (SignInCreates s provider sub emailNorm ∧ ∃ userId, addressBook s.auth userId = none ∧
      WritesAddresses s.auth ((oauthSignIn s.auth.deployment provider sub emailNorm name).exec s).2.auth
        userId emailNorm none) ∨
      (¬ SignInCreates s provider sub emailNorm ∧
        SameAddresses s.auth ((oauthSignIn s.auth.deployment provider sub emailNorm name).exec s).2.auth) := by
  obtain ⟨⟨userId, user, found, known⟩, flow, leaves, ran⟩ | ⟨unfound, ran⟩ :=
    oauthSignIn_cases s provider sub emailNorm name
  · rw [ran]
    refine .inr ⟨fun creates => ?_, sameAddresses_run leaves s⟩
    obtain ⟨stranger, apart⟩ := creates.1 userId user found
    obtain subject | address := known
    · exact stranger subject
    · rw [apart] at address
      cases address
  · have creates : SignInCreates s provider sub emailNorm ↔
        ∃ attempt < oauthAttempts, FreeUsername s emailNorm attempt := and_iff_right unfound
    have rest := sameAddresses_bind (createOAuthUser s.auth.deployment provider sub emailNorm name)
      (fun user => issueSessionAfterLogin_leaves user.1 user.2) s
    rw [creates, ran]
    obtain ⟨free, userId, new, writes⟩ | ⟨none, same⟩ := createOAuthUserIn_addresses oauthAttempts s drawn
      provider sub emailNorm name (unknown_of_unfound reflexive unfound)
    · exact .inl ⟨free, userId, new, writes.after rest⟩
    · exact .inr ⟨none, same.trans rest⟩

/-! ## The change of an email -/

/-- The request of a new email is granted: the password is right, the address is another one, and
no active rider has it. -/
def EmailChangeGranted (s : Auth.State) (userId : UserId) (newEmail password : String) : Prop :=
  ∃ user passwordHash, s.users.find? userId = some user ∧ user.passwordHash = some passwordHash ∧
    s.deployment.bcrypt.compare password passwordHash = true ∧
    Auth.normalize s.deployment newEmail ≠ Auth.normalize s.deployment user.email ∧
    ∀ other row owned, s.users.find? other = some row → other ≠ userId → row.deletedAt = none →
      row.email = owned ∨ row.pendingEmail = some owned →
        s.deployment.equalsInsensitive owned (Auth.normalize s.deployment newEmail) = false

theorem emailTaken_eq_false {s : State} {userId : UserId} {email : String} :
    (answer (.userFindFirstEmailTaken userId email) s).1 = false ↔
      ∀ other row owned, s.auth.users.find? other = some row → other ≠ userId → row.deletedAt = none →
        row.email = owned ∨ row.pendingEmail = some owned →
          s.auth.deployment.equalsInsensitive owned email = false := by
  refine List.any_eq_false.trans ?_
  constructor
  · intro none other row owned found different active has
    have unmatched := none (other, row) ((mem_entries_iff _).mpr found)
    simp only [active, different, isNone_none, ne_eq, not_false_eq_true, decide_true, Bool.true_and,
      Bool.or_eq_true, not_or, any_eq_true, not_exists, not_and] at unmatched
    obtain rfl | pending := has
    · exact Bool.eq_false_iff.mpr unmatched.1
    · exact Bool.eq_false_iff.mpr (unmatched.2 owned pending)
  · rintro free ⟨other, row⟩ member matched
    have found := (mem_entries_iff _).mp member
    simp only [Bool.and_eq_true, decide_eq_true_eq, Bool.or_eq_true, any_eq_true,
      isNone_iff_eq_none] at matched
    obtain ⟨⟨different, active⟩, same | ⟨pending, has, same⟩⟩ := matched
    · rw [free other row row.email found different active (.inl rfl)] at same
      cases same
    · rw [free other row pending found different active (.inr has)] at same
      cases same

/-- What a granted request does. -/
theorem storeEmailChange_addresses {s : State} {userId : UserId} {user : Auth.User} (drawn : IdsDrawn s.auth)
    (found : s.auth.users.find? userId = some user) (deployment : Auth.Deployment) (newNorm : String) :
    WritesAddresses s.auth ((storeEmailChange deployment userId newNorm).exec s).2.auth userId user.email
      (some newNorm) := by
  let cleared := (answer (.emailChangeTokenDeleteUnused userId) s).2
  let drew := (answer .randomBytes cleared).2
  let plainToken := (answer .randomBytes cleared).1
  let written := (answer (.emailChangeRequestTransaction userId newNorm
    (deployment.hashPasswordResetToken plainToken) (drew.auth.now + emailChangeTtlMs)) drew).2
  have same : SameAddresses s.auth drew.auth :=
    (sameAddresses_answer (.emailChangeTokenDeleteUnused userId) s).trans (sameAddresses_answer .randomBytes cleared)
  have here : drew.auth.users.find? userId = some user := found
  have transacted : answer (.emailChangeRequestTransaction userId newNorm
      (deployment.hashPasswordResetToken plainToken) (drew.auth.now + emailChangeTtlMs)) drew = (.ok (), written) := by
    refine Prod.ext ?_ rfl
    simp only [answer, here, isNone_some, Bool.false_eq_true, if_false]
  have known : addressBook drew.auth userId = some (user.email, user.pendingEmail) := by
    rw [addressBook, here, map_some]
  have writes : WritesAddresses drew.auth written.auth userId user.email (some newNorm) := by
    have stored : written = drew.withAuth ((drew.auth.withEmailChange
        (drew.auth.users.modify userId fun user => { user with pendingEmail := some newNorm })
        (drew.auth.emailChangeTokens.insert drew.auth.fresh ⟨userId, newNorm,
          deployment.hashPasswordResetToken plainToken, drew.auth.now + emailChangeTtlMs, none⟩)).withFresh
            (drew.auth.fresh + 1)) := by
      simp only [written, answer, here, isNone_some, Bool.false_eq_true, if_false]
    rw [stored]
    refine ⟨rfl, Nat.le_succ _, ?_, funext fun other => ?_⟩
    · refine Nat.lt_succ_of_lt (drawn.same same userId ?_)
      rw [known]
      exact some_ne_none _
    · rw [addressBook]
      simp only [State.withAuth_auth, Auth.State.withFresh_users, Auth.State.withEmailChange_users,
        find?_modify]
      by_cases own : other = userId
      · rw [own, if_pos rfl, here, update_self]
        rfl
      · rw [if_neg own, update_of_ne own, addressBook]
  have ran : (storeEmailChange deployment userId newNorm).exec s =
      (.ok newNorm, (answer (.emailChangeMailEnqueue userId newNorm plainToken) written).2) := by
    refine Eq.trans (run_call_of_answer answer transacted fun requested =>
      rethrow requested >>= fun _ => call (.emailChangeMailEnqueue userId newNorm plainToken) >>= fun _ =>
        pure newNorm) rfl
  rw [ran]
  exact (writes.before same).after (sameAddresses_answer (.emailChangeMailEnqueue userId newNorm plainToken) written)

/-- **A request of a new email writes the pending one when it is granted.** -/
theorem requestEmailChange_addresses (drawn : IdsDrawn s.auth) (userId : UserId)
    (newEmail password : String) :
    (EmailChangeGranted s.auth userId newEmail password ∧ ∃ user, s.auth.users.find? userId = some user ∧
      WritesAddresses s.auth ((requestEmailChange s.auth.deployment userId newEmail password).exec s).2.auth
        userId user.email (some (Auth.normalize s.auth.deployment newEmail))) ∨
      (¬ EmailChangeGranted s.auth userId newEmail password ∧
        SameAddresses s.auth ((requestEmailChange s.auth.deployment userId newEmail password).exec s).2.auth) := by
  have looked : answer (.auth (.userFindUnique userId)) s = (s.auth.users.find? userId, s) := rfl
  unfold requestEmailChange Flow.exec
  rw [run_sends_of looked]
  cases found : s.auth.users.find? userId with
  | none =>
    refine .inr ⟨?_, .refl _⟩
    rintro ⟨user, passwordHash, here, -⟩
    rw [found] at here
    cases here
  | some user =>
    cases hashed : user.passwordHash with
    | none =>
      simp only [bind_some, hashed, map_none]
      refine .inr ⟨?_, .refl _⟩
      rintro ⟨user', passwordHash, here, hashed', -⟩
      rw [← Option.some.inj (found.symm.trans here), hashed] at hashed'
      cases hashed'
    | some passwordHash =>
      simp only [bind_some, hashed, map_some]
      have compared : answer (.auth (.bcryptCompare password passwordHash)) s =
        (s.auth.deployment.bcrypt.compare password passwordHash, s) := rfl
      rw [run_sends_of compared,
        run_throwIf_bind]
      have only : EmailChangeGranted s.auth userId newEmail password ↔
          s.auth.deployment.bcrypt.compare password passwordHash = true ∧
          Auth.normalize s.auth.deployment newEmail ≠ Auth.normalize s.auth.deployment user.email ∧
          (answer (.userFindFirstEmailTaken userId (Auth.normalize s.auth.deployment newEmail)) s).1 = false := by
        rw [emailTaken_eq_false]
        constructor
        · rintro ⟨user', hash, here, hashed', right, other, free⟩
          obtain rfl := Option.some.inj (found.symm.trans here)
          obtain rfl := Option.some.inj (hashed.symm.trans hashed')
          exact ⟨right, other, free⟩
        · rintro ⟨right, other, free⟩
          exact ⟨user, passwordHash, found, hashed, right, other, free⟩
      rw [only]
      cases right : s.auth.deployment.bcrypt.compare password passwordHash with
      | false =>
        exact .inr ⟨fun granted => absurd granted.1 Bool.false_ne_true, .refl _⟩
      | true =>
        rw [if_neg (by simp), run_throwIf_bind]
        by_cases unchanged :
            Auth.normalize s.auth.deployment newEmail = Auth.normalize s.auth.deployment user.email
        · rw [if_pos unchanged]
          exact .inr ⟨fun granted => granted.2.1 unchanged, .refl _⟩
        · rw [if_neg unchanged, run_sends,
            run_throwIf_bind]
          cases taken : (answer (.userFindFirstEmailTaken userId
              (Auth.normalize s.auth.deployment newEmail)) s).1 with
          | true =>
            exact .inr ⟨fun granted => absurd granted.2.2 (by simp), .refl _⟩
          | false =>
            rw [if_neg Bool.false_ne_true]
            exact .inl ⟨⟨rfl, unchanged, rfl⟩, user, rfl, storeEmailChange_addresses drawn found _ _⟩

/-- Dropping the sessions of a rider writes no address. -/
theorem revokeAllForUser_addresses (s : Auth.State) (userId : UserId) :
    SameAddresses s (run Auth.answer (Auth.revokeAllForUser userId >>= fun _ =>
      (pure () : Auth.Flow Unit)) s).2 := by
  unfold Auth.revokeAllForUser
  rw [call_bind, call_bind, run_call, done_bind]
  split
  · exact .refl _
  · exact ⟨rfl, Nat.le_refl _, rfl⟩

theorem emailChangeTransaction_addresses {s : Auth.State} (drawn : IdsDrawn s) (id : Auth.EmailTokenId)
    {userId : UserId} {user : Auth.User} (found : s.users.find? userId = some user) (email : String) :
    (∃ error, Auth.answer (.emailChangeTransaction id userId email) s = (.error error, s)) ∨
      ∃ t, Auth.answer (.emailChangeTransaction id userId email) s = (.ok (), t) ∧
        WritesAddresses s t userId email none := by
  simp only [Auth.answer]
  split
  · exact .inl ⟨_, rfl⟩
  · split
    · exact .inl ⟨_, rfl⟩
    · refine .inr ⟨_, rfl, rfl, Nat.le_refl _, drawn userId ?_, funext fun other => ?_⟩
      · rw [addressBook, found]
        exact some_ne_none _
      · rw [addressBook]
        simp only [Auth.State.withEmailChange_users, find?_modify]
        by_cases own : other = userId
        · rw [own, if_pos rfl, found, update_self]
          rfl
        · rw [if_neg own, update_of_ne own, addressBook]

/-- **A verification makes the pending email the only address of the rider**, or writes nothing. -/
theorem verifyEmailChange_addresses (s : Auth.State) (drawn : IdsDrawn s) (token : String) :
    SameAddresses s ((Auth.verifyEmailChange s.deployment token).exec s).2 ∨
      ∃ userId email pending, addressBook s userId = some (email, some pending) ∧
        WritesAddresses s ((Auth.verifyEmailChange s.deployment token).exec s).2 userId
          (Auth.normalize s.deployment pending) none := by
  have first : Auth.answer (.emailChangeTokenFindFirst (s.deployment.hashPasswordResetToken token)) s =
    ((Auth.answer (.emailChangeTokenFindFirst (s.deployment.hashPasswordResetToken token)) s).1, s) := rfl
  unfold Auth.verifyEmailChange Auth.Flow.exec
  rw [run_sends_of first]
  cases looked : (Auth.answer (.emailChangeTokenFindFirst (s.deployment.hashPasswordResetToken token)) s).1 with
  | none => exact .inl (.refl _)
  | some entry =>
    obtain ⟨id, stored, user⟩ := entry
    have found : s.users.find? stored.userId = some user := by
      obtain ⟨row, -, joined⟩ := bind_eq_some_iff.mp looked
      obtain ⟨user', here, same⟩ := map_eq_some_iff.mp joined
      cases same
      exact here
    rw [run_throwIf_bind]
    split
    · exact .inl (.refl _)
    · rw [run_throwIf_bind]
      by_cases pends : Auth.pendingMatches s.deployment stored user = false
      · rw [if_pos pends]
        exact .inl (.refl _)
      · rw [if_neg pends, call_bind]
        rw [Bool.not_eq_false, Auth.pendingMatches, any_map, any_eq_true] at pends
        obtain ⟨pending, has, matched⟩ := pends
        simp only [Bool.and_eq_true, decide_eq_true_eq] at matched
        have known : addressBook s stored.userId = some (user.email, some pending) := by
          rw [addressBook, found, map_some, has]
        rw [← matched.2]
        obtain ⟨error, refused⟩ | ⟨t, stores, writes⟩ :=
          emailChangeTransaction_addresses drawn id found (Auth.normalize s.deployment pending)
        · rw [run_call_of_answer _ refused]
          exact .inl (.refl _)
        · rw [run_call_of_answer _ stores]
          refine .inr ⟨stored.userId, user.email, pending, known, writes.after ?_⟩
          exact revokeAllForUser_addresses t stored.userId

/-! ## Tokens -/

/-- Sign-ins with the provider are configured. -/
def Configured (installation : Deployment) : Provider → Prop
  | .apple => ∃ clientId, installation.appleClientId = some clientId ∧ clientId ≠ ""
  | .google => installation.googleClientIds ≠ []

/-- **A sign-in with Apple goes on with a valid token**, when it is configured, and else does nothing. -/
theorem appleSignIn_cases (claims : Option Claims) (email : Option String)
    (fullName : Option (Option String × Option String)) :
    (∃ verified, claims = some verified ∧ Configured s.deployment .apple ∧
        (appleSignIn s.deployment s.auth.deployment claims email fullName).exec s =
          (oauthSignIn s.auth.deployment .apple verified.sub
            (appleEmail s.deployment s.auth.deployment email verified)
            (displayNameFromAppleFullName fullName)).exec s) ∨
      (∀ verified, claims = some verified → ¬ Configured s.deployment .apple) ∧
        ((appleSignIn s.deployment s.auth.deployment claims email fullName).exec s).2 = s := by
  unfold appleSignIn Flow.exec
  rw [run_throwIf_bind]
  by_cases missing : s.deployment.appleClientId.all fun clientId => decide (clientId = "")
  · rw [if_pos missing]
    refine .inr ⟨fun verified _ configured => ?_, rfl⟩
    obtain ⟨clientId, has, filled⟩ := configured
    rw [has, all_some, decide_eq_true_eq] at missing
    exact absurd missing filled
  · rw [if_neg missing]
    cases claims with
    | none => exact .inr ⟨(by rintro _ ⟨⟩), rfl⟩
    | some verified =>
      refine .inl ⟨verified, rfl, ?_, rfl⟩
      cases has : s.deployment.appleClientId with
      | none =>
        rw [has] at missing
        exact absurd rfl missing
      | some clientId =>
        rw [has, all_some, decide_eq_true_eq] at missing
        exact ⟨clientId, has, missing⟩

/-- **A sign-in with Google goes on with a valid token that has an address**, when it is configured, and
else does nothing. -/
theorem googleSignIn_cases (claims : Option Claims) :
    (∃ verified email name, claims = some verified ∧ verified.email = some email ∧ email ≠ "" ∧
        Configured s.deployment .google ∧
          (googleSignIn s.deployment s.auth.deployment claims).exec s =
            (oauthSignIn s.auth.deployment .google verified.sub (Auth.normalize s.auth.deployment email)
              name).exec s) ∨
      (∀ verified email, claims = some verified → verified.email = some email → email ≠ "" →
          ¬ Configured s.deployment .google) ∧
        ((googleSignIn s.deployment s.auth.deployment claims).exec s).2 = s := by
  unfold googleSignIn Flow.exec
  rw [run_throwIf_bind]
  by_cases missing : s.deployment.googleClientIds = []
  · rw [if_pos missing]
    exact .inr ⟨fun _ _ _ _ _ configured => absurd missing configured, rfl⟩
  · rw [if_neg missing]
    cases given : claims.bind fun claims =>
        (claims.email.filter fun email => decide (email ≠ "")).map fun email => (claims, email) with
    | none =>
      refine .inr ⟨fun verified email some has filled _ => ?_, rfl⟩
      rw [some, bind_some, has, filter_some, if_pos (decide_eq_true filled)] at given
      cases given
    | some pair =>
      obtain ⟨verified, email⟩ := pair
      obtain ⟨verified', some, joined⟩ := bind_eq_some_iff.mp given
      obtain ⟨email', filtered, same⟩ := map_eq_some_iff.mp joined
      obtain ⟨has, filled⟩ := filter_eq_some_iff.mp filtered
      cases same
      exact .inl ⟨verified, email, _, some, has, of_decide_eq_true filled, missing, rfl⟩

/-! ## Runs -/

inductive AddressOp where
  | register (email username password : String) (name : Option String)
  | appleSignIn (claims : Option Claims) (email : Option String) (fullName : Option (Option String × Option String))
  | googleSignIn (claims : Option Claims)
  | requestEmailChange (userId : UserId) (newEmail password : String)
  | verifyEmailChange (token : String)
  | requestDeletion (userId : UserId) (reason : Option String)
  | cancelDeletion (userId : UserId)
  | onAuthLogin (userId : UserId)
  | elapse (milliseconds : Nat)

/-- A flow whose result nobody reads. -/
def discard {Value : Type} (flow : Flow Value) : Flow Unit := do
  let _ ← flow
  pure ()

def AddressOp.flow (installation : Deployment) (deployment : Auth.Deployment) : AddressOp → Flow Unit
  | .register email username password name => discard (Account.register deployment email username password name)
  | .appleSignIn claims email fullName =>
    discard (Account.appleSignIn installation deployment claims email fullName)
  | .googleSignIn claims => discard (Account.googleSignIn installation deployment claims)
  | .requestEmailChange userId newEmail password =>
    discard (Account.requestEmailChange deployment userId newEmail password)
  | .verifyEmailChange token => auth (Auth.verifyEmailChange deployment token)
  | .requestDeletion userId reason => discard (Account.requestDeletion userId reason)
  | .cancelDeletion userId => discard (Account.cancelDeletion userId)
  | .onAuthLogin userId => Account.onAuthLogin userId
  | .elapse milliseconds => call (.auth (.elapse milliseconds))

/-- The state after a call. -/
def addressStep (s : State) (op : AddressOp) : State :=
  ((op.flow s.deployment s.auth.deployment).exec s).2

/-- A sign-in creates no rider with an address that is pending for somebody. -/
def SignInClear (s : State) (provider : Provider) (sub emailNorm : String) : Prop :=
  SignInCreates s provider sub emailNorm → ∀ userId user pending, s.auth.users.find? userId = some user →
    user.pendingEmail = some pending → s.auth.deployment.equalsInsensitive pending emailNorm = false

/-- The request of a new email that is granted asks for no address of a deleted rider, and a sign-in
creates no rider with a pending address. -/
def AddressOp.Clear (s : State) : AddressOp → Prop
  | .appleSignIn claims email _ => ∀ verified, claims = some verified →
      (∃ clientId, s.deployment.appleClientId = some clientId ∧ clientId ≠ "") →
        SignInClear s .apple verified.sub (appleEmail s.deployment s.auth.deployment email verified)
  | .googleSignIn claims => ∀ verified email, claims = some verified → verified.email = some email →
      email ≠ "" → s.deployment.googleClientIds ≠ [] →
        SignInClear s .google verified.sub (Auth.normalize s.auth.deployment email)
  | .requestEmailChange userId newEmail password => EmailChangeGranted s.auth userId newEmail password →
      ∀ other row owned, s.auth.users.find? other = some row → other ≠ userId → row.deletedAt ≠ none →
        row.email = owned ∨ row.pendingEmail = some owned →
          s.auth.deployment.equalsInsensitive owned (Auth.normalize s.auth.deployment newEmail) = false
  | _ => True

/-- The database compares what `fold` makes one as equal, and an address that is normalized stays as
it is. -/
structure Compares (fold : String → String) (deployment : Auth.Deployment) : Prop where
  exact : ∀ first second, deployment.equalsInsensitive first second = true ↔ fold first = fold second
  settled : ∀ text, Auth.normalize deployment (Auth.normalize deployment text) = Auth.normalize deployment text

section Steps

variable {fold : String → String} {s : State}

theorem Compares.ne {deployment : Auth.Deployment} (compares : Compares fold deployment) {first second : String} :
    deployment.equalsInsensitive first second = false ↔ fold first ≠ fold second := by
  rw [Bool.eq_false_iff, ne_eq, compares.exact]

theorem exec_discard {Value : Type} (flow : Flow Value) (s : State) :
    ((discard flow).exec s).2 = (flow.exec s).2 := by
  rw [Flow.exec, discard, run_bind, Flow.exec]
  cases run answer flow s with
  | mk outcome after => cases outcome <;> rfl

theorem exec_auth {Value : Type} (flow : Auth.Flow Value) (s : State) :
    (auth flow).exec s = ((flow.exec s.auth).1.mapError id, s.withAuth (flow.exec s.auth).2) :=
  run_embed Auth.answer id State.auth State.withAuth (fun _ _ => rfl) (fun _ _ => rfl)
    (fun _ _ _ => rfl) (fun _ => rfl) flow s

/-- What a step does to the addresses: nothing; or an address that nobody has is written; or one that
somebody else has, which happens exactly outside the condition. -/
inductive AddressEffect (fold : String → String) (s t : Auth.State) (clear : Prop) : Prop where
  | same (met : clear) (same : SameAddresses s t)
  | writes (met : clear) (userId : UserId) (email : String) (pending : Option String)
      (writes : WritesAddresses s t userId email pending)
      (normalized : ∀ text, pending = some text → Auth.normalize s.deployment text = text)
      (free : ∀ other address address', other ≠ userId → (addressBook s).Owns other address →
        email = address' ∨ pending = some address' → fold address ≠ fold address')
  | shares (unmet : ¬ clear) (userId : UserId) (email : String) (pending : Option String)
      (writes : WritesAddresses s t userId email pending)
      (shared : ∃ other address address', other ≠ userId ∧ (addressBook s).Owns other address ∧
        (email = address' ∨ pending = some address') ∧ fold address = fold address')

variable {t : Auth.State} {clear : Prop}

theorem AddressEffect.sound (effect : AddressEffect fold s.auth t clear)
    (sound : AddressesSound fold s.auth) (met : clear) : AddressesSound fold t := by
  cases effect with
  | same _ same => exact sound.same same
  | writes _ userId email pending writes normalized free => exact sound.writes writes normalized free
  | shares unmet => exact absurd met unmet

theorem AddressEffect.not_apart (effect : AddressEffect fold s.auth t clear) (unmet : ¬ clear) :
    ¬ (addressBook t).Apart fold := by
  cases effect with
  | same met | writes met => exact absurd met unmet
  | shares _ userId email pending writes shared =>
    obtain ⟨other, address, address', different, owns, has, same⟩ := shared
    rw [writes.book]
    exact AddressBook.not_apart_update different owns has same

theorem AddressEffect.mono {clear' : Prop} (effect : AddressEffect fold s.auth t clear)
    (same : clear ↔ clear') : AddressEffect fold s.auth t clear' := by
  rwa [← same]

theorem AddressEffect.deployment (effect : AddressEffect fold s.auth t clear) :
    t.deployment = s.auth.deployment := by
  cases effect with
  | same _ same => exact same.deployment
  | writes _ _ _ _ writes | shares _ _ _ _ writes => exact writes.deployment

theorem oauthSignIn_effect (compares : Compares fold s.auth.deployment) (sound : AddressesSound fold s.auth)
    (provider : Provider) (sub emailNorm : String) (name : Option String) :
    AddressEffect fold s.auth ((oauthSignIn s.auth.deployment provider sub emailNorm name).exec s).2.auth
      (SignInClear s provider sub emailNorm) := by
  obtain ⟨creates, userId, new, writes⟩ | ⟨none, same⟩ :=
    oauthSignIn_addresses s sound.drawn (fun text => (compares.exact text text).mpr rfl) provider sub emailNorm name
  · by_cases clear : SignInClear s provider sub emailNorm
    · refine .writes clear userId emailNorm none writes (by rintro _ ⟨⟩) ?_
      rintro other address address' - owns (rfl | none)
      · obtain ⟨user, found, rfl | pending⟩ := owns_iff.mp owns
        · exact compares.ne.mp (creates.1 other user found).2
        · exact compares.ne.mp (clear creates other user address found pending)
      · cases none
    · refine .shares clear userId emailNorm none writes ?_
      unfold SignInClear at clear
      push Not at clear
      obtain ⟨-, other, user, pending, found, has, same⟩ := clear
      rw [ne_eq, Bool.not_eq_false, compares.exact] at same
      refine ⟨other, pending, emailNorm, ?_, owns_iff.mpr ⟨user, found, .inr has⟩, .inl rfl, same⟩
      rintro rfl
      rw [addressBook, found] at new
      cases new
  · exact .same (fun creates => absurd creates none) same

theorem requestEmailChange_effect (compares : Compares fold s.auth.deployment)
    (sound : AddressesSound fold s.auth) (userId : UserId) (newEmail password : String) :
    AddressEffect fold s.auth
      ((requestEmailChange s.auth.deployment userId newEmail password).exec s).2.auth
      (AddressOp.Clear s (.requestEmailChange userId newEmail password)) := by
  obtain ⟨granted, user, found, writes⟩ | ⟨none, same⟩ :=
    requestEmailChange_addresses s sound.drawn userId newEmail password
  · by_cases clear : AddressOp.Clear s (.requestEmailChange userId newEmail password)
    · refine .writes clear userId user.email _ writes ?_ ?_
      · rintro _ ⟨⟩
        exact compares.settled newEmail
      · rintro other address address' different owns (rfl | written)
        · intro same
          refine different (sound.apart other userId address user.email owns ?_ same)
          exact owns_iff.mpr ⟨user, found, .inl rfl⟩
        · obtain rfl := Option.some.inj written
          obtain ⟨row, here, has⟩ := owns_iff.mp owns
          by_cases active : row.deletedAt = none
          · obtain ⟨-, -, -, -, -, -, free⟩ := granted
            exact compares.ne.mp (free other row address here different active has)
          · exact compares.ne.mp (clear granted other row address here different active has)
    · refine .shares clear userId user.email _ writes ?_
      unfold AddressOp.Clear at clear
      push Not at clear
      obtain ⟨-, other, row, owned, here, different, -, has, same⟩ := clear
      rw [ne_eq, Bool.not_eq_false, compares.exact] at same
      exact ⟨other, owned, _, different, owns_iff.mpr ⟨row, here, has⟩, .inr rfl, same⟩
  · exact .same (fun granted => absurd granted none) same

/-- **What a step does to the addresses.** -/
theorem AddressOp.effect (compares : Compares fold s.auth.deployment) (sound : AddressesSound fold s.auth)
    (op : AddressOp) : AddressEffect fold s.auth (addressStep s op).auth (op.Clear s) := by
  unfold addressStep
  cases op with
  | register email username password name =>
    rw [AddressOp.flow, exec_discard]
    obtain same | ⟨free, writes⟩ := register_addresses s sound.drawn email username password name
    · exact .same trivial same
    · refine .writes trivial _ _ none writes (by rintro _ ⟨⟩) ?_
      rintro other address address' - owns (rfl | none)
      · exact compares.ne.mp (free other address owns)
      · cases none
  | appleSignIn claims email fullName =>
    rw [AddressOp.flow, exec_discard]
    obtain ⟨verified, rfl, configured, ran⟩ | ⟨missing, ran⟩ := appleSignIn_cases s claims email fullName
    · rw [ran]
      refine (oauthSignIn_effect compares sound .apple verified.sub
        (appleEmail s.deployment s.auth.deployment email verified) _).mono ?_
      constructor
      · rintro clear _ ⟨⟩ -
        exact clear
      · intro clear
        exact clear verified rfl configured
    · rw [ran]
      exact .same (fun verified some configured => absurd configured (missing verified some)) (.refl _)
  | googleSignIn claims =>
    rw [AddressOp.flow, exec_discard]
    obtain ⟨verified, email, name, some, has, filled, configured, ran⟩ | ⟨missing, ran⟩ :=
      googleSignIn_cases s claims
    · rw [ran]
      refine (oauthSignIn_effect compares sound .google verified.sub
        (Auth.normalize s.auth.deployment email) _).mono ?_
      constructor
      · intro clear other email' some' has' _ _
        obtain rfl := Option.some.inj (some.symm.trans some')
        obtain rfl := Option.some.inj (has.symm.trans has')
        exact clear
      · intro clear
        exact clear verified email some has filled configured
    · rw [ran]
      exact .same (fun verified email some has filled configured =>
        absurd configured (missing verified email some has filled)) (.refl _)
  | requestEmailChange userId newEmail password =>
    rw [AddressOp.flow, exec_discard]
    exact requestEmailChange_effect compares sound userId newEmail password
  | verifyEmailChange token =>
    rw [AddressOp.flow, exec_auth]
    obtain same | ⟨userId, email, pending, known, writes⟩ := verifyEmailChange_addresses s.auth sound.drawn token
    · exact .same trivial same
    · rw [sound.normalized userId email pending known] at writes
      refine .writes trivial userId pending none writes (by rintro _ ⟨⟩) ?_
      rintro other address address' different owns (rfl | none) same
      · refine different (sound.apart other userId address pending owns ?_ same)
        exact ⟨email, some pending, known, .inr rfl⟩
      · cases none
  | requestDeletion userId reason =>
    rw [AddressOp.flow, exec_discard]
    exact .same trivial (sameAddresses_run (requestDeletion_leaves userId reason) s)
  | cancelDeletion userId =>
    rw [AddressOp.flow, exec_discard]
    exact .same trivial (sameAddresses_run ((cancelDeletion_cancels userId).mono fun _ =>
      AccountCall.Cancels.leavesAddresses) s)
  | onAuthLogin userId =>
    have cancels : (Account.onAuthLogin userId).Uses AccountCall.Cancels :=
      Uses.rescue ((cancelDeletionOnLogin_cancels userId).bind fun _ => trivial) fun _ => trivial
    exact .same trivial (sameAddresses_run (cancels.mono fun _ => AccountCall.Cancels.leavesAddresses) s)
  | elapse milliseconds => exact .same trivial (sameAddresses_answer (.elapse milliseconds) s)

end Steps

/-- **No address belongs to two riders in any state of a run exactly when no step of it takes the
address of a deleted rider or a pending one.** -/
theorem addresses_apart_iff (fold : String → String) (s : State) (compares : Compares fold s.auth.deployment)
    (sound : AddressesSound fold s.auth) (ops : List AddressOp) :
    Throughout addressStep (fun t => (addressBook t.auth).Apart fold) s ops ↔
      EachStep addressStep AddressOp.Clear s ops := by
  let invariant (t : State) := Compares fold t.auth.deployment ∧ AddressesSound fold t.auth
  have initially : invariant s := ⟨compares, sound⟩
  refine throughout_iff_eachStep (fun t (held : invariant t) => ?_) (fun t op held met => ?_)
    (fun t op held unmet => ?_) initially ops
  · exact held.2.apart
  · obtain ⟨compares, sound⟩ := held
    have effect := op.effect compares sound
    refine ⟨?_, effect.sound sound met⟩
    rw [effect.deployment]
    exact compares
  · obtain ⟨compares, sound⟩ := held
    exact (op.effect compares sound).not_apart unmet

/-! ## A small installation -/

theorem compares_small : Compares id Auth.smallDeployment := by
  refine ⟨fun first second => decide_eq_true_iff, fun text => ?_⟩
  exact jsTrim_jsTrim text

theorem sound_empty : AddressesSound id emptyInstallation.auth :=
  ⟨fun _ _ _ _ owns => (by obtain ⟨_, _, ⟨⟩, _⟩ := owns), fun _ _ _ here => (by cases here),
    fun _ here => absurd rfl here⟩

def twoRegister : List AddressOp :=
  [.register "a@example.com" "rider_a" "secret" none, .register "b@example.com" "rider_b" "secret" none]

theorem addresses_apart_small :
    Throughout addressStep (fun t => (addressBook t.auth).Apart id) emptyInstallation
        (twoRegister ++ [.requestEmailChange 4 "c@example.com" "secret", .requestDeletion 1 none]) ↔
      EachStep addressStep AddressOp.Clear emptyInstallation
        (twoRegister ++ [.requestEmailChange 4 "c@example.com" "secret", .requestDeletion 1 none]) :=
  addresses_apart_iff id emptyInstallation compares_small sound_empty _

/-- The first rider asks for the deletion of the account, and the second for the address of the
first. Or the second asks for a new address, and somebody signs in with it. -/
theorem address_shared :
    ¬ Throughout addressStep (fun t => (addressBook t.auth).Apart id) emptyInstallation
        (twoRegister ++ [.requestDeletion 1 none, .requestEmailChange 4 "a@example.com" "secret"]) ∧
      ¬ Throughout addressStep (fun t => (addressBook t.auth).Apart id) emptyInstallation
        (twoRegister ++ [.requestEmailChange 4 "c@example.com" "secret",
          .googleSignIn (some ⟨"subject", by decide, some "c@example.com", none⟩)]) := by
  have shared : ∀ (s : State) (first second : UserId) (entry entry' : String × Option String) (address : String),
      addressBook s.auth first = some entry → addressBook s.auth second = some entry' →
        (entry.1 = address ∨ entry.2 = some address) → (entry'.1 = address ∨ entry'.2 = some address) →
          first ≠ second → ¬ (addressBook s.auth).Apart id := by
    intro s first second entry entry' address here here' has has' different apart
    exact different (apart first second address address ⟨_, _, here, has⟩ ⟨_, _, here', has'⟩ rfl)
  refine ⟨fun apart => ?_, fun apart => ?_⟩
  · refine shared _ 1 4 ("a@example.com", none) ("b@example.com", some "a@example.com") "a@example.com" ?_ ?_
      (.inl rfl) (.inr rfl) (by decide) apart.last
    · rfl
    · rfl
  · refine shared _ 4 9 ("b@example.com", some "c@example.com") ("c@example.com", none) "c@example.com" ?_ ?_
      (.inr rfl) (.inl rfl) (by decide) apart.last
    · rfl
    · rfl

end Motogram.Account
