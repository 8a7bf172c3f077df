import Motogram.Account.Addresses
import Motogram.Foundation.Staging

/-!
# The first sign-in with a subject

Any number of sign-ins with valid tokens of one subject run at the same time, and nobody has
the subject yet. Each looks the subject up, asks whether the address belongs to somebody else,
and creates the rider. A sign-in that has found nobody goes on to create, also when another has
created the rider meanwhile; every attempt is then refused by the unique column of the subject
and taken for a taken username, until there are no attempts left.

The sign-ins end with one rider, and all with the id of that rider, exactly when every creation
finds the subject free, no address is taken for that of another rider, and no last attempt draws
a username that is taken (`one_rider_iff`).
-/

set_option autoImplicit false

namespace Motogram.Account

open Foundation Program Function Table

variable {Index : Type} {provider : Provider} {sub : String}

/-! ## Sign-ins with one subject -/

/-- A sign-in with a valid token of the subject. A token of Google has an address. -/
inductive SignIn (sub : String) : Provider → Type where
  | apple (claims : Claims) (same : claims.sub = sub) (email : Option String)
      (fullName : Option (Option String × Option String)) : SignIn sub .apple
  | google (claims : Claims) (same : claims.sub = sub) (address : String)
      (has : claims.email = some address) (filled : address ≠ "") : SignIn sub .google

/-- The address the rider is created with. -/
def SignIn.emailNorm (installation : Deployment) (deployment : Auth.Deployment) :
    SignIn sub provider → String
  | .apple claims _ email _ => appleEmail installation deployment email claims
  | .google _ _ address _ _ => Auth.normalize deployment address

def SignIn.name : SignIn sub provider → Option String
  | .apple _ _ _ fullName => displayNameFromAppleFullName fullName
  | .google claims _ _ _ _ => ((claims.name.map jsTrim).filter fun name => decide (name ≠ "")).map (jsSlice 80)

def SignIn.flow (installation : Deployment) (deployment : Auth.Deployment) :
    SignIn sub provider → Flow (UserId × Auth.TokenPair)
  | .apple claims _ email fullName => appleSignIn installation deployment (some claims) email fullName
  | .google claims _ _ _ _ => googleSignIn installation deployment (some claims)

/-- A sign-in with a valid token goes on to look up the subject. -/
theorem SignIn.flow_eq {installation : Deployment} (configured : Configured installation provider)
    (deployment : Auth.Deployment) (request : SignIn sub provider) :
    request.flow installation deployment =
      oauthSignIn deployment provider sub (request.emailNorm installation deployment) request.name := by
  cases request with
  | apple claims same email fullName =>
    obtain ⟨clientId, given, filled⟩ := configured
    cases same
    rw [SignIn.flow, appleSignIn, throwIf, if_neg]
    · rfl
    · rw [given, Option.all_some, decide_eq_true_eq]
      exact filled
  | google claims same address has filled =>
    cases same
    rw [SignIn.flow, googleSignIn, throwIf, if_neg configured, Option.bind_some, has,
      Option.filter_some, if_pos (decide_eq_true filled)]
    rfl

/-- A sign-in of the pool, or time that passes. -/
inductive SignInCall (sub : String) (provider : Provider) where
  | signIn (request : SignIn sub provider)
  | elapse (milliseconds : Nat)

/-- What a thread does, with the session it returns. -/
abbrev SignInFlow := Flow (Option (UserId × Auth.TokenPair))

def SignInCall.flow (installation : Deployment) (deployment : Auth.Deployment) :
    SignInCall sub provider → SignInFlow
  | .signIn request => request.flow installation deployment >>= fun session => pure (some session)
  | .elapse milliseconds => call (.auth (.elapse milliseconds)) >>= fun _ => pure none

/-- The address of a sign-in. -/
def SignInCall.email? (installation : Deployment) (deployment : Auth.Deployment) :
    SignInCall sub provider → Option String
  | .signIn request => some (request.emailNorm installation deployment)
  | .elapse _ => none

abbrev SignInPool (Index : Type) :=
  Pool Index AccountCall AccountReply ServiceError (Option (UserId × Auth.TokenPair)) State

/-- The calls before the first of them has run. -/
def signInPool (calls : Index → SignInCall sub provider) (s : State) : SignInPool Index where
  threads := fun index => (calls index).flow s.deployment s.auth.deployment
  store := s

/-- The rider has the subject. -/
def HasSubject (provider : Provider) (sub : String) (s : Auth.State) (userId : UserId) : Prop :=
  ∃ user, s.users.find? userId = some user ∧ subOf provider user = some sub

def OneRider (calls : Index → SignInCall sub provider) (pool : SignInPool Index) : Prop :=
  ∃ userId, (∀ other, HasSubject provider sub pool.store.auth other ↔ other = userId) ∧
    ∀ index request, calls index = .signIn request →
      ∃ tokens, pool.threads index = .done (some (userId, tokens))

/-- The first user an address is found to belong to has the subject; nobody has the subject
when a rider is created; and the username of a last attempt is nobody's. -/
def CreatesAlone (provider : Provider) (sub : String) (pool : SignInPool Index) (index : Index) : Prop :=
  match pool.threads index with
  | .call (.userFindFirstByEmail email) _ =>
    ∀ row, (answer (.userFindFirstByEmail email) pool.store).1 = some row → subOf provider row = some sub
  | .call (.userCreate row) next =>
    (∀ userId, ¬ HasSubject provider sub pool.store.auth userId) ∧
      ((∃ error, next (.error .uniqueViolation) = .fail error) →
        ∀ userId user, pool.store.auth.users.find? userId = some user → user.username ≠ row.username)
  | _ => True

/-! ## The riders of a state -/

/-- The row of a rider but for the date of the last visit, which every sign-in writes. -/
def riders (s : Auth.State) (userId : UserId) : Option Auth.User :=
  (s.users.find? userId).map fun user => { user with lastSeenAt := none }

structure SameRiders (s t : Auth.State) : Prop where
  fresh : s.fresh ≤ t.fresh
  riders : riders t = riders s

structure NewRider (s t : Auth.State) (row : NewUser) : Prop where
  fresh : t.fresh = s.fresh + 1
  riders : riders t = update (riders s) s.fresh (some row.toAuth)

theorem SameRiders.refl (s : Auth.State) : SameRiders s s := ⟨Nat.le_refl _, rfl⟩

/-- The calls of a session, which change no rider but for the last visit. -/
inductive AccountCall.LeavesRiders : AccountCall → Prop where
  | userUpdateLastSeen (userId : UserId) : LeavesRiders (.auth (.userUpdateLastSeen userId))
  | dateNow : LeavesRiders (.auth .dateNow)
  | emitLogin (userId : UserId) (at' : Time) : LeavesRiders (.auth (.emitLogin userId at'))
  | uuidv4 : LeavesRiders (.auth .uuidv4)
  | jwtSign : LeavesRiders (.auth .jwtSign)
  | setRefreshToken (key : Auth.RefreshKey) (seconds : Nat) : LeavesRiders (.auth (.setRefreshToken key seconds))
  | elapse (milliseconds : Nat) : LeavesRiders (.auth (.elapse milliseconds))

variable {s : Auth.State} {userId : UserId}

theorem riders_eq_some {rider : Auth.User} :
    riders s userId = some rider ↔
      ∃ user, s.users.find? userId = some user ∧ { user with lastSeenAt := none } = rider :=
  Option.map_eq_some_iff

theorem riders_of_find? {user : Auth.User} (found : s.users.find? userId = some user) :
    riders s userId = some { user with lastSeenAt := none } :=
  riders_eq_some.mpr ⟨user, found, rfl⟩

/-- The subject does not depend on the last visit. -/
theorem subOf_unseen (provider : Provider) (user : Auth.User) :
    subOf provider { user with lastSeenAt := none } = subOf provider user := by
  cases provider <;> rfl

theorem hasSubject_iff :
    HasSubject provider sub s userId ↔
      ∃ rider, riders s userId = some rider ∧ subOf provider rider = some sub := by
  constructor
  · rintro ⟨user, found, subject⟩
    exact ⟨_, riders_of_find? found, (subOf_unseen provider user).trans subject⟩
  · rintro ⟨_, rider, subject⟩
    obtain ⟨user, found, rfl⟩ := riders_eq_some.mp rider
    exact ⟨user, found, (subOf_unseen provider user).symm.trans subject⟩

theorem SameRiders.hasSubject_iff {t : Auth.State} (same : SameRiders s t) {userId : UserId} :
    HasSubject provider sub t userId ↔ HasSubject provider sub s userId := by
  rw [Account.hasSubject_iff, same.riders, Account.hasSubject_iff]

theorem newRider_create {s : State} {row : NewUser} (free : riders s.auth s.auth.fresh = none)
    (admitted : (s.auth.users.entries.any fun entry => clashes row entry.2) = false) :
    NewRider s.auth (answer (.userCreate row) s).2.auth row := by
  have absent : s.auth.users.find? s.auth.fresh = none := Option.map_eq_none_iff.mp free
  simp only [answer, admitted, Bool.false_eq_true, if_false]
  refine ⟨rfl, funext fun other => ?_⟩
  by_cases same : other = s.auth.fresh
  · subst same
    rw [update_self, riders]
    simp only [State.withRiders_auth, find?_insert_self absent]
    rfl
  · rw [update_of_ne same, riders]
    simp only [State.withRiders_auth, find?_insert_of_ne _ same]
    rfl

theorem sameRiders_answer {request : AccountCall} (leaves : request.LeavesRiders) (s : State) :
    SameRiders s.auth (answer request s).2.auth := by
  cases leaves with
  | uuidv4 => exact ⟨Nat.le_succ _, rfl⟩
  | userUpdateLastSeen userId =>
    simp only [answer, Auth.answer, State.withAuth]
    split
    · exact .refl _
    · refine ⟨Nat.le_refl _, funext fun other => ?_⟩
      rw [riders, riders, Auth.State.withUsers_users, find?_modify]
      split
      · cases s.auth.users.find? other <;> rfl
      · rfl
  | _ => exact ⟨Nat.le_refl _, rfl⟩

/-! ## The stages of a sign-in -/

def signInCreated (creates : Flow (UserId × Auth.User)) : SignInFlow :=
  creates >>= fun user => issueSessionAfterLogin user.1 user.2 >>= fun session => pure (some session)

/-- What `createOAuthUser` makes of the reply to a creation. -/
def afterCreate (deployment : Auth.Deployment) (provider : Provider) (sub emailNorm : String)
    (name : Option String) (attempts : Nat) :
    Except PrismaError (UserId × Auth.User) → Flow (UserId × Auth.User)
  | .ok user => pure user
  | .error .uniqueViolation => createOAuthUserIn deployment provider sub emailNorm name attempts
  | .error error => .fail (.prisma error)

/-- Where a thread is: about to look up the subject, to ask for the address, to draw a username
with the attempts that are left, or to create the rider with the attempts left after this one;
in the session of a rider; waiting; or refused for the address. -/
inductive SignInStage where
  | looking (emailNorm : String) (name : Option String)
  | checking (emailNorm : String) (name : Option String)
  | drawing (emailNorm : String) (name : Option String) (attempts : Nat)
  | creating (emailNorm : String) (name : Option String) (username : String) (attempts : Nat)
  | session (userId : UserId) (rest : SignInFlow)
  | waiting (rest : SignInFlow)
  | refused (emailNorm : String)

/-- What is left of the program of a thread. -/
def SignInStage.program (deployment : Auth.Deployment) (provider : Provider) (sub : String) :
    SignInStage → SignInFlow
  | .looking emailNorm name =>
    oauthSignIn deployment provider sub emailNorm name >>= fun session => pure (some session)
  | .checking emailNorm name =>
    assertNoOAuthEmailConflict emailNorm provider sub >>= fun _ =>
      signInCreated (createOAuthUser deployment provider sub emailNorm name)
  | .drawing emailNorm name attempts =>
    signInCreated (createOAuthUserIn deployment provider sub emailNorm name attempts)
  | .creating emailNorm name username attempts =>
    signInCreated (call (.userCreate (oauthUser provider sub emailNorm username name)) >>=
      afterCreate deployment provider sub emailNorm name attempts)
  | .session _ rest => rest
  | .waiting rest => rest
  | .refused _ => .fail oauthEmailProviderMismatch

/-- The address of a sign-in that has no rider yet. -/
def SignInStage.email? : SignInStage → Option String
  | .looking emailNorm _ => some emailNorm
  | .checking emailNorm _ => some emailNorm
  | .drawing emailNorm _ _ => some emailNorm
  | .creating emailNorm _ _ _ => some emailNorm
  | .refused emailNorm => some emailNorm
  | _ => none

/-- A flow that returns a session of the rider, when the update of the last visit succeeds. -/
inductive Issues (userId : UserId) : SignInFlow → Prop where
  | done (tokens : Auth.TokenPair) : Issues userId (.done (some (userId, tokens)))
  | update (next : Except PrismaError Unit → SignInFlow) (rest : Issues userId (next (.ok ()))) :
      Issues userId (.call (.auth (.userUpdateLastSeen userId)) next)
  | quiet (request : AccountCall) (next : AccountReply request → SignInFlow) (leaves : request.LeavesRiders)
      (rest : ∀ reply, Issues userId (next reply)) : Issues userId (.call request next)

/-- The rider may sign in. -/
def Active (user : Auth.User) : Prop := user.isBanned = false ∧ user.deletedAt = none

theorem issues_session {user : Auth.User} (active : Active user) (userId : UserId) :
    Issues userId (issueSessionAfterLogin userId user >>= fun session => pure (some session)) := by
  obtain ⟨unbanned, present⟩ := active
  have admitted : assertPasswordlessUserCanLogin userId user = pure () := by
    rw [assertPasswordlessUserCanLogin, unbanned, present]
    rfl
  rw [issueSessionAfterLogin, admitted]
  refine .update _ (.quiet _ _ .dateNow fun now => .quiet _ _ (.emitLogin userId now) fun _ => ?_)
  refine .quiet _ _ .uuidv4 fun jti => .quiet _ _ .jwtSign fun _ => .quiet _ _ .jwtSign fun _ => ?_
  exact .quiet _ _ (.setRefreshToken _ _) fun _ => .done _

inductive SignInMoves (provider : Provider) (sub : String) (s : State) : SignInStage → AccountCall → SignInStage → Prop where
  | found {emailNorm : String} {name : Option String} {userId : UserId} {user : Auth.User}
      (found : s.auth.users.find? userId = some user) (subject : subOf provider user = some sub) :
      SignInMoves provider sub s (.looking emailNorm name) (.userFindUniqueBySub provider sub)
        (.session userId (issueSessionAfterLogin userId user >>= fun session => pure (some session)))
  | unknown {emailNorm : String} {name : Option String} :
      SignInMoves provider sub s (.looking emailNorm name) (.userFindUniqueBySub provider sub)
        (.checking emailNorm name)
  | refuse {emailNorm : String} {name : Option String} {row : Auth.User}
      (found : (answer (.userFindFirstByEmail emailNorm) s).1 = some row)
      (other : subOf provider row ≠ some sub) :
      SignInMoves provider sub s (.checking emailNorm name) (.userFindFirstByEmail emailNorm)
        (.refused emailNorm)
  | pass {emailNorm : String} {name : Option String}
      (own : ∀ row, (answer (.userFindFirstByEmail emailNorm) s).1 = some row → subOf provider row = some sub) :
      SignInMoves provider sub s (.checking emailNorm name) (.userFindFirstByEmail emailNorm)
        (.drawing emailNorm name oauthAttempts)
  | draw {emailNorm : String} {name : Option String} {attempts : Nat} {username : String} :
      SignInMoves provider sub s (.drawing emailNorm name (attempts + 1)) .randomBytes
        (.creating emailNorm name username attempts)
  | create {emailNorm : String} {name : Option String} {username : String} {attempts : Nat}
      (free : (s.auth.users.entries.any fun entry =>
        clashes (oauthUser provider sub emailNorm username name) entry.2) = false) :
      SignInMoves provider sub s (.creating emailNorm name username attempts)
        (.userCreate (oauthUser provider sub emailNorm username name))
        (.session s.auth.fresh (issueSessionAfterLogin s.auth.fresh
          (oauthUser provider sub emailNorm username name).toAuth >>= fun session => pure (some session)))
  | taken {emailNorm : String} {name : Option String} {username : String} {attempts : Nat}
      (clash : (s.auth.users.entries.any fun entry =>
        clashes (oauthUser provider sub emailNorm username name) entry.2) = true) :
      SignInMoves provider sub s (.creating emailNorm name username attempts)
        (.userCreate (oauthUser provider sub emailNorm username name)) (.drawing emailNorm name attempts)
  | issue {userId : UserId} {rest rest' : SignInFlow} {request : AccountCall} (leaves : request.LeavesRiders)
      (issues : Issues userId rest') :
      SignInMoves provider sub s (.session userId rest) request (.session userId rest')
  | wait {rest rest' : SignInFlow} {request : AccountCall} (leaves : request.LeavesRiders)
      (uses : rest'.Uses AccountCall.LeavesRiders) :
      SignInMoves provider sub s (.waiting rest) request (.waiting rest')

/-- What a stage relies on: its rider is there, and is given a session. -/
structure SignInStage.Poised (provider : Provider) (sub : String) (stage : SignInStage) (s : Auth.State) :
    Prop where
  issues : ∀ userId rest, stage = .session userId rest → Issues userId rest ∧ HasSubject provider sub s userId
  waits : ∀ rest, stage = .waiting rest → rest.Uses AccountCall.LeavesRiders

/-- **A thread makes the moves of its stages.** -/
theorem signIn_follows {deployment : Auth.Deployment} (stage : SignInStage) (s : State)
    (poised : stage.Poised provider sub s.auth) :
    Follows answer (SignInStage.program deployment provider sub) (SignInMoves provider sub) stage s := by
  cases stage with
  | looking emailNorm name =>
    cases bySub : s.auth.users.entries.find? fun entry => decide (subOf provider entry.2 = some sub) with
    | none =>
      refine .inr ⟨_, _, .checking emailNorm name, rfl, .unknown, ?_⟩
      simp only [answer, bySub]
      refine (bind_assoc (assertNoOAuthEmailConflict emailNorm provider sub) _ _).trans ?_
      exact congrArg _ (funext fun _ => bind_assoc (createOAuthUser _ _ _ _ _) _ _)
    | some entry =>
      obtain ⟨userId, user⟩ := entry
      have found := (mem_entries_iff _).mp (List.mem_of_find?_eq_some bySub)
      have subject : subOf provider user = some sub := by simpa using List.find?_some bySub
      refine .inr ⟨_, _, .session userId _, rfl, .found found subject, ?_⟩
      simp only [answer, bySub]
      rfl
  | checking emailNorm name =>
    cases found : (answer (.userFindFirstByEmail emailNorm) s).1 with
    | none =>
      refine .inr ⟨_, _, .drawing emailNorm name oauthAttempts, rfl, .pass (fun row some => ?_), ?_⟩
      · rw [found] at some
        cases some
      · rw [found]
        rfl
    | some row =>
      by_cases own : subOf provider row = some sub
      · refine .inr ⟨_, _, .drawing emailNorm name oauthAttempts, rfl, .pass (fun row' some => ?_), ?_⟩
        · rw [found] at some
          cases some
          exact own
        · rw [found]
          simp only [Program.bind, throwIf, ne_eq, own, not_true_eq_false, if_false]
          rfl
      · refine .inr ⟨_, _, .refused emailNorm, rfl, .refuse found own, ?_⟩
        rw [found]
        simp only [Program.bind, throwIf, ne_eq, own, not_false_eq_true, if_true]
        rfl
  | drawing emailNorm name attempts =>
    cases attempts with
    | zero => exact .inl rfl
    | succ attempts => exact .inr ⟨_, _, .creating emailNorm name _ attempts, rfl, .draw, rfl⟩
  | creating emailNorm name username attempts =>
    cases clash : s.auth.users.entries.any fun entry =>
        clashes (oauthUser provider sub emailNorm username name) entry.2 with
    | true =>
      refine .inr ⟨_, _, .drawing emailNorm name attempts, rfl, .taken clash, ?_⟩
      rw [answer_create_of_clash clash]
      rfl
    | false =>
      refine .inr ⟨_, _, .session s.auth.fresh _, rfl, .create clash, ?_⟩
      simp only [answer, clash, Bool.false_eq_true, if_false]
      rfl
  | session userId rest =>
    obtain ⟨issues, user, found, -⟩ := poised.issues userId rest rfl
    cases issues with
    | done tokens => exact .inl rfl
    | update next rest =>
      refine .inr ⟨_, _, .session userId (next (.ok ())), rfl, .issue (.userUpdateLastSeen userId) rest, ?_⟩
      simp only [answer, Auth.answer, found]
      rfl
    | quiet request next leaves rest =>
      exact .inr ⟨_, _, .session userId _, rfl, .issue leaves (rest _), rfl⟩
  | waiting rest =>
    have uses := poised.waits rest rfl
    cases rest with
    | done | fail => exact .inl rfl
    | call request next => exact .inr ⟨_, _, .waiting _, rfl, .wait uses.1 (uses.2 _), rfl⟩
  | refused emailNorm => exact .inl rfl

/-! ## What a call does to the riders -/

section Riders

variable {emails : Index → Option String} {s : State} {t : Auth.State} {emailNorm username : String}
  {name : Option String} {stage stage' : SignInStage} {request : AccountCall}

theorem SignInMoves.effect (moves : SignInMoves provider sub s stage request stage') :
    SameRiders s.auth (answer request s).2.auth ∨
      ∃ emailNorm name username attempts, stage = .creating emailNorm name username attempts ∧
        request = .userCreate (oauthUser provider sub emailNorm username name) ∧
        (s.auth.users.entries.any fun entry =>
          clashes (oauthUser provider sub emailNorm username name) entry.2) = false := by
  cases moves with
  | found | unknown | refuse | pass => exact .inl (.refl _)
  | draw => exact .inl ⟨Nat.le_succ _, rfl⟩
  | create free => exact .inr ⟨_, _, _, _, rfl, rfl, free⟩
  | taken clash =>
    rw [answer_create_of_clash clash]
    exact .inl (.refl _)
  | issue leaves | wait leaves => exact .inl (sameRiders_answer leaves s)

/-- Of the riders only the one with the subject has an address of the sign-ins; there is one at
most, and it is active. -/
structure RidersSound (provider : Provider) (sub : String) (emails : Index → Option String) (s : Auth.State) :
    Prop where
  drawn : ∀ userId, riders s userId ≠ none → userId < s.fresh
  owned : ∀ userId rider index, riders s userId = some rider → emails index = some rider.email →
    subOf provider rider = some sub
  single : ∀ userId other, HasSubject provider sub s userId → HasSubject provider sub s other → other = userId
  active : ∀ userId rider, riders s userId = some rider → subOf provider rider = some sub → Active rider

theorem RidersSound.same (sound : RidersSound provider sub emails s.auth) (same : SameRiders s.auth t) :
    RidersSound provider sub emails t where
  drawn := by
    intro userId here
    rw [same.riders] at here
    exact (sound.drawn userId here).trans_le same.fresh
  owned := by
    rw [same.riders]
    exact sound.owned
  single := by
    intro userId other
    rw [same.hasSubject_iff, same.hasSubject_iff]
    exact sound.single userId other
  active := by
    rw [same.riders]
    exact sound.active

theorem RidersSound.free (sound : RidersSound provider sub emails s.auth) :
    riders s.auth s.auth.fresh = none := by
  by_contra here
  exact lt_irrefl _ (sound.drawn s.auth.fresh here)

theorem subOf_oauthUser (named : sub ≠ "") (emailNorm username : String) (name : Option String) :
    subOf provider (oauthUser provider sub emailNorm username name).toAuth = some sub := by
  cases provider <;> simp [subOf, oauthUser, NewUser.toAuth, named]

/-- **A creation is refused when somebody has the subject, or the username.** -/
theorem RidersSound.clashes_iff (sound : RidersSound provider sub emails s.auth) (named : sub ≠ "")
    {index : Index} (mine : emails index = some emailNorm) :
    (s.auth.users.entries.any fun entry => clashes (oauthUser provider sub emailNorm username name) entry.2) = true ↔
      (∃ userId, HasSubject provider sub s.auth userId) ∨
        ∃ userId user, s.auth.users.find? userId = some user ∧ user.username = username := by
  by_cases present : ∃ userId, HasSubject provider sub s.auth userId
  · refine iff_of_true ?_ (.inl present)
    obtain ⟨userId, user, found, subject⟩ := present
    refine List.any_eq_true.mpr ⟨(userId, user), (mem_entries_iff _).mpr found, ?_⟩
    cases provider with
    | apple | google =>
      rw [subOf] at subject
      simp [clashes, oauthUser, named, subject]
  · rw [or_iff_right present]
    have unknown : Unknown s provider sub emailNorm := by
      intro userId user found
      have stranger : subOf provider user ≠ some sub := fun subject => present ⟨userId, user, found, subject⟩
      refine ⟨stranger, ?_⟩
      rintro rfl
      have owned := sound.owned userId _ index (riders_of_find? found) mine
      rw [subOf_unseen] at owned
      exact stranger owned
    have admits := clashes_oauthUser unknown name username
    rw [← Bool.not_eq_false, ← not_iff_not, admits]
    push Not
    rfl

theorem NewRider.hasSubject_iff (new : NewRider s.auth t (oauthUser provider sub emailNorm username name))
    (named : sub ≠ "") (unheard : ∀ userId, ¬ HasSubject provider sub s.auth userId) {userId : UserId} :
    HasSubject provider sub t userId ↔ userId = s.auth.fresh := by
  rw [Account.hasSubject_iff, new.riders]
  by_cases same : userId = s.auth.fresh
  · subst same
    rw [update_self]
    exact iff_of_true ⟨_, rfl, subOf_oauthUser named _ _ _⟩ rfl
  · rw [update_of_ne same, ← Account.hasSubject_iff]
    exact iff_of_false (unheard userId) same

theorem RidersSound.create (sound : RidersSound provider sub emails s.auth) (named : sub ≠ "")
    (unheard : ∀ userId, ¬ HasSubject provider sub s.auth userId)
    (new : NewRider s.auth t (oauthUser provider sub emailNorm username name)) :
    RidersSound provider sub emails t where
  drawn := by
    intro userId here
    rw [new.fresh]
    rw [new.riders] at here
    by_cases same : userId = s.auth.fresh
    · rw [same]
      exact Nat.lt_succ_self _
    · rw [update_of_ne same] at here
      exact (sound.drawn userId here).trans (Nat.lt_succ_self _)
  owned := by
    intro userId rider index here mine
    rw [new.riders] at here
    by_cases same : userId = s.auth.fresh
    · rw [same, update_self] at here
      cases here
      exact subOf_oauthUser named _ _ _
    · rw [update_of_ne same] at here
      exact sound.owned userId rider index here mine
  single := by
    intro userId other
    rw [new.hasSubject_iff named unheard, new.hasSubject_iff named unheard]
    rintro rfl rfl
    rfl
  active := by
    intro userId rider here subject
    rw [new.riders] at here
    by_cases same : userId = s.auth.fresh
    · rw [same, update_self] at here
      cases here
      exact ⟨rfl, rfl⟩
    · rw [update_of_ne same] at here
      exact sound.active userId rider here subject

end Riders

/-! ## The invariants -/

section Invariants

variable {emails : Index → Option String} {stages : Index → SignInStage}

/-- The riders are as above, and every thread is where its call can be. -/
structure Tidy (provider : Provider) (sub : String) (emails : Index → Option String)
    (stages : Index → SignInStage) (s : State) : Prop extends RidersSound provider sub emails s.auth where
  poised : ∀ index, (stages index).Poised provider sub s.auth
  placed : ∀ index emailNorm, (stages index).email? = some emailNorm → emails index = some emailNorm
  waits : ∀ index rest, stages index = .waiting rest → emails index = none

/-- The sign-in has no rider, and will have none. -/
def SignInStage.Doomed (provider : Provider) (sub : String) (s : Auth.State) : SignInStage → Prop
  | .drawing _ _ attempts => attempts = 0 ∨ ∃ userId, HasSubject provider sub s userId
  | .creating _ _ _ _ => ∃ userId, HasSubject provider sub s userId
  | .refused _ => True
  | _ => False

/-- No sign-in has failed. -/
def Unfailed (stages : Index → SignInStage) : Prop :=
  ∀ index, (∀ emailNorm, stages index ≠ .refused emailNorm) ∧
    ∀ emailNorm name, stages index ≠ .drawing emailNorm name 0

variable {s : State} {index : Index} {request : AccountCall} {stage' : SignInStage}

theorem SignInMoves.keeps {stage : SignInStage} (moves : SignInMoves provider sub s stage request stage')
    (sound : RidersSound provider sub emails s.auth) {userId : UserId}
    (has : HasSubject provider sub s.auth userId) : HasSubject provider sub (answer request s).2.auth userId := by
  obtain same | ⟨emailNorm, name, username, attempts, -, rfl, free⟩ := moves.effect
  · exact same.hasSubject_iff.mpr has
  · rw [hasSubject_iff] at has ⊢
    obtain ⟨rider, here, subject⟩ := has
    refine ⟨rider, ?_, subject⟩
    rw [(newRider_create sound.free free).riders, update_of_ne]
    · exact here
    · rintro rfl
      rw [sound.free] at here
      cases here

theorem SignInMoves.poised {stage : SignInStage} (moves : SignInMoves provider sub s stage request stage')
    (sound : RidersSound provider sub emails s.auth) (named : sub ≠ "")
    (poised : stage.Poised provider sub s.auth) : stage'.Poised provider sub (answer request s).2.auth := by
  cases moves with
  | unknown | refuse | pass | draw | taken => exact ⟨by rintro _ _ ⟨⟩, by rintro _ ⟨⟩⟩
  | @found _ _ userId user found subject =>
    refine ⟨?_, by rintro _ ⟨⟩⟩
    rintro _ _ ⟨⟩
    have active := sound.active userId _ (riders_of_find? found) ((subOf_unseen provider user).trans subject)
    exact ⟨issues_session active userId, user, found, subject⟩
  | @create emailNorm name username _ free =>
    refine ⟨?_, by rintro _ ⟨⟩⟩
    rintro _ _ ⟨⟩
    refine ⟨issues_session ⟨rfl, rfl⟩ s.auth.fresh, hasSubject_iff.mpr ⟨_, ?_,
      subOf_oauthUser named emailNorm username name⟩⟩
    rw [(newRider_create sound.free free).riders, update_self]
  | issue leaves issues =>
    refine ⟨?_, by rintro _ ⟨⟩⟩
    rintro _ _ ⟨⟩
    exact ⟨issues, (sameRiders_answer leaves s).hasSubject_iff.mpr (poised.issues _ _ rfl).2⟩
  | wait leaves uses =>
    refine ⟨by rintro _ _ ⟨⟩, ?_⟩
    rintro _ ⟨⟩
    exact uses

theorem SignInMoves.placed {stage : SignInStage} (moves : SignInMoves provider sub s stage request stage')
    {emailNorm : String} (here : stage'.email? = some emailNorm) : stage.email? = some emailNorm := by
  cases moves with
  | unknown | refuse | pass | draw | taken => exact here
  | found | create | issue | wait => cases here

theorem SignInMoves.waited {stage : SignInStage} {rest : SignInFlow}
    (moves : SignInMoves provider sub s stage request (.waiting rest)) : ∃ rest', stage = .waiting rest' := by
  cases moves with
  | wait => exact ⟨_, rfl⟩

theorem Tidy.sound_advance (tidy : Tidy provider sub emails stages s) (named : sub ≠ "")
    (moves : SignInMoves provider sub s (stages index) request stage') :
    RidersSound provider sub emails (answer request s).2.auth := by
  obtain same | ⟨emailNorm, name, username, attempts, here, rfl, free⟩ := moves.effect
  · exact tidy.toRidersSound.same same
  · have mine := tidy.placed index emailNorm (by rw [here]; rfl)
    have unheard : ∀ userId, ¬ HasSubject provider sub s.auth userId := fun userId has =>
      Bool.false_ne_true (free.symm.trans ((tidy.clashes_iff named mine).mpr (.inl ⟨userId, has⟩)))
    exact tidy.toRidersSound.create named unheard (newRider_create tidy.free free)

variable [DecidableEq Index]

theorem Tidy.advance (tidy : Tidy provider sub emails stages s) (named : sub ≠ "")
    (moves : SignInMoves provider sub s (stages index) request stage') :
    Tidy provider sub emails (update stages index stage') (answer request s).2 where
  toRidersSound := tidy.sound_advance named moves
  poised := by
    intro other
    by_cases same : other = index
    · subst same
      rw [update_self]
      exact moves.poised tidy.toRidersSound named (tidy.poised other)
    · rw [update_of_ne same]
      refine ⟨fun userId rest here => ?_, (tidy.poised other).waits⟩
      obtain ⟨issues, has⟩ := (tidy.poised other).issues userId rest here
      exact ⟨issues, moves.keeps tidy.toRidersSound has⟩
  placed := by
    intro other emailNorm here
    by_cases same : other = index
    · subst same
      rw [update_self] at here
      exact tidy.placed other emailNorm (moves.placed here)
    · rw [update_of_ne same] at here
      exact tidy.placed other emailNorm here
  waits := by
    intro other rest here
    obtain ⟨rfl, here'⟩ | ⟨-, here'⟩ := eq_of_update here
    · subst here'
      obtain ⟨rest', before⟩ := moves.waited
      exact tidy.waits other rest' before
    · exact tidy.waits other rest here'

theorem doomed_advance (tidy : Tidy provider sub emails stages s) (named : sub ≠ "")
    (moves : SignInMoves provider sub s (stages index) request stage')
    (doomed : ∃ index, (stages index).Doomed provider sub s.auth) :
    ∃ other, (update stages index stage' other).Doomed provider sub (answer request s).2.auth := by
  obtain ⟨other, doomed⟩ := doomed
  have stays : ∀ {userId}, HasSubject provider sub s.auth userId →
      HasSubject provider sub (answer request s).2.auth userId := moves.keeps tidy.toRidersSound
  refine ⟨other, ?_⟩
  by_cases same : other = index
  · subst same
    rw [update_self]
    have placed := tidy.placed other
    generalize stages other = stage at moves doomed placed
    cases moves with
    | found | unknown | refuse | pass | issue | wait => exact absurd doomed id
    | draw =>
      obtain none | present := doomed
      · cases none
      · exact present.imp fun _ => stays
    | create free =>
      exact absurd (free.symm.trans ((tidy.clashes_iff named (placed _ rfl)).mpr (.inl doomed)))
        Bool.false_ne_true
    | taken => exact .inr (doomed.imp fun _ => stays)
  · rw [update_of_ne same]
    cases here : stages other with
    | drawing =>
      rw [here] at doomed
      exact doomed.imp_right fun present => present.imp fun _ => stays
    | creating =>
      rw [here] at doomed
      exact Exists.imp (fun _ => stays) doomed
    | refused => trivial
    | looking | checking | session | waiting =>
      rw [here] at doomed
      exact absurd doomed id

end Invariants

/-! ## The condition -/

section Condition

variable {emails : Index → Option String} {stages : Index → SignInStage} {pool : SignInPool Index}
  {index : Index} {request : AccountCall} {stage' : SignInStage} {deployment : Auth.Deployment}
  {emailNorm username : String} {name : Option String} {attempts : Nat}

theorem createsAlone_of_quiet (quiet : pool.next? index = none) : CreatesAlone provider sub pool index := by
  unfold CreatesAlone
  unfold Pool.next? at quiet
  cases shape : pool.threads index with
  | done | fail => trivial
  | call request next =>
    rw [shape] at quiet
    cases quiet

theorem createsAlone_of_leaves (asked : pool.next? index = some request) (leaves : request.LeavesRiders) :
    CreatesAlone provider sub pool index := by
  unfold CreatesAlone
  unfold Pool.next? at asked
  cases shape : pool.threads index with
  | done | fail => trivial
  | call request' next =>
    rw [shape] at asked
    cases asked
    cases leaves <;> trivial

theorem createsAlone_checking_iff
    (here : pool.threads index = (SignInStage.checking emailNorm name).program deployment provider sub) :
    CreatesAlone provider sub pool index ↔
      ∀ row, (answer (.userFindFirstByEmail emailNorm) pool.store).1 = some row → subOf provider row = some sub := by
  unfold CreatesAlone
  rw [here]
  exact Iff.rfl

theorem createsAlone_creating_iff
    (here : pool.threads index =
      (SignInStage.creating emailNorm name username attempts).program deployment provider sub) :
    CreatesAlone provider sub pool index ↔
      (∀ userId, ¬ HasSubject provider sub pool.store.auth userId) ∧
        (attempts = 0 → ∀ userId user, pool.store.auth.users.find? userId = some user →
          user.username ≠ username) := by
  have last : (∃ error, signInCreated (createOAuthUserIn deployment provider sub emailNorm name attempts) =
      .fail error) ↔ attempts = 0 := by
    cases attempts with
    | zero => exact iff_of_true ⟨_, rfl⟩ rfl
    | succ attempts => exact iff_of_false (by rintro ⟨_, ⟨⟩⟩) (Nat.succ_ne_zero attempts)
  rw [← last]
  unfold CreatesAlone
  rw [here]
  exact Iff.rfl

variable [DecidableEq Index]

/-- **A move within the condition fails no sign-in.** -/
theorem unfailed_advance (tidy : Tidy provider sub emails stages pool.store) (named : sub ≠ "")
    (staged : pool.InStages (fun _ => SignInStage.program deployment provider sub) stages)
    (unfailed : Unfailed stages) (alone : CreatesAlone provider sub pool index)
    (moves : SignInMoves provider sub pool.store (stages index) request stage') :
    Unfailed (update stages index stage') := by
  intro other
  by_cases same : other = index
  · subst same
    rw [update_self]
    have here := staged other
    have placed := tidy.placed other
    generalize stages other = stage at moves here placed
    cases moves with
    | found | unknown | draw | create | issue | wait =>
      exact ⟨by rintro _ ⟨⟩, by rintro _ _ ⟨⟩⟩
    | refuse found foreign => exact absurd ((createsAlone_checking_iff here).mp alone _ found) foreign
    | pass => exact ⟨by rintro _ ⟨⟩, by rintro _ _ ⟨⟩⟩
    | taken clash =>
      refine ⟨by rintro _ ⟨⟩, ?_⟩
      rintro _ _ ⟨⟩
      obtain ⟨unheard, free⟩ := (createsAlone_creating_iff here).mp alone
      obtain ⟨userId, has⟩ | ⟨userId, user, found, same⟩ := (tidy.clashes_iff named (placed _ rfl)).mp clash
      · exact unheard userId has
      · exact free rfl userId user found same
  · rw [update_of_ne same]
    exact unfailed other

/-- **A move outside the condition dooms its sign-in.** -/
theorem doomed_of_not_alone (tidy : Tidy provider sub emails stages pool.store) (named : sub ≠ "")
    (staged : pool.InStages (fun _ => SignInStage.program deployment provider sub) stages)
    (crowded : ¬ CreatesAlone provider sub pool index) (asked : pool.next? index = some request)
    (moves : SignInMoves provider sub pool.store (stages index) request stage') :
    (update stages index stage' index).Doomed provider sub (answer request pool.store).2.auth := by
  rw [update_self]
  have keeps : ∀ {userId}, HasSubject provider sub pool.store.auth userId →
      HasSubject provider sub (answer request pool.store).2.auth userId := moves.keeps tidy.toRidersSound
  have here := staged index
  have placed := tidy.placed index
  generalize stages index = stage at moves here placed
  cases moves with
  | found | unknown | draw =>
    refine absurd ?_ crowded
    unfold CreatesAlone
    rw [here]
    trivial
  | refuse => trivial
  | pass own => exact absurd ((createsAlone_checking_iff here).mpr own) crowded
  | create free =>
    refine absurd ((createsAlone_creating_iff here).mpr ?_) crowded
    have apart := (tidy.clashes_iff named (placed _ rfl)).not.mp (ne_true_of_eq_false free)
    push Not at apart
    exact ⟨apart.1, fun _ => apart.2⟩
  | @taken _ _ _ attempts clash =>
    by_cases present : ∃ userId, HasSubject provider sub pool.store.auth userId
    · exact .inr (present.imp fun _ => keeps)
    · left
      by_contra more
      refine crowded ((createsAlone_creating_iff here).mpr ⟨not_exists.mp present, fun last => ?_⟩)
      exact absurd last more
  | issue leaves | wait leaves => exact absurd (createsAlone_of_leaves asked leaves) crowded

end Condition

/-! ## Ended sign-ins -/

section Ended

variable {emails : Index → Option String} {stages : Index → SignInStage} {s : State} {index : Index}
  {deployment : Auth.Deployment}

theorem Tidy.returned (tidy : Tidy provider sub emails stages s) (unfailed : Unfailed stages)
    (mine : emails index ≠ none) (ended : ((stages index).program deployment provider sub).Ended) :
    ∃ userId tokens, HasSubject provider sub s.auth userId ∧
      (stages index).program deployment provider sub = .done (some (userId, tokens)) := by
  obtain ⟨unrefused, undrawn⟩ := unfailed index
  have poised := tidy.poised index
  have waits := tidy.waits index
  generalize stages index = stage at ended unrefused undrawn poised waits
  cases stage with
  | looking | checking | creating => cases ended
  | refused emailNorm => exact absurd rfl (unrefused emailNorm)
  | waiting rest => exact absurd (waits rest rfl) mine
  | drawing emailNorm name attempts =>
    cases attempts with
    | zero => exact absurd rfl (undrawn emailNorm name)
    | succ attempts => cases ended
  | session userId rest =>
    obtain ⟨issues, has⟩ := poised.issues userId rest rfl
    cases issues with
    | done tokens => exact ⟨userId, tokens, has, rfl⟩
    | update | quiet => cases ended

theorem SignInStage.Doomed.fails {stage : SignInStage} (doomed : stage.Doomed provider sub s.auth) :
    (∃ emailNorm, stage.email? = some emailNorm) ∧
      ∀ result, stage.program deployment provider sub ≠ .done result := by
  cases stage with
  | drawing emailNorm name attempts =>
    refine ⟨⟨emailNorm, rfl⟩, fun result => ?_⟩
    cases attempts <;> rintro ⟨⟩
  | creating emailNorm | refused emailNorm => exact ⟨⟨emailNorm, rfl⟩, by rintro _ ⟨⟩⟩
  | looking | checking | session | waiting => exact absurd doomed id

end Ended

/-! ## Interleavings -/

section Interleavings

variable {calls : Index → SignInCall sub provider} {s : State}

/-- Where a call starts. -/
def SignInCall.stage (installation : Deployment) (deployment : Auth.Deployment) :
    SignInCall sub provider → SignInStage
  | .signIn request => .looking (request.emailNorm installation deployment) request.name
  | .elapse milliseconds => .waiting (call (.auth (.elapse milliseconds)) >>= fun _ => pure none)

theorem staged_signInPool (calls : Index → SignInCall sub provider) (s : State)
    (configured : Configured s.deployment provider) :
    (signInPool calls s).InStages (fun _ => SignInStage.program s.auth.deployment provider sub)
      fun index => (calls index).stage s.deployment s.auth.deployment := by
  intro index
  have starts : ∀ request : SignInCall sub provider, request.flow s.deployment s.auth.deployment =
      (request.stage s.deployment s.auth.deployment).program s.auth.deployment provider sub := by
    intro request
    cases request with
    | signIn request =>
      rw [SignInCall.flow, request.flow_eq configured]
      rfl
    | elapse milliseconds => rfl
  exact starts (calls index)

/-- Before the first step nobody has the subject or an address of the sign-ins. -/
theorem tidy_signInPool (calls : Index → SignInCall sub provider) (drawn : IdsDrawn s.auth)
    (unheard : ∀ userId, ¬ HasSubject provider sub s.auth userId)
    (unowned : ∀ userId user index request, s.auth.users.find? userId = some user →
      calls index = .signIn request → user.email ≠ request.emailNorm s.deployment s.auth.deployment) :
    Tidy provider sub (fun index => (calls index).email? s.deployment s.auth.deployment)
      (fun index => (calls index).stage s.deployment s.auth.deployment) s where
  drawn := by
    intro userId here
    refine drawn userId fun none => here ?_
    exact Option.map_eq_none_iff.mpr (Option.map_eq_none_iff.mp none)
  owned := by
    intro userId rider index here mine
    obtain ⟨user, found, rfl⟩ := riders_eq_some.mp here
    cases called : calls index with
    | signIn request =>
      rw [called] at mine
      exact absurd (Option.some.inj mine).symm (unowned userId user index request found called)
    | elapse milliseconds =>
      rw [called] at mine
      cases mine
  single := fun userId _ has => absurd has (unheard userId)
  active := fun userId rider here subject =>
    absurd (hasSubject_iff.mpr ⟨rider, here, subject⟩) (unheard userId)
  poised := by
    intro index
    cases calls index with
    | signIn request => exact ⟨by rintro _ _ ⟨⟩, by rintro _ ⟨⟩⟩
    | elapse milliseconds =>
      refine ⟨by rintro _ _ ⟨⟩, ?_⟩
      rintro _ ⟨⟩
      exact ⟨.elapse milliseconds, fun _ => trivial⟩
  placed := by
    intro index emailNorm here
    cases called : calls index with
    | signIn request =>
      rw [called] at here
      exact here
    | elapse milliseconds =>
      rw [called] at here
      cases here
  waits := by
    intro index rest here
    cases called : calls index with
    | signIn request =>
      rw [called] at here
      cases here
    | elapse milliseconds => rfl

theorem unfailed_signInPool (calls : Index → SignInCall sub provider) (s : State) :
    Unfailed fun index => (calls index).stage s.deployment s.auth.deployment := by
  intro index
  have starts : ∀ request : SignInCall sub provider,
      (∀ emailNorm, request.stage s.deployment s.auth.deployment ≠ .refused emailNorm) ∧
        ∀ emailNorm name, request.stage s.deployment s.auth.deployment ≠ .drawing emailNorm name 0 := by
    intro request
    cases request with
    | signIn | elapse => exact ⟨by rintro _ ⟨⟩, by rintro _ _ ⟨⟩⟩
  exact starts (calls index)

theorem SignInCall.email?_ne_none {installation : Deployment} {deployment : Auth.Deployment}
    (request : SignInCall sub provider) :
    request.email? installation deployment ≠ none ↔ ∃ request', request = .signIn request' := by
  cases request with
  | signIn request => exact iff_of_true (by rintro ⟨⟩) ⟨request, rfl⟩
  | elapse milliseconds => exact iff_of_false (fun some => some rfl) (by rintro ⟨_, ⟨⟩⟩)

/-- No token has an empty subject. -/
theorem SignIn.sub_ne (request : SignIn sub provider) : sub ≠ "" := by
  cases request with
  | apple claims same | google claims same => exact same ▸ claims.sub_ne

/-- **When all sign-ins have ended and none has failed, they have one rider.** -/
theorem Tidy.oneRider {pool : SignInPool Index} {stages : Index → SignInStage} {deployment : Auth.Deployment}
    (tidy : Tidy provider sub (fun index => (calls index).email? s.deployment s.auth.deployment) stages pool.store)
    (staged : pool.InStages (fun _ => SignInStage.program deployment provider sub) stages)
    (unfailed : Unfailed stages) (signsIn : ∃ index request, calls index = .signIn request)
    (ended : ∀ index, (pool.threads index).Ended) : OneRider calls pool := by
  have returned : ∀ index request, calls index = .signIn request → ∃ userId tokens,
      HasSubject provider sub pool.store.auth userId ∧ pool.threads index = .done (some (userId, tokens)) := by
    intro index request called
    have stopped := ended index
    rw [staged index] at stopped ⊢
    exact tidy.returned unfailed ((calls index).email?_ne_none.mpr ⟨request, called⟩) stopped
  obtain ⟨index, request, called⟩ := signsIn
  obtain ⟨userId, -, has, -⟩ := returned index request called
  refine ⟨userId, fun other => ⟨tidy.single userId other has, ?_⟩, fun index request called => ?_⟩
  · rintro rfl
    exact has
  · obtain ⟨other, tokens, has', ran⟩ := returned index request called
    obtain rfl := tidy.single userId other has has'
    exact ⟨tokens, ran⟩

variable [DecidableEq Index]

/-- **When the sign-ins have ended, one rider has the subject, whose id all of them have
returned, exactly when each has created alone.** -/
theorem one_rider_iff (calls : Index → SignInCall sub provider) (s : State)
    (configured : Configured s.deployment provider) (drawn : IdsDrawn s.auth)
    (unheard : ∀ userId, ¬ HasSubject provider sub s.auth userId)
    (unowned : ∀ userId user index request, s.auth.users.find? userId = some user →
      calls index = .signIn request → user.email ≠ request.emailNorm s.deployment s.auth.deployment)
    (signsIn : ∃ index request, calls index = .signIn request) (schedule : List Index)
    (ended : ∀ index, ((follow (Pool.advance answer) (signInPool calls s) schedule).threads index).Ended) :
    OneRider calls (follow (Pool.advance answer) (signInPool calls s) schedule) ↔
      EachStep (Pool.advance answer) (CreatesAlone provider sub) (signInPool calls s) schedule := by
  let emails (index : Index) := (calls index).email? s.deployment s.auth.deployment
  have addressed : ∀ index, emails index ≠ none ↔ ∃ request, calls index = .signIn request :=
    fun index => (calls index).email?_ne_none
  have named : sub ≠ "" := signsIn.choose_spec.choose.sub_ne
  have staged := staged_signInPool calls s configured
  have tidy : Tidy provider sub emails _ s := tidy_signInPool calls drawn unheard unowned
  have unfailed : Unfailed fun index => (calls index).stage s.deployment s.auth.deployment :=
    unfailed_signInPool calls s
  let sound (stages : Index → SignInStage) (t : State) := Tidy provider sub emails stages t ∧ Unfailed stages
  let spoiled (stages : Index → SignInStage) (t : State) :=
    Tidy provider sub emails stages t ∧ ∃ index, (stages index).Doomed provider sub t.auth
  have keeps : ∀ (pool : SignInPool Index) stages index request stage',
      pool.InStages (fun _ => SignInStage.program s.auth.deployment provider sub) stages →
        sound stages pool.store → CreatesAlone provider sub pool index → pool.next? index = some request →
          SignInMoves provider sub pool.store (stages index) request stage' →
            sound (update stages index stage') (answer request pool.store).2 :=
    fun pool stages index request stage' staged held alone _ moves =>
      ⟨held.1.advance named moves, unfailed_advance held.1 named staged held.2 alone moves⟩
  constructor
  · intro one
    refine Pool.eachStep_of_stages (fun _ => SignInMoves provider sub) sound spoiled
      (CreatesAlone provider sub) (fun stages t index held => ?_) (fun pool index => createsAlone_of_quiet)
      keeps (fun pool stages index request stage' staged held crowded asked moves => ?_)
      (fun stages t index request stage' held moves => ?_) staged ⟨tidy, unfailed⟩ ?_
    · exact signIn_follows (stages index) t ((held.elim And.left And.left).poised index)
    · exact ⟨held.1.advance named moves, index, doomed_of_not_alone held.1 named staged crowded asked moves⟩
    · exact ⟨held.1.advance named moves, doomed_advance held.1 named moves held.2⟩
    · rintro ⟨stages, staged, tidy, index, doomed⟩
      obtain ⟨userId, -, returns⟩ := one
      obtain ⟨⟨emailNorm, placed⟩, fails⟩ := doomed.fails
      have some : emails index ≠ none := by
        rw [tidy.placed index emailNorm placed]
        rintro ⟨⟩
      obtain ⟨request, called⟩ := (addressed index).mp some
      obtain ⟨tokens, returned⟩ := returns index request called
      exact fails _ ((staged index).symm.trans returned)
  · intro steps
    have through := Pool.throughout_of_stages (fun _ => SignInMoves provider sub) sound
      (CreatesAlone provider sub) (fun stages t index held => signIn_follows (stages index) t (held.1.poised index))
      keeps staged ⟨tidy, unfailed⟩ steps
    obtain ⟨stages, staged, tidy, unfailed⟩ := through.last
    exact tidy.oneRider staged unfailed signsIn ended

end Interleavings

/-! ## A small installation -/

/-- Two sign-ins with one token. -/
def signedInTwice (_ : Bool) : SignInCall "subject" .google :=
  .signIn (.google ⟨"subject", by decide, some "a@example.com", none⟩ rfl "a@example.com" rfl (by decide))

theorem nobody_small (userId : UserId) : ¬ HasSubject .google "subject" emptyInstallation.auth userId := by
  rintro ⟨_, ⟨⟩, -⟩

/-- One after the other. -/
def signedInInTurn : List Bool := List.replicate 11 false ++ List.replicate 8 true

/-- The second looks the subject up before the first has created the rider. -/
def signedInTogether : List Bool :=
  List.replicate 2 false ++ List.replicate 2 true ++ List.replicate 9 false ++ List.replicate 16 true

theorem one_rider_small :
    OneRider signedInTwice (follow (Pool.advance answer) (signInPool signedInTwice emptyInstallation)
        signedInInTurn) ↔
      EachStep (Pool.advance answer) (CreatesAlone .google "subject")
        (signInPool signedInTwice emptyInstallation) signedInInTurn := by
  have ended : ∀ index, ((follow (Pool.advance answer) (signInPool signedInTwice emptyInstallation)
      signedInInTurn).threads index).Ended := by
    decide +kernel
  exact one_rider_iff signedInTwice emptyInstallation (by rintro ⟨⟩) (fun _ here => absurd rfl here) nobody_small
    (by rintro _ _ _ _ ⟨⟩) ⟨true, _, rfl⟩ signedInInTurn ended

/-- The second sign-in fails. -/
theorem second_sign_in_fails :
    ¬ OneRider signedInTwice (follow (Pool.advance answer) (signInPool signedInTwice emptyInstallation)
      signedInTogether) := by
  rintro ⟨userId, -, returns⟩
  obtain ⟨tokens, returned⟩ := returns true _ rfl
  have failed : ((follow (Pool.advance answer) (signInPool signedInTwice emptyInstallation)
      signedInTogether).threads true).failure? = some oauthUsernameExhausted := by
    decide +kernel
  rw [returned] at failed
  cases failed

end Motogram.Account
