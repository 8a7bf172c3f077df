import Motogram.Account.FirstSignIn
import Motogram.Account.UsernameText
import Motogram.Account.Wildcards

/-!
# Reserved usernames

A username is written by registration, by the first sign-in with a provider and by a rename.
What they write is proper in every case, and the unique index keeps it apart from the others;
but only the rename asks whether the name is reserved. Registration writes a reserved name for
whoever asks for it, and a sign-in makes one of an address that begins with `motogram`.

In every state of a run the usernames are good exactly when no registration asks for a reserved
name that it is given, and no sign-in makes a rider of such an address (`names_good_iff`).
-/

set_option autoImplicit false

namespace Motogram.Account

open Foundation Program Function Table State

/-! ## The names of all riders -/

def nameBook (s : State) (userId : UserId) : Option String :=
  (s.auth.users.find? userId).map Auth.User.username

/-- The usernames are their own normal forms, accepted by the schema and not reserved, and no two
riders have the same one ignoring case. -/
def NamesGood (s : State) : Prop :=
  (∀ userId user, s.auth.users.find? userId = some user →
    Auth.normalize s.auth.deployment user.username = user.username ∧ usernameSchema user.username = true ∧
      isReservedUsername s.auth.deployment user.username = false) ∧
    ∀ first second user user', s.auth.users.find? first = some user →
      s.auth.users.find? second = some user' →
        s.auth.deployment.equalsInsensitive user.username user'.username = true → first = second

/-- The usernames are proper, not reserved and apart, and the ids that are drawn next are free. -/
structure NamesSound (s : State) : Prop where
  proper : ∀ userId username, nameBook s userId = some username → Proper s.auth.deployment username
  allowed : ∀ userId username, nameBook s userId = some username →
    isReservedUsername s.auth.deployment username = false
  apart : ∀ first second username, nameBook s first = some username → nameBook s second = some username →
    first = second
  drawn : ∀ userId, nameBook s userId ≠ none → userId < s.auth.fresh

variable {s : State} {userId : UserId} {user : Auth.User}

theorem nameBook_eq_some {username : String} :
    nameBook s userId = some username ↔
      ∃ user, s.auth.users.find? userId = some user ∧ user.username = username :=
  Option.map_eq_some_iff

theorem nameBook_of_find? (found : s.auth.users.find? userId = some user) :
    nameBook s userId = some user.username :=
  nameBook_eq_some.mpr ⟨user, found, rfl⟩

theorem NamesSound.good (sound : NamesSound s) (lowerCases : LowerCases s.auth.deployment) : NamesGood s := by
  refine ⟨fun userId user found => ?_, fun first second user user' found found' same => ?_⟩
  · have proper := sound.proper userId _ (nameBook_of_find? found)
    exact ⟨proper.normal, proper.schema, sound.allowed userId _ (nameBook_of_find? found)⟩
  · have equal := Proper.eq_of_insensitive lowerCases (sound.proper first _ (nameBook_of_find? found))
      (sound.proper second _ (nameBook_of_find? found')) same
    refine sound.apart first second user.username (nameBook_of_find? found) ?_
    rw [equal]
    exact nameBook_of_find? found'

/-! ## What is kept -/

abbrev SameNames : State → State → Prop := SameThrough Auth.User.username

theorem SameThrough.nameBook {t : State} (same : SameNames s t) : nameBook t = nameBook s := same.book

theorem unmarked_username : Unmarked Auth.User.username := ⟨fun _ _ => rfl, fun _ _ => rfl⟩

theorem NamesSound.same {t : State} (sound : NamesSound s) (same : SameNames s t) : NamesSound t := by
  constructor
  · rw [same.nameBook, same.deployment]
    exact sound.proper
  · rw [same.nameBook, same.deployment]
    exact sound.allowed
  · rw [same.nameBook]
    exact sound.apart
  · rw [same.nameBook]
    exact fun userId here => (sound.drawn userId here).trans_le same.fresh

/-! ## Writing a name -/

/-- The username of one rider has been written, and was nobody else's. -/
structure WritesName (s t : State) (userId : UserId) (username : String) : Prop where
  installation : t.deployment = s.deployment
  deployment : t.auth.deployment = s.auth.deployment
  fresh : s.auth.fresh ≤ t.auth.fresh
  known : userId < t.auth.fresh
  book : nameBook t = update (nameBook s) userId (some username)
  free : ∀ other, other ≠ userId → nameBook s other ≠ some username

section Writes

variable {s t u : State} {userId : UserId} {username : String}

theorem WritesName.before (writes : WritesName t u userId username) (same : SameNames s t) :
    WritesName s u userId username where
  installation := writes.installation.trans same.installation
  deployment := writes.deployment.trans same.deployment
  fresh := same.fresh.trans writes.fresh
  known := writes.known
  book := by rw [writes.book, same.nameBook]
  free := by
    rw [← same.nameBook]
    exact writes.free

theorem WritesName.after (writes : WritesName s t userId username) (same : SameNames t u) :
    WritesName s u userId username where
  installation := same.installation.trans writes.installation
  deployment := same.deployment.trans writes.deployment
  fresh := writes.fresh.trans same.fresh
  known := writes.known.trans_le same.fresh
  book := same.nameBook.trans writes.book
  free := writes.free

theorem NamesSound.writes (sound : NamesSound s) (writes : WritesName s t userId username)
    (proper : Proper s.auth.deployment username)
    (allowed : isReservedUsername s.auth.deployment username = false) : NamesSound t := by
  have lookup : ∀ other name, nameBook t other = some name →
      (other = userId ∧ name = username) ∨ (other ≠ userId ∧ nameBook s other = some name) := by
    intro other name here
    rw [writes.book] at here
    by_cases same : other = userId
    · rw [same, update_self] at here
      exact .inl ⟨same, (Option.some.inj here).symm⟩
    · rw [update_of_ne same] at here
      exact .inr ⟨same, here⟩
  constructor
  · intro other name here
    rw [writes.deployment]
    obtain ⟨-, rfl⟩ | ⟨-, before⟩ := lookup other name here
    · exact proper
    · exact sound.proper other name before
  · intro other name here
    rw [writes.deployment]
    obtain ⟨-, rfl⟩ | ⟨-, before⟩ := lookup other name here
    · exact allowed
    · exact sound.allowed other name before
  · intro first second name here here'
    obtain ⟨rfl, rfl⟩ | ⟨different, before⟩ := lookup first name here
    · obtain ⟨rfl, -⟩ | ⟨different', before'⟩ := lookup second name here'
      · rfl
      · exact absurd before' (writes.free second different')
    · obtain ⟨rfl, rfl⟩ | ⟨-, before'⟩ := lookup second name here'
      · exact absurd before (writes.free first different)
      · exact sound.apart first second name before before'
  · intro other here
    by_cases same : other = userId
    · rw [same]
      exact writes.known
    · rw [writes.book, update_of_ne same] at here
      exact (sound.drawn other here).trans_le writes.fresh

theorem WritesName.not_good (writes : WritesName s t userId username)
    (reserved : isReservedUsername s.auth.deployment username = true) : ¬ NamesGood t := by
  intro good
  have here : nameBook t userId = some username := by rw [writes.book, update_self]
  obtain ⟨user, found, rfl⟩ := nameBook_eq_some.mp here
  have allowed := (good.1 userId user found).2.2
  rw [writes.deployment, reserved] at allowed
  cases allowed

end Writes

/-- A new rider is written under the id that is drawn. -/
theorem writesName_create {row : NewUser}
    (admitted : (s.auth.users.entries.any fun entry => clashes row entry.2) = false)
    (free : nameBook s s.auth.fresh = none) :
    answer (.userCreate row) s = (.ok (s.auth.fresh, row.toAuth), (answer (.userCreate row) s).2) ∧
      WritesName s (answer (.userCreate row) s).2 s.auth.fresh row.username := by
  have absent : s.auth.users.find? s.auth.fresh = none := Option.map_eq_none_iff.mp free
  have created : answer (.userCreate row) s = (.ok (s.auth.fresh, row.toAuth), s.withRiders
      { s.auth with users := s.auth.users.insert s.auth.fresh row.toAuth, fresh := s.auth.fresh + 1 }
      (s.social.withUsers (s.social.users.insert s.auth.fresh row.toSocial))) := by
    simp only [answer, admitted, Bool.false_eq_true, if_false]
  rw [created]
  refine ⟨rfl, rfl, rfl, Nat.le_succ _, Nat.lt_succ_self _, funext fun other => ?_, fun other _ here => ?_⟩
  · by_cases same : other = s.auth.fresh
    · subst same
      rw [update_self, nameBook]
      simp only [withRiders_auth, find?_insert_self absent]
      rfl
    · rw [update_of_ne same, nameBook]
      simp only [withRiders_auth, find?_insert_of_ne _ same]
      rfl
  · obtain ⟨user, found, same⟩ := nameBook_eq_some.mp here
    have apart := List.any_eq_false.mp admitted (other, user) ((mem_entries_iff _).mpr found)
    exact apart (by simp [clashes, same])

theorem NamesSound.free (sound : NamesSound s) : nameBook s s.auth.fresh = none := by
  by_contra here
  exact lt_irrefl _ (sound.drawn s.auth.fresh here)

/-! ## Registration -/

theorem LowerCases.reflexive {deployment : Auth.Deployment} (lowerCases : LowerCases deployment)
    (text : String) : deployment.equalsInsensitive text text = true :=
  (lowerCases.exact text text).mpr rfl

/-- Somebody has what is asked for at a registration. -/
def State.HasRegistered (s : State) (email username : String) : Prop :=
  s.HasUser fun _ user => Registered s.auth.deployment.equalsInsensitive
    (Auth.normalize s.auth.deployment email) (Auth.normalize s.auth.deployment username) user

/-- **Registration writes the normal form of the username**, unless somebody has it or the email. -/
theorem register_names (lowerCases : LowerCases s.auth.deployment) (sound : NamesSound s)
    (email username password : String) (name : Option String) :
    (s.HasRegistered email username ∧
        SameNames s ((register s.auth.deployment email username password name).exec s).2) ∨
      (¬ s.HasRegistered email username ∧ ∃ userId,
        WritesName s ((register s.auth.deployment email username password name).exec s).2 userId
          (Auth.normalize s.auth.deployment username)) := by
  let hashed := (answer (.auth (.bcryptHash password)) s).2
  let row := registeredRow s email username password name
  have same : SameNames s hashed := sameThrough_answer unmarked_username (.bcryptHash password) s
  have matched : (answer (.userFindFirstRegistered (Auth.normalize s.auth.deployment email)
      (Auth.normalize s.auth.deployment username)) s).1 = true ↔ s.HasRegistered email username := by
    refine (any_users_iff s _).trans (exists_congr fun userId => exists_congr fun user => ?_)
    simp only [Registered, Bool.or_eq_true, Option.any_eq_true, or_assoc]
  obtain ⟨taken, ran⟩ | ⟨taken, flow, leaves, ran⟩ := register_cases s email username password name
  · rw [ran]
    exact .inl ⟨matched.mp taken, .refl s⟩
  · have none : ¬ s.HasRegistered email username := by
      intro has
      rw [matched.mpr has] at taken
      cases taken
    rw [ran]
    have after := sameThrough_run unmarked_username leaves (answer (.userCreate row) hashed).2
    have admitted : (hashed.auth.users.entries.any fun entry => clashes row entry.2) = false := by
      rw [List.any_eq_false]
      rintro ⟨userId, user⟩ member clash
      have found : s.auth.users.find? userId = some user := (mem_entries_iff _).mp member
      refine none ⟨userId, user, found, ?_⟩
      simp only [row, registeredRow, clashes, Option.any_none, Bool.or_false, Bool.or_eq_true,
        decide_eq_true_eq] at clash
      rcases clash with equal | equal
      · refine .inr (.inr ?_)
        rw [equal]
        exact lowerCases.reflexive _
      · refine .inl ?_
        rw [equal]
        exact lowerCases.reflexive _
    have writes := (writesName_create admitted (sound.same same).free).2
    exact .inr ⟨none, _, (writes.before same).after after⟩

/-! ## Sign-in with a provider -/

/-- Somebody has the subject, or the address. -/
def State.Knows (s : State) (provider : Provider) (sub emailNorm : String) : Prop :=
  s.HasUser fun _ user => subOf provider user = some sub ∨
    s.auth.deployment.equalsInsensitive user.email emailNorm = true

theorem createOAuthUserIn_names (attempts : Nat) {s : State} (sound : NamesSound s) (provider : Provider)
    (sub emailNorm : String) (name : Option String) (unknown : Unknown s provider sub emailNorm) :
    (∃ userId draw, WritesName s
        ((createOAuthUserIn s.auth.deployment provider sub emailNorm name attempts).exec s).2 userId
          (usernameCandidateFromEmail s.auth.deployment emailNorm (s.deployment.randomHex draw))) ∨
      ((0 < attempts → ¬ FreeUsername s emailNorm 0) ∧
        SameNames s ((createOAuthUserIn s.auth.deployment provider sub emailNorm name attempts).exec s).2) := by
  induction attempts generalizing s with
  | zero => exact .inr ⟨fun positive => absurd positive (lt_irrefl _), .refl _⟩
  | succ attempts ih =>
    have same : SameNames s s.afterDraw := sameThrough_answer unmarked_username .randomBytes s
    have admits := clashes_oauthUser unknown name
      (usernameCandidateFromEmail s.auth.deployment emailNorm (s.deployment.randomHex s.auth.fresh))
    rw [exec_createOAuthUserIn]
    cases clash : s.afterDraw.auth.users.entries.any fun entry =>
        clashes (nextOAuthUser s provider sub emailNorm name) entry.2 with
    | true =>
      rw [answer_create_of_clash clash]
      have taken : ¬ FreeUsername s emailNorm 0 := by
        intro free
        rw [nextOAuthUser, afterDraw, withAuth_auth, Auth.State.withFresh_users,
          admits.mpr free] at clash
        cases clash
      obtain ⟨userId, draw, writes⟩ | ⟨-, unwritten⟩ := ih (sound.same same) unknown
      · exact .inl ⟨userId, draw, writes.before same⟩
      · exact .inr ⟨fun _ => taken, same.trans unwritten⟩
    | false =>
      obtain ⟨created, writes⟩ := writesName_create clash (sound.same same).free
      rw [created]
      exact .inl ⟨_, s.auth.fresh, writes.before same⟩

/-- **A sign-in of somebody unknown writes a candidate**, or nothing when the first one is taken. -/
theorem oauthSignIn_names (lowerCases : LowerCases s.auth.deployment) (sound : NamesSound s)
    (provider : Provider) (sub emailNorm : String) (name : Option String) :
    (s.Knows provider sub emailNorm ∧
        SameNames s ((oauthSignIn s.auth.deployment provider sub emailNorm name).exec s).2) ∨
      (¬ s.Knows provider sub emailNorm ∧
        ((∃ userId draw, WritesName s
            ((oauthSignIn s.auth.deployment provider sub emailNorm name).exec s).2 userId
              (usernameCandidateFromEmail s.auth.deployment emailNorm (s.deployment.randomHex draw))) ∨
          (¬ FreeUsername s emailNorm 0 ∧
            SameNames s ((oauthSignIn s.auth.deployment provider sub emailNorm name).exec s).2))) := by
  obtain ⟨known, flow, leaves, ran⟩ | ⟨unfound, ran⟩ := oauthSignIn_cases s provider sub emailNorm name
  · rw [ran]
    exact .inl ⟨known, sameThrough_run unmarked_username leaves s⟩
  · have nobody : ¬ s.Knows provider sub emailNorm := by
      rintro ⟨userId, user, found, subject | address⟩
      · exact (unfound userId user found).1 subject
      · rw [(unfound userId user found).2] at address
        cases address
    have rest := sameThrough_bind unmarked_username
      (createOAuthUser s.auth.deployment provider sub emailNorm name)
      (fun user => issueSessionAfterLogin_leaves user.1 user.2) s
    rw [ran]
    obtain ⟨userId, draw, writes⟩ | ⟨taken, same⟩ := createOAuthUserIn_names oauthAttempts sound provider sub
      emailNorm name (unknown_of_unfound lowerCases.reflexive unfound)
    · exact .inr ⟨nobody, .inl ⟨userId, draw, writes.after rest⟩⟩
    · exact .inr ⟨nobody, .inr ⟨taken (by decide), same.trans rest⟩⟩

/-! ## Renames -/

/-- A rename that is refused by the index writes nothing, and one that is not refused writes the
name. -/
theorem userUpdateUsername_names (found : s.auth.users.find? userId = some user)
    (drawn : userId < s.auth.fresh) (username : String) (changedAt : Time) :
    SameNames s (answer (.userUpdateUsername userId username changedAt) s).2 ∨
      WritesName s (answer (.userUpdateUsername userId username changedAt) s).2 userId username := by
  simp only [answer]
  rw [if_neg (by rw [found]; exact Bool.false_ne_true)]
  split
  · exact .inl (.refl s)
  · rename_i apart
    refine .inr ⟨rfl, rfl, Nat.le_refl _, drawn, funext fun other => ?_, fun other different here => ?_⟩
    · rw [nameBook]
      simp only [withRiders_auth, Auth.State.withUsers_users]
      by_cases same : other = userId
      · rw [same, update_self, find?_modify, if_pos rfl, found]
        rfl
      · rw [update_of_ne same, find?_modify, if_neg same]
        rfl
    · obtain ⟨user', found', same⟩ := nameBook_eq_some.mp here
      refine apart (List.any_eq_true.mpr ⟨(other, user'), (mem_entries_iff _).mpr found', ?_⟩)
      rw [Bool.and_eq_true, decide_eq_true_eq, decide_eq_true_eq]
      exact ⟨different, same⟩

theorem takeUsername_names (found : s.auth.users.find? userId = some user) (drawn : userId < s.auth.fresh)
    (next : String) :
    SameNames s ((takeUsername userId next).exec s).2 ∨
      WritesName s ((takeUsername userId next).exec s).2 userId next := by
  have clock : answer (.auth .dateNow) s = (s.auth.now, s) := rfl
  unfold takeUsername Flow.exec
  rw [run_sends, run_throwIf_bind]
  split
  · exact .inl (.refl s)
  · have asked : (answer (.userFindFirstUsernameTaken userId next) s).2 = s := rfl
    rw [asked, run_sends_of clock, call_bind,
      run_call]
    have rest : ∀ updated : Except PrismaError Unit,
        (rethrow updated >>= fun _ => (pure next : Flow String)).Uses AccountCall.LeavesAddresses :=
      fun updated => (rethrow_uses updated _).bind fun _ => trivial
    have after := sameThrough_run unmarked_username (rest (answer (.userUpdateUsername userId next s.auth.now) s).1)
      (answer (.userUpdateUsername userId next s.auth.now) s).2
    obtain same | writes := userUpdateUsername_names found drawn next s.auth.now
    · exact .inl (same.trans after)
    · exact .inr (writes.after after)

/-- **A rename writes nothing but the normal form of what is asked for, when it is not reserved.** -/
theorem changeUsername_names (sound : NamesSound s) (userId : UserId) (username : String) :
    SameNames s ((changeUsername s.auth.deployment userId username).exec s).2 ∨
      isReservedUsername s.auth.deployment (Auth.normalize s.auth.deployment username) = false ∧
        WritesName s ((changeUsername s.auth.deployment userId username).exec s).2 userId
          (Auth.normalize s.auth.deployment username) := by
  obtain ⟨asks, ran⟩ | ⟨-, outcome, ran, -⟩ := changeUsername_cases s userId username
  · obtain ⟨user, found, -, -, allowed, -⟩ := asks
    have drawn : userId < s.auth.fresh := by
      refine sound.drawn userId ?_
      rw [nameBook_of_find? found]
      exact Option.some_ne_none _
    rw [ran]
    obtain same | writes := takeUsername_names found drawn (Auth.normalize s.auth.deployment username)
    · exact .inl same
    · exact .inr ⟨allowed, writes⟩
  · rw [ran]
    exact .inl (.refl s)

/-! ## Steps -/

/-- A call of the three services, or time that passes. -/
inductive NameOp where
  | register (email : String) (username : Username) (password : String) (name : Option String)
  | appleSignIn (claims : Option Claims) (email : Option String) (fullName : Option (Option String × Option String))
  | googleSignIn (claims : Option Claims)
  | changeUsername (userId : UserId) (username : Username)
  | elapse (milliseconds : Nat)

def NameOp.flow (installation : Deployment) (deployment : Auth.Deployment) : NameOp → Flow Unit
  | .register email username password name => discard (Account.register deployment email username password name)
  | .appleSignIn claims email fullName =>
    discard (Account.appleSignIn installation deployment claims email fullName)
  | .googleSignIn claims => discard (Account.googleSignIn installation deployment claims)
  | .changeUsername userId username => discard (Account.changeUsername deployment userId username)
  | .elapse milliseconds => call (.auth (.elapse milliseconds))

/-- The state after a call. -/
def nameStep (s : State) (op : NameOp) : State :=
  ((op.flow s.deployment s.auth.deployment).exec s).2

/-- A registration asks for no reserved name, unless it is refused because somebody has the name or
the email; and a sign-in of somebody unknown has no address of which a reserved name is made. -/
def NameOp.Clear (s : State) : NameOp → Prop
  | .register email username _ _ => isReservedUsername s.auth.deployment username = true →
      s.HasRegistered email username
  | .appleSignIn claims email _ => ∀ verified, claims = some verified → Configured s.deployment .apple →
      officialBase s.auth.deployment (appleEmail s.deployment s.auth.deployment email verified) = true →
        s.Knows .apple verified.sub (appleEmail s.deployment s.auth.deployment email verified)
  | .googleSignIn claims => ∀ verified email, claims = some verified → verified.email = some email →
      email ≠ "" → Configured s.deployment .google →
        officialBase s.auth.deployment (Auth.normalize s.auth.deployment email) = true →
          s.Knows .google verified.sub (Auth.normalize s.auth.deployment email)
  | _ => True

/-- What a step does to the names: nothing; or a proper name that is not reserved is written; or one
that is reserved, which happens exactly outside the condition. -/
inductive NameEffect (s t : State) (clear : Prop) : Prop where
  | same (met : clear) (same : SameNames s t)
  | writes (met : clear) (userId : UserId) (username : String) (writes : WritesName s t userId username)
      (proper : Proper s.auth.deployment username)
      (allowed : isReservedUsername s.auth.deployment username = false)
  | reserves (unmet : ¬ clear) (userId : UserId) (username : String) (writes : WritesName s t userId username)
      (reserved : isReservedUsername s.auth.deployment username = true)

section Effects

variable {s t : State} {clear clear' : Prop}

theorem NameEffect.sound (effect : NameEffect s t clear) (sound : NamesSound s) (met : clear) : NamesSound t := by
  cases effect with
  | same _ same => exact sound.same same
  | writes _ userId username writes proper allowed => exact sound.writes writes proper allowed
  | reserves unmet => exact absurd met unmet

theorem NameEffect.not_good (effect : NameEffect s t clear) (unmet : ¬ clear) : ¬ NamesGood t := by
  cases effect with
  | same met | writes met => exact absurd met unmet
  | reserves _ userId username writes reserved => exact writes.not_good reserved

theorem NameEffect.mono (effect : NameEffect s t clear) (same : clear ↔ clear') : NameEffect s t clear' := by
  rwa [← same]

theorem NameEffect.deployments (effect : NameEffect s t clear) :
    t.deployment = s.deployment ∧ t.auth.deployment = s.auth.deployment := by
  cases effect with
  | same _ same => exact ⟨same.installation, same.deployment⟩
  | writes _ _ _ writes | reserves _ _ _ writes => exact ⟨writes.installation, writes.deployment⟩

theorem isReservedUsername_normalize {deployment : Auth.Deployment} (lowerCases : LowerCases deployment)
    (username : Username) :
    isReservedUsername deployment (Auth.normalize deployment username) = isReservedUsername deployment username := by
  rw [isReservedUsername, isReservedUsername, (Proper.of_schema lowerCases username.2).normal]

theorem register_effect (lowerCases : LowerCases s.auth.deployment) (sound : NamesSound s) (email : String)
    (username : Username) (password : String) (name : Option String) :
    NameEffect s ((register s.auth.deployment email username password name).exec s).2
      (isReservedUsername s.auth.deployment username = true → s.HasRegistered email username) := by
  have stored := isReservedUsername_normalize lowerCases username
  obtain ⟨has, same⟩ | ⟨none, userId, writes⟩ := register_names lowerCases sound email username password name
  · exact .same (fun _ => has) same
  · cases reserved : isReservedUsername s.auth.deployment username with
    | true =>
      exact .reserves (fun clear => none (clear rfl)) userId _ writes (stored.trans reserved)
    | false =>
      exact .writes (by rintro ⟨⟩) userId _ writes (.of_schema lowerCases username.2) (stored.trans reserved)

theorem signIn_effect (lowerCases : LowerCases s.auth.deployment) (drawsHex : DrawsHex s.deployment)
    (sound : NamesSound s) (provider : Provider) (sub emailNorm : String) (name : Option String) :
    NameEffect s ((oauthSignIn s.auth.deployment provider sub emailNorm name).exec s).2
      (officialBase s.auth.deployment emailNorm = true → s.Knows provider sub emailNorm) := by
  have candidates draw := reserved_candidate_iff lowerCases (drawsHex draw) emailNorm
  obtain ⟨knows, same⟩ | ⟨stranger, ⟨userId, draw, writes⟩ | ⟨taken, same⟩⟩ :=
    oauthSignIn_names lowerCases sound provider sub emailNorm name
  · exact .same (fun _ => knows) same
  · cases official : officialBase s.auth.deployment emailNorm with
    | true =>
      exact .reserves (fun clear => stranger (clear rfl)) userId _ writes ((candidates draw).trans official)
    | false =>
      exact .writes (by rintro ⟨⟩) userId _ writes (candidate_proper lowerCases.lowers (drawsHex draw) emailNorm)
        ((candidates draw).trans official)
  · -- The candidate that is taken is somebody's name, and so it is not reserved.
    refine .same (fun official => absurd ?_ taken) same
    intro userId user found equal
    have allowed := sound.allowed userId _ (nameBook_of_find? found)
    rw [equal, candidates, official] at allowed
    cases allowed

/-- **What a step does to the names.** -/
theorem NameOp.effect (lowerCases : LowerCases s.auth.deployment) (drawsHex : DrawsHex s.deployment)
    (sound : NamesSound s) (op : NameOp) : NameEffect s (nameStep s op) (op.Clear s) := by
  unfold nameStep
  cases op with
  | register email username password name =>
    rw [NameOp.flow, exec_discard]
    exact register_effect lowerCases sound email username password name
  | appleSignIn claims email fullName =>
    rw [NameOp.flow, exec_discard]
    obtain ⟨verified, rfl, configured, ran⟩ | ⟨missing, ran⟩ := appleSignIn_cases s claims email fullName
    · rw [ran]
      refine (signIn_effect lowerCases drawsHex sound .apple verified.sub
        (appleEmail s.deployment s.auth.deployment email verified) _).mono ?_
      constructor
      · rintro clear _ ⟨⟩ -
        exact clear
      · intro clear
        exact clear verified rfl configured
    · rw [ran]
      exact .same (fun verified some configured => absurd configured (missing verified some)) (.refl _)
  | googleSignIn claims =>
    rw [NameOp.flow, exec_discard]
    obtain ⟨verified, email, name, some, has, filled, configured, ran⟩ | ⟨missing, ran⟩ :=
      googleSignIn_cases s claims
    · rw [ran]
      refine (signIn_effect lowerCases drawsHex sound .google verified.sub
        (Auth.normalize s.auth.deployment email) _).mono ?_
      constructor
      · intro clear other email' some' has' _ _
        obtain rfl := Option.some.inj (some.symm.trans some')
        obtain rfl := Option.some.inj (has.symm.trans has')
        exact clear
      · intro clear
        exact clear verified email some has filled configured
    · rw [ran]
      exact .same (fun verified email some has filled configured =>
        absurd configured (missing verified email some has filled)) (.refl _)
  | changeUsername userId username =>
    rw [NameOp.flow, exec_discard]
    obtain same | ⟨allowed, writes⟩ := changeUsername_names sound userId username
    · exact .same trivial same
    · exact .writes trivial userId _ writes (.of_schema lowerCases username.2) allowed
  | elapse milliseconds => exact .same trivial (sameThrough_answer unmarked_username (.elapse milliseconds) s)

end Effects

/-- **The usernames are good in every state of a run exactly when no registration is given a reserved
name, and nobody unknown signs in with an address of which a reserved name is made.** -/
theorem names_good_iff (s : State) (lowerCases : LowerCases s.auth.deployment) (drawsHex : DrawsHex s.deployment)
    (sound : NamesSound s) (ops : List NameOp) :
    Throughout nameStep NamesGood s ops ↔ EachStep nameStep NameOp.Clear s ops := by
  let invariant (t : State) := LowerCases t.auth.deployment ∧ DrawsHex t.deployment ∧ NamesSound t
  have initially : invariant s := ⟨lowerCases, drawsHex, sound⟩
  refine throughout_iff_eachStep (fun t (held : invariant t) => ?_) (fun t op held met => ?_)
    (fun t op held unmet => ?_) initially ops
  · exact held.2.2.good held.1
  · obtain ⟨lowerCases, drawsHex, sound⟩ := held
    have effect := op.effect lowerCases drawsHex sound
    obtain ⟨installation, deployment⟩ := effect.deployments
    refine ⟨?_, ?_, effect.sound sound met⟩
    · rw [deployment]
      exact lowerCases
    · rw [installation]
      exact drawsHex
  · obtain ⟨lowerCases, drawsHex, sound⟩ := held
    exact (op.effect lowerCases drawsHex sound).not_good unmet

/-! ## A small installation -/

/-- Three bytes in hexadecimal digits, the last one first. -/
def hexOf (draw : Nat) : String :=
  String.ofList ((List.range 6).map fun place => Nat.digitChar (draw / 16 ^ place % 16))

/-- Nobody has registered yet. -/
def namelessInstallation : State :=
  .initial { smallDeployment with randomHex := hexOf } (.initial letterwiseDeployment 0 .empty)
    (.initial Social.smallDeployment 0 .empty)

theorem lowerCases_letterwise : LowerCases letterwiseDeployment where
  lowers := lowers_letterwise
  exact := by
    intro first second
    exact decide_eq_true_iff.trans String.ofList_inj.symm

theorem drawsHex_small : DrawsHex namelessInstallation.deployment := by
  have digits : ∀ digit < 16, hexDigit (Nat.digitChar digit) = true := by decide
  intro draw
  have letters : (namelessInstallation.deployment.randomHex draw).toList =
      (List.range 6).map fun place => Nat.digitChar (draw / 16 ^ place % 16) := String.toList_ofList
  rw [HexSuffix, letters]
  refine ⟨by rw [List.length_map, List.length_range], fun letter member => ?_⟩
  obtain ⟨place, -, rfl⟩ := List.mem_map.mp member
  exact digits _ (Nat.mod_lt _ (by decide))

theorem namesSound_nameless : NamesSound namelessInstallation :=
  ⟨fun _ _ here => (by cases here), fun _ _ here => (by cases here), fun _ _ _ here => (by cases here),
    fun _ here => absurd rfl here⟩

theorem names_good_small :
    Throughout nameStep NamesGood namelessInstallation
        [.register "a@example.com" ⟨"Rider_A", by decide⟩ "secret" none, .changeUsername 1 ⟨"admin", by decide⟩] ↔
      EachStep nameStep NameOp.Clear namelessInstallation
        [.register "a@example.com" ⟨"Rider_A", by decide⟩ "secret" none, .changeUsername 1 ⟨"admin", by decide⟩] :=
  names_good_iff namelessInstallation lowerCases_letterwise drawsHex_small namesSound_nameless _

/-- Somebody registers as `admin`, which no rename would grant; or signs in with the address
`motogram@example.com`. -/
theorem reserved_names_taken :
    ¬ Throughout nameStep NamesGood namelessInstallation
        [.register "a@example.com" ⟨"admin", by decide⟩ "secret" none] ∧
      ¬ Throughout nameStep NamesGood namelessInstallation
        [.googleSignIn (some ⟨"subject", by decide, some "motogram@example.com", none⟩)] := by
  have reserved : ∀ (s : State) (userId : UserId) (username : String), nameBook s userId = some username →
      isReservedUsername s.auth.deployment username = true → ¬ NamesGood s := by
    intro s userId username here reserved good
    obtain ⟨user, found, rfl⟩ := nameBook_eq_some.mp here
    rw [(good.1 userId user found).2.2] at reserved
    cases reserved
  refine ⟨fun good => ?_, fun good => ?_⟩
  · refine reserved _ 1 "admin" ?_ ?_ good.last
    · decide +kernel
    · decide +kernel
  · refine reserved _ 1 "motogram_000000" ?_ ?_ good.last
    · decide +kernel
    · decide +kernel

end Motogram.Account
