import Motogram.Account.Deletion
import Motogram.Account.Registration
import Motogram.Foundation.Pattern

/-!
# Names that are patterns

`equals` with `mode: 'insensitive'` reaches PostgreSQL as `ILIKE` with the value as the pattern.
An underscore is a letter of usernames and addresses and matches any letter there, so a query
for one name can find the row of another.

A login finds its rider in every order of the rows exactly when the identifier matches that row
and no other, and registration and the change of a username report a conflict without an equal
name exactly when the requested one matches a row (`names_found_iff`).
-/

set_option autoImplicit false

namespace Motogram.Account

open Foundation Program Table

/-! ## `ILIKE` -/

def ilikeWildcards : Wildcards Char where
  one := '_'
  many := '%'
  escape := '\\'

variable (lower : Char → Char)

/-- `value ILIKE pattern`: both are lower-cased first. -/
def ilike (value pattern : String) : Bool :=
  ilikeWildcards.like (value.toList.map lower) (pattern.toList.map lower)

def equalIgnoringCase (first second : String) : Bool :=
  decide (first.toList.map lower = second.toList.map lower)

/-! ## Logins -/

/-- The login finds this row. -/
def FoundBy (compares : String → String → Bool) (identifier : String) (user : Auth.User) : Prop :=
  compares user.email identifier = true ∨ compares user.username identifier = true

/-- The login succeeds for this rider, whichever of the rows it matches is found. -/
def LogsIn (s : Auth.State) (identifier password : String) (userId : UserId) : Prop :=
  ∀ order (perm : order.Perm s.users.entries), ∃ tokens,
    ((Auth.login s.deployment identifier password).exec (s.withUsers (s.users.reorder order perm))).1 =
      .ok (userId, tokens)

/-- The row `findFirst` returns. -/
def firstFound (s : Auth.State) (identifier : String) : Option (UserId × Auth.User) :=
  s.users.entries.find? fun entry =>
    s.deployment.equalsInsensitive entry.2.email (Auth.normalize s.deployment identifier) ||
      s.deployment.equalsInsensitive entry.2.username (Auth.normalize s.deployment identifier)

theorem exec_completeLogin {s : Auth.State} {userId : UserId} {user stored : Auth.User}
    (found : s.users.find? userId = some stored) {password passwordHash : String}
    (right : s.deployment.bcrypt.compare password passwordHash = true) :
    ∃ tokens, ((Auth.completeLogin userId user password passwordHash).exec s).1 = .ok (userId, tokens) := by
  have updated : Auth.answer (.userUpdateLastSeen userId) s = (.ok (), s.withUsers
      (s.users.modify userId fun user => { user with lastSeenAt := some s.now })) := by
    simp only [Auth.answer, found]
  have compared : Auth.answer (.bcryptCompare password passwordHash) s = (true, s) := by
    simp only [Auth.answer, right]
  unfold Auth.completeLogin Auth.Flow.exec
  simp only [call_bind, done_bind]
  rw [run_call_of_answer _ compared, run_throwIf_bind, run_call_of_answer _ updated]
  exact ⟨_, rfl⟩

variable (s : State) (userId : UserId) (username : String)

/-- A login ends with the rider it began with. -/
theorem completeLogin_returns (user : Auth.User) (password passwordHash : String) :
    (Auth.completeLogin userId user password passwordHash).Returns fun result => result.1 = userId := by
  refine .last _ fun _ => .last _ fun _ => .last _ fun _ => .last _ fun _ => .last _ fun _ => .last _ fun _ =>
    .last _ fun tokens => ?_
  rfl

theorem login_found {s : Auth.State} {identifier password : String} {userId : UserId} {tokens : Auth.TokenPair}
    (ends : ((Auth.login s.deployment identifier password).exec s).1 = .ok (userId, tokens)) :
    ∃ user, firstFound s identifier = some (userId, user) := by
  have found : Auth.answer (.userFindFirstByIdentifier (s.deployment.toLowerCase (jsTrim identifier))) s =
    (firstFound s identifier, s) := rfl
  unfold Auth.login Auth.Flow.exec at ends
  rw [run_sends_of found] at ends
  cases first : firstFound s identifier with
  | none =>
    rw [first] at ends
    cases ends
  | some entry =>
    obtain ⟨other, user⟩ := entry
    rw [first] at ends
    refine ⟨user, ?_⟩
    suffices same : userId = other by rw [same]
    refine Returns.run (?_ : Returns (fun result => result.1 = other) _) ends
    dsimp only
    cases user.passwordHash with
    | none => trivial
    | some passwordHash =>
      refine .last _ fun _ => ?_
      split
      · exact .last _ fun _ => .last _ fun _ => .last _ fun _ => completeLogin_returns _ _ _ _
      · exact completeLogin_returns _ _ _ _

theorem login_succeeds {s : Auth.State} {identifier password passwordHash : String} {userId : UserId}
    {user : Auth.User} (first : firstFound s identifier = some (userId, user))
    (stored : s.users.find? userId = some user) (active : user.isBanned = false ∧ user.deletedAt = none)
    (hashed : user.passwordHash = some passwordHash)
    (right : s.deployment.bcrypt.compare password passwordHash = true) :
    ∃ tokens, ((Auth.login s.deployment identifier password).exec s).1 = .ok (userId, tokens) := by
  have found : Auth.answer (.userFindFirstByIdentifier (s.deployment.toLowerCase (jsTrim identifier))) s =
    (some (userId, user), s) := congrArg (Prod.mk · s) first
  unfold Auth.login Auth.Flow.exec
  rw [run_sends_of found]
  dsimp only
  rw [hashed]
  rw [run_throwIf_bind, if_neg (by simp [active.1]), if_neg (by simp [active.2])]
  exact exec_completeLogin stored right

/-- **A login finds its rider in every order of the rows** exactly when the identifier matches the
row of that rider and no other. -/
theorem logsIn_iff (s : Auth.State) {identifier password passwordHash : String} {userId : UserId}
    {user : Auth.User} (stored : s.users.find? userId = some user)
    (active : user.isBanned = false ∧ user.deletedAt = none)
    (hashed : user.passwordHash = some passwordHash)
    (right : s.deployment.bcrypt.compare password passwordHash = true) :
    LogsIn s identifier password userId ↔ ∀ other row, s.users.find? other = some row →
      (FoundBy s.deployment.equalsInsensitive (Auth.normalize s.deployment identifier) row ↔
        other = userId) := by
  have finds : ∀ (other : UserId) (row : Auth.User) (s' : Auth.State), s'.deployment = s.deployment →
      firstFound s' identifier = some (other, row) →
        FoundBy s.deployment.equalsInsensitive (Auth.normalize s.deployment identifier) row := by
    intro other row s' same first
    have holds := List.find?_some first
    rw [same, Bool.or_eq_true] at holds
    exact holds
  constructor
  · intro logsIn other row here
    constructor
    · intro matched
      have member : (other, row) ∈ s.users.entries := (mem_entries_iff _).mpr here
      obtain ⟨tokens, ends⟩ := logsIn _ (List.perm_cons_erase member).symm
      obtain ⟨first, found⟩ := login_found ends
      have own : (s.deployment.equalsInsensitive row.email (Auth.normalize s.deployment identifier) ||
          s.deployment.equalsInsensitive row.username (Auth.normalize s.deployment identifier)) = true := by
        rw [Bool.or_eq_true]
        exact matched
      have here' : firstFound (s.withUsers (s.users.reorder _ (List.perm_cons_erase member).symm)) identifier =
          some (other, row) := List.find?_cons_of_pos own
      rw [here'] at found
      exact congrArg Prod.fst (Option.some.inj found)
    · rintro rfl
      obtain ⟨tokens, ends⟩ := logsIn s.users.entries (List.Perm.refl _)
      obtain ⟨first, found⟩ := login_found ends
      have member := List.mem_of_find?_eq_some found
      have same : s.users.find? other = some first := (mem_entries_iff _).mp member
      obtain rfl := Option.some.inj (here.symm.trans same)
      exact finds other row _ rfl found
  · intro only order perm
    have member : (userId, user) ∈ order := perm.mem_iff.mpr ((mem_entries_iff _).mpr stored)
    have matched := (only userId user stored).mpr rfl
    have stored' : (s.withUsers (s.users.reorder order perm)).users.find? userId = some user := by
      rw [Auth.State.withUsers_users, find?_reorder, stored]
    cases first : firstFound (s.withUsers (s.users.reorder order perm)) identifier with
    | none =>
      have unmatched := List.find?_eq_none.mp first (userId, user) member
      rw [Bool.or_eq_true] at unmatched
      exact absurd matched unmatched
    | some entry =>
      obtain ⟨other, row⟩ := entry
      have listed : (other, row) ∈ s.users.entries := perm.mem_iff.mp (List.mem_of_find?_eq_some first)
      have here := (mem_entries_iff _).mp listed
      obtain rfl := (only other row here).mp
        (finds other row (s.withUsers (s.users.reorder order perm)) rfl first)
      obtain rfl := Option.some.inj (stored.symm.trans here)
      exact login_succeeds first stored' active hashed right

/-! ## Conflicts -/

/-- Registration finds a row by what is requested. -/
def Registered (compares : String → String → Bool) (email username : String) (user : Auth.User) : Prop :=
  compares user.email email = true ∨ (∃ pending, user.pendingEmail = some pending ∧ compares pending email = true) ∨
    compares user.username username = true

instance (compares : String → String → Bool) (email username : String) (user : Auth.User) :
    Decidable (Registered compares email username user) :=
  decidable_of_iff ((compares user.email email || user.pendingEmail.any fun pending => compares pending email) ||
    compares user.username username) (by simp only [Registered, Bool.or_eq_true, Option.any_eq_true, or_assoc])

/-- There is a row that satisfies the condition. -/
def State.HasUser (s : State) (condition : UserId → Auth.User → Prop) : Prop :=
  ∃ userId user, s.auth.users.find? userId = some user ∧ condition userId user

theorem any_users_iff (condition : UserId × Auth.User → Bool) :
    s.auth.users.entries.any condition = true ↔ s.HasUser fun userId user => condition (userId, user) = true := by
  rw [List.any_eq_true]
  constructor
  · rintro ⟨⟨userId, user⟩, member, holds⟩
    exact ⟨userId, user, (mem_entries_iff _).mp member, holds⟩
  · rintro ⟨userId, user, found, holds⟩
    exact ⟨(userId, user), (mem_entries_iff _).mpr found, holds⟩

instance (s : State) (condition : UserId → Auth.User → Prop) [∀ userId user, Decidable (condition userId user)] :
    Decidable (s.HasUser condition) :=
  decidable_of_iff (s.auth.users.entries.any fun entry => decide (condition entry.1 entry.2))
    ((any_users_iff s _).trans (by simp only [decide_eq_true_eq]))

theorem rethrow_failsWith {Value : Type} (reply : Except PrismaError Value) :
    (rethrow reply).FailsWith fun error => ∃ thrown, error = .prisma thrown := by
  cases reply with
  | ok value => trivial
  | error thrown => exact ⟨thrown, rfl⟩

/-- Registration reports a conflict exactly when a row is found by what is requested. -/
theorem register_conflict_iff (email username password : String) (name : Option String) :
    ((register s.auth.deployment email username password name).exec s).1 = .error userAlreadyExists ↔
      s.HasUser fun _ user => Registered s.auth.deployment.equalsInsensitive
        (Auth.normalize s.auth.deployment email) (Auth.normalize s.auth.deployment username) user := by
  let emailNorm := Auth.normalize s.auth.deployment email
  let usernameNorm := Auth.normalize s.auth.deployment username
  have matched : (answer (.userFindFirstRegistered emailNorm usernameNorm) s).1 = true ↔
      s.HasUser fun _ user => Registered s.auth.deployment.equalsInsensitive emailNorm usernameNorm user := by
    refine (any_users_iff s _).trans ?_
    simp only [Registered, Bool.or_eq_true, Option.any_eq_true, or_assoc]
  rw [← matched]
  cases found : (answer (.userFindFirstRegistered emailNorm usernameNorm) s).1 with
  | true =>
    have answered : answer (.userFindFirstRegistered emailNorm usernameNorm) s = (true, s) := Prod.ext found rfl
    unfold register Flow.exec
    rw [run_sends_of answered, run_throwIf_bind]
    simp
  | false =>
    have answered : answer (.userFindFirstRegistered emailNorm usernameNorm) s = (false, s) := Prod.ext found rfl
    refine iff_of_false (fun conflict => ?_) Bool.false_ne_true
    unfold register Flow.exec at conflict
    rw [run_sends_of answered, run_throwIf_bind] at conflict
    obtain ⟨thrown, same⟩ : ∃ thrown, userAlreadyExists = .prisma thrown := by
      refine FailsWith.run (?_ : FailsWith (fun error => ∃ thrown, error = .prisma thrown) _)
        conflict
      refine .send fun _ => .send fun created => (rethrow_failsWith created).bind fun _ => ?_
      exact fun _ _ _ _ => trivial
    cases same

/-- A rename gets as far as the query for the name. -/
def RenameAsks (s : State) (userId : UserId) (next : String) : Prop :=
  ∃ user, s.auth.users.find? userId = some user ∧ user.deletedAt = none ∧
    Auth.normalize s.auth.deployment user.username ≠ next ∧
    isReservedUsername s.auth.deployment next = false ∧
    ∀ changedAt ∈ user.usernameChangedAt, (usernameChangeCooldownMs : Int) ≤ s.auth.now - changedAt

theorem takeUsername_conflict_iff (next : String) :
    ((takeUsername userId next).exec s).1 = .error usernameTaken ↔
      s.HasUser fun other user => other ≠ userId ∧ user.deletedAt = none ∧
        s.auth.deployment.equalsInsensitive user.username next = true := by
  have matched : (answer (.userFindFirstUsernameTaken userId next) s).1 = true ↔
      s.HasUser fun other user => other ≠ userId ∧ user.deletedAt = none ∧
        s.auth.deployment.equalsInsensitive user.username next = true := by
    refine (any_users_iff s _).trans ?_
    simp only [Bool.and_eq_true, decide_eq_true_eq, Option.isNone_iff_eq_none, and_assoc]
  rw [← matched]
  cases found : (answer (.userFindFirstUsernameTaken userId next) s).1 with
  | true =>
    have answered : answer (.userFindFirstUsernameTaken userId next) s = (true, s) := Prod.ext found rfl
    unfold takeUsername Flow.exec
    rw [run_sends_of answered, run_throwIf_bind]
    simp
  | false =>
    have answered : answer (.userFindFirstUsernameTaken userId next) s = (false, s) := Prod.ext found rfl
    refine iff_of_false (fun conflict => ?_) Bool.false_ne_true
    unfold takeUsername Flow.exec at conflict
    rw [run_sends_of answered, run_throwIf_bind] at conflict
    obtain ⟨thrown, same⟩ : ∃ thrown, usernameTaken = .prisma thrown := by
      refine FailsWith.run (?_ : FailsWith (fun error => ∃ thrown, error = .prisma thrown) _)
        conflict
      exact .send fun _ => .send fun updated => (rethrow_failsWith updated).bind fun _ => trivial
    cases same

/-- The cooldown lets the rename go on, or throws. -/
theorem run_checkCooldown_bind (usernameChangedAt : Option Time) (rest : Flow String) :
    run answer (checkCooldown usernameChangedAt >>= fun _ => rest) s =
      if ∀ changedAt ∈ usernameChangedAt, (usernameChangeCooldownMs : Int) ≤ s.auth.now - changedAt then
        run answer rest s
      else (.error usernameChangeCooldown, s) := by
  cases usernameChangedAt with
  | none => rfl
  | some changedAt =>
    have clock : answer (.auth .dateNow) s = (s.auth.now, s) := rfl
    rw [checkCooldown, call_bind, call_bind, run_call_of_answer _ clock,
      done_bind, run_throwIf_bind]
    by_cases waited : (usernameChangeCooldownMs : Int) ≤ s.auth.now - changedAt
    · rw [if_neg (Int.not_lt.mpr waited), if_pos (by rintro _ ⟨⟩; exact waited)]
    · rw [if_pos (Int.not_le.mp waited), if_neg fun all => waited (all changedAt rfl)]

/-- A rename gets as far as the query for the name, or ends before it without a conflict. -/
theorem changeUsername_cases :
    (RenameAsks s userId (Auth.normalize s.auth.deployment username) ∧
        (changeUsername s.auth.deployment userId username).exec s =
          (takeUsername userId (Auth.normalize s.auth.deployment username)).exec s) ∨
      ¬ RenameAsks s userId (Auth.normalize s.auth.deployment username) ∧
        ∃ outcome, (changeUsername s.auth.deployment userId username).exec s = (outcome, s) ∧
          outcome ≠ .error usernameTaken := by
  have looked : answer (.auth (.userFindUnique userId)) s = (s.auth.users.find? userId, s) := rfl
  unfold changeUsername Flow.exec RenameAsks
  rw [run_sends_of looked]
  cases found : s.auth.users.find? userId with
  | none =>
    refine .inr ⟨?_, _, rfl, fun conflict => absurd (Except.error.inj conflict) (by decide)⟩
    rintro ⟨_, ⟨⟩, -⟩
  | some user =>
    by_cases deleted : user.deletedAt = none
    · rw [Option.filter_some, if_pos (by rw [deleted]; rfl)]
      dsimp only
      by_cases same : Auth.normalize s.auth.deployment user.username = Auth.normalize s.auth.deployment username
      · rw [if_pos same, run_sends_of looked, found]
        refine .inr ⟨?_, _, rfl, by rintro ⟨⟩⟩
        rintro ⟨stored, own, -, different, -⟩
        exact different (Option.some.inj own ▸ same)
      · rw [if_neg same, run_throwIf_bind]
        by_cases reserved : isReservedUsername s.auth.deployment (Auth.normalize s.auth.deployment username) = true
        · rw [if_pos reserved]
          refine .inr ⟨?_, _, rfl, fun conflict => absurd (Except.error.inj conflict) (by decide)⟩
          rintro ⟨_, -, -, -, allowed, -⟩
          rw [reserved] at allowed
          cases allowed
        · rw [if_neg reserved, run_checkCooldown_bind]
          by_cases waited : ∀ changedAt ∈ user.usernameChangedAt,
              (usernameChangeCooldownMs : Int) ≤ s.auth.now - changedAt
          · rw [if_pos waited]
            exact .inl ⟨⟨user, rfl, deleted, same, Bool.eq_false_iff.mpr reserved, waited⟩, rfl⟩
          · rw [if_neg waited]
            refine .inr ⟨?_, _, rfl, fun conflict => absurd (Except.error.inj conflict) (by decide)⟩
            rintro ⟨stored, own, -, -, -, waited'⟩
            rw [Option.some.inj own] at waited
            exact waited waited'
    · rw [Option.filter_some, if_neg (by simpa [Option.isNone_iff_eq_none] using deleted)]
      refine .inr ⟨?_, _, rfl, fun conflict => absurd (Except.error.inj conflict) (by decide)⟩
      rintro ⟨stored, own, active, -⟩
      rw [Option.some.inj own] at deleted
      exact deleted active

/-- A rename reports a conflict exactly when it asks and an active row of somebody else is found. -/
theorem changeUsername_conflict_iff :
    ((changeUsername s.auth.deployment userId username).exec s).1 = .error usernameTaken ↔
      RenameAsks s userId (Auth.normalize s.auth.deployment username) ∧
        s.HasUser fun other user => other ≠ userId ∧ user.deletedAt = none ∧
          s.auth.deployment.equalsInsensitive user.username (Auth.normalize s.auth.deployment username) = true := by
  obtain ⟨asks, ran⟩ | ⟨ends, outcome, ran, other⟩ := changeUsername_cases s userId username
  · rw [ran, takeUsername_conflict_iff, and_iff_right asks]
  · rw [ran]
    exact iff_of_false other fun both => ends both.1

/-! ## The names that are found -/

/-- **A login finds its rider exactly when the identifier, as a pattern, matches the row of that
rider and no other. A conflict is reported without an equal name exactly when what is requested
matches a row, as a pattern, and no row has it.** -/
theorem names_found_iff (s : State) (compiles : s.auth.deployment.equalsInsensitive = ilike lower) :
    (∀ identifier password userId user passwordHash, s.auth.users.find? userId = some user →
        user.isBanned = false ∧ user.deletedAt = none → user.passwordHash = some passwordHash →
        s.auth.deployment.bcrypt.compare password passwordHash = true →
          (LogsIn s.auth identifier password userId ↔ ∀ other row, s.auth.users.find? other = some row →
            (FoundBy (ilike lower) (Auth.normalize s.auth.deployment identifier) row ↔ other = userId))) ∧
      (∀ email username password name,
        (((register s.auth.deployment email username password name).exec s).1 = .error userAlreadyExists →
            s.HasUser fun _ user => Registered (equalIgnoringCase lower) (Auth.normalize s.auth.deployment email)
              (Auth.normalize s.auth.deployment username) user) ↔
          ((s.HasUser fun _ user => Registered (ilike lower) (Auth.normalize s.auth.deployment email)
              (Auth.normalize s.auth.deployment username) user) →
            s.HasUser fun _ user => Registered (equalIgnoringCase lower) (Auth.normalize s.auth.deployment email)
              (Auth.normalize s.auth.deployment username) user)) ∧
      ∀ userId username,
        (((changeUsername s.auth.deployment userId username).exec s).1 = .error usernameTaken →
            s.HasUser fun _ user => Registered (equalIgnoringCase lower) (Auth.normalize s.auth.deployment username)
              (Auth.normalize s.auth.deployment username) user) ↔
          (RenameAsks s userId (Auth.normalize s.auth.deployment username) →
            (s.HasUser fun other user => other ≠ userId ∧ user.deletedAt = none ∧
              ilike lower user.username (Auth.normalize s.auth.deployment username) = true) →
            s.HasUser fun _ user => Registered (equalIgnoringCase lower) (Auth.normalize s.auth.deployment username)
              (Auth.normalize s.auth.deployment username) user) := by
  refine ⟨fun identifier password userId user passwordHash stored active hashed right => ?_,
    fun email username password name => ?_, fun userId username => ?_⟩
  · rw [logsIn_iff s.auth stored active hashed right, compiles]
  · rw [register_conflict_iff, compiles]
  · rw [changeUsername_conflict_iff, compiles, and_imp]

/-! ## A small installation -/

/-- A database that lower-cases letter by letter, as the JavaScript engine does here. -/
def patternDeployment : Auth.Deployment :=
  { Auth.smallDeployment with
    equalsInsensitive := ilike Char.toLower
    toLowerCase := fun text => String.ofList (text.toList.map Char.toLower) }

/-- Rider 0 is `riderx1`, and rider 1 is `rider_1`. -/
def patternInstallation : State :=
  (answer (.userCreate (newcomer "rider_1")) (answer (.userCreate (newcomer "riderx1"))
    (.initial smallDeployment (.initial patternDeployment 0 .empty)
      (.initial Social.smallDeployment 0 .empty))).2).2

theorem names_found_small :
    (LogsIn patternInstallation.auth "riderx1" "secret" 0 ↔
        ∀ other row, patternInstallation.auth.users.find? other = some row →
          (FoundBy (ilike Char.toLower) (Auth.normalize patternDeployment "riderx1") row ↔ other = 0)) ∧
      ((((register patternDeployment "new@example.com" "rider" "password" none).exec patternInstallation).1 =
            .error userAlreadyExists →
          patternInstallation.HasUser fun _ user => Registered (equalIgnoringCase Char.toLower)
            (Auth.normalize patternDeployment "new@example.com") (Auth.normalize patternDeployment "rider") user) ↔
        ((patternInstallation.HasUser fun _ user => Registered (ilike Char.toLower)
            (Auth.normalize patternDeployment "new@example.com") (Auth.normalize patternDeployment "rider") user) →
          patternInstallation.HasUser fun _ user => Registered (equalIgnoringCase Char.toLower)
            (Auth.normalize patternDeployment "new@example.com") (Auth.normalize patternDeployment "rider") user)) ∧
      ((((changeUsername patternDeployment 1 "rider").exec patternInstallation).1 = .error usernameTaken →
          patternInstallation.HasUser fun _ user => Registered (equalIgnoringCase Char.toLower)
            (Auth.normalize patternDeployment "rider") (Auth.normalize patternDeployment "rider") user) ↔
        (RenameAsks patternInstallation 1 (Auth.normalize patternDeployment "rider") →
          (patternInstallation.HasUser fun other user => other ≠ 1 ∧ user.deletedAt = none ∧
            ilike Char.toLower user.username (Auth.normalize patternDeployment "rider") = true) →
          patternInstallation.HasUser fun _ user => Registered (equalIgnoringCase Char.toLower)
            (Auth.normalize patternDeployment "rider") (Auth.normalize patternDeployment "rider") user)) := by
  have all := names_found_iff Char.toLower patternInstallation rfl
  refine ⟨all.1 "riderx1" "secret" 0 (newcomer "riderx1").toAuth "secret" rfl ⟨rfl, rfl⟩ rfl rfl, ?_, ?_⟩
  · exact all.2.1 "new@example.com" "rider" "password" none
  · exact all.2.2 1 "rider"

/-- The login of rider 1 finds rider 0. The name `ride_x1`, which nobody has, is reported as taken
to a newcomer and to rider 1. -/
theorem underscore_matches :
    (∀ first ∈ patternInstallation.auth.users.entries, ∀ second ∈ patternInstallation.auth.users.entries,
        first ≠ second → equalIgnoringCase Char.toLower first.2.username second.2.username = false ∧
          equalIgnoringCase Char.toLower first.2.email second.2.email = false) ∧
      ((patternInstallation.auth.users.find? 1).map fun user => (user.username, user.isBanned, user.deletedAt,
        user.passwordHash)) = some ("rider_1", false, none, some "secret") ∧
      ¬ LogsIn patternInstallation.auth "rider_1" "secret" 1 ∧
      (((register patternDeployment "new@example.com" "ride_x1" "password" none).exec patternInstallation).1 =
          .error userAlreadyExists ∧
        ¬ patternInstallation.HasUser fun _ user =>
          Registered (equalIgnoringCase Char.toLower) "new@example.com" "ride_x1" user) ∧
      ((changeUsername patternDeployment 1 "ride_x1").exec patternInstallation).1 = .error usernameTaken ∧
        ¬ patternInstallation.HasUser fun _ user =>
          Registered (equalIgnoringCase Char.toLower) "ride_x1" "ride_x1" user := by
  refine ⟨by decide +kernel, by decide +kernel, fun logsIn => ?_,
    ⟨(register_conflict_iff _ _ _ _ _).mpr (by decide +kernel), by decide +kernel⟩, by rfl, by decide +kernel⟩
  obtain ⟨tokens, ends⟩ := logsIn _ (List.Perm.refl _)
  obtain ⟨user, found⟩ := login_found ends
  have first : (firstFound patternInstallation.auth "rider_1").map Prod.fst = some 0 := by decide +kernel
  have here : firstFound patternInstallation.auth "rider_1" = some (1, user) := found
  rw [here] at first
  cases first

end Motogram.Account
