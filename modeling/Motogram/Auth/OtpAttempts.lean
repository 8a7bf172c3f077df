import Mathlib.Data.Fintype.Basic
import Motogram.Auth.Sessions
import Motogram.Foundation.Tally

/-!
# Guessing a one-time code

`verifyOtp` reads the code and its count of attempts, compares, and then counts the
attempt or marks the code as used, each in a call of its own. Calls that read the
count before the others have raised it compare as many wrong codes as there are calls
(`parallel_guesses`), and a right code read twice before it is marked is accepted
twice.

When every call that reads a code leaves room for the wrong guesses that are still to
be counted, and reads with the right code only while no other call is about to use
it, at most five wrong codes are compared and at most one call succeeds
(`otp_limits_hold`).
-/

set_option autoImplicit false

namespace Motogram.Auth

open Foundation Program Function Table State

variable {Index : Type}

/-- A call for a one-time code, or the passage of time. -/
inductive OtpCall where
  | request (phoneNumber plain : String)
  | verify (phoneNumber code : String)
  | elapse (milliseconds : Nat)

/-- What `verifyOtp` returns, when it is the call. -/
abbrev OtpFlow := Flow (Option Bool)

def otpProgram (deployment : Deployment) : OtpCall → OtpFlow
  | .request phoneNumber plain => do
    requestOtp deployment phoneNumber plain
    pure none
  | .verify phoneNumber code => do
    let phoneVerified ← verifyOtp deployment phoneNumber code
    pure (some phoneVerified)
  | .elapse milliseconds => do
    let _ : Unit ← call (.elapse milliseconds)
    pure none

def OtpCall.guess? : OtpCall → Option String
  | .verify _ code => some (jsTrim code)
  | _ => none

/-- Calls for one-time codes that share the stores. -/
def otpCalls (calls : Index → OtpCall) (s : State) :
    Pool Index AuthCall AuthReply ServiceError (Option Bool) State where
  threads := fun index => otpProgram s.deployment (calls index)
  store := s

/-! ## Guesses -/

def AuthCall.guessesWrong (bcrypt : Bcrypt) (id : OtpId) : Option AuthCall → Bool
  | some (.otpCompare other code codeHash) =>
    decide (other = id) && !bcrypt.compare code codeHash
  | _ => false

def AuthCall.counts (id : OtpId) : Option AuthCall → Bool
  | some (.otpCodeIncrementAttempts other) => decide (other = id)
  | _ => false

/-- The call compares the right code with the row, or marks the row as used. -/
def AuthCall.uses (bcrypt : Bcrypt) (id : OtpId) : Option AuthCall → Bool
  | some (.otpCompare other code codeHash) => decide (other = id) && bcrypt.compare code codeHash
  | some (.otpCodeMarkUsed other _) => decide (other = id)
  | _ => false

def AuthCall.marks (id : OtpId) : Option AuthCall → Bool
  | some (.otpCodeMarkUsed other _) => decide (other = id)
  | _ => false

abbrev OtpPool (Index : Type) := Pool Index AuthCall AuthReply ServiceError (Option Bool) State

/-- How many wrong codes a run compares with the row. -/
def wrongGuesses [DecidableEq Index] (id : OtpId) (pool : OtpPool Index) (schedule : List Index) :
    Nat :=
  (visits (Pool.advance answer) pool schedule).countP fun visit =>
    AuthCall.guessesWrong visit.1.store.deployment.bcrypt id (visit.1.next? visit.2)

/-- The call has marked the row as used in the run, and has returned. -/
def SucceedsWith [DecidableEq Index] (id : OtpId) (pool : OtpPool Index) (schedule : List Index)
    (index : Index) : Prop :=
  (∃ visit ∈ visits (Pool.advance answer) pool schedule, visit.2 = index ∧
    AuthCall.marks id (visit.1.next? index) = true) ∧
    ∃ result, (follow (Pool.advance answer) pool schedule).threads index = .done result

/-- The attempts a row has been given. -/
def State.attempts (s : State) (id : OtpId) : Nat :=
  ((s.otpCodes.find? id).map OtpCode.attemptCount).getD 0

/-- The limits of a code: with the attempts it had before, at most five wrong codes are
compared with it, and at most one call succeeds with it. -/
def WithinOtpLimits [DecidableEq Index] (id : OtpId) (pool : OtpPool Index)
    (schedule : List Index) : Prop :=
  wrongGuesses id pool schedule ≤ otpMaxAttempts - pool.store.attempts id ∧
    ∀ first second, SucceedsWith id pool schedule first →
      SucceedsWith id pool schedule second → first = second

/-- A call that reads a row that is not locked leaves room: with a wrong code, for its own
attempt after those that are counted and those that still are to be; with the right
code, no other call is about to use the row. -/
def LeavesRoom [Fintype Index] (calls : Index → OtpCall) (pool : OtpPool Index) (index : Index) :
    Prop :=
  match pool.next? index with
  | some (.otpCodeFindLatestValid phone now) =>
    ∀ found ∈ latestCode (pool.store.validCodes phone now), ∀ code ∈ (calls index).guess?,
      found.2.attemptCount < otpMaxAttempts →
        if pool.store.deployment.bcrypt.compare code found.2.codeHash then
          tally (AuthCall.uses pool.store.deployment.bcrypt found.1) pool.next? = 0
        else
          found.2.attemptCount +
              tally (AuthCall.guessesWrong pool.store.deployment.bcrypt found.1) pool.next? +
            tally (AuthCall.counts found.1) pool.next? < otpMaxAttempts
  | _ => True

instance [Fintype Index] (calls : Index → OtpCall) (pool : OtpPool Index) (index : Index) :
    Decidable (LeavesRoom calls pool index) := by
  unfold LeavesRoom
  split <;> infer_instance

/-! ## Stages -/

/-- A call that reads no code and decides nothing about one. -/
def AuthCall.OtpQuiet : AuthCall → Prop
  | .otpCodeFindLatestValid _ _ | .otpCompare _ _ _ | .otpCodeIncrementAttempts _
  | .otpCodeMarkUsed _ _ => False
  | _ => True

/-- How far a call has come. Before and after it deals with a code it is quiet. -/
inductive GuessStage where
  | quiet (program : OtpFlow)
  | clock (phone code : String)
  | find (phone code : String) (now : Time)
  | compare (id : OtpId) (phone code codeHash : String) (now : Time)
  | count (id : OtpId)
  | mark (id : OtpId) (phone : String) (now : Time)

/-- `verifyOtp` from the read of the code on. -/
def verifyAt (phone code : String) (now : Time) : Flow Bool := do
  let found : Option (OtpId × OtpCode) ← call (.otpCodeFindLatestValid phone now)
  match found with
  | none => .fail otpInvalidOrExpired
  | some (id, row) => do
    throwIf (row.attemptCount ≥ otpMaxAttempts) otpLocked
    checkOtp phone code now id row.codeHash

/-- `verifyOtp` after a wrong code. -/
def refuseOtp (id : OtpId) : Flow Bool := do
  let counted : Except PrismaError Unit ← call (.otpCodeIncrementAttempts id)
  rethrow counted
  .fail otpCodeInvalid

/-- `verifyOtp` after the right code. -/
def acceptOtp (id : OtpId) (phone : String) (now : Time) : Flow Bool := do
  let used : Except PrismaError Unit ← call (.otpCodeMarkUsed id now)
  rethrow used
  let count : Nat ← call (.userUpdateManyPhoneVerified phone now)
  pure (decide (count > 0))

def GuessStage.program : GuessStage → OtpFlow
  | .quiet program => program
  | .clock phone code => do
    let now : Time ← call .dateNow
    let phoneVerified ← verifyAt phone code now
    pure (some phoneVerified)
  | .find phone code now => verifyAt phone code now >>= fun phoneVerified => pure (some phoneVerified)
  | .compare id phone code codeHash now =>
    checkOtp phone code now id codeHash >>= fun phoneVerified => pure (some phoneVerified)
  | .count id => refuseOtp id >>= fun phoneVerified => pure (some phoneVerified)
  | .mark id phone now => acceptOtp id phone now >>= fun phoneVerified => pure (some phoneVerified)

/-- The code a call that is not quiet still guesses with. -/
def GuessStage.code? : GuessStage → Option String
  | .clock _ code => some code
  | .find _ code _ => some code
  | .compare _ _ code _ _ => some code
  | _ => none

/-- One call of a thread: the stage before it and the stage after it, in the store
that answers the call. -/
inductive GuessMoves (s : State) : GuessStage → AuthCall → GuessStage → Prop where
  | quiet {program program' : OtpFlow} {request : AuthCall} (quiet : request.OtpQuiet)
      (rest : program'.Uses AuthCall.OtpQuiet) :
      GuessMoves s (.quiet program) request (.quiet program')
  | clock {phone code : String} : GuessMoves s (.clock phone code) .dateNow (.find phone code s.now)
  | refuse {phone code : String} {now : Time} {program' : OtpFlow}
      (rest : program'.Uses AuthCall.OtpQuiet) :
      GuessMoves s (.find phone code now) (.otpCodeFindLatestValid phone now) (.quiet program')
  | read {phone code : String} {now : Time} {id : OtpId} {row : OtpCode}
      (latest : latestCode (s.validCodes phone now) = some (id, row))
      (unlocked : row.attemptCount < otpMaxAttempts) :
      GuessMoves s (.find phone code now) (.otpCodeFindLatestValid phone now)
        (.compare id phone code row.codeHash now)
  | wrong {id : OtpId} {phone code codeHash : String} {now : Time}
      (wrong : s.deployment.bcrypt.compare code codeHash = false) :
      GuessMoves s (.compare id phone code codeHash now) (.otpCompare id code codeHash) (.count id)
  | right {id : OtpId} {phone code codeHash : String} {now : Time}
      (right : s.deployment.bcrypt.compare code codeHash = true) :
      GuessMoves s (.compare id phone code codeHash now) (.otpCompare id code codeHash)
        (.mark id phone now)
  | count {id : OtpId} {program' : OtpFlow} (rest : program'.Uses AuthCall.OtpQuiet) :
      GuessMoves s (.count id) (.otpCodeIncrementAttempts id) (.quiet program')
  | mark {id : OtpId} {phone : String} {now : Time} {program' : OtpFlow}
      (rest : program'.Uses AuthCall.OtpQuiet) :
      GuessMoves s (.mark id phone now) (.otpCodeMarkUsed id now) (.quiet program')

/-- **A call makes the moves of its stages.** -/
theorem guess_follows (stage : GuessStage) (s : State)
    (quiet : ∀ program, stage = .quiet program → program.Uses AuthCall.OtpQuiet) :
    Follows answer GuessStage.program GuessMoves stage s := by
  cases stage with
  | quiet program =>
    cases program with
    | done | fail => exact .inl rfl
    | call request next =>
      obtain ⟨permitted, rest⟩ := quiet _ rfl
      exact .inr ⟨request, next, .quiet _, rfl, .quiet permitted (rest _), rfl⟩
  | clock phone code => exact .inr ⟨_, _, _, rfl, .clock, rfl⟩
  | find phone code now =>
    cases latest : latestCode (s.validCodes phone now) with
    | none =>
      refine .inr ⟨_, _, .quiet (.fail otpInvalidOrExpired), rfl, .refuse trivial, ?_⟩
      simp only [answer, latest]
      rfl
    | some found =>
      obtain ⟨id, row⟩ := found
      by_cases locked : row.attemptCount ≥ otpMaxAttempts
      · refine .inr ⟨_, _, .quiet (.fail otpLocked), rfl, .refuse trivial, ?_⟩
        simp only [answer, latest, Program.bind, throwIf, if_pos locked]
        rfl
      · refine .inr ⟨_, _, .compare id phone code row.codeHash now, rfl,
          .read latest (Nat.lt_of_not_le locked), ?_⟩
        simp only [answer, latest, Program.bind, throwIf, if_neg locked]
        rfl
  | compare id phone code codeHash now =>
    cases right : s.deployment.bcrypt.compare code codeHash with
    | false =>
      refine .inr ⟨_, _, .count id, rfl, .wrong right, ?_⟩
      simp only [answer, right]
      rfl
    | true =>
      refine .inr ⟨_, _, .mark id phone now, rfl, .right right, ?_⟩
      simp only [answer, right]
      rfl
  | count id =>
    refine .inr ⟨_, _, .quiet _, rfl, .count ?_, rfl⟩
    cases (answer (.otpCodeIncrementAttempts id) s).1 <;> trivial
  | mark id phone now =>
    refine .inr ⟨_, _, .quiet _, rfl, .mark ?_, rfl⟩
    cases (answer (.otpCodeMarkUsed id now) s).1 with
    | error error => trivial
    | ok _ => exact ⟨trivial, fun _ => trivial⟩

/-- A request neither reads a code to verify it nor decides anything about one. -/
theorem requestOtp_uses (deployment : Deployment) (phoneNumber plain : String) :
    (requestOtp deployment phoneNumber plain).Uses AuthCall.OtpQuiet := by
  have sends : (sendOtp (jsTrim phoneNumber) plain).Uses AuthCall.OtpQuiet :=
    ⟨trivial, fun _ => ⟨trivial, fun _ => ⟨trivial, fun _ => ⟨trivial, fun _ => ⟨trivial,
      fun _ => trivial⟩⟩⟩⟩⟩
  refine (uses_throwIf _ _).bind fun _ => ⟨trivial, fun user => ?_⟩
  cases user with
  | none => trivial
  | some _ =>
    refine ⟨trivial, fun latest => ?_⟩
    cases latest with
    | none => exact sends
    | some entry => exact ⟨trivial, fun now => (uses_throwIf _ _).bind fun _ => sends⟩

theorem otpProgram_starts (deployment : Deployment) (request : OtpCall) :
    ∃ stage : GuessStage, stage.program = otpProgram deployment request ∧
      ((∃ program, stage = .quiet program) ∨ ∃ phone code, stage = .clock phone code) ∧
      (∀ program, stage = .quiet program → program.Uses AuthCall.OtpQuiet) ∧
        ∀ code, stage.code? = some code → request.guess? = some code := by
  cases request with
  | request phoneNumber plain =>
    refine ⟨.quiet _, rfl, .inl ⟨_, rfl⟩, fun program same => ?_, fun _ => by rintro ⟨⟩⟩
    cases same
    exact (requestOtp_uses deployment phoneNumber plain).bind fun _ => trivial
  | verify phoneNumber code =>
    by_cases off : deployment.otpAuthEnabled = false
    · refine ⟨.quiet (.fail otpDisabled), ?_, .inl ⟨_, rfl⟩, fun program same => ?_, fun _ => by rintro ⟨⟩⟩
      · rw [otpProgram, verifyOtp, assertOtpEnabled, throwIf, if_pos off]
        rfl
      · cases same
        trivial
    · refine ⟨.clock (jsTrim phoneNumber) (jsTrim code), ?_, .inr ⟨_, _, rfl⟩,
        fun program => by rintro ⟨⟩, fun _ => id⟩
      rw [otpProgram, verifyOtp, assertOtpEnabled, throwIf, if_neg off]
      rfl
  | elapse milliseconds =>
    refine ⟨.quiet _, rfl, .inl ⟨_, rfl⟩, fun program same => ?_, fun _ => by rintro ⟨⟩⟩
    cases same
    exact ⟨trivial, fun _ => trivial⟩

/-! ## What a call does to the codes -/

theorem row_answer (request : AuthCall) {s : State} {id : OtpId} {row : OtpCode}
    (found : s.otpCodes.find? id = some row) :
    ∃ row', (answer request s).2.otpCodes.find? id = some row' ∧
      row'.attemptCount = row.attemptCount + (AuthCall.counts id (some request)).toNat ∧
        (row.usedAt.isSome ∨ AuthCall.marks id (some request) = true → row'.usedAt.isSome) := by
  have same : ∃ row', s.otpCodes.find? id = some row' ∧ row'.attemptCount = row.attemptCount + 0 ∧
      (row.usedAt.isSome ∨ false = true → row'.usedAt.isSome) :=
    ⟨row, found, rfl, fun either => either.elim (fun used => used) fun no => by cases no⟩
  cases request with
  | otpCodeInvalidate phone =>
    simp only [answer, withOtpCodes_otpCodes, find?_modifyWhere, found,
      Option.map_some]
    refine ⟨_, rfl, ?_, fun either => ?_⟩
    · split <;> rfl
    · split
      · rfl
      · exact either.elim (fun used => used) fun no => by cases no
  | otpCodeCreate phone codeHash expiresAt =>
    have kept : ((s.otpCodes.insert s.fresh (newOtpCode s.now phone codeHash expiresAt)).find? id) =
        some row := by
      rw [find?_insert, if_neg, found]
      rintro ⟨rfl, free⟩
      rw [found] at free
      cases free
    exact ⟨row, kept, rfl, fun either => either.elim (fun used => used) fun no => by cases no⟩
  | otpCodeIncrementAttempts other =>
    by_cases here : other = id
    · subst here
      simp only [answer, found, withOtpCodes_otpCodes, find?_modify_self,
        Option.map_some, AuthCall.counts, decide_true]
      exact ⟨_, rfl, rfl, fun either => either.elim (fun used => used) fun no => by cases no⟩
    · simp only [answer, AuthCall.counts, decide_eq_false here]
      split
      · exact same
      · rw [withOtpCodes_otpCodes, find?_modify_of_ne _ (Ne.symm here)]
        exact same
  | otpCodeMarkUsed other at' =>
    by_cases here : other = id
    · subst here
      simp only [answer, found, withOtpCodes_otpCodes, find?_modify_self,
        Option.map_some]
      exact ⟨_, rfl, rfl, fun _ => rfl⟩
    · simp only [answer, AuthCall.marks, decide_eq_false here]
      split
      · exact same
      · rw [withOtpCodes_otpCodes, find?_modify_of_ne _ (Ne.symm here)]
        exact same
  | userUpdateLastSeen _ | userUpdatePasswordHash _ _ | resetPasswordTransaction _ _ _ =>
    simp only [answer]
    split <;> exact same
  | emailChangeTransaction id userId email =>
    simp only [answer]
    split
    · exact same
    · split <;> exact same
  | _ => exact same

theorem row_of_latest {s : State} {phone : String} {now : Time} {id : OtpId} {row : OtpCode}
    (latest : latestCode (s.validCodes phone now) = some (id, row)) :
    s.otpCodes.find? id = some row ∧ row.usedAt = none := by
  have listed : (id, row) ∈ s.validCodes phone now := by
    have sorted := List.mem_of_head? latest
    exact (List.mem_insertionSort _).mp sorted
  obtain ⟨found, test⟩ := mem_select.mp listed
  simp only [Bool.and_eq_true, Option.isNone_iff_eq_none] at test
  exact ⟨found, test.1.2⟩

/-! ## What a move does to the counts -/

def GuessStage.next? (stage : GuessStage) : Option AuthCall := stage.program.next?

theorem quiet_counts {program : OtpFlow} (quiet : program.Uses AuthCall.OtpQuiet) (bcrypt : Bcrypt)
    (id : OtpId) : AuthCall.guessesWrong bcrypt id program.next? = false ∧
      AuthCall.counts id program.next? = false ∧ AuthCall.uses bcrypt id program.next? = false := by
  cases program with
  | done | fail => exact ⟨rfl, rfl, rfl⟩
  | call request next =>
    have permitted := quiet.1
    cases request with
    | otpCompare | otpCodeIncrementAttempts | otpCodeMarkUsed => cases permitted
    | _ => exact ⟨rfl, rfl, rfl⟩

section Moves

variable {s : State} {stage stage' : GuessStage} {request : AuthCall}

theorem GuessMoves.counted (moves : GuessMoves s stage request stage') {id : OtpId}
    (wrong : AuthCall.guessesWrong s.deployment.bcrypt id (some request) = true) :
    AuthCall.counts id stage'.next? = true := by
  cases moves with
  | quiet quiet rest =>
    cases request with
    | otpCompare => cases quiet
    | _ => cases wrong
  | right right => simp [AuthCall.guessesWrong, right] at wrong
  | wrong _ =>
    simp only [AuthCall.guessesWrong, Bool.and_eq_true, decide_eq_true_eq] at wrong
    exact decide_eq_true wrong.1
  | clock | refuse | read | count | mark => cases wrong

theorem GuessMoves.guessed (moves : GuessMoves s stage request stage') {id : OtpId}
    (counts : AuthCall.counts id stage'.next? = true) :
    AuthCall.guessesWrong s.deployment.bcrypt id (some request) = true := by
  cases moves with
  | wrong wrong =>
    simp only [AuthCall.guessesWrong, wrong, Bool.not_false, Bool.and_true]
    exact counts
  | quiet _ rest | refuse rest | count rest | mark rest =>
    rw [GuessStage.next?, GuessStage.program, (quiet_counts rest s.deployment.bcrypt id).2.1] at counts
    cases counts
  | clock | read | right => cases counts

/-- A thread that is about to guess has read a row that is not locked. -/
theorem GuessMoves.guesses (moves : GuessMoves s stage request stage') {id : OtpId}
    (wrong : AuthCall.guessesWrong s.deployment.bcrypt id stage'.next? = true) :
    ∃ phone code now row, stage = .find phone code now ∧
      request = .otpCodeFindLatestValid phone now ∧
        latestCode (s.validCodes phone now) = some (id, row) ∧
          row.attemptCount < otpMaxAttempts ∧
            s.deployment.bcrypt.compare code row.codeHash = false := by
  cases moves with
  | @read phone code now other row latest unlocked =>
    have both : decide (other = id) && !s.deployment.bcrypt.compare code row.codeHash := wrong
    simp only [Bool.and_eq_true, decide_eq_true_eq, Bool.not_eq_true'] at both
    obtain ⟨rfl, refused⟩ := both
    exact ⟨phone, code, now, row, rfl, rfl, latest, unlocked, refused⟩
  | quiet _ rest | refuse rest | count rest | mark rest =>
    rw [GuessStage.next?, GuessStage.program, (quiet_counts rest s.deployment.bcrypt id).1] at wrong
    cases wrong
  | clock | wrong | right => cases wrong

/-- A thread that is about to use a row has just read it, or is about to mark it after
the comparison. -/
theorem GuessMoves.uses (moves : GuessMoves s stage request stage') {id : OtpId}
    (uses : AuthCall.uses s.deployment.bcrypt id stage'.next? = true) :
    (AuthCall.uses s.deployment.bcrypt id (some request) = true ∧
        AuthCall.marks id (some request) = false) ∨
      ∃ phone code now row, stage = .find phone code now ∧
        request = .otpCodeFindLatestValid phone now ∧
          latestCode (s.validCodes phone now) = some (id, row) ∧
            row.attemptCount < otpMaxAttempts ∧
              s.deployment.bcrypt.compare code row.codeHash = true := by
  cases moves with
  | @read phone code now other row latest unlocked =>
    have both : decide (other = id) && s.deployment.bcrypt.compare code row.codeHash := uses
    simp only [Bool.and_eq_true, decide_eq_true_eq] at both
    obtain ⟨rfl, right⟩ := both
    exact .inr ⟨phone, code, now, row, rfl, rfl, latest, unlocked, right⟩
  | right right =>
    refine .inl ⟨?_, rfl⟩
    simp only [AuthCall.uses, right, Bool.and_true]
    exact uses
  | quiet _ rest | refuse rest | count rest | mark rest =>
    rw [GuessStage.next?, GuessStage.program, (quiet_counts rest s.deployment.bcrypt id).2.2] at uses
    cases uses
  | clock | wrong => cases uses

theorem GuessMoves.quiet_stays (moves : GuessMoves s stage request stage') {program : OtpFlow}
    (quiet : stage' = .quiet program) : program.Uses AuthCall.OtpQuiet := by
  cases moves with
  | quiet _ rest | refuse rest | count rest | mark rest =>
    cases quiet
    exact rest
  | clock | read | wrong | right => cases quiet

theorem GuessMoves.code (moves : GuessMoves s stage request stage') {code : String}
    (guesses : stage'.code? = some code) : stage.code? = some code := by
  cases moves with
  | clock | read => exact guesses
  | quiet | refuse | wrong | right | count | mark => cases guesses

end Moves

theorem uses_of_marks {bcrypt : Bcrypt} {id : OtpId} {request : Option AuthCall}
    (marks : AuthCall.marks id request = true) : AuthCall.uses bcrypt id request = true := by
  cases request with
  | none => cases marks
  | some request =>
    cases request with
    | otpCodeMarkUsed => exact marks
    | _ => cases marks

/-! ## The invariants -/

section Invariants

variable [Fintype Index] [DecidableEq Index] {calls : Index → OtpCall} {id : OtpId}
  {stages : Index → GuessStage} {pool : OtpPool Index} {index : Index} {request : AuthCall}
  {stage' : GuessStage}

/-- The calls the threads send next. -/
def nextCalls (stages : Index → GuessStage) (index : Index) : Option AuthCall :=
  (stages index).next?

omit [Fintype Index] in
theorem nextCalls_update :
    nextCalls (update stages index stage') = update (nextCalls stages) index stage'.next? := by
  funext other
  by_cases same : other = index
  · subst same
    simp only [nextCalls, update_self]
  · simp only [nextCalls, update_of_ne same]

/-- Every thread is where its call can be, and the code a thread deals with is stored. -/
structure Guessing (calls : Index → OtpCall) (stages : Index → GuessStage) (s : State) : Prop where
  quiet : ∀ index program, stages index = .quiet program → program.Uses AuthCall.OtpQuiet
  code : ∀ index code, (stages index).code? = some code → (calls index).guess? = some code
  stored : ∀ index id, AuthCall.guessesWrong s.deployment.bcrypt id (nextCalls stages index) = true ∨
    AuthCall.counts id (nextCalls stages index) = true ∨
      AuthCall.uses s.deployment.bcrypt id (nextCalls stages index) = true →
        (s.otpCodes.find? id).isSome

/-- What counts against the limit of wrong guesses: those that were made are counted at
the row or are about to be, and with those that are about to be made there are at most
five. -/
structure Roomy (id : OtpId) (before wrong : Nat) (stages : Index → GuessStage) (s : State) :
    Prop where
  counted : ∀ row, s.otpCodes.find? id = some row →
    wrong + before ≤ row.attemptCount + tally (AuthCall.counts id) (nextCalls stages)
  absent : s.otpCodes.find? id = none → wrong = 0 ∧ before = 0
  limit : wrong + tally (AuthCall.guessesWrong s.deployment.bcrypt id) (nextCalls stages) ≤
    otpMaxAttempts - before

/-- What counts against the single use: the row is marked as used by one call at most, or
one call is about to. -/
structure UsedOnce (id : OtpId) (marked : Nat) (stages : Index → GuessStage) (s : State) : Prop where
  single : marked + tally (AuthCall.uses s.deployment.bcrypt id) (nextCalls stages) ≤ 1
  used : marked = 0 ∨ ∃ row, s.otpCodes.find? id = some row ∧ row.usedAt.isSome

omit [Fintype Index] [DecidableEq Index] in
theorem nextCalls_of_staged (staged : pool.InStages (fun _ => GuessStage.program) stages) :
    pool.next? = nextCalls stages :=
  funext fun index => staged.next? index

omit [Fintype Index] in
theorem Guessing.advance {s : State} (guessing : Guessing calls stages s)
    (asked : nextCalls stages index = some request) (moves : GuessMoves s (stages index) request stage') :
    Guessing calls (update stages index stage') (answer request s).2 where
  quiet := by
    intro other program quiet
    obtain ⟨rfl, quiet'⟩ | ⟨-, quiet'⟩ := eq_of_update quiet
    · exact moves.quiet_stays quiet'
    · exact guessing.quiet other program quiet'
  code := by
    intro other code guesses
    by_cases same : other = index
    · subst same
      rw [update_self] at guesses
      exact guessing.code other code (moves.code guesses)
    · rw [update_of_ne same] at guesses
      exact guessing.code other code guesses
  stored := by
    intro other id deals
    have kept : (s.otpCodes.find? id).isSome → ((answer request s).2.otpCodes.find? id).isSome := by
      intro stored
      obtain ⟨row, found⟩ := Option.isSome_iff_exists.mp stored
      obtain ⟨row', found', -⟩ := row_answer request found
      rw [found']
      rfl
    rw [(answer_steady request s).deployment, nextCalls_update] at deals
    refine kept ?_
    by_cases same : other = index
    · subst same
      rw [update_self] at deals
      obtain wrong | counts | uses := deals
      · obtain ⟨phone, code, now, row, -, -, latest, -⟩ := moves.guesses wrong
        rw [(row_of_latest latest).1]
        rfl
      · have wrong := moves.guessed counts
        rw [← asked] at wrong
        exact guessing.stored other id (.inl wrong)
      · obtain ⟨uses, -⟩ | ⟨phone, code, now, row, -, -, latest, -⟩ := moves.uses uses
        · rw [← asked] at uses
          exact guessing.stored other id (.inr (.inr uses))
        · rw [(row_of_latest latest).1]
          rfl
    · rw [update_of_ne same] at deals
      exact guessing.stored other id deals

omit [DecidableEq Index] in
theorem LeavesRoom.at_read (leaves : LeavesRoom calls pool index)
    (staged : pool.InStages (fun _ => GuessStage.program) stages)
    (guessing : Guessing calls stages pool.store)
    {phone code : String} {now : Time} {row : OtpCode} (here : stages index = .find phone code now)
    (asked : nextCalls stages index = some (.otpCodeFindLatestValid phone now))
    (latest : latestCode (pool.store.validCodes phone now) = some (id, row))
    (unlocked : row.attemptCount < otpMaxAttempts) :
    if pool.store.deployment.bcrypt.compare code row.codeHash then
      tally (AuthCall.uses pool.store.deployment.bcrypt id) (nextCalls stages) = 0
    else
      row.attemptCount + tally (AuthCall.guessesWrong pool.store.deployment.bcrypt id)
        (nextCalls stages) + tally (AuthCall.counts id) (nextCalls stages) < otpMaxAttempts := by
  have guess : (calls index).guess? = some code := guessing.code index code (by rw [here]; rfl)
  rw [LeavesRoom, nextCalls_of_staged staged, asked] at leaves
  exact leaves (id, row) latest code guess unlocked

theorem Roomy.advance {before wrong : Nat} (roomy : Roomy id before wrong stages pool.store)
    (guessing : Guessing calls stages pool.store)
    (staged : pool.InStages (fun _ => GuessStage.program) stages)
    (leaves : LeavesRoom calls pool index) (asked : nextCalls stages index = some request)
    (moves : GuessMoves pool.store (stages index) request stage') :
    Roomy id before
      (wrong + (AuthCall.guessesWrong pool.store.deployment.bcrypt id (some request)).toNat)
      (update stages index stage') (answer request pool.store).2 := by
  have guesses := tally_update (AuthCall.guessesWrong pool.store.deployment.bcrypt id)
    (nextCalls stages) index stage'.next?
  have counts := tally_update (AuthCall.counts id) (nextCalls stages) index stage'.next?
  rw [asked] at guesses counts
  have pending : (AuthCall.guessesWrong pool.store.deployment.bcrypt id (some request)).toNat ≤
      (AuthCall.counts id stage'.next?).toNat :=
    Bool.toNat_le_toNat moves.counted
  -- a row that is not there is not guessed
  have unread : pool.store.otpCodes.find? id = none →
      AuthCall.guessesWrong pool.store.deployment.bcrypt id (some request) = false := by
    intro absent
    rw [← Bool.not_eq_true]
    intro wrong
    rw [← asked] at wrong
    have stored := guessing.stored index id (.inl wrong)
    rw [absent] at stored
    cases stored
  refine ⟨fun row' found' => ?_, fun absent' => ?_, ?_⟩
  · rw [nextCalls_update]
    cases found : pool.store.otpCodes.find? id with
    | none =>
      obtain ⟨rfl, rfl⟩ := roomy.absent found
      rw [unread found]
      exact Nat.zero_le _
    | some row =>
      obtain ⟨kept, same, attempts, -⟩ := row_answer request found
      cases same.symm.trans found'
      have enough := roomy.counted row found
      omega
  · cases found : pool.store.otpCodes.find? id with
    | none =>
      obtain ⟨none_wrong, none_before⟩ := roomy.absent found
      rw [unread found, none_wrong]
      exact ⟨rfl, none_before⟩
    | some row =>
      obtain ⟨kept, same, -⟩ := row_answer request found
      cases same.symm.trans absent'
  · rw [(answer_steady request pool.store).deployment, nextCalls_update]
    have limit := roomy.limit
    cases guess : AuthCall.guessesWrong pool.store.deployment.bcrypt id stage'.next? with
    | false =>
      rw [guess, Bool.toNat_false] at guesses
      omega
    | true =>
      obtain ⟨phone, code, now, row, here, rfl, latest, unlocked, refused⟩ := moves.guesses guess
      have room := leaves.at_read staged guessing here asked latest unlocked
      rw [if_neg (by simp [refused])] at room
      have enough := roomy.counted row (row_of_latest latest).1
      have silent : AuthCall.guessesWrong pool.store.deployment.bcrypt id
          (some (.otpCodeFindLatestValid phone now)) = false := rfl
      rw [guess, silent, Bool.toNat_true] at guesses
      rw [silent]
      omega

theorem UsedOnce.advance {marked : Nat} (once : UsedOnce id marked stages pool.store)
    (guessing : Guessing calls stages pool.store)
    (staged : pool.InStages (fun _ => GuessStage.program) stages)
    (leaves : LeavesRoom calls pool index) (asked : nextCalls stages index = some request)
    (moves : GuessMoves pool.store (stages index) request stage') :
    UsedOnce id (marked + (AuthCall.marks id (some request)).toNat)
      (update stages index stage') (answer request pool.store).2 := by
  have uses := tally_update (AuthCall.uses pool.store.deployment.bcrypt id)
    (nextCalls stages) index stage'.next?
  rw [asked] at uses
  have single := once.single
  have marksUse : (AuthCall.marks id (some request)).toNat ≤
      (AuthCall.uses pool.store.deployment.bcrypt id (some request)).toNat :=
    Bool.toNat_le_toNat uses_of_marks
  refine ⟨?_, ?_⟩
  · rw [(answer_steady request pool.store).deployment, nextCalls_update]
    cases used : AuthCall.uses pool.store.deployment.bcrypt id stage'.next? with
    | false =>
      rw [used, Bool.toNat_false] at uses
      omega
    | true =>
      obtain ⟨compared, unmarked⟩ | ⟨phone, code, now, row, here, rfl, latest, unlocked, right⟩ :=
        moves.uses used
      · rw [used, compared] at uses
        rw [unmarked, Bool.toNat_false]
        omega
      · have room := leaves.at_read staged guessing here asked latest unlocked
        rw [if_pos right] at room
        obtain ⟨found, unused⟩ := row_of_latest latest
        -- a row that is read as unused has been marked by nobody
        have fresh : marked = 0 := by
          obtain none | ⟨row', found', isUsed⟩ := once.used
          · exact none
          · cases found.symm.trans found'
            rw [unused] at isUsed
            cases isUsed
        have silent : AuthCall.uses pool.store.deployment.bcrypt id
            (some (.otpCodeFindLatestValid phone now)) = false := rfl
        have unmarked : AuthCall.marks id (some (.otpCodeFindLatestValid phone now)) = false := rfl
        rw [used, silent, Bool.toNat_true] at uses
        rw [unmarked]
        omega
  · have kept : ∀ row, pool.store.otpCodes.find? id = some row →
        row.usedAt.isSome ∨ AuthCall.marks id (some request) = true →
          ∃ row', (answer request pool.store).2.otpCodes.find? id = some row' ∧
            row'.usedAt.isSome := by
      intro row found either
      obtain ⟨row', found', -, stays⟩ := row_answer request found
      exact ⟨row', found', stays either⟩
    cases marks : AuthCall.marks id (some request) with
    | true =>
      have use : AuthCall.uses pool.store.deployment.bcrypt id (some request) = true :=
        uses_of_marks marks
      rw [← asked] at use
      have stored := guessing.stored index id (.inr (.inr use))
      obtain ⟨row, found⟩ := Option.isSome_iff_exists.mp stored
      exact .inr (kept row found (.inr marks))
    | false =>
      obtain none | ⟨row, found, isUsed⟩ := once.used
      · exact .inl none
      · exact .inr (kept row found (.inl isUsed))

/-- **A bound that the stages carry** holds of the calls that a run makes under the
condition. -/
theorem calls_le {sound : Nat → (Index → GuessStage) → State → Prop} {bound : Nat}
    (test : State → Option AuthCall → Bool) (silent : ∀ s, test s none = false)
    (keeps : ∀ count (pool : OtpPool Index) stages index request stage',
      sound count stages pool.store → Guessing calls stages pool.store →
        pool.InStages (fun _ => GuessStage.program) stages → LeavesRoom calls pool index →
          nextCalls stages index = some request →
            GuessMoves pool.store (stages index) request stage' →
              sound (count + (test pool.store (some request)).toNat)
                (update stages index stage') (answer request pool.store).2)
    (gives : ∀ count stages s, sound count stages s → count ≤ bound)
    (staged : pool.InStages (fun _ => GuessStage.program) stages)
    (guessing : Guessing calls stages pool.store) (initially : sound 0 stages pool.store)
    {schedule : List Index} (steps : EachStep (Pool.advance answer) (LeavesRoom calls) pool schedule) :
    (visits (Pool.advance answer) pool schedule).countP
      (fun visit => test visit.1.store (visit.1.next? visit.2)) ≤ bound := by
  let invariant (count : Nat) (pool : OtpPool Index) : Prop :=
    pool.Described (fun _ => GuessStage.program) fun stages s => Guessing calls stages s ∧ sound count stages s
  have start : invariant 0 pool := ⟨stages, staged, guessing, initially⟩
  rw [← Nat.zero_add (List.countP _ _)]
  refine countP_visits_le invariant (fun visit => test visit.1.store (visit.1.next? visit.2))
    (fun count pool index held leaves => ?_) (fun count pool held => ?_) start steps
  · obtain ⟨stages, staged, guessing, held⟩ := held
    have follows := guess_follows (stages index) pool.store (guessing.quiet index)
    obtain ⟨silence, same⟩ | ⟨request, stage', asked, moves, store, staged'⟩ :=
      staged.advance (fun _ => GuessMoves) follows
    · rw [same, silence, silent]
      exact ⟨stages, staged, guessing, held⟩
    · have sends : nextCalls stages index = some request := by
        rw [← nextCalls_of_staged staged, asked]
      refine ⟨_, staged', ?_⟩
      rw [store, asked]
      exact ⟨guessing.advance sends moves, keeps count pool stages index request stage' held guessing
        staged leaves sends moves⟩
  · obtain ⟨stages, -, -, held⟩ := held
    exact gives count stages pool.store held

end Invariants

/-! ## The limits hold -/

section Limits

variable [Fintype Index] [DecidableEq Index]

omit [DecidableEq Index] in
/-- Before they have run, the calls are quiet or about to look at the clock. -/
theorem otpCalls_starts (calls : Index → OtpCall) (s : State) :
    ∃ stages, (otpCalls calls s).InStages (fun _ => GuessStage.program) stages ∧
      Guessing calls stages s ∧ ∀ bcrypt id,
        tally (AuthCall.guessesWrong bcrypt id) (nextCalls stages) = 0 ∧
          tally (AuthCall.uses bcrypt id) (nextCalls stages) = 0 := by
  choose stages programs early quiet codes using
    fun index => otpProgram_starts s.deployment (calls index)
  have silent : ∀ index bcrypt id, AuthCall.guessesWrong bcrypt id (nextCalls stages index) = false ∧
      AuthCall.counts id (nextCalls stages index) = false ∧
        AuthCall.uses bcrypt id (nextCalls stages index) = false := by
    intro index bcrypt id
    rw [nextCalls, GuessStage.next?]
    obtain ⟨program, here⟩ | ⟨phone, code, here⟩ := early index
    · rw [here]
      exact quiet_counts (quiet index program here) bcrypt id
    · rw [here]
      exact ⟨rfl, rfl, rfl⟩
  refine ⟨stages, fun index => (programs index).symm, ⟨quiet, codes, fun index id deals => ?_⟩,
    fun bcrypt id => ⟨tally_eq_zero fun index => (silent index bcrypt id).1,
      tally_eq_zero fun index => (silent index bcrypt id).2.2⟩⟩
  obtain ⟨no_guess, no_count, no_use⟩ := silent index s.deployment.bcrypt id
  simp [no_guess, no_count, no_use] at deals

theorem Guessing.wrongGuesses_le {calls : Index → OtpCall} {id : OtpId}
    {stages : Index → GuessStage} {pool : OtpPool Index} (guessing : Guessing calls stages pool.store)
    (staged : pool.InStages (fun _ => GuessStage.program) stages)
    (none : tally (AuthCall.guessesWrong pool.store.deployment.bcrypt id) (nextCalls stages) = 0)
    {schedule : List Index} (steps : EachStep (Pool.advance answer) (LeavesRoom calls) pool schedule) :
    wrongGuesses id pool schedule ≤ otpMaxAttempts - pool.store.attempts id := by
  refine calls_le (fun s request => AuthCall.guessesWrong s.deployment.bcrypt id request)
    (fun _ => rfl) (fun wrong pool stages index request stage' roomy guessing staged leaves asked moves =>
      roomy.advance guessing staged leaves asked moves) (fun wrong stages s roomy => ?_) staged guessing
    (?_ : Roomy id (pool.store.attempts id) 0 stages pool.store) steps
  · exact (Nat.le_add_right _ _).trans roomy.limit
  · refine ⟨fun row found => ?_, fun absent => ⟨rfl, ?_⟩, ?_⟩
    · rw [attempts, found, Option.map_some, Option.getD_some]
      omega
    · rw [attempts, absent, Option.map_none, Option.getD_none]
    · rw [none]
      exact Nat.zero_le _

theorem Guessing.marks_le {calls : Index → OtpCall} {id : OtpId}
    {stages : Index → GuessStage} {pool : OtpPool Index} (guessing : Guessing calls stages pool.store)
    (staged : pool.InStages (fun _ => GuessStage.program) stages)
    (none : tally (AuthCall.uses pool.store.deployment.bcrypt id) (nextCalls stages) = 0)
    {schedule : List Index} (steps : EachStep (Pool.advance answer) (LeavesRoom calls) pool schedule) :
    (visits (Pool.advance answer) pool schedule).countP
      (fun visit => AuthCall.marks id (visit.1.next? visit.2)) ≤ 1 := by
  refine calls_le (fun _ request => AuthCall.marks id request)
    (fun _ => rfl) (fun marked pool stages index request stage' once guessing staged leaves asked moves =>
      once.advance guessing staged leaves asked moves) (fun marked stages s once => ?_) staged guessing
    (⟨?_, .inl rfl⟩ : UsedOnce id 0 stages pool.store) steps
  · exact (Nat.le_add_right _ _).trans once.single
  · rw [none]
    exact Nat.zero_le _

/-- **When every call leaves room, the limits of every code hold**: at most five wrong
codes are compared with it, and at most one call succeeds with it. -/
theorem otp_limits_hold (calls : Index → OtpCall) (id : OtpId) (s : State) (schedule : List Index)
    (steps : EachStep (Pool.advance answer) (LeavesRoom calls) (otpCalls calls s) schedule) :
    WithinOtpLimits id (otpCalls calls s) schedule := by
  obtain ⟨stages, staged, guessing, none⟩ := otpCalls_starts calls s
  obtain ⟨no_guess, no_use⟩ := none s.deployment.bcrypt id
  refine ⟨guessing.wrongGuesses_le staged no_guess steps, ?_⟩
  rintro first second ⟨⟨one, visited, rfl, marks⟩, -⟩ ⟨⟨two, visited', rfl, marks'⟩, -⟩
  by_contra different
  have apart : one ≠ two := fun same => different (congrArg Prod.snd same)
  have twice : 2 ≤ (visits (Pool.advance answer) (otpCalls calls s) schedule).countP
      fun visit => AuthCall.marks id (visit.1.next? visit.2) :=
    two_le_countP apart visited visited' marks marks'
  exact absurd (twice.trans (guessing.marks_le staged no_use steps)) (by decide)

end Limits

/-! ## Parallel guesses -/

/-- A code was sent to rider 1. -/
def codeSent : State :=
  ((requestOtp smallDeployment "+905550000001" "111111").exec smallInstallation).2

def sixGuesses (_ : Fin 6) : OtpCall := .verify "+905550000001" "000000"

/-- One after the other. -/
def inTurn : List (Fin 6) := (List.finRange 6).flatMap fun index => List.replicate 4 index

/-- All read the code before any counts its attempt. -/
def inParallel : List (Fin 6) := (List.replicate 4 (List.finRange 6)).flatten

theorem otp_limits_hold_small :
    EachStep (Pool.advance answer) (LeavesRoom sixGuesses) (otpCalls sixGuesses codeSent) inTurn ∧
      WithinOtpLimits 1 (otpCalls sixGuesses codeSent) inTurn := by
  have steps : EachStep (Pool.advance answer) (LeavesRoom sixGuesses)
      (otpCalls sixGuesses codeSent) inTurn := by
    decide +kernel
  exact ⟨steps, otp_limits_hold sixGuesses 1 codeSent inTurn steps⟩

/-- Six wrong codes are compared. -/
theorem parallel_guesses : ¬ WithinOtpLimits 1 (otpCalls sixGuesses codeSent) inParallel := by
  intro within
  exact absurd within.1 (by decide +kernel)

end Motogram.Auth
