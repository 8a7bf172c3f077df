import Motogram.Social.Counters

/-!
# Removals that meet

Whether a comment or a post is deleted already is read before the transaction that marks it. Of
two removals that both read it unmarked, the second waits for the first and then marks the row
once more, and both take it out of the counter (`removed_twice`). A like or a view that is there
twice is refused by its primary key, and one that is gone by the missing row.

In every interleaving the counters agree with the rows in the end exactly when no removal marked
a row that was marked already (`counters_hold_iff`).
-/

set_option autoImplicit false

namespace Motogram.Social

open Foundation Function

variable {Index : Type}

/-! ## The calls of the users -/

inductive CountingOp where
  | like (userId : UserId) (postId : PostId)
  | unlike (userId : UserId) (postId : PostId)
  | createComment (userId : UserId) (postId : PostId) (id : CommentId)
  | removeComment (userId : UserId) (id : CommentId)
  | createPost (userId : UserId) (id : PostId)
  | removePost (userId : UserId) (id : PostId)
  | recordView (storyId : StoryId) (viewerId : UserId)
  | elapse (milliseconds : Nat)

/-- The service function of a call, which opens at most the transaction of its name. -/
def CountingOp.run (tx : Index) : CountingOp → CountingFlow Index Unit
  | .like userId postId => do
    let _ ← Social.like tx userId postId
    pure ()
  | .unlike userId postId => do
    let _ ← Social.unlike tx userId postId
    pure ()
  | .createComment userId postId id => do
    let _ ← Social.createComment tx userId postId id
    pure ()
  | .removeComment userId id => Social.removeComment tx userId id
  | .createPost userId id => do
    let _ ← Social.createPost tx userId id
    pure ()
  | .removePost userId id => Social.removePost tx userId id
  | .recordView storyId viewerId => Social.recordView tx storyId viewerId
  | .elapse milliseconds => countingCall (.elapse milliseconds)

/-! ## A row, its counter and the commit -/

/-- The commit, and what follows it. -/
def committing (tx : Index) (rest : CountingFlow Index Unit) : CountingFlow Index Unit :=
  .call (.commit tx) fun _ => rest

/-- The counter, the commit, and what follows. -/
def Entry.counting (entry : Entry) (tx : Index) (rest : Int → CountingFlow Index Unit) :
    CountingFlow Index Unit :=
  .call (.count tx entry.counter entry.change) fun
    | .error error => .call (.rollback tx) fun _ => .fail (.prisma error)
    | .ok value => committing tx (rest value)

/-- The row, its counter, the commit, and what follows. -/
def Entry.writing (entry : Entry) (tx : Index) (rest : Int → CountingFlow Index Unit) :
    CountingFlow Index Unit :=
  .call (.write tx entry.row) fun
    | .error error => .call (.rollback tx) fun _ => .fail (.prisma error)
    | .ok _ => entry.counting tx rest

theorem transaction_writeCounted (entry : Entry) (tx : Index) (rest : Int → CountingFlow Index Unit) :
    (transaction tx (writeCounted tx entry.row entry.counter entry.change) >>= rest) = entry.writing tx rest := by
  refine congrArg (Program.call _) (funext fun written => ?_)
  cases written with
  | error error => rfl
  | ok _ =>
    refine congrArg (Program.call _) (funext fun counted => ?_)
    cases counted with
    | error | ok => rfl

theorem transaction_map {Value Value' : Type} (tx : Index) (body : CountingFlow Index Value)
    (result : Value → Value') (rest : Value' → CountingFlow Index Unit) :
    (transaction tx (body >>= fun value => pure (result value)) >>= rest) =
      (transaction tx body >>= fun value => rest (result value)) := by
  induction body with
  | done | fail => rfl
  | call request next ih => exact congrArg (Program.call request) (funext ih)

theorem transaction_writeCounted_map {Value : Type} (entry : Entry) (tx : Index) (result : Int → Value)
    (rest : Value → CountingFlow Index Unit) :
    (transaction tx (writeCounted tx entry.row entry.counter entry.change >>= fun value =>
      pure (result value)) >>= rest) = entry.writing tx fun value => rest (result value) :=
  (transaction_map tx _ result rest).trans (transaction_writeCounted entry tx _)

theorem transaction_writeCounted_only (entry : Entry) (tx : Index) :
    transaction tx (writeCounted tx entry.row entry.counter entry.change >>= fun _ => pure ()) =
      entry.writing tx fun _ => pure () :=
  (Program.bind_done _).symm.trans (transaction_writeCounted_map entry tx (fun _ => ()) fun _ => pure ())

/-! ## Calls that write no row -/

/-- The call writes nothing, and ends no other transaction. -/
def CountingCall.Quiet (tx : Index) : CountingCall Index → Prop
  | .write _ _ => False
  | .count _ _ _ => False
  | .commit other => other = tx
  | .rollback other => other = tx
  | _ => True

/-- The same tables at another time. -/
def State.at (s : State) (now : Time) : State := { s with now := now }

section At

variable {s : State} (now : Time)

theorem has_at (key : RowKey) : (s.at now).has key = s.has key := by cases key <;> rfl

theorem drift_at (counter : Counter) : (s.at now).drift counter = s.drift counter := by
  cases counter <;> rfl

theorem refusal_at (row : RowWrite) : row.refusal (s.at now) = row.refusal s := by
  have same : (s.at now).has = s.has := funext (has_at now)
  cases row <;>
    simp only [RowWrite.refusal, State.refusesNew, State.refusesChange, same]

theorem marksOnce_at (row : RowWrite) : row.MarksOnce (s.at now) ↔ row.MarksOnce s := by
  cases row <;> exact Iff.rfl

theorem lasts_at : s.Lasts (s.at now) := ⟨(State.Lasts.refl s).comments, (State.Lasts.refl s).posts⟩

theorem ForeignKeys.at (keys : ForeignKeys s) : ForeignKeys (s.at now) := by
  refine ⟨fun postId userId => ?_, keys.comments, keys.posts, fun storyId viewerId => ?_⟩
  · exact keys.likes postId userId
  · exact keys.views storyId viewerId

end At

variable [DecidableEq Index]

/-- A quiet call of somebody who has written nothing lets at most time pass. -/
theorem quiet_answer {tx : Index} {request : CountingCall Index} (quiet : request.Quiet tx)
    {db : Database Index} (nothing : db.tables.pending tx = []) :
    ∃ now, (countingAnswer request db).2.tables.committed = db.tables.committed.at now ∧
      (countingAnswer request db).2.tables.pending = db.tables.pending ∧
      (db.tables.Locked Write.key → (countingAnswer request db).2.tables.Locked Write.key) := by
  have emptied : update db.tables.pending tx [] = db.tables.pending := by
    rw [← nothing, update_eq_self]
  cases request with
  | write | count => cases quiet
  | commit other =>
    obtain rfl : other = tx := quiet
    refine ⟨db.tables.committed.now, ?_, emptied, fun locked => locked.close other _⟩
    exact Transactions.visible_of_nil nothing
  | rollback other =>
    obtain rfl : other = tx := quiet
    exact ⟨db.tables.committed.now, rfl, emptied, fun locked => locked.close other _⟩
  | elapse milliseconds => exact ⟨_, rfl, rfl, id⟩
  | postFindFirst | commentFindUnique | storyFindFirst | likeFindMany | emitPostCreated | dateNow
  | likeFindUnique | storyViewFindUnique | postFindUnique => exact ⟨db.tables.committed.now, rfl, rfl, id⟩

/-! ## Before the row is written -/

/-- A program that has written nothing: it reads, and the row it writes in the end is one that
its counter counts. -/
inductive Reading (tx : Index) : State → CountingFlow Index Unit → Prop where
  | quiet {s : State} {rest : CountingFlow Index Unit} (uses : rest.Uses (CountingCall.Quiet tx)) :
      Reading tx s rest
  | write {s : State} (entry : Entry) (rest : Int → CountingFlow Index Unit) (fits : entry.Fits s)
      (uses : ∀ value, (rest value).Uses (CountingCall.Quiet tx)) : Reading tx s (entry.writing tx rest)
  | read {s : State} (request : CountingCall Index)
      (next : CountingReply request → CountingFlow Index Unit) (quiet : request.Quiet tx)
      (rest : ∀ db : Database Index, s.Lasts db.tables.committed →
        Reading tx db.tables.committed (next (countingAnswer request db).1)) :
      Reading tx s (.call request next)

/-- What others commit does not matter to it. -/
theorem Reading.later {tx : Index} {s later : State} {program : CountingFlow Index Unit}
    (reading : Reading tx s program) (lasts : s.Lasts later) : Reading tx later program := by
  cases reading with
  | quiet uses => exact .quiet uses
  | write entry rest fits uses => exact .write entry rest (fits.later lasts) uses
  | read request next quiet rest =>
    exact .read request next quiet fun db lasts' => rest db (lasts.trans lasts')

theorem Reading.fail {tx : Index} {s : State} (error : ServiceError) :
    Reading tx s (.fail error) := .quiet trivial

theorem Reading.done {tx : Index} {s : State} : Reading tx s (.done ()) := .quiet trivial

/-- A check before it. -/
theorem Reading.throwIf {tx : Index} {s : State} {condition : Prop} [Decidable condition] {error : ServiceError}
    {rest : CountingFlow Index Unit} (passed : ¬ condition → Reading tx s rest) :
    Reading tx s (Program.throwIf condition error >>= fun _ => rest) := by
  by_cases thrown : condition
  · rw [Program.throwIf, if_pos thrown]
    exact .fail error
  · rw [Program.throwIf, if_neg thrown]
    exact passed thrown

/-- A transaction that writes a row and its counter. -/
theorem Reading.of_eq {tx : Index} {s : State} {program : CountingFlow Index Unit} {entry : Entry}
    {rest : Int → CountingFlow Index Unit} (same : program = entry.writing tx rest) (fits : entry.Fits s)
    (uses : ∀ value, (rest value).Uses (CountingCall.Quiet tx)) : Reading tx s program := by
  rw [same]
  exact .write entry rest fits uses

/-- **Every call reads until it writes a row that its counter counts.** -/
theorem CountingOp.reading (op : CountingOp) (tx : Index) (s : State) : Reading tx s (op.run tx) := by
  cases op with
  | like userId postId =>
    refine .read (.postFindFirst postId) _ trivial fun db _ => ?_
    cases (countingAnswer (.postFindFirst postId) db).1 with
    | none => exact .fail _
    | some post =>
      refine .read (.likeFindUnique tx postId userId) _ trivial fun db _ => ?_
      cases (countingAnswer (.likeFindUnique tx postId userId) db).1 with
      | true => exact .quiet ⟨trivial, fun _ => ⟨rfl, fun _ => trivial⟩⟩
      | false =>
        exact .of_eq (transaction_writeCounted ⟨.likeCreate postId userId, .likes postId, 1⟩ tx
          fun _ => pure ()) (.likeCreate postId userId) fun _ => trivial
  | unlike userId postId =>
    refine .read (.likeFindUnique tx postId userId) _ trivial fun db _ => ?_
    cases (countingAnswer (.likeFindUnique tx postId userId) db).1 with
    | false => exact .quiet ⟨trivial, fun _ => ⟨rfl, fun _ => trivial⟩⟩
    | true =>
      exact .of_eq (transaction_writeCounted ⟨.likeDelete postId userId, .likes postId, -1⟩ tx
        fun _ => pure ()) (.likeDelete postId userId) fun _ => trivial
  | createComment userId postId id =>
    refine .read (.postFindFirst postId) _ trivial fun db _ => ?_
    cases (countingAnswer (.postFindFirst postId) db).1 with
    | none => exact .fail _
    | some post =>
      exact .of_eq (transaction_writeCounted_map ⟨.commentCreate id ⟨postId, userId, none⟩,
        .comments postId, 1⟩ tx (fun _ => (id, (⟨postId, userId, none⟩ : Comment))) fun _ => pure ())
        (.commentCreate id postId userId) fun _ => trivial
  | removeComment userId id =>
    refine .read (.commentFindUnique id) _ trivial fun db _ => ?_
    cases found : (countingAnswer (.commentFindUnique id) db).1 with
    | none => exact .fail _
    | some comment =>
      refine .throwIf fun _ => .throwIf fun _ => ?_
      refine .read .dateNow _ trivial fun later lasts => ?_
      exact .of_eq (transaction_writeCounted_only ⟨.commentDelete id (countingAnswer .dateNow later).1,
        .comments comment.postId, -1⟩ tx) ((Entry.Fits.commentDelete id _ comment found).later lasts)
        fun _ => trivial
  | createPost userId id =>
    let after : CountingFlow Index (PostId × Post × Bool) := do
      let _ : Unit ← countingCall (.emitPostCreated userId id)
      let liked : List PostId ← countingCall (.likeFindMany userId [id])
      pure (id, ⟨userId, 0, 0, none⟩, decide (id ∈ liked))
    have same := transaction_writeCounted_map ⟨.postCreate id ⟨userId, 0, 0, none⟩, .posts userId, 1⟩ tx
      (fun _ => ()) fun _ => after >>= fun _ => pure ()
    exact .of_eq ((Program.bind_assoc _ _ _).trans same) (.postCreate id userId)
      fun _ => ⟨trivial, fun _ => ⟨trivial, fun _ => trivial⟩⟩
  | removePost userId id =>
    refine .read (.postFindFirst id) _ trivial fun db _ => ?_
    cases found : (countingAnswer (.postFindFirst id) db).1 with
    | none => exact .fail _
    | some post =>
      have stored : db.tables.committed.posts.find? id = some post := (Option.filter_eq_some_iff.mp found).1
      refine .throwIf fun own => ?_
      obtain rfl : post.userId = userId := not_not.mp own
      refine .read .dateNow _ trivial fun later lasts => ?_
      exact .of_eq (transaction_writeCounted_only ⟨.postDelete id (countingAnswer .dateNow later).1,
        .posts post.userId, -1⟩ tx) ((Entry.Fits.postDelete id _ post stored).later lasts)
        fun _ => trivial
  | recordView storyId viewerId =>
    refine .read (.storyFindFirst storyId) _ trivial fun db _ => ?_
    cases (countingAnswer (.storyFindFirst storyId) db).1 with
    | none => exact .done
    | some story =>
      show Reading tx _ (if story.userId = viewerId then _ else _)
      split
      · exact .done
      · refine .read (.storyViewFindUnique tx storyId viewerId) _ trivial fun db _ => ?_
        cases (countingAnswer (.storyViewFindUnique tx storyId viewerId) db).1 with
        | true => exact .quiet ⟨rfl, fun _ => trivial⟩
        | false =>
          exact .of_eq (transaction_writeCounted_only ⟨.storyViewCreate storyId viewerId,
            .views storyId, 1⟩ tx) (.storyViewCreate storyId viewerId) fun _ => trivial
  | elapse milliseconds => exact .quiet ⟨trivial, fun _ => trivial⟩

/-! ## Stages of a call -/

inductive CountingStage (Index : Type) where
  | reading (program : CountingFlow Index Unit)
  | counting (entry : Entry) (rest : Int → CountingFlow Index Unit)
  | committing (entry : Entry) (rest : CountingFlow Index Unit)

def CountingStage.program (tx : Index) : CountingStage Index → CountingFlow Index Unit
  | .reading program => program
  | .counting entry rest => entry.counting tx rest
  | .committing _ rest => Social.committing tx rest

/-- What the call has written, and what it relies on. -/
def CountingStage.Describes (tx : Index) (tables : Transactions Index State Write RowKey) :
    CountingStage Index → Prop
  | .reading program => tables.pending tx = [] ∧ Reading tx tables.committed program
  | .counting entry rest => tables.pending tx = [.row entry.row] ∧ entry.Fits tables.committed ∧
      entry.row.refusal tables.committed = none ∧ ∀ value, (rest value).Uses (CountingCall.Quiet tx)
  | .committing entry rest => tables.pending tx = [.row entry.row, .count entry.counter entry.change] ∧
      entry.Fits tables.committed ∧ entry.row.refusal tables.committed = none ∧
      rest.Uses (CountingCall.Quiet tx)

inductive CountingMoves (tx : Index) (db : Database Index) :
    CountingStage Index → CountingCall Index → CountingStage Index → Prop where
  | read {program program' : CountingFlow Index Unit} {request : CountingCall Index}
      (quiet : request.Quiet tx)
      (rest : Reading tx (countingAnswer request db).2.tables.committed program') :
      CountingMoves tx db (.reading program) request (.reading program')
  | refused {program program' : CountingFlow Index Unit} {row : RowWrite} {error : PrismaError}
      (refusal : row.refusal db.tables.committed = some error)
      (rest : Reading tx db.tables.committed program') :
      CountingMoves tx db (.reading program) (.write tx row) (.reading program')
  | admitted {program : CountingFlow Index Unit} {entry : Entry} {rest : Int → CountingFlow Index Unit}
      (fits : entry.Fits db.tables.committed) (refusal : entry.row.refusal db.tables.committed = none)
      (uses : ∀ value, (rest value).Uses (CountingCall.Quiet tx)) :
      CountingMoves tx db (.reading program) (.write tx entry.row) (.counting entry rest)
  | counted {entry : Entry} {rest : Int → CountingFlow Index Unit} (value : Int) :
      CountingMoves tx db (.counting entry rest) (.count tx entry.counter entry.change)
        (.committing entry (rest value))
  | committed {entry : Entry} {rest : CountingFlow Index Unit} :
      CountingMoves tx db (.committing entry rest) (.commit tx) (.reading rest)

section Answers

variable {tx : Index} {db : Database Index}

omit [DecidableEq Index] in
theorem visible_of_row {entry : Entry} (pending : db.tables.pending tx = [.row entry.row]) :
    db.visible tx = entry.row.apply db.tables.committed := by
  rw [Database.visible, Transactions.visible, pending]
  rfl

omit [DecidableEq Index] in
theorem visible_of_entry {entry : Entry}
    (pending : db.tables.pending tx = [.row entry.row, .count entry.counter entry.change]) :
    db.visible tx = entry.apply db.tables.committed := by
  rw [Database.visible, Transactions.visible, pending]
  rfl

theorem answer_write_of_refused {row : RowWrite} {error : PrismaError}
    (nothing : db.tables.pending tx = []) (refusal : row.refusal db.tables.committed = some error) :
    countingAnswer (.write tx row) db = (.error error, db) := by
  have visible : db.visible tx = db.tables.committed := Transactions.visible_of_nil nothing
  simp only [countingAnswer, visible, refusal]

theorem answer_write_of_admitted {row : RowWrite} (nothing : db.tables.pending tx = [])
    (refusal : row.refusal db.tables.committed = none) : countingAnswer (.write tx row) db =
      (.ok (), db.withTables (db.tables.write Write.key tx (.row row))) := by
  have visible : db.visible tx = db.tables.committed := Transactions.visible_of_nil nothing
  simp only [countingAnswer, visible, refusal]

theorem answer_count {entry : Entry} (pending : db.tables.pending tx = [.row entry.row])
    (fits : entry.Fits db.tables.committed) (keys : ForeignKeys db.tables.committed)
    (refusal : entry.row.refusal db.tables.committed = none) :
    countingAnswer (.count tx entry.counter entry.change) db =
      (.ok (entry.counter.value (db.visible tx) + entry.change),
        db.withTables (db.tables.write Write.key tx (.count entry.counter entry.change))) := by
  have present : (db.visible tx).refusesChange entry.counter.key = none := by
    rw [visible_of_row pending, refusesChange_eq_none]
    exact fits.has_counter_after keys refusal
  simp only [countingAnswer, present]

end Answers

variable {tx : Index} {stage : CountingStage Index} {stages : Index → CountingStage Index}

/-- A call makes only these moves. -/
theorem CountingStage.Describes.follows {db : Database Index} (described : stage.Describes tx db.tables)
    (keys : ForeignKeys db.tables.committed) :
    Program.Follows countingAnswer (CountingStage.program tx) (CountingMoves tx) stage db := by
  cases stage with
  | reading program =>
    obtain ⟨nothing, reading⟩ := described
    cases reading with
    | quiet uses =>
      cases program with
      | done | fail => exact .inl rfl
      | call request next =>
        exact .inr ⟨request, next, .reading _, rfl, .read uses.1 (.quiet (uses.2 _)), rfl⟩
    | write entry rest fits uses =>
      cases refusal : entry.row.refusal db.tables.committed with
      | none =>
        refine .inr ⟨.write tx entry.row, _, .counting entry rest, rfl, .admitted fits refusal uses, ?_⟩
        rw [answer_write_of_admitted nothing refusal]
        rfl
      | some error =>
        refine .inr ⟨.write tx entry.row, _, .reading (.call (.rollback tx) fun _ =>
          .fail (.prisma error)), rfl, .refused refusal (.quiet ⟨rfl, fun _ => trivial⟩), ?_⟩
        rw [answer_write_of_refused nothing refusal]
        rfl
    | read request next quiet rest =>
      obtain ⟨now, committed, -, -⟩ := quiet_answer quiet nothing
      refine .inr ⟨request, next, .reading _, rfl, .read quiet ?_, rfl⟩
      rw [committed]
      exact (rest db (State.Lasts.refl _)).later (lasts_at now)
  | counting entry rest =>
    obtain ⟨pending, fits, refusal, uses⟩ := described
    let value := entry.counter.value (db.visible tx) + entry.change
    refine .inr ⟨.count tx entry.counter entry.change, _, .committing entry (rest value), rfl,
      .counted value, ?_⟩
    rw [answer_count pending fits keys refusal]
    rfl
  | committing entry rest => exact .inr ⟨.commit tx, fun _ => rest, .reading rest, rfl, .committed, rfl⟩

/-! ## What holds between the calls -/

/-- The rows are in order, what is written is locked, and every call is in its stage. -/
structure Tidy (stages : Index → CountingStage Index)
    (tables : Transactions Index State Write RowKey) : Prop where
  keys : ForeignKeys tables.committed
  locked : tables.Locked Write.key
  each : ∀ tx, (stages tx).Describes tx tables

/-- The other calls rely on nothing that changes, when their rows stay admitted. -/
theorem CountingStage.Describes.later {tables tables' : Transactions Index State Write RowKey}
    (described : stage.Describes tx tables) (pending : tables'.pending tx = tables.pending tx)
    (lasts : tables.committed.Lasts tables'.committed)
    (admitted : ∀ row, .row row ∈ tables.pending tx → row.refusal tables.committed = none → row.refusal tables'.committed = none) :
    stage.Describes tx tables' := by
  cases stage with
  | reading program => exact ⟨pending.trans described.1, described.2.later lasts⟩
  | counting entry | committing entry =>
    obtain ⟨own, fits, refusal, uses⟩ := described
    refine ⟨pending.trans own, fits.later lasts, admitted entry.row ?_ refusal, uses⟩
    rw [own]
    exact List.mem_cons_self ..

theorem Tidy.step {tables tables' : Transactions Index State Write RowKey} (tidy : Tidy stages tables)
    {tx : Index} {stage' : CountingStage Index} (keys : ForeignKeys tables'.committed)
    (locked : tables'.Locked Write.key) (own : stage'.Describes tx tables')
    (pending : ∀ other, other ≠ tx → tables'.pending other = tables.pending other)
    (lasts : tables.committed.Lasts tables'.committed)
    (admitted : ∀ other row, other ≠ tx → .row row ∈ tables.pending other → row.refusal tables.committed = none → row.refusal tables'.committed = none)
    :
    Tidy (update stages tx stage') tables' := by
  refine ⟨keys, locked, fun other => ?_⟩
  by_cases same : other = tx
  · subst same
    rwa [update_self]
  · rw [update_of_ne same]
    exact (tidy.each other).later (pending other same) lasts fun row => admitted other row same

theorem Tidy.apart {tables : Transactions Index State Write RowKey} (tidy : Tidy stages tables)
    {tx other : Index} (different : other ≠ tx) {write : Write} {row : RowWrite}
    (own : write ∈ tables.pending tx) (theirs : .row row ∈ tables.pending other) : write.key ≠ row.key :=
  fun same => different (tidy.locked.apart theirs own same.symm)

/-- **Every move keeps the order.** -/
theorem Tidy.moves {db : Database Index} (tidy : Tidy stages db.tables) {tx : Index}
    {request : CountingCall Index} {stage' : CountingStage Index} (free : request.waits db = false)
    (move : CountingMoves tx db (stages tx) request stage') :
    Tidy (update stages tx stage') (countingAnswer request db).2.tables := by
  have described := tidy.each tx
  generalize here : stages tx = stage at move described
  cases move with
  | read quiet rest =>
    obtain ⟨now, committed, pending, locked⟩ := quiet_answer quiet described.1
    have lasts : db.tables.committed.Lasts (countingAnswer request db).2.tables.committed := by
      rw [committed]
      exact lasts_at now
    refine tidy.step ?_ (locked tidy.locked) ⟨?_, rest⟩ (fun other _ => ?_) lasts fun other row _ _ none => ?_
    · rw [committed]
      exact tidy.keys.at now
    · rw [pending]
      exact described.1
    · rw [pending]
    · rw [committed, refusal_at, none]
  | refused refusal rest =>
    rw [answer_write_of_refused described.1 refusal]
    exact tidy.step tidy.keys tidy.locked ⟨described.1, rest⟩ (fun _ _ => rfl) (State.Lasts.refl _)
      fun _ _ _ _ none => none
  | @admitted program entry rest fits refusal uses =>
    rw [answer_write_of_admitted described.1 refusal]
    refine tidy.step tidy.keys (tidy.locked.write free) ⟨?_, fits, refusal, uses⟩ (fun other different => ?_)
      (State.Lasts.refl _) fun _ _ _ _ none => none
    · simp only [Database.withTables, Transactions.write, update_self, described.1, List.nil_append]
    · exact update_of_ne different _ _
  | counted value =>
    obtain ⟨pending, fits, refusal, uses⟩ := described
    rw [answer_count pending fits tidy.keys refusal]
    refine tidy.step tidy.keys (tidy.locked.write free) ⟨?_, fits, refusal, uses value⟩
      (fun other different => ?_) (State.Lasts.refl _) fun _ _ _ _ none => none
    · simp only [Database.withTables, Transactions.write, update_self, pending, List.singleton_append]
    · exact update_of_ne different _ _
  | @committed entry rest =>
    obtain ⟨pending, fits, refusal, uses⟩ := described
    have after : (countingAnswer (.commit tx) db).2.tables.committed = entry.apply db.tables.committed :=
      visible_of_entry pending
    have row : Write.row entry.row ∈ db.tables.pending tx := by simp [pending]
    have count : Write.count entry.counter entry.change ∈ db.tables.pending tx := by simp [pending]
    refine tidy.step ?_ (tidy.locked.close tx _) ⟨update_self .., .quiet uses⟩
      (fun other different => update_of_ne different _ _) ?_ fun other theirs different member none => ?_
    · rw [after]
      exact Entry.foreignKeys tidy.keys refusal
    · rw [after]
      exact entry.lasts_apply
    · rw [after]
      exact Entry.admitted_apply none (tidy.apart different row member) (tidy.apart different count member)

/-! ## What a move does to the counters -/

theorem marksOnce_of_refused {s : State} {row : RowWrite} {error : PrismaError}
    (refusal : row.refusal s = some error) : row.MarksOnce s := by
  cases row with
  | commentDelete id at' =>
    intro comment found
    rw [RowWrite.refusal, State.refusesChange, State.has, found, Option.isSome_some] at refusal
    cases refusal
  | postDelete id at' =>
    intro post found
    rw [RowWrite.refusal, State.refusesChange, State.has, found, Option.isSome_some] at refusal
    cases refusal
  | likeCreate | likeDelete | commentCreate | postCreate | storyViewCreate => trivial

inductive CountingEffect (tx : Index) (tables : Transactions Index State Write RowKey) :
    CountingCall Index → Transactions Index State Write RowKey → Prop where
  | rests {request : CountingCall Index} {tables' : Transactions Index State Write RowKey}
      (once : ∀ (other : Index) (row : RowWrite), request = .write other row → row.MarksOnce tables.committed)
      (pending : ∀ other row, .row row ∈ tables'.pending other ↔ .row row ∈ tables.pending other)
      (marks : ∀ row : RowWrite, row.MarksOnce tables'.committed ↔ row.MarksOnce tables.committed)
      (drifts : ∀ counter, tables'.committed.drift counter = tables.committed.drift counter) :
      CountingEffect tx tables request tables'
  | written {tables' : Transactions Index State Write RowKey} (row : RowWrite)
      (pending : ∀ other row', .row row' ∈ tables'.pending other ↔
        .row row' ∈ tables.pending other ∨ (other = tx ∧ row' = row))
      (committed : tables'.committed = tables.committed) :
      CountingEffect tx tables (.write tx row) tables'
  | committed {tables' : Transactions Index State Write RowKey} (entry : Entry)
      (own : .row entry.row ∈ tables.pending tx)
      (pending : ∀ other row, .row row ∈ tables'.pending other ↔
        other ≠ tx ∧ .row row ∈ tables.pending other)
      (only : ∀ row, .row row ∈ tables.pending tx → row = entry.row)
      (marks : ∀ (other : Index) (row : RowWrite), other ≠ tx → .row row ∈ tables.pending other →
        (row.MarksOnce tables'.committed ↔ row.MarksOnce tables.committed))
      (once : entry.row.MarksOnce tables.committed → ∀ counter,
        tables'.committed.drift counter = tables.committed.drift counter)
      (again : ¬ entry.row.MarksOnce tables.committed → ∀ counter,
        tables'.committed.drift counter =
          tables.committed.drift counter + if counter = entry.counter then -1 else 0) :
      CountingEffect tx tables (.commit tx) tables'

/-- **Every move has one of these effects.** -/
theorem Tidy.effect {db : Database Index} (tidy : Tidy stages db.tables) {tx : Index}
    {request : CountingCall Index} {stage' : CountingStage Index}
    (move : CountingMoves tx db (stages tx) request stage') :
    CountingEffect tx db.tables request (countingAnswer request db).2.tables := by
  have described := tidy.each tx
  generalize here : stages tx = stage at move described
  cases move with
  | read quiet rest =>
    obtain ⟨now, committed, pending, -⟩ := quiet_answer quiet described.1
    refine .rests (fun other row same => ?_) (fun other row => ?_) (fun row => ?_) fun counter => ?_
    · rw [same] at quiet
      exact quiet.elim
    · rw [pending]
    · rw [committed]
      exact marksOnce_at now row
    · rw [committed, drift_at]
  | refused refusal rest =>
    rw [answer_write_of_refused described.1 refusal]
    refine .rests (fun other row same => ?_) (fun _ _ => Iff.rfl) (fun _ => Iff.rfl) fun _ => rfl
    cases same
    exact marksOnce_of_refused refusal
  | @admitted program entry rest fits refusal uses =>
    rw [answer_write_of_admitted described.1 refusal]
    refine .written entry.row (fun other row' => ?_) rfl
    by_cases same : other = tx
    · subst same
      simp [Database.withTables, Transactions.write, described.1]
    · simp [Database.withTables, Transactions.write, same]
  | counted value =>
    obtain ⟨pending, fits, refusal, -⟩ := described
    rw [answer_count pending fits tidy.keys refusal]
    refine .rests (fun other row same => by cases same) (fun other row => ?_) (fun _ => Iff.rfl) fun _ => rfl
    by_cases same : other = tx
    · subst same
      simp [Database.withTables, Transactions.write]
    · simp [Database.withTables, Transactions.write, same]
  | @committed entry rest =>
    obtain ⟨pending, fits, refusal, -⟩ := described
    have after : (countingAnswer (.commit tx) db).2.tables.committed = entry.apply db.tables.committed :=
      visible_of_entry pending
    have row : Write.row entry.row ∈ db.tables.pending tx := by simp [pending]
    have count : Write.count entry.counter entry.change ∈ db.tables.pending tx := by simp [pending]
    refine .committed entry row (fun other row' => ?_) (fun row' own => ?_)
      (fun other row' different member => ?_) (fun once counter => ?_) fun again counter => ?_
    · by_cases same : other = tx
      · subst same
        simp [countingAnswer, Database.withTables, Transactions.commit, Transactions.close]
      · simp [countingAnswer, Database.withTables, Transactions.commit, Transactions.close, same]
    · simpa [pending] using own
    · rw [after]
      exact Entry.marksOnce_apply (tidy.apart different row member) (tidy.apart different count member)
    · rw [after]
      exact fits.drift_apply tidy.keys refusal once counter
    · rw [after]
      exact fits.drift_apply_marked tidy.keys refusal again counter

/-! ## Balanced and short -/

structure Balanced (tables : Transactions Index State Write RowKey) : Prop where
  drifts : ∀ counter, tables.committed.drift counter = 0
  once : ∀ tx row, .row row ∈ tables.pending tx → row.MarksOnce tables.committed

structure Short (tables : Transactions Index State Write RowKey) : Prop where
  drifts : ∀ counter, tables.committed.drift counter ≤ 0
  short : (∃ counter, tables.committed.drift counter < 0) ∨
    ∃ tx row, .row row ∈ tables.pending tx ∧ ¬ row.MarksOnce tables.committed

section Effects

omit [DecidableEq Index]

variable {tx : Index} {tables tables' : Transactions Index State Write RowKey} {request : CountingCall Index}

theorem CountingEffect.balanced (effect : CountingEffect tx tables request tables')
    (balanced : Balanced tables)
    (once : ∀ (other : Index) (row : RowWrite), request = .write other row → row.MarksOnce tables.committed) : Balanced tables' := by
  cases effect with
  | rests _ pending marks drifts =>
    refine ⟨fun counter => (drifts counter).trans (balanced.drifts counter), fun other row member => ?_⟩
    exact (marks row).mpr (balanced.once other row ((pending other row).mp member))
  | written row pending committed =>
    refine ⟨fun counter => ?_, fun other row' member => ?_⟩
    · rw [committed]
      exact balanced.drifts counter
    · rw [committed]
      obtain before | ⟨-, rfl⟩ := (pending other row').mp member
      · exact balanced.once other row' before
      · exact once tx row' rfl
  | committed entry own pending only marks drifts _ =>
    refine ⟨fun counter => ?_, fun other row member => ?_⟩
    · exact (drifts (balanced.once tx entry.row own) counter).trans (balanced.drifts counter)
    · obtain ⟨different, before⟩ := (pending other row).mp member
      exact (marks other row different before).mpr (balanced.once other row before)

theorem CountingEffect.short (effect : CountingEffect tx tables request tables') (balanced : Balanced tables)
    {other : Index} {row : RowWrite} (asked : request = .write other row)
    (again : ¬ row.MarksOnce tables.committed) : Short tables' := by
  cases effect with
  | rests once _ _ _ => exact absurd (once other row asked) again
  | written row' pending committed =>
    cases asked
    refine ⟨fun counter => ?_, .inr ⟨tx, row, (pending tx row).mpr (.inr ⟨rfl, rfl⟩), ?_⟩⟩
    · rw [committed, balanced.drifts]
    · rwa [committed]
  | committed => cases asked

theorem CountingEffect.stuck (effect : CountingEffect tx tables request tables') (short : Short tables) :
    Short tables' := by
  obtain ⟨drifts, short⟩ := short
  cases effect with
  | rests _ pending marks same =>
    refine ⟨fun counter => (same counter).le.trans (drifts counter), ?_⟩
    obtain ⟨counter, less⟩ | ⟨other, row, member, again⟩ := short
    · exact .inl ⟨counter, (same counter).le.trans_lt less⟩
    · exact .inr ⟨other, row, (pending other row).mpr member, fun once => again ((marks row).mp once)⟩
  | written row pending committed =>
    rw [← committed] at drifts
    refine ⟨drifts, ?_⟩
    obtain less | ⟨other, row', member, again⟩ := short
    · rw [← committed] at less
      exact .inl less
    · rw [← committed] at again
      exact .inr ⟨other, row', (pending other row').mpr (.inl member), again⟩
  | committed entry own pending only marks once twice =>
    by_cases again : entry.row.MarksOnce tables.committed
    · have same := once again
      refine ⟨fun counter => (same counter).le.trans (drifts counter), ?_⟩
      obtain ⟨counter, less⟩ | ⟨other, row, member, marked⟩ := short
      · exact .inl ⟨counter, (same counter).le.trans_lt less⟩
      · have different : other ≠ tx := by
          rintro rfl
          rw [only row member] at marked
          exact marked again
        exact .inr ⟨other, row, (pending other row).mpr ⟨different, member⟩, fun once' =>
          marked ((marks other row different member).mp once')⟩
    · have less := twice again
      refine ⟨fun counter => ?_, .inl ⟨entry.counter, ?_⟩⟩
      · have before := drifts counter
        rw [less]
        split <;> omega
      · have before := drifts entry.counter
        rw [less, if_pos rfl]
        omega

end Effects

/-! ## Every interleaving -/

/-- Calls that are made at once, each with a transaction of its name. -/
def countingPool (ops : Index → CountingOp) (s : State) :
    Pool Index (CountingCall Index) CountingReply ServiceError Unit (Database Index) where
  threads := fun tx => (ops tx).run tx
  store := .initial s

/-- The turn of a call: it waits for a row that another transaction has locked. -/
abbrev countingTurn : Pool Index (CountingCall Index) CountingReply ServiceError Unit (Database Index) →
    Index → Pool Index (CountingCall Index) CountingReply ServiceError Unit (Database Index) :=
  Pool.turn (fun _ => CountingCall.waits) countingAnswer

/-- The turn marks no comment and no post as deleted that is marked already. -/
def RemovesOnce (pool : Pool Index (CountingCall Index) CountingReply ServiceError Unit (Database Index))
    (tx : Index) : Prop :=
  pool.Waits (fun _ => CountingCall.waits) tx = false → ∀ other row,
    pool.next? tx = some (.write other row) → row.MarksOnce pool.store.tables.committed

/-- A call that has ended has written nothing that is not committed. -/
theorem CountingStage.Describes.pending_of_ended {tables : Transactions Index State Write RowKey}
    (described : stage.Describes tx tables) (ended : (stage.program tx).Ended) : tables.pending tx = [] := by
  cases stage with
  | reading program => exact described.1
  | counting | committing => cases ended

omit [DecidableEq Index] in
theorem balanced_initial {s : State} (hold : CountersHold s) :
    Balanced (Database.initial s : Database Index).tables := by
  refine ⟨countersHold_iff.mp hold, fun tx row member => ?_⟩
  cases member

/-- A run that has met the condition is balanced in the end, and any other run is short. -/
theorem counting_settles (ops : Index → CountingOp) (s : State) (keys : ForeignKeys s)
    (hold : CountersHold s) (schedule : List Index) :
    (EachStep countingTurn RemovesOnce (countingPool ops s) schedule ∧
        (Foundation.follow countingTurn (countingPool ops s) schedule).Described CountingStage.program
          fun stages db => Tidy stages db.tables ∧ Balanced db.tables) ∨
      (¬ EachStep countingTurn RemovesOnce (countingPool ops s) schedule ∧
        (Foundation.follow countingTurn (countingPool ops s) schedule).Described CountingStage.program
          fun stages db => Tidy stages db.tables ∧ Short db.tables) := by
  have tidy : Tidy (fun tx => .reading ((ops tx).run tx)) (Database.initial s : Database Index).tables := by
    refine ⟨keys, fun tx write member => ?_, fun tx => ⟨rfl, (ops tx).reading tx s⟩⟩
    cases member
  refine Pool.turns_of_stages (fun _ => CountingCall.waits) CountingMoves
    (fun stages db => Tidy stages db.tables ∧ Balanced db.tables)
    (fun stages db => Tidy stages db.tables ∧ Short db.tables) RemovesOnce ?follows ?silent ?keeps ?spoils
    ?stuck ?staged ⟨tidy, balanced_initial hold⟩ schedule
  case staged => exact fun _ => rfl
  case follows =>
    rintro stages db tx (⟨tidy, -⟩ | ⟨tidy, -⟩)
    · exact (tidy.each tx).follows tidy.keys
    · exact (tidy.each tx).follows tidy.keys
  case silent =>
    rintro pool tx (none | waiting) free other row asked
    · rw [none] at asked
      cases asked
    · rw [waiting] at free
      cases free
  case keeps =>
    rintro pool stages tx request stage' staged ⟨tidy, balanced⟩ once asked free move
    have goes : pool.Waits (fun _ => CountingCall.waits) tx = false := by
      rw [Pool.Waits, asked, Option.any_some, free]
    refine ⟨tidy.moves free move, (tidy.effect move).balanced balanced fun other row same => ?_⟩
    exact once goes other row (asked.trans (congrArg some same))
  case spoils =>
    rintro pool stages tx request stage' staged ⟨tidy, balanced⟩ marks asked free move
    refine ⟨tidy.moves free move, ?_⟩
    unfold RemovesOnce at marks
    push Not at marks
    obtain ⟨-, other, row, asked', again⟩ := marks
    exact (tidy.effect move).short balanced (Option.some.inj (asked.symm.trans asked')) again
  case stuck =>
    rintro pool stages tx request stage' ⟨tidy, short⟩ free move
    exact ⟨tidy.moves free move, (tidy.effect move).stuck short⟩

/-- **When all calls have ended, the counters agree with the rows exactly when no removal has
marked a row that was marked already**, whatever the calls and in whatever order they came. -/
theorem counters_hold_iff (ops : Index → CountingOp) (s : State) (keys : ForeignKeys s)
    (hold : CountersHold s) (schedule : List Index)
    (ended : ∀ tx, ((Foundation.follow countingTurn (countingPool ops s) schedule).threads tx).Ended) :
    CountersHold (Foundation.follow countingTurn (countingPool ops s) schedule).store.tables.committed ↔
      EachStep countingTurn RemovesOnce (countingPool ops s) schedule := by
  rw [countersHold_iff]
  obtain ⟨steps, stages, staged, tidy, balanced⟩ | ⟨steps, stages, staged, tidy, short⟩ :=
    counting_settles ops s keys hold schedule
  · exact iff_of_true balanced.drifts steps
  · refine iff_of_false (fun none => ?_) steps
    obtain ⟨counter, less⟩ | ⟨tx, row, member, -⟩ := short.short
    · rw [none counter] at less
      exact absurd less (lt_irrefl 0)
    · have stopped := ended tx
      rw [staged tx] at stopped
      rw [(tidy.each tx).pending_of_ended stopped] at member
      cases member

/-! ## A small installation -/

/-- Rider 1 has a post, with one comment of rider 2. -/
def commentedInstallation : State :=
  { smallInstallation with
    users := smallInstallation.users.modify 1 (User.countPost 1)
    posts := Table.empty.insert 0 ⟨1, 0, 1, none⟩
    comments := Table.empty.insert 0 ⟨0, 2, none⟩ }

def removeTwice : Bool → CountingOp := fun _ => .removeComment 2 0

/-- One removal after the other: the second finds the comment removed. -/
theorem counters_hold_small :
    CountersHold (Foundation.follow countingTurn (countingPool removeTwice commentedInstallation)
        [true, true, true, true, true, false]).store.tables.committed ↔
      EachStep countingTurn RemovesOnce (countingPool removeTwice commentedInstallation)
        [true, true, true, true, true, false] :=
  counters_hold_iff removeTwice commentedInstallation (by decide +kernel) (by decide +kernel)
    [true, true, true, true, true, false] (by decide +kernel)

/-- Both removals read the comment before either marks it. The post has no comment then, and
counts minus one. -/
theorem removed_twice :
    ForeignKeys commentedInstallation ∧ CountersHold commentedInstallation ∧
      (∀ tx, ((Foundation.follow countingTurn (countingPool removeTwice commentedInstallation)
        [true, false, true, true, true, true, false, false, false, false]).threads tx).Ended) ∧
      ¬ CountersHold (Foundation.follow countingTurn (countingPool removeTwice commentedInstallation)
        [true, false, true, true, true, true, false, false, false, false]).store.tables.committed := by
  decide +kernel

end Motogram.Social
