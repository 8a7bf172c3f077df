import Motogram.Foundation.Transactions
import Motogram.Social.Service

/-!
# Likes, comments, posts and views

`likes.service.ts`, `comments.service.ts` (`create`, `remove`), `posts.service.ts` (`create`,
`remove`) and `recordView` of `stories.service.ts`. Each of them changes a row and a counter in
one transaction, and some of them look at the row before the transaction begins.

A statement is a call of its own, and a transaction ends with a commit or a rollback. The id of
a new row is drawn by the client and is a parameter here; an id that is taken is refused by the
primary key.
-/

set_option autoImplicit false

namespace Motogram.Social

open Foundation Program

/-! ## Writes and the rows they lock -/

inductive RowWrite where
  | likeCreate (postId : PostId) (userId : UserId)
  | likeDelete (postId : PostId) (userId : UserId)
  | commentCreate (id : CommentId) (comment : Comment)
  | commentDelete (id : CommentId) (at' : Time)
  | postCreate (id : PostId) (post : Post)
  | postDelete (id : PostId) (at' : Time)
  | storyViewCreate (storyId : StoryId) (viewerId : UserId)
  deriving DecidableEq

/-- A column that counts rows of another table. -/
inductive Counter where
  | likes (postId : PostId)
  | comments (postId : PostId)
  | posts (userId : UserId)
  | views (storyId : StoryId)
  deriving DecidableEq

inductive Write where
  | row (write : RowWrite)
  | count (counter : Counter) (change : Int)
  deriving DecidableEq

/-- A row that can be locked. -/
inductive RowKey where
  | like (postId : PostId) (userId : UserId)
  | comment (id : CommentId)
  | post (id : PostId)
  | user (id : UserId)
  | story (id : StoryId)
  | storyView (storyId : StoryId) (viewerId : UserId)
  deriving DecidableEq

def RowWrite.key : RowWrite → RowKey
  | .likeCreate postId userId => .like postId userId
  | .likeDelete postId userId => .like postId userId
  | .commentCreate id _ => .comment id
  | .commentDelete id _ => .comment id
  | .postCreate id _ => .post id
  | .postDelete id _ => .post id
  | .storyViewCreate storyId viewerId => .storyView storyId viewerId

def Counter.key : Counter → RowKey
  | .likes postId => .post postId
  | .comments postId => .post postId
  | .posts userId => .user userId
  | .views storyId => .story storyId

def Write.key : Write → RowKey
  | .row write => write.key
  | .count counter _ => counter.key

def State.has (s : State) : RowKey → Bool
  | .like postId userId => (s.likes.find? (postId, userId)).isSome
  | .comment id => (s.comments.find? id).isSome
  | .post id => (s.posts.find? id).isSome
  | .user id => (s.users.find? id).isSome
  | .story id => (s.stories.find? id).isSome
  | .storyView storyId viewerId => (s.storyViews.find? (storyId, viewerId)).isSome

/-- The error of a new row: its key is taken, or a row it refers to is missing. -/
def State.refusesNew (s : State) (key : RowKey) (referred : List RowKey) : Option PrismaError :=
  if s.has key then some .uniqueViolation
  else if referred.all s.has then none
  else some .foreignKeyViolation

def State.refusesChange (s : State) (key : RowKey) : Option PrismaError :=
  if s.has key then none else some .recordNotFound

def RowWrite.refusal (s : State) : RowWrite → Option PrismaError
  | .likeCreate postId userId => s.refusesNew (.like postId userId) [.post postId, .user userId]
  | .likeDelete postId userId => s.refusesChange (.like postId userId)
  | .commentCreate id comment => s.refusesNew (.comment id) [.post comment.postId, .user comment.userId]
  | .commentDelete id _ => s.refusesChange (.comment id)
  | .postCreate id post => s.refusesNew (.post id) [.user post.userId]
  | .postDelete id _ => s.refusesChange (.post id)
  | .storyViewCreate storyId viewerId => s.refusesNew (.storyView storyId viewerId) [.story storyId]

def Post.countLike (change : Int) (post : Post) : Post :=
  { post with likesCount := post.likesCount + change }

def Post.countComment (change : Int) (post : Post) : Post :=
  { post with commentsCount := post.commentsCount + change }

def User.countPost (change : Int) (user : User) : User :=
  { user with postsCount := user.postsCount + change }

def Story.countView (change : Int) (story : Story) : Story :=
  { story with viewsCount := story.viewsCount + change }

def Post.delete (at' : Time) (post : Post) : Post := { post with deletedAt := some at' }
def Comment.delete (at' : Time) (comment : Comment) : Comment := { comment with deletedAt := some at' }

def RowWrite.apply (s : State) : RowWrite → State
  | .likeCreate postId userId => { s with likes := s.likes.insert (postId, userId) () }
  | .likeDelete postId userId => { s with likes := s.likes.erase (postId, userId) }
  | .commentCreate id comment => { s with comments := s.comments.insert id comment }
  | .commentDelete id at' => { s with comments := s.comments.modify id (Comment.delete at') }
  | .postCreate id post => { s with posts := s.posts.insert id post }
  | .postDelete id at' => { s with posts := s.posts.modify id (Post.delete at') }
  | .storyViewCreate storyId viewerId =>
    { s with storyViews := s.storyViews.insert (storyId, viewerId) () }

def Counter.add (s : State) (change : Int) : Counter → State
  | .likes postId => { s with posts := s.posts.modify postId (Post.countLike change) }
  | .comments postId => { s with posts := s.posts.modify postId (Post.countComment change) }
  | .posts userId => { s with users := s.users.modify userId (User.countPost change) }
  | .views storyId => { s with stories := s.stories.modify storyId (Story.countView change) }

def Counter.value (s : State) : Counter → Int
  | .likes postId => ((s.posts.find? postId).map Post.likesCount).getD 0
  | .comments postId => ((s.posts.find? postId).map Post.commentsCount).getD 0
  | .posts userId => ((s.users.find? userId).map User.postsCount).getD 0
  | .views storyId => ((s.stories.find? storyId).map Story.viewsCount).getD 0

def Write.apply (write : Write) (s : State) : State :=
  match write with
  | .row write => write.apply s
  | .count counter change => counter.add s change

/-! ## The database -/

/-- The tables with their open transactions, and the triggers POST_CREATED: author and post. -/
structure Database (Index : Type) where
  tables : Transactions Index State Write RowKey
  postCreated : List (UserId × PostId)

variable {Index : Type}

def Database.initial (s : State) : Database Index where
  tables := .quiet s
  postCreated := []

def Database.withTables (db : Database Index) (tables : Transactions Index State Write RowKey) :
    Database Index :=
  { db with tables := tables }

/-- What a statement of the transaction sees. -/
abbrev Database.visible (db : Database Index) (tx : Index) : State :=
  db.tables.visible Write.apply tx

/-! ## Calls and replies -/

/-- The calls; those of a transaction carry its name. -/
inductive CountingCall (Index : Type) where
  | postFindFirst (postId : PostId)
  | commentFindUnique (id : CommentId)
  | storyFindFirst (storyId : StoryId)
  | likeFindMany (userId : UserId) (postIds : List PostId)
  | emitPostCreated (userId : UserId) (postId : PostId)
  | dateNow
  | elapse (milliseconds : Nat)
  | likeFindUnique (tx : Index) (postId : PostId) (userId : UserId)
  | storyViewFindUnique (tx : Index) (storyId : StoryId) (viewerId : UserId)
  | postFindUnique (tx : Index) (postId : PostId)
  | write (tx : Index) (write : RowWrite)
  | count (tx : Index) (counter : Counter) (change : Int)
  | commit (tx : Index)
  | rollback (tx : Index)
  deriving DecidableEq

@[reducible] def CountingReply : CountingCall Index → Type
  | .postFindFirst _ => Option Post
  | .commentFindUnique _ => Option Comment
  | .storyFindFirst _ => Option Story
  | .likeFindMany _ _ => List PostId
  | .emitPostCreated _ _ => Unit
  | .dateNow => Time
  | .elapse _ => Unit
  | .likeFindUnique _ _ _ => Bool
  | .storyViewFindUnique _ _ _ => Bool
  | .postFindUnique _ _ => Option Post
  | .write _ _ => Except PrismaError Unit
  | .count _ _ _ => Except PrismaError Int
  | .commit _ => Unit
  | .rollback _ => Unit

/-! ## Answers -/

variable [DecidableEq Index]

def countingAnswer : (call : CountingCall Index) → Database Index →
    CountingReply call × Database Index
  | .postFindFirst postId, db =>
    ((db.tables.committed.posts.find? postId).filter fun post => post.deletedAt.isNone, db)
  | .commentFindUnique id, db => (db.tables.committed.comments.find? id, db)
  | .storyFindFirst storyId, db =>
    ((db.tables.committed.stories.find? storyId).filter fun story =>
      decide (db.tables.committed.now < story.expiresAt), db)
  | .likeFindMany userId postIds, db =>
    ((db.tables.committed.likes.select fun pair _ =>
      decide (pair.2 = userId) && decide (pair.1 ∈ postIds)).map fun entry => entry.1.1, db)
  | .emitPostCreated userId postId, db =>
    ((), { db with postCreated := db.postCreated ++ [(userId, postId)] })
  | .dateNow, db => (db.tables.committed.now, db)
  | .elapse milliseconds, db =>
    ((), db.withTables { db.tables with
      committed := { db.tables.committed with now := db.tables.committed.now + milliseconds } })
  | .likeFindUnique tx postId userId, db => ((db.visible tx).has (.like postId userId), db)
  | .storyViewFindUnique tx storyId viewerId, db =>
    ((db.visible tx).has (.storyView storyId viewerId), db)
  | .postFindUnique tx postId, db => ((db.visible tx).posts.find? postId, db)
  | .write tx write, db =>
    match write.refusal (db.visible tx) with
    | some error => (.error error, db)
    | none => (.ok (), db.withTables (db.tables.write Write.key tx (.row write)))
  | .count tx counter change, db =>
    match (db.visible tx).refusesChange counter.key with
    | some error => (.error error, db)
    | none => (.ok (counter.value (db.visible tx) + change),
        db.withTables (db.tables.write Write.key tx (.count counter change)))
  | .commit tx, db => ((), db.withTables (db.tables.commit Write.apply tx))
  | .rollback tx, db => ((), db.withTables (db.tables.rollback tx))

/-- A write of a row that another transaction has locked waits. -/
def CountingCall.waits : CountingCall Index → Database Index → Bool
  | .write tx row, db => db.tables.held tx row.key
  | .count tx counter _, db => db.tables.held tx counter.key
  | _, _ => false

/-! ## Service functions -/

/-- A service function that may open a transaction. -/
abbrev CountingFlow (Index Value : Type) :=
  Program (CountingCall Index) CountingReply ServiceError Value

abbrev countingCall (request : CountingCall Index) : CountingFlow Index (CountingReply request) :=
  .call request .done

def rethrowWrite {Value : Type} (reply : Except PrismaError Value) : CountingFlow Index Value :=
  match reply with
  | .ok value => .done value
  | .error error => .fail (.prisma error)

/-- `$transaction`: an exception rolls back and is thrown on. -/
def transaction {Value : Type} (tx : Index) (body : CountingFlow Index Value) : CountingFlow Index Value :=
  rescue
    (do
      let value ← body
      let _ : Unit ← countingCall (.commit tx)
      pure value)
    fun error => do
      let _ : Unit ← countingCall (.rollback tx)
      .fail error

def writeCounted (tx : Index) (write : RowWrite) (counter : Counter) (change : Int) :
    CountingFlow Index Int := do
  let written : Except PrismaError Unit ← countingCall (.write tx write)
  rethrowWrite written
  let counted : Except PrismaError Int ← countingCall (.count tx counter change)
  rethrowWrite counted

def postNotFound : ServiceError := .http .notFound "post_not_found" .notFound none
def commentNotFound : ServiceError := .http .notFound "comment_not_found" .notFound none
def forbidden : ServiceError := .http .forbidden "forbidden" .forbidden none

/-- `current?.likesCount ?? 0`. -/
def currentLikes (tx : Index) (postId : PostId) : CountingFlow Index Int := do
  let current : Option Post ← countingCall (.postFindUnique tx postId)
  pure ((current.map Post.likesCount).getD 0)

/-- `like`; it returns `likesCount`. -/
def like (tx : Index) (userId : UserId) (postId : PostId) : CountingFlow Index Int := do
  let post : Option Post ← countingCall (.postFindFirst postId)
  match post with
  | none => .fail postNotFound
  | some _ => transaction tx do
      let existing : Bool ← countingCall (.likeFindUnique tx postId userId)
      match existing with
      | true => currentLikes tx postId
      | false => writeCounted tx (.likeCreate postId userId) (.likes postId) 1

def unlike (tx : Index) (userId : UserId) (postId : PostId) : CountingFlow Index Int :=
  transaction tx do
    let existing : Bool ← countingCall (.likeFindUnique tx postId userId)
    match existing with
    | false => currentLikes tx postId
    | true => writeCounted tx (.likeDelete postId userId) (.likes postId) (-1)

/-- `create` of the comments, which returns the row. -/
def createComment (tx : Index) (userId : UserId) (postId : PostId) (id : CommentId) :
    CountingFlow Index (CommentId × Comment) := do
  let post : Option Post ← countingCall (.postFindFirst postId)
  match post with
  | none => .fail postNotFound
  | some _ => transaction tx do
      let _ ← writeCounted tx (.commentCreate id ⟨postId, userId, none⟩) (.comments postId) 1
      pure (id, ⟨postId, userId, none⟩)

/-- `remove` of the comments. The comment is read before the transaction. -/
def removeComment (tx : Index) (userId : UserId) (id : CommentId) : CountingFlow Index Unit := do
  let comment : Option Comment ← countingCall (.commentFindUnique id)
  match comment with
  | none => .fail commentNotFound
  | some comment => do
    throwIf (comment.deletedAt.isSome) commentNotFound
    throwIf (comment.userId ≠ userId) forbidden
    transaction tx do
      let now : Time ← countingCall .dateNow
      let _ ← writeCounted tx (.commentDelete id now) (.comments comment.postId) (-1)
      pure ()

/-- `create` of the posts: the row, and whether its author has liked it. -/
def createPost (tx : Index) (userId : UserId) (id : PostId) :
    CountingFlow Index (PostId × Post × Bool) := do
  let post : Post := ⟨userId, 0, 0, none⟩
  transaction tx do
    let _ ← writeCounted tx (.postCreate id post) (.posts userId) 1
    pure ()
  let _ : Unit ← countingCall (.emitPostCreated userId id)
  let liked : List PostId ← countingCall (.likeFindMany userId [id])
  pure (id, post, decide (id ∈ liked))

/-- `remove` of the posts. The post is read before the transaction. -/
def removePost (tx : Index) (userId : UserId) (id : PostId) : CountingFlow Index Unit := do
  let post : Option Post ← countingCall (.postFindFirst id)
  match post with
  | none => .fail postNotFound
  | some post => do
    throwIf (post.userId ≠ userId) forbidden
    transaction tx do
      let now : Time ← countingCall .dateNow
      let _ ← writeCounted tx (.postDelete id now) (.posts userId) (-1)
      pure ()

def recordView (tx : Index) (storyId : StoryId) (viewerId : UserId) : CountingFlow Index Unit := do
  let story : Option Story ← countingCall (.storyFindFirst storyId)
  match story with
  | none => pure ()
  | some story =>
    if story.userId = viewerId then pure ()
    else transaction tx do
      let existing : Bool ← countingCall (.storyViewFindUnique tx storyId viewerId)
      match existing with
      | true => pure ()
      | false => do
        let _ ← writeCounted tx (.storyViewCreate storyId viewerId) (.views storyId) 1
        pure ()

end Motogram.Social
