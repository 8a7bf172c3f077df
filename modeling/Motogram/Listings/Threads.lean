import Motogram.Foundation.DatedPages
import Motogram.Messaging.Service
import Motogram.Social.Service

/-!
# Lists in the order of time

`comments.service.ts` (`listForPost`), `posts.service.ts` (`feedForUser`, `userPosts`) and
`message.service.ts` (`listMessages`): the comments of a post, the oldest first, and the posts
of a feed, the posts of a rider and the messages of a conversation, the newest first. The
cursor of a page is the id of its last row, and the next page takes it as Prisma's `cursor`
with `skip: 1`. Comments and posts have a next page when the page is full; the messages are
read with one more than is returned.

The database lists rows of one time in any order, and in another one at each request; the
order is a parameter of every list.
-/

set_option autoImplicit false

namespace Motogram.Listings

open Foundation
open Social (addToSet blockPeer)
open Messaging (ConversationId MessageId MessageDto notParticipant)

abbrev PostId := Nat
abbrev CommentId := Nat

/-! ## Rows -/

/-- The author snippet of a comment or a post, without the key. -/
structure AuthorRow where
  username : String
  avatarUrl : Option String
  isVerified : Bool
  deriving DecidableEq

structure Comment where
  postId : PostId
  userId : UserId
  content : String
  mentionedUserIds : List UserId
  createdAt : Time
  updatedAt : Time
  deletedAt : Option Time
  deriving DecidableEq

inductive MediaType where
  | image
  | video
  | carousel
  | routeRecap
  deriving DecidableEq

structure Post where
  userId : UserId
  caption : Option String
  mediaUrls : List String
  mediaType : MediaType
  routeId : Option String
  eventId : Option String
  groupId : Option String
  likesCount : Int
  commentsCount : Int
  sharesCount : Int
  latitude : Option ℚ
  longitude : Option ℚ
  locationName : Option String
  hashtags : List String
  mentionedUserIds : List UserId
  createdAt : Time
  updatedAt : Time
  deletedAt : Option Time
  deriving DecidableEq

/-- The tables the comment and post lists read. -/
structure PostTables where
  users : Table UserId AuthorRow
  posts : Table PostId Post
  comments : Table CommentId Comment
  -- `@@unique([postId, userId])`
  likes : Table (PostId × UserId) Unit
  -- `@@unique([followerId, followingId])`
  follows : Table (UserId × UserId) FollowStatus
  -- `@@unique([initiatorId, targetId])`
  blocks : Table (UserId × UserId) Unit

/-! ## The orders of the lists -/

/-- `orderBy: { createdAt: 'asc' }`. -/
abbrev CommentOrder := Arrangement fun entry : CommentId × Comment => Comment.createdAt entry.2

def Post.newest (post : Post) : OrderDual Time := OrderDual.toDual post.createdAt

/-- `orderBy: { createdAt: 'desc' }`. -/
abbrev PostOrder := Arrangement fun entry : PostId × Post => Post.newest entry.2

def newestMessage (message : Messaging.Message) : OrderDual Time := OrderDual.toDual message.createdAt

abbrev MessageOrder := Arrangement fun entry : MessageId × Messaging.Message => newestMessage entry.2

/-! ## Requests and responses -/

/-- A query `PostFeedQuerySchema` accepts. -/
structure PostFeedQueryDto where
  cursor : Option PostId
  limit : Nat
  limit_range : 1 ≤ limit ∧ limit ≤ 50
  deriving DecidableEq

structure AuthorSnippet extends AuthorRow where
  id : UserId
  deriving DecidableEq

structure CommentItem extends Comment where
  id : CommentId
  user : Option AuthorSnippet
  deriving DecidableEq

/-- A post, with its author where the query includes the user. -/
structure PostItem extends Post where
  id : PostId
  user : Option AuthorSnippet
  likedByMe : Bool
  deriving DecidableEq

/-- Why a list is not given: an exception of a service, or the error of reading the id of the
last of no rows. -/
inductive ListError where
  | service (error : ServiceError)
  | typeError
  deriving DecidableEq

/-- The items of a page and its `nextCursor`. -/
abbrev ListPage (Item Key : Type) := Except ListError (List Item × Option Key)

/-- `rows.length === limit ? rows[rows.length - 1]!.id : null`. -/
def fullPage {Item Row Key : Type} (items : List Item) (rows : List (Key × Row)) (limit : Int) :
    ListPage Item Key :=
  if (rows.length : Int) = limit then
    match rows.getLast? with
    | none => .error .typeError
    | some last => .ok (items, some last.1)
  else .ok (items, none)

def forbiddenBlocked : ServiceError := .http .forbidden "blocked" .blocked none

/-! ## Comments -/

section Comments

variable (s : PostTables)

/-- `select: { id, username, avatarUrl, isVerified }`. -/
def PostTables.author (userId : UserId) : Option AuthorSnippet :=
  (s.users.find? userId).map fun user => ⟨user, userId⟩

/-- `where: { postId, deletedAt: null }`. -/
def Comment.ofPost (postId : PostId) (comment : Comment) : Bool :=
  decide (comment.postId = postId) && comment.deletedAt.isNone

def toCommentItem (entry : CommentId × Comment) : CommentItem where
  toComment := entry.2
  id := entry.1
  user := s.author entry.2.userId

def PostTables.listForPost (order : CommentOrder) (postId : PostId) (cursor : Option CommentId)
    (limit : Int) : ListPage CommentItem CommentId :=
  let comments := datedTake order s.comments (fun _ comment => comment.ofPost postId) cursor limit
  fullPage (comments.map (toCommentItem s)) comments limit

end Comments

/-! ## Posts -/

section Posts

variable (s : PostTables)

def PostTables.peersBlockedEitherWay (viewerId : UserId) : List UserId :=
  ((s.blocks.select fun pair _ => decide (pair.1 = viewerId) || decide (pair.2 = viewerId)).map
    Prod.fst).foldl (fun ids pair => addToSet ids (blockPeer viewerId pair)) []

/-- The authors of a feed: the reader, and those whom the reader follows and no block separates. -/
def PostTables.authorIds (userId : UserId) : List UserId :=
  let following := (s.follows.select fun pair status =>
    decide (pair.1 = userId) && decide (status = .accepted)).map fun entry => entry.1.2
  let blocked := s.peersBlockedEitherWay userId
  userId :: following.filter fun followingId => !decide (followingId ∈ blocked)

/-- `where: { userId: { in: authorIds }, deletedAt: null }`. -/
def Post.ofAuthors (authorIds : List UserId) (post : Post) : Bool :=
  decide (post.userId ∈ authorIds) && post.deletedAt.isNone

/-- `attachLikedByMe`. -/
def PostTables.attachLikedByMe (viewerId : UserId) (withUser : Bool) (rows : List (PostId × Post)) :
    List PostItem :=
  if rows = [] then []
  else
    let ids := rows.map Prod.fst
    let liked : List PostId := (s.likes.select fun pair _ => decide (pair.2 = viewerId) && decide (pair.1 ∈ ids)).map
      fun entry => entry.1.1
    rows.map fun entry =>
      { toPost := entry.2
        id := entry.1
        user := if withUser then s.author entry.2.userId else none
        likedByMe := decide (entry.1 ∈ liked) }

def PostTables.feedForUser (order : PostOrder) (userId : UserId) (query : PostFeedQueryDto) :
    ListPage PostItem PostId :=
  let posts := datedTake order s.posts (fun _ post => post.ofAuthors (s.authorIds userId)) query.cursor
    query.limit
  fullPage (s.attachLikedByMe userId true posts) posts query.limit

def PostTables.userPosts (order : PostOrder) (profileUserId viewerId : UserId) (query : PostFeedQueryDto) :
    ListPage PostItem PostId :=
  if profileUserId ≠ viewerId ∧ profileUserId ∈ s.peersBlockedEitherWay viewerId then
    .error (.service forbiddenBlocked)
  else
    let posts := datedTake order s.posts (fun _ post => post.ofAuthors [profileUserId]) query.cursor
      query.limit
    fullPage (s.attachLikedByMe viewerId false posts) posts query.limit

end Posts

/-! ## Messages -/

/-- `Math.min(Math.max(limit, 1), 100)`. -/
def messagesTake (limit : Int) : Nat := (min (max limit 1) 100).toNat

def listMessages (s : Messaging.State) (order : MessageOrder) (userId : UserId)
    (conversationId : ConversationId) (cursor : Option MessageId) (limit : Int) :
    ListPage MessageDto MessageId :=
  match s.participant? conversationId userId with
  | none => .error (.service notParticipant)
  | some participant =>
    if participant.leftAt.isSome then .error (.service notParticipant)
    else
      let take := messagesTake limit
      let rows := (datedRows order s.messages.rows (fun _ message =>
        decide (message.conversationId = conversationId)) cursor).take (take + 1)
      let hasMore := decide (rows.length > take)
      let page := if hasMore then rows.take take else rows
      .ok ((page.map s.withItsReactions).reverse,
        if hasMore then page.getLast?.map Prod.fst else none)

/-! ## Deleting -/

/-- `data: { deletedAt: new Date() }` of rows that were not deleted. -/
def Comment.delete (now : Time) (comment : Comment) : Comment :=
  { comment with deletedAt := comment.deletedAt.or (some now) }

def Post.delete (now : Time) (post : Post) : Post :=
  { post with deletedAt := post.deletedAt.or (some now) }

/-- Comments and posts that are deleted between two requests. -/
structure Deletions where
  commentIds : List CommentId
  postIds : List PostId
  now : Time
  deriving DecidableEq

def PostTables.remove (s : PostTables) (deletions : Deletions) : PostTables :=
  { s with
    comments := s.comments.modifyWhere (fun id _ => decide (id ∈ deletions.commentIds))
      (Comment.delete deletions.now)
    posts := s.posts.modifyWhere (fun id _ => decide (id ∈ deletions.postIds))
      (Post.delete deletions.now) }

/-- The tables at the `n`-th request. -/
def PostTables.atRequest (s : PostTables) (deletions : Nat → Deletions) : Nat → PostTables
  | 0 => s
  | n + 1 => (s.atRequest deletions n).remove (deletions n)

/-- `data: { isDeleted: true, content: null, mediaUrls: [], inviteData: JsonNull }`. -/
def deleteMessage (message : Messaging.Message) : Messaging.Message :=
  { message with isDeleted := true, content := none, mediaUrls := [], inviteData := none }

/-- Messages that are deleted stay where they are, with their identifiers. -/
def removeMessages (messages : Messaging.MessageTable) (messageIds : List MessageId) :
    Messaging.MessageTable where
  rows := messages.rows.modifyWhere (fun id _ => decide (id ∈ messageIds)) deleteMessage
  unique := by
    have kept : ∀ id row, (messages.rows.modifyWhere (fun id _ => decide (id ∈ messageIds))
        deleteMessage).find? id = some row → ∃ old, messages.rows.find? id = some old ∧
          row.conversationId = old.conversationId ∧ row.clientId = old.clientId := by
      intro id row found
      rw [Table.find?_modifyWhere] at found
      obtain ⟨old, stored, rfl⟩ := Option.map_eq_some_iff.mp found
      refine ⟨old, stored, ?_⟩
      split
      · exact ⟨rfl, rfl⟩
      · exact ⟨rfl, rfl⟩
    intro first second row row' one two conversation client present
    obtain ⟨old, stored, sameConversation, sameClient⟩ := kept first row one
    obtain ⟨old', stored', sameConversation', sameClient'⟩ := kept second row' two
    rw [sameConversation, sameConversation'] at conversation
    rw [sameClient, sameClient'] at client
    rw [sameClient] at present
    exact messages.unique first second old old' stored stored' conversation client present

/-- The state of the messages at the `n`-th request. -/
def messagesAtRequest (s : Messaging.State) (deletions : Nat → List MessageId) : Nat → Messaging.State
  | 0 => s
  | n + 1 =>
    let before := messagesAtRequest s deletions n
    before.withMessages (removeMessages before.messages (deletions n))

end Motogram.Listings
