import Motogram.Listings.Threads
import Motogram.Messaging.Resend

/-!
# Cursors that name a row

The lists of comments, posts and messages take the id of the last row read as the cursor of the
next page: the database then lists the rows at or beyond the time of that row, and leaves out
the first of them. When the row has been deleted meanwhile, the first of them is a row that was
not read yet, and it is lost. When another row has the same time, either of the two may come
first: one can be lost and the other read twice.

While every cursor is settled (its row is still listed and alone with its time, or nothing is
left), each list is read once over (`lists_read_once`). The comments must also be asked for with
a limit that is positive, or with a negative one that takes them all at once.
-/

set_option autoImplicit false

namespace Motogram.Listings

open Foundation Table
open Messaging (ConversationId MessageId MessageDto notParticipant)

/-! ## The ids of a page -/

theorem fullPage_ids {Item Row Key : Type} [DecidableEq Key] (itemId : Item → Key) (items : List Item)
    (rows : List (Key × Row)) (same : items.map itemId = rows.map Prod.fst) {limit : Nat}
    (positive : 0 < limit) :
    showPage (List.map itemId) (fullPage items rows limit).toOption =
      some (rows.map Prod.fst,
        if (rows.map Prod.fst).length = limit then (rows.map Prod.fst).getLast? else none) := by
  rw [fullPage, List.length_map]
  by_cases full : rows.length = limit
  · have some' : rows ≠ [] := by
      intro empty
      rw [empty, List.length_nil] at full
      omega
    rw [if_pos (Nat.cast_inj.mpr full), if_pos full, List.getLast?_map, List.getLast?_eq_some_getLast some']
    simp only [Except.toOption, showPage, Option.map_some, same]
  · rw [if_neg fun equal => full (Nat.cast_inj.mp equal), if_neg full]
    simp only [Except.toOption, showPage, Option.map_some, same]

theorem cut_fullPage {Item Row Key Date : Type} [DecidableEq Key] [LinearOrder Date] {date : Row → Date}
    (arrangement : Arrangement fun entry : Key × Row => date entry.2) (table : Table Key Row)
    (condition : Key → Row → Bool) (cursor : Option Key) (itemId : Item → Key)
    (toItems : List (Key × Row) → List Item)
    (same : ∀ rows, (toItems rows).map itemId = rows.map Prod.fst) {limit : Nat} (positive : 0 < limit) :
    ∃ answer, showPage (List.map itemId) (fullPage
        (toItems (datedTake arrangement table condition cursor limit))
        (datedTake arrangement table condition cursor limit) limit).toOption = some answer ∧
      CutFrom id ((datedRows arrangement table condition cursor).map Prod.fst) answer := by
  have taken : datedTake arrangement table condition cursor limit =
      (datedRows arrangement table condition cursor).take limit := by
    rw [datedTake, if_pos (Int.natCast_nonneg limit), Int.toNat_natCast]
  refine ⟨_, fullPage_ids itemId _ _ (same _) positive, ?_⟩
  rw [taken, List.map_take]
  exact cutFrom_full positive _

/-! ## Comments -/

section Comments

variable (s : PostTables) (deletions : Nat → Deletions) (orders : Nat → CommentOrder) (postId : PostId)
  (limit : Int)

def commentIds (s : PostTables) (postId : PostId) : List CommentId :=
  listedKeys s.comments fun _ comment => comment.ofPost postId

/-- The ids of a page of `listForPost`. -/
def fetchComments (s : PostTables) (order : CommentOrder) (postId : PostId) (limit : Int)
    (cursor : Option CommentId) : Option (List CommentId × Option CommentId) :=
  showPage (List.map CommentItem.id) (s.listForPost order postId cursor limit).toOption

def requestComments (n : Nat) (cursor : Option CommentId) : Option (List CommentId × Option CommentId) :=
  fetchComments (s.atRequest deletions n) (orders n) postId limit cursor

/-- The limit is positive, or negative and takes all comments there are from the end. -/
def LimitServes : Prop := 0 < limit ∨ limit < 0 ∧ ((commentIds s postId).length : Int) ≤ -limit

def commentTime : CommentId → Time := dateIn Comment.createdAt 0 s.comments

def commentChange (n : Nat) (commentId : CommentId) (comment : Comment) : Comment :=
  if commentId ∈ (deletions n).commentIds then Comment.delete (deletions n).now comment else comment

theorem comments_fading :
    Fading Comment.createdAt (commentTime s) (fun n => (s.atRequest deletions n).comments)
      fun n => commentIds (s.atRequest deletions n) postId := by
  refine fading_of_changes (fun n => (s.atRequest deletions n).comments)
    (fun _ _ comment => comment.ofPost postId) (commentChange deletions) ?_ ?_ ?_ 0
  · intro n commentId
    rw [PostTables.atRequest, PostTables.remove, find?_modifyWhere]
    refine congrArg (Option.map · _) ?_
    funext comment
    simp only [commentChange, decide_eq_true_eq]
  · intro n commentId comment
    rw [commentChange]
    split
    · rfl
    · rfl
  · intro n commentId comment holds
    rw [commentChange] at holds
    split at holds
    · rw [Comment.ofPost, Bool.and_eq_true] at holds ⊢
      refine ⟨holds.1, ?_⟩
      have kept := holds.2
      rw [Comment.delete, Option.isNone_iff_eq_none, Option.or_eq_none_iff] at kept
      rw [kept.1]
      rfl
    · exact holds

/-- With a negative limit the first page takes from the end, and has no cursor. -/
theorem fetchComments_negative {order : CommentOrder} (negative : limit < 0)
    (enough : ((commentIds s postId).length : Int) ≤ -limit) :
    ∃ keys, fetchComments s order postId limit none = some (keys, none) ∧ keys.Perm (commentIds s postId) := by
  have few : ((s.comments.select fun _ comment => comment.ofPost postId).length : Int) ≤ -limit := by
    rwa [commentIds, listedKeys, List.length_map] at enough
  have length := (order.perm (s.comments.select fun _ comment => comment.ofPost postId)).length_eq
  have taken : datedTake order s.comments (fun _ comment => comment.ofPost postId) none limit =
      order.order (s.comments.select fun _ comment => comment.ofPost postId) := by
    rw [datedTake, if_neg (not_le.mpr negative)]
    have none' : (order.order (s.comments.select fun _ comment => comment.ofPost postId)).length -
        (-limit).toNat = 0 := by omega
    simp only [datedRowsBack, none', List.drop_zero]
  refine ⟨(order.order (s.comments.select fun _ comment => comment.ofPost postId)).map Prod.fst, ?_,
    (order.perm _).map Prod.fst⟩
  have short : ¬ ((order.order (s.comments.select fun _ comment => comment.ofPost postId)).length : Int) =
      limit := by omega
  rw [fetchComments, PostTables.listForPost]
  simp only [taken, fullPage, if_neg short, Except.toOption, showPage, Option.map_some, List.map_map]
  rfl

theorem comments_read_once (serves : LimitServes s postId limit)
    (settled : AllSettled (commentTime s) (fun n => commentIds (s.atRequest deletions n) postId)
      (requestComments s deletions orders postId limit)) :
    ReadsEachOnce (fun n => commentIds (s.atRequest deletions n) postId)
      (requestComments s deletions orders postId limit) := by
  obtain positive | ⟨negative, enough⟩ := serves
  · have requests : TableRequests orders (fun n => (s.atRequest deletions n).comments)
        (fun _ _ comment => comment.ofPost postId)
        (fun n => commentIds (s.atRequest deletions n) postId)
        (requestComments s deletions orders postId limit) := by
      intro n cursor
      refine .inr ⟨rfl, ?_⟩
      obtain ⟨count, rfl⟩ := Int.eq_ofNat_of_zero_le (le_of_lt positive)
      exact cut_fullPage (orders n) _ _ cursor CommentItem.id
        (List.map (toCommentItem (s.atRequest deletions n)))
        (fun rows => by rw [List.map_map]; rfl) (by omega)
    exact readsEachOnce_tables (comments_fading s deletions postId) requests settled
  · obtain ⟨keys, answered, perm⟩ := fetchComments_negative s postId limit negative enough
    exact readsEachOnce_of_first answered perm (s.comments.nodup_select _)

end Comments

/-! ## Posts -/

section Posts

variable (s : PostTables) (deletions : Nat → Deletions) (orders : Nat → PostOrder)

theorem attachLikedByMe_ids (viewerId : UserId) (withUser : Bool) (rows : List (PostId × Post)) :
    (s.attachLikedByMe viewerId withUser rows).map PostItem.id = rows.map Prod.fst := by
  rw [PostTables.attachLikedByMe]
  split
  · rename_i empty
    rw [empty]
    rfl
  · rw [List.map_map]
    rfl

def postTime : PostId → OrderDual Time := dateIn Post.newest (OrderDual.toDual 0) s.posts

def postChange (n : Nat) (postId : PostId) (post : Post) : Post :=
  if postId ∈ (deletions n).postIds then Post.delete (deletions n).now post else post

theorem posts_fading (authorIds : List UserId) :
    Fading Post.newest (postTime s) (fun n => (s.atRequest deletions n).posts)
      fun n => listedKeys (s.atRequest deletions n).posts fun _ post => post.ofAuthors authorIds := by
  refine fading_of_changes (fun n => (s.atRequest deletions n).posts)
    (fun _ _ post => post.ofAuthors authorIds) (postChange deletions) ?_ ?_ ?_ (OrderDual.toDual 0)
  · intro n postId
    rw [PostTables.atRequest, PostTables.remove, find?_modifyWhere]
    refine congrArg (Option.map · _) ?_
    funext post
    simp only [postChange, decide_eq_true_eq]
  · intro n postId post
    rw [postChange]
    split
    · rfl
    · rfl
  · intro n postId post holds
    rw [postChange] at holds
    split at holds
    · rw [Post.ofAuthors, Bool.and_eq_true] at holds ⊢
      refine ⟨holds.1, ?_⟩
      have kept := holds.2
      rw [Post.delete, Option.isNone_iff_eq_none, Option.or_eq_none_iff] at kept
      rw [kept.1]
      rfl
    · exact holds

theorem atRequest_relations (n : Nat) :
    (s.atRequest deletions n).follows = s.follows ∧ (s.atRequest deletions n).blocks = s.blocks := by
  induction n with
  | zero => exact ⟨rfl, rfl⟩
  | succ n ih => exact ih

theorem peersBlocked_atRequest (viewerId : UserId) (n : Nat) :
    (s.atRequest deletions n).peersBlockedEitherWay viewerId = s.peersBlockedEitherWay viewerId := by
  rw [PostTables.peersBlockedEitherWay, PostTables.peersBlockedEitherWay, (atRequest_relations s deletions n).2]

theorem authorIds_atRequest (userId : UserId) (n : Nat) :
    (s.atRequest deletions n).authorIds userId = s.authorIds userId := by
  rw [PostTables.authorIds, PostTables.authorIds, peersBlocked_atRequest,
    (atRequest_relations s deletions n).1]

/-! ### The feed -/

/-- The posts of a rider's feed that are not deleted. -/
def feedIds (s : PostTables) (userId : UserId) : List PostId :=
  listedKeys s.posts fun _ post => post.ofAuthors (s.authorIds userId)

def requestFeed (userId : UserId) (query : PostFeedQueryDto) (n : Nat) (cursor : Option PostId) :
    Option (List PostId × Option PostId) :=
  showPage (List.map PostItem.id) ((s.atRequest deletions n).feedForUser (orders n) userId
    { query with cursor := cursor }).toOption

theorem feed_read_once (userId : UserId) (query : PostFeedQueryDto)
    (settled : AllSettled (postTime s) (fun n => feedIds (s.atRequest deletions n) userId)
      (requestFeed s deletions orders userId query)) :
    ReadsEachOnce (fun n => feedIds (s.atRequest deletions n) userId)
      (requestFeed s deletions orders userId query) := by
  have same : (fun n => feedIds (s.atRequest deletions n) userId) = fun n =>
      listedKeys (s.atRequest deletions n).posts fun _ post => post.ofAuthors (s.authorIds userId) := by
    funext n
    rw [feedIds, authorIds_atRequest]
  have requests : TableRequests orders (fun n => (s.atRequest deletions n).posts)
      (fun _ _ post => post.ofAuthors (s.authorIds userId))
      (fun n => feedIds (s.atRequest deletions n) userId) (requestFeed s deletions orders userId query) := by
    intro n cursor
    refine .inr ⟨congrFun same n, ?_⟩
    rw [requestFeed, PostTables.feedForUser]
    simp only [authorIds_atRequest]
    exact cut_fullPage (orders n) _ _ cursor PostItem.id ((s.atRequest deletions n).attachLikedByMe userId true)
      (attachLikedByMe_ids (s.atRequest deletions n) userId true) query.limit_range.1
  have fading := posts_fading s deletions (s.authorIds userId)
  rw [← same] at fading
  exact readsEachOnce_tables fading requests settled

/-! ### The posts of a rider -/

/-- The posts of a rider are not shown across a block. -/
def PostTables.hidesPosts (s : PostTables) (profileUserId viewerId : UserId) : Bool :=
  decide (profileUserId ≠ viewerId) && decide (profileUserId ∈ s.peersBlockedEitherWay viewerId)

/-- The posts of a rider that are not deleted, and none where they are not shown. -/
def userPostIds (s : PostTables) (profileUserId viewerId : UserId) : List PostId :=
  if s.hidesPosts profileUserId viewerId then []
  else listedKeys s.posts fun _ post => post.ofAuthors [profileUserId]

/-- The requests for the posts of a rider, with the deletions between them: the ids of their
pages. -/
def requestUserPosts (profileUserId viewerId : UserId) (query : PostFeedQueryDto) (n : Nat)
    (cursor : Option PostId) : Option (List PostId × Option PostId) :=
  showPage (List.map PostItem.id) ((s.atRequest deletions n).userPosts (orders n) profileUserId viewerId
    { query with cursor := cursor }).toOption

theorem userPosts_read_once (profileUserId viewerId : UserId) (query : PostFeedQueryDto)
    (settled : AllSettled (postTime s) (fun n => userPostIds (s.atRequest deletions n) profileUserId viewerId)
      (requestUserPosts s deletions orders profileUserId viewerId query)) :
    ReadsEachOnce (fun n => userPostIds (s.atRequest deletions n) profileUserId viewerId)
      (requestUserPosts s deletions orders profileUserId viewerId query) := by
  have hides : ∀ n, (s.atRequest deletions n).hidesPosts profileUserId viewerId =
      s.hidesPosts profileUserId viewerId := by
    intro n
    rw [PostTables.hidesPosts, PostTables.hidesPosts, peersBlocked_atRequest]
  by_cases hidden : s.hidesPosts profileUserId viewerId = true
  · refine readsEachOnce_of_refused ?_ (if_pos hidden)
    rw [PostTables.hidesPosts, Bool.and_eq_true, decide_eq_true_eq, decide_eq_true_eq] at hidden
    rw [requestUserPosts, PostTables.atRequest, PostTables.userPosts, if_pos hidden]
    rfl
  · have same : (fun n => userPostIds (s.atRequest deletions n) profileUserId viewerId) = fun n =>
        listedKeys (s.atRequest deletions n).posts fun _ post => post.ofAuthors [profileUserId] := by
      funext n
      rw [userPostIds, hides, if_neg hidden]
    have requests : TableRequests orders (fun n => (s.atRequest deletions n).posts)
        (fun _ _ post => post.ofAuthors [profileUserId])
        (fun n => userPostIds (s.atRequest deletions n) profileUserId viewerId)
        (requestUserPosts s deletions orders profileUserId viewerId query) := by
      intro n cursor
      refine .inr ⟨congrFun same n, ?_⟩
      have shown : ¬ (profileUserId ≠ viewerId ∧
          profileUserId ∈ (s.atRequest deletions n).peersBlockedEitherWay viewerId) := by
        intro both
        refine hidden ?_
        rw [← hides n, PostTables.hidesPosts, Bool.and_eq_true, decide_eq_true_eq, decide_eq_true_eq]
        exact both
      rw [requestUserPosts, PostTables.userPosts, if_neg shown]
      exact cut_fullPage (orders n) _ _ cursor PostItem.id
        ((s.atRequest deletions n).attachLikedByMe viewerId false)
        (attachLikedByMe_ids (s.atRequest deletions n) viewerId false) query.limit_range.1
    have fading := posts_fading s deletions [profileUserId]
    rw [← same] at fading
    exact readsEachOnce_tables fading requests settled

end Posts

/-! ## Messages -/

section Messages

variable (s : Messaging.State) (deletions : Nat → List MessageId) (orders : Nat → MessageOrder)
  (userId : UserId) (conversationId : ConversationId) (limit : Int)

def takesPart (s : Messaging.State) (userId : UserId) (conversationId : ConversationId) : Bool :=
  (s.participant? conversationId userId).any fun participant => participant.leftAt.isNone

def messageIds (s : Messaging.State) (userId : UserId) (conversationId : ConversationId) : List MessageId :=
  if takesPart s userId conversationId then
    listedKeys s.messages.rows fun _ message => decide (message.conversationId = conversationId)
  else []

/-- The requests for the messages of a conversation, with the deletions between them: the ids of
their pages, the newest first. -/
def requestMessages (n : Nat) (cursor : Option MessageId) : Option (List MessageId × Option MessageId) :=
  showPage (fun items => (items.map MessageDto.id).reverse)
    (listMessages (messagesAtRequest s deletions n) (orders n) userId conversationId cursor limit).toOption

def messageTime : MessageId → OrderDual Time := dateIn newestMessage (OrderDual.toDual 0) s.messages.rows

def messageChange (n : Nat) (messageId : MessageId) (message : Messaging.Message) : Messaging.Message :=
  if messageId ∈ deletions n then deleteMessage message else message

theorem messages_fading :
    Fading newestMessage (messageTime s) (fun n => (messagesAtRequest s deletions n).messages.rows)
      fun n => listedKeys (messagesAtRequest s deletions n).messages.rows
        fun _ message => decide (message.conversationId = conversationId) := by
  refine fading_of_changes (fun n => (messagesAtRequest s deletions n).messages.rows)
    (fun _ _ message => decide (message.conversationId = conversationId)) (messageChange deletions)
    ?_ ?_ ?_ (OrderDual.toDual 0)
  · intro n messageId
    refine (find?_modifyWhere ..).trans (congrArg (Option.map · _) ?_)
    funext message
    simp only [messageChange, decide_eq_true_eq]
  · intro n messageId message
    rw [messageChange]
    split
    · rfl
    · rfl
  · intro n messageId message holds
    rw [messageChange] at holds
    split at holds
    · exact holds
    · exact holds

theorem takesPart_atRequest (n : Nat) :
    takesPart (messagesAtRequest s deletions n) userId conversationId = takesPart s userId conversationId := by
  induction n with
  | zero => rfl
  | succ n ih => exact ih

theorem listMessages_ids {order : MessageOrder} {cursor : Option MessageId}
    (part : takesPart s userId conversationId = true) :
    showPage (fun items => (items.map MessageDto.id).reverse)
        (listMessages s order userId conversationId cursor limit).toOption =
      some (keysetPage (messagesTake limit) id (((datedRows order s.messages.rows (fun _ message =>
        decide (message.conversationId = conversationId)) cursor).map Prod.fst).take
          (messagesTake limit + 1))) := by
  rw [takesPart] at part
  cases here : s.participant? conversationId userId with
  | none =>
    rw [here] at part
    cases part
  | some participant =>
    have active : participant.leftAt = none := by simpa [here] using part
    have ids : ∀ rows : List (MessageId × Messaging.Message),
        ((rows.map s.withItsReactions).reverse.map MessageDto.id).reverse = rows.map Prod.fst := by
      intro rows
      rw [List.map_reverse, List.reverse_reverse, List.map_map]
      rfl
    rw [listMessages, here]
    simp only [active, Option.isSome_none, Bool.false_eq_true, if_false, Except.toOption, showPage,
      Option.map_some, ids]
    rw [← List.map_take, keysetPage, List.length_map]
    by_cases more : ((datedRows order s.messages.rows (fun _ message =>
        decide (message.conversationId = conversationId)) cursor).take (messagesTake limit + 1)).length >
          messagesTake limit
    · simp only [more, decide_true, if_true, ← List.map_take, List.getLast?_map, Option.map_id, id_eq]
    · simp only [more, decide_false, if_false, Bool.false_eq_true]

theorem messagesTake_pos (limit : Int) : 0 < messagesTake limit := by
  rw [messagesTake]
  omega

theorem messages_read_once
    (settled : AllSettled (messageTime s)
      (fun n => messageIds (messagesAtRequest s deletions n) userId conversationId)
      (requestMessages s deletions orders userId conversationId limit)) :
    ReadsEachOnce (fun n => messageIds (messagesAtRequest s deletions n) userId conversationId)
      (requestMessages s deletions orders userId conversationId limit) := by
  by_cases part : takesPart s userId conversationId = true
  · have same : (fun n => messageIds (messagesAtRequest s deletions n) userId conversationId) = fun n =>
        listedKeys (messagesAtRequest s deletions n).messages.rows
          fun _ message => decide (message.conversationId = conversationId) := by
      funext n
      rw [messageIds, takesPart_atRequest, if_pos part]
    have requests : TableRequests orders (fun n => (messagesAtRequest s deletions n).messages.rows)
        (fun _ _ message => decide (message.conversationId = conversationId))
        (fun n => messageIds (messagesAtRequest s deletions n) userId conversationId)
        (requestMessages s deletions orders userId conversationId limit) := by
      intro n cursor
      have here : takesPart (messagesAtRequest s deletions n) userId conversationId = true := by
        rw [takesPart_atRequest, part]
      exact .inr ⟨congrFun same n, _, listMessages_ids _ userId conversationId limit here,
        keysetPage_cut (messagesTake_pos limit) id _⟩
    have fading := messages_fading s deletions conversationId
    rw [← same] at fading
    exact readsEachOnce_tables fading requests settled
  · refine readsEachOnce_of_refused ?_ (if_neg part)
    rw [requestMessages, messagesAtRequest, listMessages]
    rw [takesPart] at part
    cases here : s.participant? conversationId userId with
    | none => rfl
    | some participant =>
      have left : participant.leftAt.isSome = true := by
        rw [here] at part
        cases gone : participant.leftAt with
        | none => simp [gone] at part
        | some time => rfl
      simp only [left, if_true]
      rfl

end Messages

/-! ## All lists -/

/-- **A list in the order of time is read once over where every cursor is settled**: following
`nextCursor` comes to an end, and each row that was listed at every request was returned once. -/
theorem lists_read_once (s : PostTables) (deletions : Nat → Deletions) (commentOrders : Nat → CommentOrder)
    (postOrders : Nat → PostOrder) (chat : Messaging.State) (messageDeletions : Nat → List MessageId)
    (messageOrders : Nat → MessageOrder) (postId : PostId) (commentLimit : Int)
    (userId profileUserId viewerId memberId : UserId) (query : PostFeedQueryDto)
    (conversationId : ConversationId) (messageLimit : Int) :
    (LimitServes s postId commentLimit →
      AllSettled (commentTime s) (fun n => commentIds (s.atRequest deletions n) postId)
        (requestComments s deletions commentOrders postId commentLimit) →
      ReadsEachOnce (fun n => commentIds (s.atRequest deletions n) postId)
        (requestComments s deletions commentOrders postId commentLimit)) ∧
    (AllSettled (postTime s) (fun n => feedIds (s.atRequest deletions n) userId)
        (requestFeed s deletions postOrders userId query) →
      ReadsEachOnce (fun n => feedIds (s.atRequest deletions n) userId)
        (requestFeed s deletions postOrders userId query)) ∧
    (AllSettled (postTime s) (fun n => userPostIds (s.atRequest deletions n) profileUserId viewerId)
        (requestUserPosts s deletions postOrders profileUserId viewerId query) →
      ReadsEachOnce (fun n => userPostIds (s.atRequest deletions n) profileUserId viewerId)
        (requestUserPosts s deletions postOrders profileUserId viewerId query)) ∧
    (AllSettled (messageTime chat)
        (fun n => messageIds (messagesAtRequest chat messageDeletions n) memberId conversationId)
        (requestMessages chat messageDeletions messageOrders memberId conversationId messageLimit) →
      ReadsEachOnce (fun n => messageIds (messagesAtRequest chat messageDeletions n) memberId conversationId)
        (requestMessages chat messageDeletions messageOrders memberId conversationId messageLimit)) := by
  refine ⟨fun serves settled => ?_, fun settled => ?_, fun settled => ?_, fun settled => ?_⟩
  · exact comments_read_once s deletions commentOrders postId commentLimit serves settled
  · exact feed_read_once s deletions postOrders userId query settled
  · exact userPosts_read_once s deletions postOrders profileUserId viewerId query settled
  · exact messages_read_once chat messageDeletions messageOrders memberId conversationId messageLimit settled

/-! ## Small lists -/

def smallComment (createdAt : Time) : Comment where
  postId := 1
  userId := 1
  content := "nice"
  mentionedUserIds := []
  createdAt := createdAt
  updatedAt := createdAt
  deletedAt := none

/-- A post of rider 1. -/
def smallPost (createdAt : Time) : Post where
  userId := 1
  caption := none
  mediaUrls := []
  mediaType := .image
  routeId := none
  eventId := none
  groupId := none
  likesCount := 0
  commentsCount := 0
  sharesCount := 0
  latitude := none
  longitude := none
  locationName := none
  hashtags := []
  mentionedUserIds := []
  createdAt := createdAt
  updatedAt := createdAt
  deletedAt := none

/-- Rider 1 has three posts, and the first has three comments. -/
def smallPosts : PostTables where
  users := empty.insert 1 ⟨"rider1", none, false⟩
  posts := ((empty.insert 1 (smallPost 1)).insert 2 (smallPost 2)).insert 3 (smallPost 3)
  comments := ((empty.insert 1 (smallComment 1)).insert 2 (smallComment 2)).insert 3 (smallComment 3)
  likes := .empty
  follows := .empty
  blocks := .empty

/-- After the first page a comment is deleted, and nothing afterwards. -/
def deleteComment (commentId : CommentId) (n : Nat) : Deletions where
  commentIds := if n = 0 then [commentId] else []
  postIds := []
  now := 10

def textAt (createdAt : Time) : Messaging.Message where
  conversationId := "conversation"
  senderId := 1
  clientId := none
  content := some "hello"
  mediaUrls := []
  messageType := .text
  inviteData := none
  isDeleted := false
  createdAt := createdAt

/-- Riders 1 and 2 have written two messages at these times. -/
def smallChat (first second : Time) : Messaging.State :=
  Messaging.smallInstallation.withMessages
    ((Messaging.MessageTable.empty.create "first" (textAt first) (fun _ here => by cases here)).create "second"
      (textAt second) (fun _ here => by cases here))

/-- The order of the rows of one time turns round at the second request. -/
def turnedRound (n : Nat) : MessageOrder :=
  if n = 1 then .stored _ else .reversed _

def twoPerPage : PostFeedQueryDto := ⟨none, 2, by decide⟩

/-- A comment that is neither the last one read nor unread may go; the other lists stay as they are. -/
theorem small_lists_read_once :
    ReadsEachOnce (fun n => commentIds (smallPosts.atRequest (deleteComment 1) n) 1)
        (requestComments smallPosts (deleteComment 1) (fun _ => .stored _) 1 2) ∧
      ReadsEachOnce (fun n => feedIds (smallPosts.atRequest (deleteComment 1) n) 1)
        (requestFeed smallPosts (deleteComment 1) (fun _ => .stored _) 1 twoPerPage) ∧
      ReadsEachOnce (fun n => userPostIds (smallPosts.atRequest (deleteComment 1) n) 1 2)
        (requestUserPosts smallPosts (deleteComment 1) (fun _ => .stored _) 1 2 twoPerPage) ∧
      ReadsEachOnce (fun n => messageIds (messagesAtRequest (smallChat 1 2) (fun _ => ["first"]) n) 2
          "conversation")
        (requestMessages (smallChat 1 2) (fun _ => ["first"]) turnedRound 2 "conversation" 1) := by
  obtain ⟨comments, feed, userPosts, messages⟩ := lists_read_once smallPosts (deleteComment 1)
    (fun _ => .stored _) (fun _ => .stored _) (smallChat 1 2) (fun _ => ["first"]) turnedRound 1 2 1 1 2 2
    twoPerPage "conversation" 1
  refine ⟨comments (.inl (by decide)) ?_, feed ?_, userPosts ?_, messages ?_⟩
  · exact allSettled_of_ended 2 (by decide +kernel) (by decide +kernel)
  · exact allSettled_of_ended 2 (by decide +kernel) (by decide +kernel)
  · exact allSettled_of_ended 2 (by decide +kernel) (by decide +kernel)
  · exact allSettled_of_ended 2 (by decide +kernel) (by decide +kernel)

/-- **When the comment that was read last is deleted, the next one is lost**; of two messages of one
time one is read twice and the other never. -/
theorem comment_and_message_lost :
    ¬ ReadsEachOnce (fun n => commentIds (smallPosts.atRequest (deleteComment 1) n) 1)
        (requestComments smallPosts (deleteComment 1) (fun _ => .stored _) 1 1) ∧
      ¬ ReadsEachOnce (fun n => messageIds (messagesAtRequest (smallChat 1 1) (fun _ => []) n) 2
          "conversation")
        (requestMessages (smallChat 1 1) (fun _ => []) turnedRound 2 "conversation" 1) := by
  constructor
  · rintro ⟨-, once⟩
    have read := once 3 (by decide +kernel) 2 (by decide +kernel)
    revert read
    decide +kernel
  · rintro ⟨-, once⟩
    have read := once 2 (by decide +kernel) "second" (by decide +kernel)
    revert read
    decide +kernel

end Motogram.Listings
