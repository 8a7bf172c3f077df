import Motogram.Foundation.Drift
import Motogram.Social.Counting

/-!
# The counters of posts, comments and views

A transaction writes a row and the counter it is counted in. The drift of a counter is how far
it is from the number of its rows (`countersHold_iff`). A row that is admitted takes from the
drift what its counter adds (`Entry.Fits.drift_apply`); only a comment or a post that is marked
as deleted once more takes nothing, and its counter ends one short
(`Entry.Fits.drift_apply_marked`).
-/

set_option autoImplicit false

namespace Motogram.Social

open Foundation Table State

variable {s : State}

/-! ## Counters and rows -/

/-- Every counter is the number of its rows. -/
structure CountersHold (s : State) : Prop where
  likes : ∀ postId post, s.posts.find? postId = some post →
    post.likesCount = s.likes.count fun pair _ => decide (pair.1 = postId)
  comments : ∀ postId post, s.posts.find? postId = some post →
    post.commentsCount = s.comments.count fun _ comment =>
      decide (comment.postId = postId) && comment.deletedAt.isNone
  posts : ∀ userId user, s.users.find? userId = some user →
    user.postsCount = s.posts.count fun _ post =>
      decide (post.userId = userId) && post.deletedAt.isNone
  views : ∀ storyId story, s.stories.find? storyId = some story →
    story.viewsCount = s.storyViews.count fun pair _ => decide (pair.1 = storyId)

/-- The rows a row refers to are there. -/
structure ForeignKeys (s : State) : Prop where
  likes : ∀ postId userId, s.has (.like postId userId) = true → s.has (.post postId) = true
  comments : ∀ id comment, s.comments.find? id = some comment → s.has (.post comment.postId) = true
  posts : ∀ id post, s.posts.find? id = some post → s.has (.user post.userId) = true
  views : ∀ storyId viewerId, s.has (.storyView storyId viewerId) = true → s.has (.story storyId) = true

attribute [mk_iff countersHold_iff_fields] CountersHold

attribute [mk_iff] ForeignKeys

instance (s : State) : Decidable (CountersHold s) := decidable_of_iff' _ (countersHold_iff_fields s)

instance (s : State) : Decidable (ForeignKeys s) :=
  have rows : Decidable ((∀ postId userId, (s.likes.find? (postId, userId)).isSome = true →
      s.has (.post postId) = true) ∧ (∀ id comment, s.comments.find? id = some comment →
        s.has (.post comment.postId) = true) ∧
      (∀ id post, s.posts.find? id = some post → s.has (.user post.userId) = true) ∧
      ∀ storyId viewerId, (s.storyViews.find? (storyId, viewerId)).isSome = true →
        s.has (.story storyId) = true) := inferInstance
  @decidable_of_iff' _ _ (foreignKeys_iff s) rows

theorem ForeignKeys.no_likes (keys : ForeignKeys s) {postId : PostId} (absent : s.posts.find? postId = none) :
    (s.likes.count fun pair _ => decide (pair.1 = postId)) = 0 := by
  refine List.countP_eq_zero.mpr ?_
  rintro ⟨⟨liked, userId⟩, row⟩ member same
  have here : s.has (.like liked userId) = true :=
    Option.isSome_iff_exists.mpr ⟨row, (mem_entries_iff _).mp member⟩
  have post := keys.likes liked userId here
  have on : liked = postId := of_decide_eq_true same
  rw [on, has, absent] at post
  cases post

theorem ForeignKeys.no_comments (keys : ForeignKeys s) {postId : PostId} (absent : s.posts.find? postId = none) :
    (s.comments.count fun _ comment => decide (comment.postId = postId) && comment.deletedAt.isNone) = 0 := by
  refine List.countP_eq_zero.mpr ?_
  rintro ⟨id, comment⟩ member same
  have post := keys.comments id comment ((mem_entries_iff _).mp member)
  rw [Bool.and_eq_true, decide_eq_true_eq] at same
  rw [same.1, has, absent] at post
  cases post

/-- How far a counter is from the number of its rows. -/
def State.drift (s : State) : Counter → Int
  | .likes postId =>
    s.posts.drift Post.likesCount s.likes (fun postId pair _ => decide (pair.1 = postId)) postId
  | .comments postId => s.posts.drift Post.commentsCount s.comments (fun postId _ comment =>
    decide (comment.postId = postId) && comment.deletedAt.isNone) postId
  | .posts userId => s.users.drift User.postsCount s.posts (fun userId _ post =>
    decide (post.userId = userId) && post.deletedAt.isNone) userId
  | .views storyId =>
    s.stories.drift Story.viewsCount s.storyViews (fun storyId pair _ => decide (pair.1 = storyId)) storyId

theorem countersHold_iff : CountersHold s ↔ ∀ counter, s.drift counter = 0 := by
  constructor
  · intro hold counter
    cases counter with
    | likes postId =>
      rw [State.drift, drift_eq_zero_iff]
      exact hold.likes postId
    | comments postId =>
      rw [State.drift, drift_eq_zero_iff]
      exact hold.comments postId
    | posts userId =>
      rw [State.drift, drift_eq_zero_iff]
      exact hold.posts userId
    | views storyId =>
      rw [State.drift, drift_eq_zero_iff]
      exact hold.views storyId
  · intro none
    refine ⟨fun postId => ?_, fun postId => ?_, fun userId => ?_, fun storyId => ?_⟩
    · have here := none (.likes postId)
      rwa [State.drift, drift_eq_zero_iff] at here
    · have here := none (.comments postId)
      rwa [State.drift, drift_eq_zero_iff] at here
    · have here := none (.posts userId)
      rwa [State.drift, drift_eq_zero_iff] at here
    · have here := none (.views storyId)
      rwa [State.drift, drift_eq_zero_iff] at here

/-! ## A row and its counter -/

/-- What one transaction writes. -/
structure Entry where
  row : RowWrite
  counter : Counter
  change : Int

/-- The counter of the entry counts the row. -/
inductive Entry.Fits (s : State) : Entry → Prop where
  | likeCreate (postId : PostId) (userId : UserId) :
      Fits s ⟨.likeCreate postId userId, .likes postId, 1⟩
  | likeDelete (postId : PostId) (userId : UserId) :
      Fits s ⟨.likeDelete postId userId, .likes postId, -1⟩
  | commentCreate (id : CommentId) (postId : PostId) (userId : UserId) :
      Fits s ⟨.commentCreate id ⟨postId, userId, none⟩, .comments postId, 1⟩
  | commentDelete (id : CommentId) (at' : Time) (comment : Comment)
      (found : s.comments.find? id = some comment) :
      Fits s ⟨.commentDelete id at', .comments comment.postId, -1⟩
  | postCreate (id : PostId) (userId : UserId) :
      Fits s ⟨.postCreate id ⟨userId, 0, 0, none⟩, .posts userId, 1⟩
  | postDelete (id : PostId) (at' : Time) (post : Post) (found : s.posts.find? id = some post) :
      Fits s ⟨.postDelete id at', .posts post.userId, -1⟩
  | storyViewCreate (storyId : StoryId) (viewerId : UserId) :
      Fits s ⟨.storyViewCreate storyId viewerId, .views storyId, 1⟩

def RowWrite.MarksOnce (s : State) : RowWrite → Prop
  | .commentDelete id _ => ∀ comment, s.comments.find? id = some comment → comment.deletedAt = none
  | .postDelete id _ => ∀ post, s.posts.find? id = some post → post.deletedAt = none
  | _ => True

variable (write : Write) {key : RowKey} {entry : Entry}

theorem refusesNew_eq_none {referred : List RowKey} :
    s.refusesNew key referred = none ↔ s.has key = false ∧ ∀ other ∈ referred, s.has other = true := by
  unfold refusesNew
  by_cases taken : s.has key
  · simp [taken]
  · by_cases all : referred.all s.has
    · rw [if_neg taken, if_pos all]
      exact iff_of_true rfl ⟨Bool.eq_false_iff.mpr taken, List.all_eq_true.mp all⟩
    · rw [if_neg taken, if_neg all]
      refine iff_of_false nofun fun both => all (List.all_eq_true.mpr both.2)

theorem refusesChange_eq_none : s.refusesChange key = none ↔ s.has key = true := by
  unfold refusesChange
  split <;> simp_all

theorem find?_eq_none_of_has {Key Row : Type} [DecidableEq Key] {table : Table Key Row} {key : Key}
    (absent : (table.find? key).isSome = false) : table.find? key = none :=
  Option.not_isSome_iff_eq_none.mp (Bool.eq_false_iff.mp absent)

/-! ## What a write adds to the drifts -/

theorem drift_add (counter : Counter) (change : Int) (present : s.has counter.key = true) (other : Counter) :
    (counter.add s change).drift other = s.drift other + if other = counter then change else 0 := by
  cases counter with
  | likes postId =>
    cases other with
    | likes other =>
      simp only [State.drift, Counter.add, Counter.likes.injEq]
      exact drift_modify s.posts s.likes postId (Post.countLike change) change (fun _ => rfl) present
        other
    | comments other =>
      simp only [State.drift, Counter.add, reduceCtorEq, if_false, Int.add_zero]
      exact drift_modify_other s.posts s.comments postId (Post.countLike change) (fun _ => rfl) other
    | posts other =>
      simp only [State.drift, Counter.add, reduceCtorEq, if_false, Int.add_zero]
      exact drift_of_count (fun _ =>
        count_modify_same s.posts postId (Post.countLike change) _ fun _ => rfl) other
    | views other => exact (Int.add_zero _).symm
  | comments postId =>
    cases other with
    | likes other =>
      simp only [State.drift, Counter.add, reduceCtorEq, if_false, Int.add_zero]
      exact drift_modify_other s.posts s.likes postId (Post.countComment change) (fun _ => rfl) other
    | comments other =>
      simp only [State.drift, Counter.add, Counter.comments.injEq]
      exact drift_modify s.posts s.comments postId (Post.countComment change) change (fun _ => rfl)
        present other
    | posts other =>
      simp only [State.drift, Counter.add, reduceCtorEq, if_false, Int.add_zero]
      exact drift_of_count (fun _ =>
        count_modify_same s.posts postId (Post.countComment change) _ fun _ => rfl) other
    | views other => exact (Int.add_zero _).symm
  | posts userId =>
    cases other with
    | posts other =>
      simp only [State.drift, Counter.add, Counter.posts.injEq]
      exact drift_modify s.users s.posts userId (User.countPost change) change (fun _ => rfl) present
        other
    | likes other | comments other | views other => exact (Int.add_zero _).symm
  | views storyId =>
    cases other with
    | views other =>
      simp only [State.drift, Counter.add, Counter.views.injEq]
      exact drift_modify s.stories s.storyViews storyId (Story.countView change) change
        (fun _ => rfl) present other
    | likes other | comments other | posts other => exact (Int.add_zero _).symm

theorem Entry.Fits.has_counter (fits : entry.Fits s) (keys : ForeignKeys s)
    (admitted : entry.row.refusal s = none) : s.has entry.counter.key = true := by
  cases fits with
  | likeCreate | commentCreate | postCreate | storyViewCreate =>
    exact (refusesNew_eq_none.mp admitted).2 _ (List.mem_cons_self ..)
  | likeDelete postId userId => exact keys.likes postId userId (refusesChange_eq_none.mp admitted)
  | commentDelete id at' comment found => exact keys.comments id comment found
  | postDelete id at' post found => exact keys.posts id post found

theorem Entry.Fits.drift_row (fits : entry.Fits s) (keys : ForeignKeys s) (admitted : entry.row.refusal s = none)
    (once : entry.row.MarksOnce s) (other : Counter) :
    (entry.row.apply s).drift other = s.drift other - if other = entry.counter then entry.change else 0 := by
  have present := fits.has_counter keys admitted
  cases fits with
  | likeCreate postId userId =>
    have free := find?_eq_none_of_has (refusesNew_eq_none.mp admitted).1
    cases other with
    | likes other =>
      simp only [State.drift, RowWrite.apply, Counter.likes.injEq]
      exact drift_child_insert present free (fun key => by simp [eq_comm]) other
    | comments other | posts other | views other => exact (Int.sub_zero _).symm
  | likeDelete postId userId =>
    obtain ⟨row, found⟩ := Option.isSome_iff_exists.mp (refusesChange_eq_none.mp admitted)
    cases other with
    | likes other =>
      simp only [State.drift, RowWrite.apply, Counter.likes.injEq]
      exact drift_child_erase present found (fun key => by simp [eq_comm]) other
    | comments other | posts other | views other => exact (Int.sub_zero _).symm
  | commentCreate id postId userId =>
    have free := find?_eq_none_of_has (refusesNew_eq_none.mp admitted).1
    cases other with
    | comments other =>
      simp only [State.drift, RowWrite.apply, Counter.comments.injEq]
      exact drift_child_insert present free (fun key => by simp [eq_comm]) other
    | likes other | posts other | views other => exact (Int.sub_zero _).symm
  | commentDelete id at' comment found =>
    have live := once comment found
    cases other with
    | comments other =>
      simp only [State.drift, RowWrite.apply, Counter.comments.injEq]
      exact drift_child_modify present (Comment.delete at') found
        (fun key => by simp [live, eq_comm]) (fun key => by simp [Comment.delete]) other
    | likes other | posts other | views other => exact (Int.sub_zero _).symm
  | postCreate id userId =>
    have free := find?_eq_none_of_has (refusesNew_eq_none.mp admitted).1
    cases other with
    | likes other =>
      simp only [State.drift, RowWrite.apply, reduceCtorEq, if_false, Int.sub_zero]
      refine drift_insert id (⟨userId, 0, 0, none⟩ : Post) rfl (fun _ => ?_) other
      exact keys.no_likes free
    | comments other =>
      simp only [State.drift, RowWrite.apply, reduceCtorEq, if_false, Int.sub_zero]
      refine drift_insert id (⟨userId, 0, 0, none⟩ : Post) rfl (fun _ => ?_) other
      exact keys.no_comments free
    | posts other =>
      simp only [State.drift, RowWrite.apply, Counter.posts.injEq]
      exact drift_child_insert present free (fun key => by simp [eq_comm]) other
    | views other => exact (Int.sub_zero _).symm
  | postDelete id at' post found =>
    have live := once post found
    cases other with
    | likes other =>
      simp only [State.drift, RowWrite.apply, reduceCtorEq, if_false, Int.sub_zero]
      exact drift_modify_other s.posts s.likes id (Post.delete at') (fun _ => rfl) other
    | comments other =>
      simp only [State.drift, RowWrite.apply, reduceCtorEq, if_false, Int.sub_zero]
      exact drift_modify_other s.posts s.comments id (Post.delete at') (fun _ => rfl) other
    | posts other =>
      simp only [State.drift, RowWrite.apply, Counter.posts.injEq]
      exact drift_child_modify present (Post.delete at') found
        (fun key => by simp [live, eq_comm]) (fun key => by simp [Post.delete]) other
    | views other => exact (Int.sub_zero _).symm
  | storyViewCreate storyId viewerId =>
    have free := find?_eq_none_of_has (refusesNew_eq_none.mp admitted).1
    cases other with
    | views other =>
      simp only [State.drift, RowWrite.apply, Counter.views.injEq]
      exact drift_child_insert present free (fun key => by simp [eq_comm]) other
    | likes other | comments other | posts other => exact (Int.sub_zero _).symm

theorem Entry.Fits.drift_marked (fits : entry.Fits s) (again : ¬ entry.row.MarksOnce s) (other : Counter) :
    (entry.row.apply s).drift other = s.drift other := by
  cases fits with
  | commentDelete id at' comment found =>
    have marked : comment.deletedAt ≠ none := by
      intro live
      refine again fun stored found' => ?_
      rwa [← Option.some.inj (found.symm.trans found')]
    cases other with
    | comments other =>
      simp only [State.drift, RowWrite.apply]
      refine drift_of_count (fun key => ?_) other
      refine count_modifyWhere _ _ _ _ fun key row stored here => ?_
      rw [of_decide_eq_true here, found] at stored
      cases stored
      simp [Comment.delete, Option.isSome_iff_ne_none.mpr marked]
    | likes other | posts other | views other => rfl
  | postDelete id at' post found =>
    have marked : post.deletedAt ≠ none := by
      intro live
      refine again fun stored found' => ?_
      rwa [← Option.some.inj (found.symm.trans found')]
    cases other with
    | likes other =>
      simp only [State.drift, RowWrite.apply]
      exact drift_modify_other s.posts s.likes id (Post.delete at') (fun _ => rfl) other
    | comments other =>
      simp only [State.drift, RowWrite.apply]
      exact drift_modify_other s.posts s.comments id (Post.delete at') (fun _ => rfl) other
    | posts other =>
      simp only [State.drift, RowWrite.apply]
      refine drift_of_count (fun key => ?_) other
      refine count_modifyWhere _ _ _ _ fun key row stored here => ?_
      rw [of_decide_eq_true here, found] at stored
      cases stored
      simp [Post.delete, Option.isSome_iff_ne_none.mpr marked]
    | views other => rfl
  | likeCreate | likeDelete | commentCreate | postCreate | storyViewCreate => exact absurd trivial again

/-! ## What a write leaves in place -/

/-- A write changes the presence of its own row only. -/
theorem has_apply_of_ne (apart : key ≠ write.key) : (write.apply s).has key = s.has key := by
  cases write with
  | row write =>
    cases write with
    | likeCreate postId userId =>
      cases key with
      | like liked liker =>
        have other : (liked, liker) ≠ (postId, userId) := by
          rintro ⟨⟩
          exact apart rfl
        simp only [Write.apply, RowWrite.apply, has, find?_insert_of_ne _ other]
      | _ => rfl
    | likeDelete postId userId =>
      cases key with
      | like liked liker =>
        have other : (liked, liker) ≠ (postId, userId) := by
          rintro ⟨⟩
          exact apart rfl
        simp only [Write.apply, RowWrite.apply, has, find?_erase, if_neg other]
      | _ => rfl
    | commentCreate id comment =>
      cases key with
      | comment other =>
        have other : other ≠ id := by
          rintro rfl
          exact apart rfl
        simp only [Write.apply, RowWrite.apply, has, find?_insert_of_ne _ other]
      | _ => rfl
    | commentDelete id at' =>
      cases key with
      | comment other => exact isSome_find?_modify _ _ _ _
      | _ => rfl
    | postCreate id post =>
      cases key with
      | post other =>
        have other : other ≠ id := by
          rintro rfl
          exact apart rfl
        simp only [Write.apply, RowWrite.apply, has, find?_insert_of_ne _ other]
      | _ => rfl
    | postDelete id at' =>
      cases key with
      | post other => exact isSome_find?_modify _ _ _ _
      | _ => rfl
    | storyViewCreate storyId viewerId =>
      cases key with
      | storyView viewed viewer =>
        have other : (viewed, viewer) ≠ (storyId, viewerId) := by
          rintro ⟨⟩
          exact apart rfl
        simp only [Write.apply, RowWrite.apply, has, find?_insert_of_ne _ other]
      | _ => rfl
  | count counter change =>
    cases counter with
    | likes postId | comments postId =>
      cases key with
      | post other => exact isSome_find?_modify _ _ _ _
      | _ => rfl
    | posts userId =>
      cases key with
      | user other => exact isSome_find?_modify _ _ _ _
      | _ => rfl
    | views storyId =>
      cases key with
      | story other => exact isSome_find?_modify _ _ _ _
      | _ => rfl

theorem isSome_insert {Key Row : Type} [DecidableEq Key] (table : Table Key Row) (key : Key) (row : Row) :
    ((table.insert key row).find? key).isSome = true := by
  rw [find?_insert]
  cases found : table.find? key with
  | none | some => simp

/-- Nothing is ever removed but likes. -/
theorem has_apply (lasting : ∀ postId userId, key ≠ .like postId userId) (present : s.has key = true) :
    (write.apply s).has key = true := by
  by_cases own : key = write.key
  · subst own
    cases write with
    | row write =>
      cases write with
      | likeCreate postId userId | likeDelete postId userId => exact absurd rfl (lasting postId userId)
      | commentCreate | postCreate | storyViewCreate => exact isSome_insert _ _ _
      | commentDelete | postDelete => exact (isSome_find?_modify _ _ _ _).trans present
    | count counter change =>
      cases counter <;> exact (isSome_find?_modify _ _ _ _).trans present
  · rwa [has_apply_of_ne write own]

theorem Counter.key_lasting (counter : Counter) (postId : PostId) (userId : UserId) :
    counter.key ≠ .like postId userId := by
  cases counter <;> rintro ⟨⟩

theorem comment_apply {id : CommentId} {comment : Comment} (found : s.comments.find? id = some comment) :
    ∃ after, (write.apply s).comments.find? id = some after ∧ after.postId = comment.postId ∧
      (write.key ≠ .comment id → after = comment) := by
  cases write with
  | row write =>
    cases write with
    | commentCreate other row =>
      refine ⟨comment, ?_, rfl, fun _ => rfl⟩
      have taken : ¬ (id = other ∧ s.comments.find? other = none) := by
        rintro ⟨rfl, free⟩
        rw [found] at free
        cases free
      simp only [Write.apply, RowWrite.apply, find?_insert, if_neg taken, found]
    | commentDelete other at' =>
      by_cases same : id = other
      · subst same
        refine ⟨comment.delete at', ?_, rfl, fun apart => absurd rfl apart⟩
        simp only [Write.apply, RowWrite.apply, find?_modify_self, found, Option.map_some]
      · refine ⟨comment, ?_, rfl, fun _ => rfl⟩
        simp only [Write.apply, RowWrite.apply, find?_modify_of_ne _ same, found]
    | _ => exact ⟨comment, found, rfl, fun _ => rfl⟩
  | count counter change => cases counter <;> exact ⟨comment, found, rfl, fun _ => rfl⟩

/-- A post keeps its author, and whether it is deleted unless it is written. -/
theorem post_apply {id : PostId} {post : Post} (found : s.posts.find? id = some post) :
    ∃ after, (write.apply s).posts.find? id = some after ∧ after.userId = post.userId ∧
      (write.key ≠ .post id → after = post) := by
  have modified : ∀ (other : PostId) (change : Post → Post), (∀ row, (change row).userId = row.userId) →
      ∃ after, (s.posts.modify other change).find? id = some after ∧ after.userId = post.userId ∧
        (RowKey.post other ≠ .post id → after = post) := by
    intro other change author
    by_cases same : id = other
    · subst same
      refine ⟨change post, ?_, author post, fun apart => absurd rfl apart⟩
      rw [find?_modify_self, found, Option.map_some]
    · refine ⟨post, ?_, rfl, fun _ => rfl⟩
      rw [find?_modify_of_ne _ same, found]
  cases write with
  | row write =>
    cases write with
    | postCreate other row =>
      refine ⟨post, ?_, rfl, fun _ => rfl⟩
      have taken : ¬ (id = other ∧ s.posts.find? other = none) := by
        rintro ⟨rfl, free⟩
        rw [found] at free
        cases free
      simp only [Write.apply, RowWrite.apply, find?_insert, if_neg taken, found]
    | postDelete other at' => exact modified other (Post.delete at') fun _ => rfl
    | _ => exact ⟨post, found, rfl, fun _ => rfl⟩
  | count counter change =>
    cases counter with
    | likes other => exact modified other (Post.countLike change) fun _ => rfl
    | comments other => exact modified other (Post.countComment change) fun _ => rfl
    | posts | views => exact ⟨post, found, rfl, fun _ => rfl⟩

theorem refusesNew_apply {referred : List RowKey} (write : Write) (apart : write.key ≠ key)
    (lasting : ∀ other ∈ referred, ∀ postId userId, other ≠ .like postId userId)
    (admitted : s.refusesNew key referred = none) : (write.apply s).refusesNew key referred = none := by
  obtain ⟨free, there⟩ := refusesNew_eq_none.mp admitted
  refine refusesNew_eq_none.mpr ⟨(has_apply_of_ne write apart.symm).trans free, fun other listed => ?_⟩
  exact has_apply write (lasting other listed) (there other listed)

theorem admitted_apply {row : RowWrite} (admitted : row.refusal s = none) (write : Write)
    (apart : write.key ≠ row.key) : row.refusal (write.apply s) = none := by
  have own := has_apply_of_ne (s := s) write (Ne.symm apart)
  cases row with
  | likeCreate | commentCreate | postCreate | storyViewCreate =>
    refine refusesNew_apply write apart (fun other listed postId userId same => ?_) admitted
    simp_all
  | likeDelete | commentDelete | postDelete =>
    exact refusesChange_eq_none.mpr (own.trans (refusesChange_eq_none.mp admitted))

theorem comment_of_apply {id : CommentId} {after : Comment}
    (found : (write.apply s).comments.find? id = some after) :
    (∃ before, s.comments.find? id = some before ∧ after.postId = before.postId ∧
      (write.key ≠ .comment id → after = before)) ∨
      write = .row (.commentCreate id after) := by
  cases before : s.comments.find? id with
  | some comment =>
    obtain ⟨after', found', post, same⟩ := comment_apply write before
    obtain rfl := Option.some.inj (found'.symm.trans found)
    exact .inl ⟨comment, rfl, post, same⟩
  | none =>
    refine .inr ?_
    by_cases own : RowKey.comment id = write.key
    · cases write with
      | row write =>
        cases write with
        | commentCreate other comment =>
          obtain rfl : id = other := RowKey.comment.inj own
          rw [Write.apply, RowWrite.apply, find?_insert, if_pos ⟨rfl, before⟩] at found
          rw [Option.some.inj found]
        | commentDelete other at' =>
          obtain rfl : id = other := RowKey.comment.inj own
          rw [Write.apply, RowWrite.apply, find?_modify_self, before] at found
          cases found
        | likeCreate | likeDelete | postCreate | postDelete | storyViewCreate => cases own
      | count counter change => cases counter <;> cases own
    · have there := has_apply_of_ne (s := s) write own
      rw [has, has, found, before] at there
      cases there

theorem post_of_apply {id : PostId} {after : Post} (found : (write.apply s).posts.find? id = some after) :
    (∃ before, s.posts.find? id = some before ∧ after.userId = before.userId ∧
      (write.key ≠ .post id → after = before)) ∨
      write = .row (.postCreate id after) := by
  cases before : s.posts.find? id with
  | some post =>
    obtain ⟨after', found', author, same⟩ := post_apply write before
    obtain rfl := Option.some.inj (found'.symm.trans found)
    exact .inl ⟨post, rfl, author, same⟩
  | none =>
    refine .inr ?_
    by_cases own : RowKey.post id = write.key
    · have there : (write.apply s).posts.find? id = none ∨ ∃ post, write = .row (.postCreate id post) := by
        cases write with
        | row write =>
          cases write with
          | postCreate other post =>
            obtain rfl : id = other := RowKey.post.inj own
            exact .inr ⟨post, rfl⟩
          | postDelete other at' =>
            obtain rfl : id = other := RowKey.post.inj own
            simp only [Write.apply, RowWrite.apply, find?_modify_self, before, Option.map_none,
              true_or]
          | likeCreate | likeDelete | commentCreate | commentDelete | storyViewCreate => cases own
        | count counter change =>
          cases counter with
          | likes other | comments other =>
            obtain rfl : id = other := RowKey.post.inj own
            simp only [Write.apply, Counter.add, find?_modify_self, before, Option.map_none,
              true_or]
          | posts | views => cases own
      obtain absent | ⟨post, rfl⟩ := there
      · rw [absent] at found
        cases found
      · rw [Write.apply, RowWrite.apply, find?_insert, if_pos ⟨rfl, before⟩] at found
        rw [Option.some.inj found]
    · have there := has_apply_of_ne (s := s) write own
      rw [has, has, found, before] at there
      cases there

theorem marksOnce_apply {row : RowWrite} (write : Write) (apart : write.key ≠ row.key) :
    row.MarksOnce (write.apply s) ↔ row.MarksOnce s := by
  cases row with
  | commentDelete id at' =>
    constructor
    · intro once comment found
      obtain ⟨after, found', -, same⟩ := comment_apply write found
      rw [← same apart]
      exact once after found'
    · intro once comment found
      obtain ⟨before, found', -, same⟩ | rfl := comment_of_apply write found
      · rw [same apart]
        exact once before found'
      · exact absurd rfl apart
  | postDelete id at' =>
    constructor
    · intro once post found
      obtain ⟨after, found', -, same⟩ := post_apply write found
      rw [← same apart]
      exact once after found'
    · intro once post found
      obtain ⟨before, found', -, same⟩ | rfl := post_of_apply write found
      · rw [same apart]
        exact once before found'
      · exact absurd rfl apart
  | likeCreate | likeDelete | commentCreate | postCreate | storyViewCreate => exact Iff.rfl

theorem ForeignKeys.row (keys : ForeignKeys s) {row : RowWrite} (admitted : row.refusal s = none) :
    ForeignKeys (row.apply s) := by
  have kept : ∀ key, (∀ postId userId, key ≠ .like postId userId) → s.has key = true →
      (row.apply s).has key = true := fun key lasting => has_apply (.row row) lasting
  refine ⟨fun postId userId here => ?_, fun id comment found => ?_, fun id post found => ?_,
    fun storyId viewerId here => ?_⟩
  · refine kept _ nofun ?_
    by_cases own : RowKey.like postId userId = row.key
    · cases row with
      | likeCreate =>
        cases own
        exact (refusesNew_eq_none.mp admitted).2 _ (List.mem_cons_self ..)
      | likeDelete =>
        cases own
        exact keys.likes postId userId (refusesChange_eq_none.mp admitted)
      | commentCreate | commentDelete | postCreate | postDelete | storyViewCreate => cases own
    · exact keys.likes postId userId ((has_apply_of_ne (.row row) own).symm.trans here)
  · refine kept _ nofun ?_
    obtain ⟨before, found', post, -⟩ | same := comment_of_apply (.row row) found
    · rw [post]
      exact keys.comments id before found'
    · obtain rfl := Write.row.inj same
      exact (refusesNew_eq_none.mp admitted).2 _ (List.mem_cons_self ..)
  · refine kept _ nofun ?_
    obtain ⟨before, found', author, -⟩ | same := post_of_apply (.row row) found
    · rw [author]
      exact keys.posts id before found'
    · obtain rfl := Write.row.inj same
      exact (refusesNew_eq_none.mp admitted).2 _ (List.mem_cons_self ..)
  · refine kept _ nofun ?_
    by_cases own : RowKey.storyView storyId viewerId = row.key
    · cases row with
      | storyViewCreate =>
        cases own
        exact (refusesNew_eq_none.mp admitted).2 _ (List.mem_cons_self ..)
      | likeCreate | likeDelete | commentCreate | commentDelete | postCreate | postDelete => cases own
    · exact keys.views storyId viewerId ((has_apply_of_ne (.row row) own).symm.trans here)

theorem ForeignKeys.count (keys : ForeignKeys s) (counter : Counter) (change : Int) :
    ForeignKeys (counter.add s change) := by
  have kept : ∀ key, (counter.add s change).has key = s.has key := by
    intro key
    by_cases own : key = counter.key
    · subst own
      cases counter <;> exact isSome_find?_modify _ _ _ _
    · exact has_apply_of_ne (.count counter change) own
  refine ⟨fun postId userId => ?_, fun id comment found => ?_, fun id post found' => ?_,
    fun storyId viewerId => ?_⟩
  · rw [kept, kept]
    exact keys.likes postId userId
  · have same : (counter.add s change).comments = s.comments := by cases counter <;> rfl
    rw [same] at found
    rw [kept]
    exact keys.comments id comment found
  · obtain ⟨before, found, author, -⟩ | same := post_of_apply (.count counter change) found'
    · rw [kept, author]
      exact keys.posts id before found
    · cases same
  · rw [kept, kept]
    exact keys.views storyId viewerId

/-! ## A row and its counter together -/

/-- What a transaction writes, applied at once. -/
def Entry.apply (entry : Entry) (s : State) : State :=
  entry.counter.add (entry.row.apply s) entry.change

theorem Entry.foreignKeys (keys : ForeignKeys s) (admitted : entry.row.refusal s = none) :
    ForeignKeys (entry.apply s) :=
  (keys.row admitted).count entry.counter entry.change

theorem Entry.Fits.has_counter_after (fits : entry.Fits s) (keys : ForeignKeys s)
    (admitted : entry.row.refusal s = none) : (entry.row.apply s).has entry.counter.key = true :=
  has_apply (.row entry.row) entry.counter.key_lasting (fits.has_counter keys admitted)

/-- **A row and its counter together leave every drift as it is**, unless the row was marked
already. -/
theorem Entry.Fits.drift_apply (fits : entry.Fits s) (keys : ForeignKeys s)
    (admitted : entry.row.refusal s = none) (once : entry.row.MarksOnce s) (other : Counter) :
    (entry.apply s).drift other = s.drift other := by
  have row := fits.drift_row keys admitted once other
  have count := drift_add entry.counter entry.change (fits.has_counter_after keys admitted) other
  rw [Entry.apply, count, row]
  split <;> omega

theorem Entry.Fits.drift_apply_marked (fits : entry.Fits s) (keys : ForeignKeys s)
    (admitted : entry.row.refusal s = none) (again : ¬ entry.row.MarksOnce s) (other : Counter) :
    (entry.apply s).drift other = s.drift other + if other = entry.counter then -1 else 0 := by
  have row := fits.drift_marked again other
  have count := drift_add entry.counter entry.change (fits.has_counter_after keys admitted) other
  have taken : entry.change = -1 := by
    cases fits with
    | commentDelete | postDelete => rfl
    | likeCreate | likeDelete | commentCreate | postCreate | storyViewCreate => exact absurd trivial again
  rw [Entry.apply, count, row, taken]

/-! ## What lasts -/

/-- Comments keep their posts, and posts their authors. -/
structure State.Lasts (s later : State) : Prop where
  comments : ∀ id comment, s.comments.find? id = some comment →
    ∃ after, later.comments.find? id = some after ∧ after.postId = comment.postId
  posts : ∀ id post, s.posts.find? id = some post →
    ∃ after, later.posts.find? id = some after ∧ after.userId = post.userId

theorem State.Lasts.refl (s : State) : s.Lasts s :=
  ⟨fun _ comment found => ⟨comment, found, rfl⟩, fun _ post found => ⟨post, found, rfl⟩⟩

theorem State.Lasts.trans {first second third : State} (earlier : first.Lasts second)
    (later : second.Lasts third) : first.Lasts third := by
  refine ⟨fun id comment found => ?_, fun id post found => ?_⟩
  · obtain ⟨middle, found', same⟩ := earlier.comments id comment found
    obtain ⟨after, found'', same'⟩ := later.comments id middle found'
    exact ⟨after, found'', same'.trans same⟩
  · obtain ⟨middle, found', same⟩ := earlier.posts id post found
    obtain ⟨after, found'', same'⟩ := later.posts id middle found'
    exact ⟨after, found'', same'.trans same⟩

theorem lasts_apply : s.Lasts (write.apply s) := by
  refine ⟨fun id comment found => ?_, fun id post found => ?_⟩
  · obtain ⟨after, found', same, -⟩ := comment_apply write found
    exact ⟨after, found', same⟩
  · obtain ⟨after, found', same, -⟩ := post_apply write found
    exact ⟨after, found', same⟩

theorem Entry.lasts_apply (entry : Entry) : s.Lasts (entry.apply s) :=
  (Social.lasts_apply (.row entry.row)).trans (Social.lasts_apply (.count entry.counter entry.change))

/-- A counter that counts a row counts it later. -/
theorem Entry.Fits.later (fits : entry.Fits s) {later : State} (lasts : s.Lasts later) : entry.Fits later := by
  cases fits with
  | likeCreate postId userId => exact .likeCreate postId userId
  | likeDelete postId userId => exact .likeDelete postId userId
  | commentCreate id postId userId => exact .commentCreate id postId userId
  | commentDelete id at' comment found =>
    obtain ⟨after, found', post⟩ := lasts.comments id comment found
    rw [← post]
    exact .commentDelete id at' after found'
  | postCreate id userId => exact .postCreate id userId
  | postDelete id at' post found =>
    obtain ⟨after, found', author⟩ := lasts.posts id post found
    rw [← author]
    exact .postDelete id at' after found'
  | storyViewCreate storyId viewerId => exact .storyViewCreate storyId viewerId

theorem Entry.admitted_apply {row : RowWrite} (admitted : row.refusal s = none) (apart : entry.row.key ≠ row.key)
    (apart' : entry.counter.key ≠ row.key) : row.refusal (entry.apply s) = none :=
  Social.admitted_apply (Social.admitted_apply admitted (.row entry.row) apart)
    (.count entry.counter entry.change) apart'

theorem Entry.marksOnce_apply {row : RowWrite} (apart : entry.row.key ≠ row.key)
    (apart' : entry.counter.key ≠ row.key) : row.MarksOnce (entry.apply s) ↔ row.MarksOnce s :=
  (Social.marksOnce_apply (.count entry.counter entry.change) apart').trans
    (Social.marksOnce_apply (.row entry.row) apart)

end Motogram.Social
