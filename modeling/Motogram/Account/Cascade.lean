import Motogram.Account.Deletion
import Motogram.Social.Follows

/-!
# What a deleted rider leaves in the counters

Deleting a rider is one statement. The schema deletes the rows of the rider with it, and none
of the counters kept on rows that stay is changed: the counters of the riders followed, the
likes and comments of posts of others, the members of a community and the participants of an
event (`deletion_leaves_counts`). A view of a story is not deleted with its viewer.

So the counters still agree after a deletion exactly when no row that is counted on a row that
stays belonged to the rider (`deletion_keeps_counters_iff`).
-/

set_option autoImplicit false

namespace Motogram.Account

open Foundation Table State Bool

/-! ## Counters -/

/-- Every denormalised counter is the number of its rows. -/
structure CountersMatch (s : Social.State) : Prop where
  followers : ∀ userId user, s.users.find? userId = some user →
    user.followersCount = s.follows.count fun pair status =>
      decide (pair.2 = userId) && decide (status = .accepted)
  following : ∀ userId user, s.users.find? userId = some user →
    user.followingCount = s.follows.count fun pair status =>
      decide (pair.1 = userId) && decide (status = .accepted)
  likes : ∀ postId post, s.posts.find? postId = some post →
    post.likesCount = s.likes.count fun pair _ => decide (pair.1 = postId)
  comments : ∀ postId post, s.posts.find? postId = some post →
    post.commentsCount = s.comments.count fun _ comment =>
      decide (comment.postId = postId) && comment.deletedAt.isNone
  views : ∀ storyId story, s.stories.find? storyId = some story →
    story.viewsCount = s.storyViews.count fun pair _ => decide (pair.1 = storyId)
  members : ∀ communityId community, s.communities.find? communityId = some community →
    community.membersCount = s.communityMembers.count fun pair status =>
      decide (pair.1 = communityId) && decide (status = .active)
  participants : ∀ eventId event, s.events.find? eventId = some event →
    event.participantsCount = s.eventParticipants.count fun pair status =>
      decide (pair.1 = eventId) && decide (status = .going)

/-- Nothing of the riders who go is counted on a row of one who stays. -/
structure LeaveNothing (s : Social.State) (gone : UserId → Bool) : Prop where
  followers : ∀ userId other, gone userId = true → gone other = false →
    (s.users.find? other).isSome → s.follows.find? (userId, other) ≠ some .accepted
  following : ∀ userId other, gone userId = true → gone other = false →
    (s.users.find? other).isSome → s.follows.find? (other, userId) ≠ some .accepted
  likes : ∀ userId postId post, gone userId = true → s.posts.find? postId = some post →
    gone post.userId = false → s.likes.find? (postId, userId) = none
  comments : ∀ postId post, s.posts.find? postId = some post → gone post.userId = false →
    ∀ id comment, s.comments.find? id = some comment → comment.postId = postId →
      gone comment.userId = true → comment.deletedAt ≠ none
  members : ∀ userId communityId community, gone userId = true →
    s.communities.find? communityId = some community → gone community.ownerId = false →
      s.communityMembers.find? (communityId, userId) ≠ some .active
  participants : ∀ userId eventId event, gone userId = true →
    s.events.find? eventId = some event → gone event.organizerId = false →
      s.eventParticipants.find? (eventId, userId) ≠ some .going

/-! ## The cascade of several riders -/

def ownerGoes {Key Row : Type} [DecidableEq Key] (table : Table Key Row) (owner : Row → UserId)
    (gone : UserId → Bool) (key : Key) : Bool :=
  (table.find? key).any fun row => gone (owner row)

/-- What the deletion of all these riders leaves. -/
def purge (s : Social.State) (gone : UserId → Bool) : Social.State :=
  { s with
    users := s.users.eraseWhere fun userId _ => gone userId
    follows := s.follows.eraseWhere fun pair _ => gone pair.1 || gone pair.2
    blocks := s.blocks.eraseWhere fun pair _ => gone pair.1 || gone pair.2
    posts := s.posts.eraseWhere fun _ post => gone post.userId
    comments := s.comments.eraseWhere fun _ comment =>
      gone comment.userId || ownerGoes s.posts Social.Post.userId gone comment.postId
    likes := s.likes.eraseWhere fun pair _ =>
      gone pair.2 || ownerGoes s.posts Social.Post.userId gone pair.1
    stories := s.stories.eraseWhere fun _ story => gone story.userId
    storyViews := s.storyViews.eraseWhere fun pair _ =>
      ownerGoes s.stories Social.Story.userId gone pair.1
    communities := s.communities.eraseWhere fun _ community => gone community.ownerId
    communityMembers := s.communityMembers.eraseWhere fun pair _ =>
      gone pair.2 || ownerGoes s.communities Social.Community.ownerId gone pair.1
    events := (s.events.eraseWhere fun _ event => gone event.organizerId).modifyWhere
      (fun _ event => event.communityId.any (ownerGoes s.communities Social.Community.ownerId gone))
        fun event => { event with communityId := none }
    eventParticipants := s.eventParticipants.eraseWhere fun pair _ =>
      gone pair.2 || ownerGoes s.events Social.Event.organizerId gone pair.1 }

variable {Key Row : Type} (s : Social.State)

theorem cascade_eq_purge (userId : UserId) :
    cascade s userId = purge s fun other => decide (other = userId) := rfl

theorem purge_nobody : purge s (fun _ => false) = s := by
  have nobody : ∀ {Key Row : Type} [DecidableEq Key] (table : Table Key Row) (owner : Row → UserId)
      (key : Key), ownerGoes table owner (fun _ => false) key = false := by
    intro Key Row _ table owner key
    rw [ownerGoes]
    cases table.find? key <;> rfl
  have unlinked : ∀ communityId : Option Social.CommunityId,
      communityId.any (ownerGoes s.communities Social.Community.ownerId fun _ => false) = false := by
    intro communityId
    cases communityId with
    | none => rfl
    | some communityId => exact nobody s.communities Social.Community.ownerId communityId
  unfold purge
  simp only [nobody, unlinked, Bool.or_false, eraseWhere_nothing, modifyWhere_nothing]

theorem ownerGoes_or [DecidableEq Key] (table : Table Key Row) (owner : Row → UserId)
    (first second : UserId → Bool) (key : Key) :
    (ownerGoes table owner first key ||
      ownerGoes (table.eraseWhere fun _ row => first (owner row)) owner second key) =
        ownerGoes table owner (fun userId => first userId || second userId) key := by
  simp only [ownerGoes, find?_eraseWhere]
  cases table.find? key with
  | none => rfl
  | some row => cases goes : first (owner row) <;> simp [goes]

theorem ownerGoes_modifyWhere [DecidableEq Key] (table : Table Key Row) (condition : Key → Row → Bool)
    (change : Row → Row) (owner : Row → UserId) (same : ∀ row, owner (change row) = owner row)
    (gone : UserId → Bool) (key : Key) :
    ownerGoes (table.modifyWhere condition change) owner gone key = ownerGoes table owner gone key := by
  simp only [ownerGoes, find?_modifyWhere]
  cases table.find? key with
  | none => rfl
  | some row =>
    rw [Option.map_some, Option.any_some, Option.any_some]
    split
    · rw [same]
    · rfl

theorem eraseWhere_owned {Kept Parent : Type} [DecidableEq Kept] (table : Table Key Row)
    (parents : Table Kept Parent) (owner : Parent → UserId) (own : Key → Row → UserId)
    (parentOf : Key → Row → Kept) (first second : UserId → Bool) :
    ((table.eraseWhere fun key row => first (own key row) ||
        ownerGoes parents owner first (parentOf key row)).eraseWhere fun key row =>
      second (own key row) || ownerGoes (parents.eraseWhere fun _ row => first (owner row)) owner second
        (parentOf key row)) =
      table.eraseWhere fun key row => (first (own key row) || second (own key row)) ||
        ownerGoes parents owner (fun userId => first userId || second userId) (parentOf key row) := by
  rw [eraseWhere_eraseWhere]
  refine eraseWhere_congr fun entry _ => ?_
  rw [← ownerGoes_or]
  ac_rfl

/-- Rows that go with either of two riders. -/
theorem eraseWhere_pairs (table : Table (UserId × UserId) Row) (first second : UserId → Bool) :
    ((table.eraseWhere fun pair _ => first pair.1 || first pair.2).eraseWhere fun pair _ =>
        second pair.1 || second pair.2) =
      table.eraseWhere fun pair _ => (first pair.1 || second pair.1) || (first pair.2 || second pair.2) := by
  rw [eraseWhere_eraseWhere]
  ac_rfl

/-- **Riders who go one after another leave what they leave together.** -/
theorem purge_purge (first second : UserId → Bool) :
    purge (purge s first) second = purge s fun userId => first userId || second userId := by
  unfold purge
  dsimp only
  congr 1
  · exact eraseWhere_eraseWhere _ _ _
  · exact eraseWhere_pairs s.follows first second
  · exact eraseWhere_pairs s.blocks first second
  · exact eraseWhere_eraseWhere _ _ _
  · exact eraseWhere_owned s.comments s.posts Social.Post.userId (fun _ comment => comment.userId)
      (fun _ comment => comment.postId) first second
  · exact eraseWhere_owned s.likes s.posts Social.Post.userId (fun pair _ => pair.2)
      (fun pair _ => pair.1) first second
  · exact eraseWhere_eraseWhere _ _ _
  · rw [eraseWhere_eraseWhere]
    refine eraseWhere_congr fun entry _ => ?_
    exact ownerGoes_or s.stories Social.Story.userId first second entry.1.1
  · exact eraseWhere_eraseWhere _ _ _
  · exact eraseWhere_owned s.communityMembers s.communities Social.Community.ownerId (fun pair _ => pair.2)
      (fun pair _ => pair.1) first second
  · have earlier := (s.events.eraseWhere fun _ event => first event.organizerId).eraseWhere_modifyWhere
      (fun _ event => event.communityId.any (ownerGoes s.communities Social.Community.ownerId first))
      (fun _ event => second event.organizerId) (fun event => { event with communityId := none })
      fun _ _ => rfl
    rw [earlier, eraseWhere_eraseWhere]
    refine modifyWhere_modifyWhere _ _ _ _ (fun entry _ linked => ⟨rfl, ?_⟩) fun entry _ unlinked => ?_
    · cases community : entry.2.communityId with
      | none =>
        rw [community] at linked
        cases linked
      | some communityId =>
        rw [community, Option.any_some] at linked
        rw [Option.any_some, ← ownerGoes_or, linked, Bool.true_or]
    · cases community : entry.2.communityId with
      | none => rfl
      | some communityId =>
        rw [community, Option.any_some] at unlinked
        rw [Option.any_some, Option.any_some, ← ownerGoes_or, unlinked, Bool.false_or]
  · have organizers := ownerGoes_modifyWhere (s.events.eraseWhere fun _ event => first event.organizerId)
      (fun _ event => event.communityId.any (ownerGoes s.communities Social.Community.ownerId first))
      (fun event => { event with communityId := none }) Social.Event.organizerId (fun _ => rfl) second
    simp only [organizers]
    exact eraseWhere_owned s.eventParticipants s.events Social.Event.organizerId (fun pair _ => pair.2)
      (fun pair _ => pair.1) first second

/-! ## One counter at a time -/

section Counters

variable {s : Social.State} (before : CountersMatch s) (gone : UserId → Bool)

include before

theorem followers_iff :
    (∀ other user, (purge s gone).users.find? other = some user →
        user.followersCount = (purge s gone).follows.count fun pair status =>
          decide (pair.2 = other) && decide (status = .accepted)) ↔
      ∀ userId other, gone userId = true → gone other = false → (s.users.find? other).isSome →
        s.follows.find? (userId, other) ≠ some .accepted := by
  refine (counters_survive_iff s.users s.follows Social.User.followersCount
    (fun other pair status => decide (pair.2 = other) && decide (status = .accepted))
    (fun other _ => gone other) (fun pair _ => gone pair.1 || gone pair.2) before.followers).trans ?_
  simp only [and_eq_true, decide_eq_true_eq, or_eq_false_iff, and_imp]
  constructor
  · intro kept userId other goes stays present accepted
    obtain ⟨user, found⟩ := Option.isSome_iff_exists.mp present
    have left := (kept other user found stays (userId, other) .accepted accepted rfl rfl).1
    exact false_ne_true (left.symm.trans goes)
  · rintro clear other user found stays ⟨first, second⟩ status row rfl rfl
    refine ⟨eq_false_iff.mpr fun goes => ?_, stays⟩
    exact clear first second goes stays (Option.isSome_iff_exists.mpr ⟨user, found⟩) row

theorem following_iff :
    (∀ other user, (purge s gone).users.find? other = some user →
        user.followingCount = (purge s gone).follows.count fun pair status =>
          decide (pair.1 = other) && decide (status = .accepted)) ↔
      ∀ userId other, gone userId = true → gone other = false → (s.users.find? other).isSome →
        s.follows.find? (other, userId) ≠ some .accepted := by
  refine (counters_survive_iff s.users s.follows Social.User.followingCount
    (fun other pair status => decide (pair.1 = other) && decide (status = .accepted))
    (fun other _ => gone other) (fun pair _ => gone pair.1 || gone pair.2) before.following).trans ?_
  simp only [and_eq_true, decide_eq_true_eq, or_eq_false_iff, and_imp]
  constructor
  · intro kept userId other goes stays present accepted
    obtain ⟨user, found⟩ := Option.isSome_iff_exists.mp present
    have left := (kept other user found stays (other, userId) .accepted accepted rfl rfl).2
    exact false_ne_true (left.symm.trans goes)
  · rintro clear other user found stays ⟨first, second⟩ status row rfl rfl
    refine ⟨stays, eq_false_iff.mpr fun goes => ?_⟩
    exact clear second first goes stays (Option.isSome_iff_exists.mpr ⟨user, found⟩) row

theorem likes_iff :
    (∀ postId post, (purge s gone).posts.find? postId = some post →
        post.likesCount = (purge s gone).likes.count fun pair _ => decide (pair.1 = postId)) ↔
      ∀ userId postId post, gone userId = true → s.posts.find? postId = some post →
        gone post.userId = false → s.likes.find? (postId, userId) = none := by
  refine (counters_survive_iff s.posts s.likes Social.Post.likesCount
    (fun postId pair _ => decide (pair.1 = postId)) (fun _ post => gone post.userId)
    (fun pair _ => gone pair.2 || ownerGoes s.posts Social.Post.userId gone pair.1) before.likes).trans ?_
  simp only [decide_eq_true_eq, or_eq_false_iff]
  constructor
  · intro kept userId postId post goes found stays
    by_contra liked
    obtain ⟨row, liked⟩ := Option.ne_none_iff_exists'.mp liked
    have left := (kept postId post found stays (postId, userId) row liked rfl).1
    exact false_ne_true (left.symm.trans goes)
  · rintro clear postId post found stays ⟨liked, other⟩ row like rfl
    refine ⟨eq_false_iff.mpr fun goes => ?_, by simp [ownerGoes, found, stays]⟩
    rw [clear other liked post goes found stays] at like
    cases like

theorem comments_iff :
    (∀ postId post, (purge s gone).posts.find? postId = some post →
        post.commentsCount = (purge s gone).comments.count fun _ comment =>
          decide (comment.postId = postId) && comment.deletedAt.isNone) ↔
      ∀ postId post, s.posts.find? postId = some post → gone post.userId = false →
        ∀ id comment, s.comments.find? id = some comment → comment.postId = postId →
          gone comment.userId = true → comment.deletedAt ≠ none := by
  refine (counters_survive_iff s.posts s.comments Social.Post.commentsCount
    (fun postId _ comment => decide (comment.postId = postId) && comment.deletedAt.isNone)
    (fun _ post => gone post.userId)
    (fun _ comment => gone comment.userId || ownerGoes s.posts Social.Post.userId gone comment.postId)
    before.comments).trans ?_
  simp only [decide_eq_true_eq, or_eq_false_iff, and_eq_true, and_imp,
    Option.isNone_iff_eq_none]
  constructor
  · intro kept postId post found stays id comment row onPost goes live
    have left := (kept postId post found stays id comment row onPost live).1
    exact false_ne_true (left.symm.trans goes)
  · rintro clear postId post found stays id comment row rfl live
    refine ⟨eq_false_iff.mpr fun goes => ?_, by simp [ownerGoes, found, stays]⟩
    exact clear _ post found stays id comment row rfl goes live

theorem views_kept :
    ∀ storyId story, (purge s gone).stories.find? storyId = some story →
      story.viewsCount = (purge s gone).storyViews.count fun pair _ => decide (pair.1 = storyId) := by
  refine (counters_survive_iff s.stories s.storyViews Social.Story.viewsCount
    (fun storyId pair _ => decide (pair.1 = storyId)) (fun _ story => gone story.userId)
    (fun pair _ => ownerGoes s.stories Social.Story.userId gone pair.1) before.views).mpr ?_
  simp only [decide_eq_true_eq]
  rintro storyId story found stays ⟨viewed, viewer⟩ row view rfl
  simp [ownerGoes, found, stays]

theorem members_iff :
    (∀ communityId community, (purge s gone).communities.find? communityId = some community →
        community.membersCount = (purge s gone).communityMembers.count fun pair status =>
          decide (pair.1 = communityId) && decide (status = .active)) ↔
      ∀ userId communityId community, gone userId = true →
        s.communities.find? communityId = some community → gone community.ownerId = false →
          s.communityMembers.find? (communityId, userId) ≠ some .active := by
  refine (counters_survive_iff s.communities s.communityMembers Social.Community.membersCount
    (fun communityId pair status => decide (pair.1 = communityId) && decide (status = .active))
    (fun _ community => gone community.ownerId)
    (fun pair _ => gone pair.2 || ownerGoes s.communities Social.Community.ownerId gone pair.1)
    before.members).trans ?_
  simp only [decide_eq_true_eq, or_eq_false_iff, and_eq_true, and_imp]
  constructor
  · intro kept userId communityId community goes found stays member
    have left := (kept communityId community found stays (communityId, userId) .active member rfl rfl).1
    exact false_ne_true (left.symm.trans goes)
  · rintro clear communityId community found stays ⟨joined, other⟩ status row rfl rfl
    refine ⟨eq_false_iff.mpr fun goes => ?_, by simp [ownerGoes, found, stays]⟩
    exact clear other joined community goes found stays row

theorem participants_iff :
    (∀ eventId event, (purge s gone).events.find? eventId = some event →
        event.participantsCount = (purge s gone).eventParticipants.count fun pair status =>
          decide (pair.1 = eventId) && decide (status = .going)) ↔
      ∀ userId eventId event, gone userId = true → s.events.find? eventId = some event →
        gone event.organizerId = false → s.eventParticipants.find? (eventId, userId) ≠ some .going := by
  -- An event that loses its community keeps its counter.
  refine (forall_modifyWhere_iff (s.events.eraseWhere fun _ event => gone event.organizerId)
    (fun _ event => event.communityId.any (ownerGoes s.communities Social.Community.ownerId gone))
    (fun event => { event with communityId := none }) Social.Event.participantsCount (fun _ => rfl)
    fun eventId counted => counted = (purge s gone).eventParticipants.count fun pair status =>
      decide (pair.1 = eventId) && decide (status = .going)).trans ?_
  refine (counters_survive_iff s.events s.eventParticipants Social.Event.participantsCount
    (fun eventId pair status => decide (pair.1 = eventId) && decide (status = .going))
    (fun _ event => gone event.organizerId)
    (fun pair _ => gone pair.2 || ownerGoes s.events Social.Event.organizerId gone pair.1)
    before.participants).trans ?_
  simp only [decide_eq_true_eq, or_eq_false_iff, and_eq_true, and_imp]
  constructor
  · intro kept userId eventId event goes found stays going
    have left := (kept eventId event found stays (eventId, userId) .going going rfl rfl).1
    exact false_ne_true (left.symm.trans goes)
  · rintro clear eventId event found stays ⟨attended, other⟩ status row rfl rfl
    refine ⟨eq_false_iff.mpr fun goes => ?_, by simp [ownerGoes, found, stays]⟩
    exact clear other attended event goes found stays row

/-- The counters that are left agree with the rows that are left exactly when nothing of the
riders who go was counted on them. -/
theorem countersMatch_purge_iff : CountersMatch (purge s gone) ↔ LeaveNothing s gone := by
  constructor
  · intro after
    exact
      { followers := (followers_iff before gone).mp after.followers
        following := (following_iff before gone).mp after.following
        likes := (likes_iff before gone).mp after.likes
        comments := (comments_iff before gone).mp after.comments
        members := (members_iff before gone).mp after.members
        participants := (participants_iff before gone).mp after.participants }
  · intro nothing
    exact
      { followers := (followers_iff before gone).mpr nothing.followers
        following := (following_iff before gone).mpr nothing.following
        likes := (likes_iff before gone).mpr nothing.likes
        comments := (comments_iff before gone).mpr nothing.comments
        views := views_kept before gone
        members := (members_iff before gone).mpr nothing.members
        participants := (participants_iff before gone).mpr nothing.participants }

end Counters

/-! ## The deletions -/

/-- The riders of these whose row is there, who are deleted. -/
def State.deletes (s : State) (userIds : List UserId) (userId : UserId) : Bool :=
  decide (userId ∈ userIds) && (s.auth.users.find? userId).isSome

/-- The riders a job deletes: its own, when it runs and the deletion is pending. -/
def State.jobDeletes (s : State) (jobId : JobId) : List UserId :=
  if s.starts jobId && s.deletionPending jobId.1 then [jobId.1] else []

theorem social_follow_hardDelete (s : State) (userIds : List UserId) :
    (Foundation.follow hardDelete s userIds).social = purge s.social (s.deletes userIds) := by
  induction userIds generalizing s with
  | nil =>
    have nobody : s.deletes [] = fun _ => false := rfl
    rw [follow_nil, nobody, purge_nobody]
  | cons userId rest ih =>
    rw [follow_cons, ih, hardDelete]
    cases found : s.auth.users.find? userId with
    | none =>
      congr 1
      funext other
      by_cases same : other = userId
      · simp [deletes, same, found]
      · simp [deletes, same]
    | some user =>
      rw [if_neg (by simp), withRiders_social, cascade_eq_purge, purge_purge]
      congr 1
      funext other
      by_cases same : other = userId
      · simp [deletes, same, found]
      · simp [deletes, same, withRiders_auth, cascadeAuth]

theorem social_runJob (s : State) (jobId : JobId) :
    ((runJob jobId).exec s).2.social = purge s.social (s.deletes (s.jobDeletes jobId)) := by
  rw [jobDeletes]
  cases starts : s.starts jobId with
  | false =>
    have nobody := social_follow_hardDelete s []
    rw [exec_runJob_of_not_starts starts]
    exact nobody
  | true =>
    rw [exec_runJob_of_starts starts, withJobs_social, Bool.true_and]
    split
    · exact social_follow_hardDelete s [jobId.1]
    · exact social_follow_hardDelete s []

/-- **A deletion keeps the counters right exactly when nothing of the riders it deletes is
counted on a row that stays**, whether the batch or the job of the queue executes it. -/
theorem deletion_keeps_counters_iff (s : State) (agree : CountersMatch s.social) :
    (∀ userId, CountersMatch ((executeSingleDeletion userId).exec s).2.social ↔
        LeaveNothing s.social (s.deletes [userId])) ∧
      (∀ jobId, CountersMatch ((runJob jobId).exec s).2.social ↔
        LeaveNothing s.social (s.deletes (s.jobDeletes jobId))) ∧
      (CountersMatch (executeDeletions.exec s).2.social ↔
        LeaveNothing s.social (s.deletes s.pendingDeletions)) := by
  refine ⟨fun userId => ?_, fun jobId => ?_, ?_⟩
  · have run : ((executeSingleDeletion userId).exec s).2.social = purge s.social (s.deletes [userId]) := by
      rw [Flow.exec, run_executeSingleDeletion]
      exact social_follow_hardDelete s [userId]
    rw [run]
    exact countersMatch_purge_iff agree _
  · rw [social_runJob]
    exact countersMatch_purge_iff agree _
  · rw [exec_executeDeletions, social_follow_hardDelete]
    exact countersMatch_purge_iff agree _

/-! ## A small installation -/

attribute [mk_iff] CountersMatch

instance (s : Social.State) : Decidable (CountersMatch s) := decidable_of_iff' _ (countersMatch_iff s)

/-- Rider 0 follows rider 1 and asks for the deletion of the account, and the days of grace pass. -/
def followerLeaves : State :=
  let followed := smallInstallation.withRiders smallInstallation.auth
    ((Social.follow 0 1).exec smallInstallation.social).2
  (answer (.auth (.elapse deletionGraceMs)) ((requestDeletion 0 none).exec followed).2).2

/-- Whatever deletes rider 0, the counters are right afterwards exactly when nothing of rider 0 is
counted elsewhere. -/
theorem deletion_keeps_counters_small :
    (∀ userId, CountersMatch ((executeSingleDeletion userId).exec followerLeaves).2.social ↔
        LeaveNothing followerLeaves.social (followerLeaves.deletes [userId])) ∧
      (∀ jobId, CountersMatch ((runJob jobId).exec followerLeaves).2.social ↔
        LeaveNothing followerLeaves.social (followerLeaves.deletes (followerLeaves.jobDeletes jobId))) ∧
      (CountersMatch (executeDeletions.exec followerLeaves).2.social ↔
        LeaveNothing followerLeaves.social (followerLeaves.deletes followerLeaves.pendingDeletions)) :=
  deletion_keeps_counters_iff followerLeaves (by decide +kernel)

/-- The counters agree before rider 0 is deleted. After the batch, and after the job, rider 1
still has the follower who is gone. -/
theorem deletion_leaves_counts :
    CountersMatch followerLeaves.social ∧
      ¬ CountersMatch (executeDeletions.exec followerLeaves).2.social ∧
      ¬ CountersMatch ((runJob (0, deletionGraceMs)).exec followerLeaves).2.social := by
  refine ⟨?_, ?_, ?_⟩ <;> decide +kernel

end Motogram.Account
