import Motogram.Events.Service
import Motogram.Listings.FollowLists

/-!
# Lists that are paged by id

The search for communities, the search for events and the two lists of a profile's follows
read one row more than they return, above the id that the cursor names, in the order of the
ids. Whatever rows come and go between two requests, following `nextCursor` reads every list
in order: no row twice, and each row that was there for all requests (`lists_read_in_order`).

For each list there is one equation: its response is the page that `keysetRequest` cuts from
the rows it lists. A list of follows is not given when the profile is not to be seen; nothing
is listed then.
-/

set_option autoImplicit false

namespace Motogram.Listings

open Foundation Table List
open Communities (CommunitySummary CommunitySearchQueryDto)
open Social (CommunityId userNotFound)
open Events (EventSummary EventSearchQueryDto)

/-! ## Communities -/

/-- The communities a search finds, in the order of their ids. -/
def listedCommunities (s : Communities.State) (query : CommunitySearchQueryDto) :
    List (CommunityId × CommunitySummary) :=
  ((s.communities.select fun _ community => community.found s.deployment (jsTrim query.q)).insertionSort
    fun first second => first.1 ≤ second.1).map fun entry =>
      (entry.1, Communities.toSummary entry.1 entry.2)

def CommunityMatches (query : CommunitySearchQueryDto) (s : Communities.State) (communityId : CommunityId)
    (item : CommunitySummary) : Prop :=
  ∃ community, s.communities.find? communityId = some community ∧
    community.found s.deployment (jsTrim query.q) = true ∧ item = Communities.toSummary communityId community

theorem mem_selected {Key Row Shown : Type} [LinearOrder Key] (table : Table Key Row)
    (condition : Key → Row → Bool) (shown : Key × Row → Shown) {key : Key} {item : Shown} :
    (key, item) ∈ ((table.select condition).insertionSort fun first second => first.1 ≤ second.1).map
        (fun entry => (entry.1, shown entry)) ↔
      ∃ row, table.find? key = some row ∧ condition key row = true ∧ item = shown (key, row) := by
  rw [mem_map]
  constructor
  · rintro ⟨⟨key', row⟩, member, same⟩
    obtain ⟨rfl, rfl⟩ := Prod.mk.inj same
    rw [(perm_insertionSort _ _).mem_iff, mem_select] at member
    exact ⟨row, member.1, member.2, rfl⟩
  · rintro ⟨row, stored, holds, rfl⟩
    refine ⟨(key, row), ?_, rfl⟩
    rw [(perm_insertionSort _ _).mem_iff, mem_select]
    exact ⟨stored, holds⟩

variable (query : CommunitySearchQueryDto) (s : FollowTables) (side : FollowSide)
  (viewerId profileUserId : UserId)

theorem mem_listedCommunities (s : Communities.State) (communityId : CommunityId) (item : CommunitySummary) :
    (communityId, item) ∈ listedCommunities s query ↔ CommunityMatches query s communityId item :=
  mem_selected s.communities _ fun entry => Communities.toSummary entry.1 entry.2

/-- `searchCommunities` with this cursor. -/
def fetchCommunities (query : CommunitySearchQueryDto) (s : Communities.State)
    (cursor : Option CommunityId) : Option (List CommunitySummary × Option CommunityId) :=
  ((Communities.searchCommunities { query with cursor := cursor }).exec s).1.toOption

theorem fetchCommunities_eq (s : Communities.State) (cursor : Option CommunityId) :
    fetchCommunities query s cursor =
      showRows Prod.snd (keysetRequest query.limit Prod.fst (some (listedCommunities s query)) cursor) := by
  rw [listedCommunities, showRows_keysetRequest, ← select_beyond, ← servicePage_eq]
  rfl

theorem ascending_shown {Key Row Shown : Type} [LinearOrder Key] {rows : List (Key × Row)}
    (ascending : Ascending Prod.fst rows) (shown : Key × Row → Shown) :
    Ascending Prod.fst (rows.map fun entry => (entry.1, shown entry)) :=
  pairwise_map.mpr ascending

theorem ascending_listedCommunities (s : Communities.State) (query : CommunitySearchQueryDto) :
    Ascending Prod.fst (listedCommunities s query) :=
  ascending_shown (ascending_insertionSort (s.communities.nodup_select _)) _

/-! ## Events -/

/-- The events a search finds, in the order of their ids. -/
def listedEvents (s : Events.State) (query : EventSearchQueryDto) : List (EventId × EventSummary) :=
  ((s.events.select fun _ event => event.found s.deployment (jsTrim query.q) s.now).insertionSort
    fun first second => first.1 ≤ second.1).map fun entry => (entry.1, Events.toSummary entry.1 entry.2)

def EventMatches (query : EventSearchQueryDto) (s : Events.State) (eventId : EventId) (item : EventSummary) :
    Prop :=
  ∃ event, s.events.find? eventId = some event ∧
    event.found s.deployment (jsTrim query.q) s.now = true ∧ item = Events.toSummary eventId event

theorem mem_listedEvents (query : EventSearchQueryDto) (s : Events.State) (eventId : EventId)
    (item : EventSummary) : (eventId, item) ∈ listedEvents s query ↔ EventMatches query s eventId item :=
  mem_selected s.events _ fun entry => Events.toSummary entry.1 entry.2

/-- `searchEvents` with this cursor. -/
def fetchEvents (query : EventSearchQueryDto) (s : Events.State) (cursor : Option EventId) :
    Option (List EventSummary × Option EventId) :=
  ((Events.searchEvents { query with cursor := cursor }).exec s).1.toOption

theorem fetchEvents_eq (query : EventSearchQueryDto) (s : Events.State) (cursor : Option EventId) :
    fetchEvents query s cursor =
      showRows Prod.snd (keysetRequest query.limit Prod.fst (some (listedEvents s query)) cursor) := by
  rw [listedEvents, showRows_keysetRequest, ← select_beyond, ← servicePage_eq]
  rfl

theorem ascending_listedEvents (s : Events.State) (query : EventSearchQueryDto) :
    Ascending Prod.fst (listedEvents s query) :=
  ascending_shown (ascending_insertionSort (s.events.nodup_select _)) _

/-! ## Follows -/

section Follows

variable (s : FollowTables) (side : FollowSide) (viewerId profileUserId : UserId)

/-- The profile may be seen. -/
def FollowTables.Viewable (s : FollowTables) (profileUserId : UserId) : Prop :=
  ∃ user, s.users.find? profileUserId = some user ∧ user.deletedAt = none ∧ user.isBanned = false

/-- The viewer follows this rider, and was accepted. -/
def FollowTables.isFollowing (s : FollowTables) (viewerId userId : UserId) : Bool :=
  s.follows.entries.any fun entry => decide (entry.2.followerId = viewerId) &&
    decide (entry.2.followingId = userId) && decide (entry.2.status = .accepted)

def FollowTables.listedRows : List (FollowId × Follow) :=
  (s.follows.select fun _ follow =>
    side.listed profileUserId (s.viewerBlockedPeerIds viewerId) follow).insertionSort
      fun first second => first.1 ≤ second.1

/-- The items of a list, under the ids of their follows; nothing is listed of a profile that is
not to be seen. -/
def FollowTables.listedFollows : Option (List (FollowId × FollowListItem)) :=
  if (s.assertViewableUser profileUserId).isOk then
    some ((s.includePeers side (s.listedRows side viewerId profileUserId)).map fun row =>
      (row.1, toItem (s.isFollowing viewerId) row.2.1 row.2.2))
  else none

end Follows

theorem FollowTables.isSome_peer {followId : FollowId} {follow : Follow}
    (found : s.follows.find? followId = some follow) : (s.users.find? (side.peerId follow)).isSome := by
  have both := s.refers _ (s.follows.mem_entries_iff.mpr found)
  cases side with
  | followers => exact both.1
  | following => exact both.2

/-- Where every row is mapped to one, the first rows are mapped to the first ones. -/
theorem filterMap_take {Row Shown : Type} {shown : Row → Option Shown} {rows : List Row}
    (every : ∀ row ∈ rows, (shown row).isSome) (count : Nat) :
    (rows.take count).filterMap shown = (rows.filterMap shown).take count := by
  induction rows generalizing count with
  | nil => simp
  | cons row rows ih =>
    obtain ⟨value, here⟩ := Option.isSome_iff_exists.mp (every row (mem_cons_self ..))
    cases count with
    | zero => simp
    | succ count =>
      rw [take_succ_cons, filterMap_cons_some here, filterMap_cons_some here,
        take_succ_cons, ih fun other member => every other (mem_cons_of_mem row member)]

theorem FollowTables.includePeers_beyond (rows : List (FollowId × Follow)) (cursor : Option FollowId) :
    s.includePeers side (beyond Prod.fst rows cursor) = beyond Prod.fst (s.includePeers side rows) cursor := by
  cases cursor with
  | none => rfl
  | some bound =>
    rw [beyond, beyond, above, above, FollowTables.includePeers, FollowTables.includePeers,
      filterMap_filter, filter_filterMap]
    refine filterMap_congr fun entry _ => ?_
    by_cases higher : bound < entry.1
    · cases s.users.find? (side.peerId entry.2) with
      | none => simp
      | some user => simp [Option.filter, higher]
    · cases s.users.find? (side.peerId entry.2) with
      | none => simp
      | some user => simp [Option.filter, higher]

/-- The rows `follow.findMany` returns. -/
theorem FollowTables.followFindMany_eq (cursor : Option FollowId) (take : Nat) :
    s.followFindMany side profileUserId (s.viewerBlockedPeerIds viewerId) cursor take =
      (beyond Prod.fst (s.includePeers side (s.listedRows side viewerId profileUserId)) cursor).take take := by
  have there : ∀ entry ∈ beyond Prod.fst (s.listedRows side viewerId profileUserId) cursor,
      ((s.users.find? (side.peerId entry.2)).map fun user =>
        (entry.1, side.peerId entry.2, user)).isSome := by
    rintro ⟨followId, follow⟩ member
    have listed := (mem_beyond.mp member).1
    rw [FollowTables.listedRows, (perm_insertionSort _ _).mem_iff, mem_select] at listed
    rw [Option.isSome_map]
    exact s.isSome_peer side listed.1
  rw [← FollowTables.includePeers_beyond, FollowTables.includePeers, ← filterMap_take there,
    FollowTables.listedRows, ← select_beyond]
  rfl

theorem FollowTables.mem_batchIsFollowedByMe {viewerId userId : UserId} {targetUserIds : List UserId}
    (asked : userId ∈ targetUserIds) :
    decide (userId ∈ s.batchIsFollowedByMe viewerId targetUserIds) = s.isFollowing viewerId userId := by
  have some' : targetUserIds ≠ [] := ne_nil_of_mem asked
  rw [FollowTables.batchIsFollowedByMe, if_neg some', Bool.eq_iff_iff, decide_eq_true_eq,
    FollowTables.isFollowing, any_eq_true, mem_map]
  constructor
  · rintro ⟨entry, member, rfl⟩
    obtain ⟨stored, holds⟩ := mem_filter.mp member
    refine ⟨entry, stored, ?_⟩
    simp only [Bool.and_eq_true, decide_eq_true_eq] at holds ⊢
    exact ⟨⟨holds.1.1, trivial⟩, holds.2⟩
  · rintro ⟨entry, stored, holds⟩
    simp only [Bool.and_eq_true, decide_eq_true_eq] at holds
    refine ⟨entry, mem_filter.mpr ⟨stored, ?_⟩, holds.1.2⟩
    simp only [Bool.and_eq_true, decide_eq_true_eq]
    exact ⟨⟨holds.1.1, holds.1.2 ▸ asked⟩, holds.2⟩

theorem FollowTables.buildFollowListPage_eq (rows : List (FollowId × UserId × UserRow)) (limit : Nat) :
    some ((s.buildFollowListPage viewerId rows limit).items,
      (s.buildFollowListPage viewerId rows limit).nextCursor) =
        showRows (fun row => toItem (s.isFollowing viewerId) row.2.1 row.2.2)
          (some (keysetPage limit Prod.fst rows)) := by
  rw [← servicePage_eq]
  refine congrArg some (Prod.ext (map_congr_left fun row member => ?_) rfl)
  have asked := mem_map_of_mem (f := fun row : FollowId × UserId × UserRow => row.2.1) member
  rw [toItem, toItem, s.mem_batchIsFollowedByMe asked]

def fetchFollows (list : FollowTables → UserId → UserId → FollowListQueryDto → Except ServiceError FollowListPage)
    (viewerId profileUserId : UserId) (query : FollowListQueryDto) (s : FollowTables)
    (cursor : Option FollowId) : Option (List FollowListItem × Option FollowId) :=
  (list s viewerId profileUserId { query with cursor := cursor }).toOption.map fun page =>
    (page.items, page.nextCursor)

theorem fetchFollows_eq (query : FollowListQueryDto) (s : FollowTables) (cursor : Option FollowId) :
    fetchFollows (fun s => s.listForProfile side) viewerId profileUserId query s cursor =
      showRows Prod.snd (keysetRequest query.limit Prod.fst
        (s.listedFollows side viewerId profileUserId) cursor) := by
  rw [fetchFollows, FollowTables.listForProfile, FollowTables.listedFollows]
  cases viewable : s.assertViewableUser profileUserId with
  | error error => rfl
  | ok _ =>
    have page := s.buildFollowListPage_eq viewerId (s.followFindMany side profileUserId
      (s.viewerBlockedPeerIds viewerId) cursor (query.limit + 1)) query.limit
    rw [FollowTables.followFindMany_eq] at page
    rw [show (Except.ok () : Except ServiceError Unit).isOk = true from rfl, if_pos rfl,
      showRows_keysetRequest, ← page]
    simp only [FollowTables.followFindMany_eq]
    rfl

theorem ascending_listedFollows {s : FollowTables} {side : FollowSide} {viewerId profileUserId : UserId}
    {rows : List (FollowId × FollowListItem)}
    (listed : s.listedFollows side viewerId profileUserId = some rows) : Ascending Prod.fst rows := by
  rw [FollowTables.listedFollows] at listed
  split at listed
  · obtain rfl := Option.some.inj listed
    refine ascending_shown ?_ _
    have ascending : Ascending Prod.fst (s.listedRows side viewerId profileUserId) :=
      ascending_insertionSort (s.follows.nodup_select _)
    refine List.Pairwise.filterMap _ ?_ ascending
    rintro first second less _ shown _ shown'
    obtain ⟨-, -, rfl⟩ := Option.map_eq_some_iff.mp shown
    obtain ⟨-, -, rfl⟩ := Option.map_eq_some_iff.mp shown'
    exact less
  · cases listed

/-- A block between two riders, in either direction. -/
def FollowTables.Blocks (s : FollowTables) (viewerId userId : UserId) : Prop :=
  (s.blocks.find? (viewerId, userId)).isSome ∨ (s.blocks.find? (userId, viewerId)).isSome

/-- The follow matches the list of a profile: the profile may be seen, the follow is accepted and
no block separates its rider from the viewer; and it is shown so. -/
def FollowMatches (side : FollowSide) (viewerId profileUserId : UserId) (s : FollowTables)
    (followId : FollowId) (item : FollowListItem) : Prop :=
  s.Viewable profileUserId ∧ ∃ follow user, s.follows.find? followId = some follow ∧
    side.profileId follow = profileUserId ∧ follow.status = .accepted ∧
      ¬ s.Blocks viewerId (side.peerId follow) ∧ s.users.find? (side.peerId follow) = some user ∧
        item = toItem (s.isFollowing viewerId) (side.peerId follow) user

theorem FollowTables.assertViewableUser_isOk :
    (s.assertViewableUser profileUserId).isOk = true ↔ s.Viewable profileUserId := by
  rw [FollowTables.assertViewableUser, FollowTables.Viewable]
  cases stored : s.users.find? profileUserId with
  | none => simp [Except.isOk, Except.toBool]
  | some user =>
    by_cases seen : user.deletedAt = none ∧ user.isBanned = false
    · simp [Option.filter, seen.1, seen.2, Except.isOk, Except.toBool]
    · have hides : (user.deletedAt.isNone && !user.isBanned) = false := by
        rw [Bool.eq_false_iff]
        intro both
        simp only [Bool.and_eq_true, Option.isNone_iff_eq_none, Bool.not_eq_true'] at both
        exact seen both
      simp [Except.isOk, Except.toBool, seen]

theorem FollowSide.listed_iff (blocked : List UserId) (follow : Follow) :
    side.listed profileUserId blocked follow = true ↔ side.profileId follow = profileUserId ∧
      follow.status = .accepted ∧ side.peerId follow ∉ blocked := by
  have nobody : (blocked.isEmpty || !decide (side.peerId follow ∈ blocked)) = true ↔
      side.peerId follow ∉ blocked := by
    cases blocked with
    | nil | cons => simp
  rw [FollowSide.listed, Bool.and_eq_true, Bool.and_eq_true, nobody, decide_eq_true_eq,
    decide_eq_true_eq, and_assoc]

theorem mem_listedFollows (s : FollowTables) (followId : FollowId) (item : FollowListItem) :
    (followId, item) ∈ found (s.listedFollows side viewerId profileUserId) ↔
      FollowMatches side viewerId profileUserId s followId item := by
  have peers : ∀ userId, userId ∈ s.viewerBlockedPeerIds viewerId ↔ s.Blocks viewerId userId := by
    intro userId
    refine (Social.mem_blockPeers s.blocks viewerId []).trans ?_
    rw [FollowTables.Blocks]
    simp
  have rows : ∀ follow, (followId, follow) ∈ s.listedRows side viewerId profileUserId ↔
      s.follows.find? followId = some follow ∧ side.profileId follow = profileUserId ∧
        follow.status = .accepted ∧ ¬ s.Blocks viewerId (side.peerId follow) := by
    intro follow
    rw [FollowTables.listedRows, (perm_insertionSort _ _).mem_iff, mem_select,
      FollowSide.listed_iff, peers]
  rw [FollowTables.listedFollows]
  by_cases viewable : s.Viewable profileUserId
  · rw [if_pos ((s.assertViewableUser_isOk profileUserId).mpr viewable), found, Option.getD_some,
      mem_map]
    constructor
    · rintro ⟨⟨followId', userId, user⟩, member, same⟩
      obtain ⟨rfl, rfl⟩ := Prod.mk.inj same
      obtain ⟨⟨followId', follow⟩, listed, shown⟩ := mem_filterMap.mp member
      obtain ⟨user', stored, same'⟩ := Option.map_eq_some_iff.mp shown
      simp only [Prod.mk.injEq] at same'
      obtain ⟨rfl, rfl, rfl⟩ := same'
      obtain ⟨here, own, accepted, free⟩ := (rows follow).mp listed
      exact ⟨viewable, follow, user', here, own, accepted, free, stored, rfl⟩
    · rintro ⟨-, follow, user, here, own, accepted, free, stored, rfl⟩
      refine ⟨(followId, side.peerId follow, user), mem_filterMap.mpr ⟨(followId, follow),
        (rows follow).mpr ⟨here, own, accepted, free⟩, ?_⟩, rfl⟩
      rw [stored, Option.map_some]
  · rw [if_neg fun ok => viewable ((s.assertViewableUser_isOk profileUserId).mp ok)]
    exact ⟨fun member => absurd member (not_mem_nil), fun matches' => absurd matches'.1 viewable⟩

/-! ## Reading the lists -/

theorem follows_read_in_order (query : FollowListQueryDto) (tables : Nat → FollowTables) :
    ReadsInOrder query.limit (fun n => FollowMatches side viewerId profileUserId (tables n))
      fun n => fetchFollows (fun s => s.listForProfile side) viewerId profileUserId query (tables n) :=
  readsInOrder query.limit_range.1 (fun _ _ listed => ascending_listedFollows listed)
    (fun n => mem_listedFollows side viewerId profileUserId (tables n))
    fun n cursor => fetchFollows_eq side viewerId profileUserId query (tables n) cursor

/-- **Whatever rows come and go between the requests, following the cursors of the two searches and
of the two lists of a profile reads them in order**: no page longer than the limit, ascending ids
over all pages, every row that matched all requests once; and it ends when only finitely many rows
ever match. -/
theorem lists_read_in_order (communities : Nat → Communities.State) (events : Nat → Events.State)
    (tables : Nat → FollowTables) (communityQuery : CommunitySearchQueryDto)
    (eventQuery : EventSearchQueryDto) (followQuery : FollowListQueryDto) (viewerId profileUserId : UserId)
    (communityLimit : 1 ≤ communityQuery.limit ∧ communityQuery.limit ≤ 30)
    (eventLimit : 1 ≤ eventQuery.limit ∧ eventQuery.limit ≤ 30) :
    ReadsInOrder communityQuery.limit (fun n => CommunityMatches communityQuery (communities n))
        (fun n => fetchCommunities communityQuery (communities n)) ∧
      ReadsInOrder eventQuery.limit (fun n => EventMatches eventQuery (events n))
        (fun n => fetchEvents eventQuery (events n)) ∧
      ReadsInOrder followQuery.limit (fun n => FollowMatches .followers viewerId profileUserId (tables n))
        (fun n => fetchFollows FollowTables.listFollowersForProfile viewerId profileUserId followQuery
          (tables n)) ∧
      ReadsInOrder followQuery.limit (fun n => FollowMatches .following viewerId profileUserId (tables n))
        (fun n => fetchFollows FollowTables.listFollowingForProfile viewerId profileUserId followQuery
          (tables n)) := by
  refine ⟨?_, ?_, ?_, ?_⟩
  · refine readsInOrder communityLimit.1 ?_ (fun n => mem_listedCommunities communityQuery (communities n))
      fun n cursor => fetchCommunities_eq communityQuery (communities n) cursor
    intro n rows listed
    obtain rfl := Option.some.inj listed
    exact ascending_listedCommunities (communities n) communityQuery
  · refine readsInOrder eventLimit.1 ?_ (fun n => mem_listedEvents eventQuery (events n))
      fun n cursor => fetchEvents_eq eventQuery (events n) cursor
    intro n rows listed
    obtain rfl := Option.some.inj listed
    exact ascending_listedEvents (events n) eventQuery
  · exact follows_read_in_order .followers viewerId profileUserId followQuery tables
  · exact follows_read_in_order .following viewerId profileUserId followQuery tables

/-! ## Small lists -/

/-- A rider with this name. -/
def smallUser (username : String) : UserRow where
  username := username
  name := none
  bio := none
  avatarUrl := none
  coverImageUrl := none
  city := none
  country := none
  ridingStyle := []
  isPrivate := false
  isVerified := false
  followersCount := 0
  followingCount := 0
  postsCount := 0
  xp := 0
  level := 1
  createdAt := 0
  isBanned := false
  deletedAt := none

/-- Riders 2 and 3 follow rider 1; between the first and the second request rider 2 stops. -/
def smallTables (requests : Nat) : FollowTables where
  users := ((empty.insert 1 (smallUser "first")).insert 2 (smallUser "second")).insert 3
    (smallUser "third")
  follows :=
    if requests = 0 then (empty.insert 10 ⟨2, 1, .accepted⟩).insert 20 ⟨3, 1, .accepted⟩
    else empty.insert 20 ⟨3, 1, .accepted⟩
  blocks := .empty
  refers := by
    split
    · decide +kernel
    · decide +kernel

/-- One item on a page. -/
def onePerPage : FollowListQueryDto := ⟨none, 1, by decide⟩

/-- The follower who was read first and then left is read once, and so is the other. -/
example : (readingAfter (fun n => fetchFollows FollowTables.listFollowersForProfile 1 1 onePerPage
    (smallTables n)) 2).pages.map (List.map FollowListItem.id) = [[2], [3]] := by decide +kernel

theorem small_lists_read_in_order :
    ReadsInOrder 10 (fun _ => CommunityMatches ⟨"ride", 10, none⟩ Communities.smallInstallation)
        (fun _ => fetchCommunities ⟨"ride", 10, none⟩ Communities.smallInstallation) ∧
      ReadsInOrder 10 (fun _ => EventMatches ⟨"ride", 10, none⟩ Events.smallInstallation)
        (fun _ => fetchEvents ⟨"ride", 10, none⟩ Events.smallInstallation) ∧
      ReadsInOrder 1 (fun n => FollowMatches .followers 1 1 (smallTables n))
        (fun n => fetchFollows FollowTables.listFollowersForProfile 1 1 onePerPage (smallTables n)) ∧
      ReadsInOrder 1 (fun n => FollowMatches .following 1 1 (smallTables n))
        (fun n => fetchFollows FollowTables.listFollowingForProfile 1 1 onePerPage (smallTables n)) :=
  lists_read_in_order (fun _ => Communities.smallInstallation) (fun _ => Events.smallInstallation) smallTables
    ⟨"ride", 10, none⟩ ⟨"ride", 10, none⟩ onePerPage 1 1 (by decide) (by decide)

end Motogram.Listings
