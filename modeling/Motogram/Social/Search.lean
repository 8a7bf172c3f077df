import Motogram.Foundation.Paging
import Motogram.Social.Service

/-!
# The pages of a search

A search leaves out the rider who searches and everybody whom a block separates from that
rider. It does so with a condition on the id, and the cursor of a later page is a condition
on the id too, which takes the place of the first one. So from the second page on a search
lists the riders it has to leave out (`search_shows_blocked`).

The pages are right exactly when there is no second page, or everybody who is to be left out
comes before the end of the first one (`pages_are_exact_iff`).
-/

set_option autoImplicit false

namespace Motogram.Social

open Foundation Table List

variable {s : State} {viewerId : UserId} {text : String}

/-! ## Whom a search is to find -/

/-- A rider a search leaves out: the one who searches, and those on the other side of a block. -/
def State.hidden (s : State) (viewerId userId : UserId) : Bool :=
  decide (userId = viewerId) || (s.blocks.find? (viewerId, userId)).isSome ||
    (s.blocks.find? (userId, viewerId)).isSome

/-- A rider whom a search is to find. -/
def State.eligible (s : State) (viewerId : UserId) (text : String) (userId : UserId) (user : User) :
    Bool :=
  user.found s.deployment text && !s.hidden viewerId userId

/-! ## The rows that are read -/

/-- Everybody the text finds, in the order of the ids. -/
def State.foundRows (s : State) (text : String) : List (UserId × User) :=
  (s.users.select fun _ user => user.found s.deployment text).insertionSort
    fun first second => first.1 ≤ second.1

/-- Everybody whom a search is to find, in the order of the ids. -/
def State.eligibleRows (s : State) (viewerId : UserId) (text : String) : List (UserId × User) :=
  (s.foundRows text).filter fun entry => !s.hidden viewerId entry.1

theorem ascending_foundRows (s : State) (text : String) : Ascending Prod.fst (s.foundRows text) :=
  ascending_insertionSort (s.users.nodup_select _)

theorem mem_foundRows {userId : UserId} {user : User} :
    (userId, user) ∈ s.foundRows text ↔
      s.users.find? userId = some user ∧ user.found s.deployment text = true := by
  rw [State.foundRows, (perm_insertionSort _ _).mem_iff, mem_select]

theorem mem_eligibleRows {userId : UserId} {user : User} :
    (userId, user) ∈ s.eligibleRows viewerId text ↔
      s.users.find? userId = some user ∧ s.eligible viewerId text userId user = true := by
  rw [State.eligibleRows, mem_filter, mem_foundRows, State.eligible, Bool.and_eq_true, and_assoc]

theorem search_eq (s : State) (filter : UserWhere) :
    s.search filter = (s.foundRows filter.text).filter fun entry => filter.id.holds entry.1 := by
  have selected : s.users.select (fun userId user =>
      filter.id.holds userId && user.found s.deployment filter.text) =
        (s.users.select fun _ user => user.found s.deployment filter.text).filter
          fun entry => filter.id.holds entry.1 := by
    rw [select, select, filter_filter]
  rw [State.search, selected, insertionSort_filter (s.users.nodup_select _)]
  rfl

/-! ## A page -/

theorem mem_excluded {userId : UserId} (s : State) :
    userId ∈ (answer (.blockFindManyOf viewerId) s).1.foldl
        (fun ids pair => addToSet ids (blockPeer viewerId pair)) [viewerId] ↔
      s.hidden viewerId userId = true := by
  refine (mem_blockPeers s.blocks viewerId [viewerId]).trans ?_
  rw [mem_singleton, State.hidden, Bool.or_eq_true, Bool.or_eq_true, decide_eq_true_eq, or_assoc]

def fetchPage (s : State) (viewerId : UserId) (query : UserSearchQueryDto) (cursor : Option UserId) :
    Option (List UserPublic × Option UserId) :=
  ((searchUsers viewerId { query with cursor := cursor }).exec s).1.toOption.map fun page =>
    (page.items, page.nextCursor)

def toPublic (entry : UserId × User) : UserPublic := entry.2.toPublic entry.1

theorem searchPage_eq (limit : Nat) (rows : List UserPublic) :
    ((searchPage limit rows).items, (searchPage limit rows).nextCursor) =
      keysetPage limit UserPublic.id rows := by
  rw [searchPage, keysetPage]
  split <;> rfl

theorem fetchPage_eq (s : State) (viewerId : UserId) (query : UserSearchQueryDto)
    (cursor : Option UserId) :
    ∃ excluded, (∀ userId, userId ∈ excluded ↔ s.hidden viewerId userId = true) ∧
      fetchPage s viewerId query cursor = some (keysetPage query.limit UserPublic.id
        (((s.search (searchWhere excluded (jsTrim query.q) cursor)).take (query.limit + 1)).map
          toPublic)) := by
  refine ⟨_, fun userId => mem_excluded s, ?_⟩
  rw [← searchPage_eq]
  rfl

theorem fetchPage_some (query : UserSearchQueryDto) (cursor : UserId) :
    fetchPage s viewerId query (some cursor) = some (keysetPage query.limit UserPublic.id
      ((above UserPublic.id ((s.foundRows (jsTrim query.q)).map toPublic) cursor).take
        (query.limit + 1))) := by
  obtain ⟨excluded, -, page⟩ := fetchPage_eq s viewerId query (some cursor)
  rw [page, search_eq, map_take, above, filter_map]
  rfl

/-- The first page reads those whom the search is to find. -/
theorem fetchPage_none (query : UserSearchQueryDto) :
    fetchPage s viewerId query none = some (keysetPage query.limit UserPublic.id
      (((s.eligibleRows viewerId (jsTrim query.q)).map toPublic).take (query.limit + 1))) := by
  obtain ⟨excluded, hides, page⟩ := fetchPage_eq s viewerId query none
  have rows : s.search (searchWhere excluded (jsTrim query.q) none) =
      s.eligibleRows viewerId (jsTrim query.q) := by
    rw [search_eq]
    refine filter_congr fun entry _ => congrArg not ?_
    rw [Bool.eq_iff_iff, decide_eq_true_eq]
    exact hides entry.1
  rw [page, rows, map_take]

/-! ## All pages -/

/-- Following the cursors ends, and the pages hold everybody whom the search is to find
exactly once, and nobody else. -/
def PagesExact (s : State) (viewerId : UserId) (query : UserSearchQueryDto) : Prop :=
  ∃ pages, Chain (fetchPage s viewerId query) none pages ∧
    (pages.flatten.map UserPublic.id).Nodup ∧
      ∀ item, item ∈ pages.flatten ↔ ∃ userId user, s.users.find? userId = some user ∧
        s.eligible viewerId (jsTrim query.q) userId user = true ∧ item = user.toPublic userId

/-- One page is enough, or everybody the text finds who is to be left out has fewer than a
page of those to be found before them. -/
def HiddenComeFirst (s : State) (viewerId : UserId) (query : UserSearchQueryDto) : Prop :=
  s.users.count (s.eligible viewerId (jsTrim query.q)) ≤ query.limit ∨
    ∀ userId user, s.users.find? userId = some user →
      user.found s.deployment (jsTrim query.q) = true → s.hidden viewerId userId = true →
        s.users.count (fun other row => decide (other < userId) &&
          s.eligible viewerId (jsTrim query.q) other row) < query.limit

theorem perm_eligibleRows (s : State) (viewerId : UserId) (text : String) :
    (s.eligibleRows viewerId text).Perm (s.users.select (s.eligible viewerId text)) := by
  have selected : s.users.select (s.eligible viewerId text) =
      (s.users.select fun _ user => user.found s.deployment text).filter
        fun entry => !s.hidden viewerId entry.1 := by
    rw [select, select, filter_filter]
    refine filter_congr fun entry _ => ?_
    rw [State.eligible, Bool.and_comm]
  rw [selected]
  exact (perm_insertionSort _ _).filter _

theorem count_eligible (s : State) (viewerId : UserId) (text : String) :
    s.users.count (s.eligible viewerId text) = (s.eligibleRows viewerId text).length := by
  rw [← length_select, (perm_eligibleRows s viewerId text).length_eq]

theorem count_eligible_below (s : State) (viewerId : UserId) (text : String) (userId : UserId) :
    s.users.count (fun other row => decide (other < userId) && s.eligible viewerId text other row) =
      ((s.eligibleRows viewerId text).filter fun entry => decide (entry.1 < userId)).length := by
  have below : s.users.select (fun other row => decide (other < userId) &&
      s.eligible viewerId text other row) =
        (s.users.select (s.eligible viewerId text)).filter fun entry => decide (entry.1 < userId) := by
    rw [select, select, filter_filter]
  rw [← length_select, below, ((perm_eligibleRows s viewerId text).filter _).length_eq]

theorem mem_eligible_public {item : UserPublic} :
    item ∈ (s.eligibleRows viewerId text).map toPublic ↔
      ∃ userId user, s.users.find? userId = some user ∧
        s.eligible viewerId text userId user = true ∧ item = user.toPublic userId := by
  rw [mem_map]
  constructor
  · rintro ⟨⟨userId, user⟩, member, rfl⟩
    obtain ⟨found, eligible⟩ := mem_eligibleRows.mp member
    exact ⟨userId, user, found, eligible, rfl⟩
  · rintro ⟨userId, user, found, eligible, rfl⟩
    exact ⟨(userId, user), mem_eligibleRows.mpr ⟨found, eligible⟩, rfl⟩

theorem ascending_public {rows : List (UserId × User)} (ascending : Ascending Prod.fst rows) :
    Ascending UserPublic.id (rows.map toPublic) := pairwise_map.mpr ascending

theorem ascending_eligibleRows (s : State) (viewerId : UserId) (text : String) :
    Ascending Prod.fst (s.eligibleRows viewerId text) :=
  List.Pairwise.filter _ (ascending_foundRows s text)

theorem pagesExact_of_flatten {query : UserSearchQueryDto} {pages : List (List UserPublic)}
    (chain : Chain (fetchPage s viewerId query) none pages)
    (read : pages.flatten = (s.eligibleRows viewerId (jsTrim query.q)).map toPublic) :
    PagesExact s viewerId query := by
  refine ⟨pages, chain, ?_, fun item => ?_⟩
  · rw [read]
    have ascending := ascending_public (ascending_eligibleRows s viewerId (jsTrim query.q))
    exact pairwise_map.mpr (ascending.imp fun less => ne_of_lt less)
  · rw [read]
    exact mem_eligible_public

/-- **Following the cursors of a search finds everybody it is to find once and nobody else,
exactly when there is one page only or those to be left out come before its end.** -/
theorem pages_are_exact_iff (s : State) (viewerId : UserId) (query : UserSearchQueryDto) :
    PagesExact s viewerId query ↔ HiddenComeFirst s viewerId query := by
  have foundAscends := ascending_public (ascending_foundRows s (jsTrim query.q))
  have eligibleAscends := ascending_public (ascending_eligibleRows s viewerId (jsTrim query.q))
  have later : ∀ cursor, fetchPage s viewerId query (some cursor) = some (keysetPage query.limit
      UserPublic.id ((above UserPublic.id ((s.foundRows (jsTrim query.q)).map toPublic) cursor).take
        (query.limit + 1))) := fun cursor => fetchPage_some query cursor
  rw [HiddenComeFirst, count_eligible]
  obtain ⟨short, chain⟩ | ⟨earlier, last, pages, length, split, longer, chain, read⟩ :=
    chain_first query.limit_range.1 foundAscends later (fetchPage_none query)
  · rw [List.length_map] at short
    have exact' : PagesExact s viewerId query := pagesExact_of_flatten chain (List.flatten_singleton ..)
    exact ⟨fun _ => .inl short, fun _ => exact'⟩
  · rw [List.length_map] at longer
    -- Who is to be left out comes before the end of the first page, or is read after it.
    have before : ∀ userId, (s.users.count (fun other row => decide (other < userId) &&
          s.eligible viewerId (jsTrim query.q) other row) < query.limit ↔ ¬ last.id < userId) := by
      intro userId
      have counted : (((s.eligibleRows viewerId (jsTrim query.q)).map toPublic).filter fun item =>
          decide (item.id < userId)).length = ((s.eligibleRows viewerId (jsTrim query.q)).filter
            fun entry => decide (entry.1 < userId)).length := by
        rw [List.filter_map, List.length_map]
        rfl
      rw [count_eligible_below, ← counted, ← length, Nat.lt_succ_iff]
      rw [split] at eligibleAscends ⊢
      exact length_below_le_iff eligibleAscends
    constructor
    · rintro ⟨pages', chain', -, exact'⟩
      obtain rfl := chain'.unique chain
      refine .inr fun userId user found matches' hidden => (before userId).mpr fun after => ?_
      have shown : user.toPublic userId ∈ pages'.flatten := by
        rw [read, List.mem_append, List.mem_cons, mem_above]
        exact .inr (.inr ⟨List.mem_map.mpr ⟨(userId, user), mem_foundRows.mpr ⟨found, matches'⟩, rfl⟩,
          after⟩)
      obtain ⟨other, row, -, eligible, same⟩ := (exact' _).mp shown
      obtain rfl : userId = other := congrArg UserPublic.id same
      simp [State.eligible, hidden] at eligible
    · intro first
      refine pagesExact_of_flatten chain ?_
      have visible : ∀ item ∈ above UserPublic.id ((s.foundRows (jsTrim query.q)).map toPublic) last.id,
          (!s.hidden viewerId item.id) = true := by
        intro item member
        obtain ⟨listed, after⟩ := mem_above.mp member
        obtain ⟨⟨userId, user⟩, here, rfl⟩ := List.mem_map.mp listed
        obtain ⟨found, matches'⟩ := mem_foundRows.mp here
        rw [Bool.not_eq_true', Bool.eq_false_iff]
        intro hidden
        obtain few | beyond := first
        · omega
        · exact (before userId).mp (beyond userId user found matches' hidden) after
      have kept : (s.eligibleRows viewerId (jsTrim query.q)).map toPublic =
          ((s.foundRows (jsTrim query.q)).map toPublic).filter fun item => !s.hidden viewerId item.id := by
        rw [List.filter_map]
        rfl
      have rest : above UserPublic.id ((s.foundRows (jsTrim query.q)).map toPublic) last.id =
          ((s.eligibleRows viewerId (jsTrim query.q)).map toPublic).drop query.limit := by
        have own : above UserPublic.id ((s.eligibleRows viewerId (jsTrim query.q)).map toPublic)
            last.id = ((s.eligibleRows viewerId (jsTrim query.q)).map toPublic).drop query.limit := by
          rw [split] at eligibleAscends
          conv_lhs => rw [split]
          exact above_key eligibleAscends
        have filtered := List.filter_eq_self.mpr visible
        rw [above, List.filter_filter] at filtered
        rw [← own, kept, above, above, List.filter_filter, ← filtered]
        exact List.filter_congr fun item _ => Bool.and_comm ..
      rw [read, rest]
      exact split.symm

/-! ## A small installation -/

/-- Rider 4 has blocked rider 1. -/
def blockedInstallation : State := smallInstallation.withBlocks (empty.insert (4, 1) 0)

def searchForRiders : UserSearchQueryDto where
  q := "rider"
  limit := 1
  cursor := none
  limit_range := by decide

/-- The first page of rider 1 holds rider 2, the second rider 3, and the third rider 4, who
has blocked rider 1. -/
theorem search_shows_blocked : ¬ PagesExact blockedInstallation 1 searchForRiders := by
  rintro ⟨pages, chain, -, exact'⟩
  have first : fetchPage blockedInstallation 1 searchForRiders none =
      some ([(rider "rider_2").toPublic 2], some 2) := by decide +kernel
  have second : fetchPage blockedInstallation 1 searchForRiders (some 2) =
      some ([(rider "rider_3").toPublic 3], some 3) := by decide +kernel
  have third : fetchPage blockedInstallation 1 searchForRiders (some 3) =
      some ([(rider "rider_4").toPublic 4], none) := by decide +kernel
  have read := Chain.next first (.next second (.last third))
  obtain rfl := chain.unique read
  obtain ⟨userId, user, -, eligible, same⟩ :=
    (exact' ((rider "rider_4").toPublic 4)).mp (by decide +kernel)
  obtain rfl : 4 = userId := congrArg UserPublic.id same
  have hides : blockedInstallation.hidden 1 4 = true := by decide +kernel
  simp [State.eligible, hides] at eligible

end Motogram.Social
