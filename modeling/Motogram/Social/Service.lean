import Motogram.Social.Store
import Motogram.Text

/-!
# The social services

`follows.service.ts` (`follow`, `unfollow`), `blocks.service.ts` (`blockUser`,
`unblockUser`) and of `users.service.ts` the profile update and the search. Every function
is a program over the calls of the store, in the order of the source.
-/

set_option autoImplicit false

namespace Motogram.Social

open Foundation Program

/-! ## Exceptions -/

def cannotFollowSelf : ServiceError := .http .badRequest "cannot_follow_self" .validationFailed none
def cannotBlockSelf : ServiceError := .http .badRequest "cannot_block_self" .validationFailed none
def userNotFound : ServiceError := .http .notFound "user_not_found" .notFound none
def blocked : ServiceError := .http .badRequest "blocked" .blocked none

/-! ## Following -/

/-- The status a follow of this rider is given. -/
def followStatus (target : User) : FollowStatus := if target.isPrivate then .pending else .accepted

/-- The end of `follow`, from the transaction on. -/
def saveFollow (followerId followingId : UserId) (status : FollowStatus) : Flow FollowStatus := do
  let saved : Except PrismaError Unit ← call (.followTransaction followerId followingId status)
  rethrow saved
  if status = .accepted then do
    let _ : Unit ← call (.emitFollowGained followingId followerId)
    pure status
  else pure status

def follow (followerId followingId : UserId) : Flow FollowStatus := do
  throwIf (followerId = followingId) cannotFollowSelf
  let target : Option User ← call (.userFindActive followingId)
  match target with
  | none => .fail userNotFound
  | some target => do
    let block : Bool ← call (.blockFindBetween followerId followingId)
    throwIf (block = true) blocked
    saveFollow followerId followingId (followStatus target)

def unfollow (followerId followingId : UserId) : Flow Unit := do
  let existing : Option FollowStatus ← call (.followFindUnique followerId followingId)
  match existing with
  | none => pure ()
  | some existing => do
    let deleted : Except PrismaError Unit ←
      call (.unfollowTransaction followerId followingId existing)
    rethrow deleted

/-! ## Blocking -/

/-- `blockUser`; it returns the target and the time of the block. -/
def blockUser (initiatorId targetId : UserId) : Flow (UserId × Time) := do
  throwIf (initiatorId = targetId) cannotBlockSelf
  let target : Option User ← call (.userFindActive targetId)
  match target with
  | none => .fail userNotFound
  | some _ => do
    unfollow initiatorId targetId
    unfollow targetId initiatorId
    let upserted : Except PrismaError Time ← call (.blockUpsert initiatorId targetId)
    let createdAt ← rethrow upserted
    pure (targetId, createdAt)

def unblockUser (initiatorId targetId : UserId) : Flow Unit :=
  call (.blockDeleteMany initiatorId targetId)

/-! ## Profiles and search -/

def updateProfile (userId : UserId) (dto : UpdateProfileDto) : Flow UserPublic := do
  let updated : Except PrismaError UserPublic ← call (.userUpdate userId dto)
  rethrow updated

/-- `Set.add`. -/
def addToSet (ids : List UserId) (id : UserId) : List UserId := if id ∈ ids then ids else ids ++ [id]

/-- The other rider of a block. -/
def blockPeer (viewerId : UserId) (pair : UserId × UserId) : UserId :=
  if pair.1 = viewerId then pair.2 else pair.1

theorem mem_addToSet {ids : List UserId} {id userId : UserId} :
    userId ∈ addToSet ids id ↔ userId ∈ ids ∨ id = userId := by
  rw [addToSet]
  split
  · rename_i member
    exact ⟨.inl, fun either => either.elim (fun old => old) fun same => same ▸ member⟩
  · rw [List.mem_append, List.mem_singleton]
    exact or_congr_right eq_comm

/-- The riders collected from blocks of a rider: those on the other side. -/
theorem mem_blockPeers {Row : Type} (blocks : Table (UserId × UserId) Row) (viewerId : UserId)
    {userId : UserId} (ids : List UserId) :
    userId ∈ ((blocks.select fun pair _ => decide (pair.1 = viewerId) || decide (pair.2 = viewerId)).map
        Prod.fst).foldl (fun ids pair => addToSet ids (blockPeer viewerId pair)) ids ↔
      userId ∈ ids ∨ (blocks.find? (viewerId, userId)).isSome ∨ (blocks.find? (userId, viewerId)).isSome := by
  have added : ∀ (pairs : List (UserId × UserId)) (ids : List UserId),
      userId ∈ pairs.foldl (fun ids pair => addToSet ids (blockPeer viewerId pair)) ids ↔
        userId ∈ ids ∨ ∃ pair ∈ pairs, blockPeer viewerId pair = userId := by
    intro pairs
    induction pairs with
    | nil => simp
    | cons pair pairs ih =>
      intro ids
      rw [List.foldl_cons, ih, mem_addToSet, or_assoc, List.exists_mem_cons_iff]
  have listed : ∀ pair, pair ∈ (blocks.select fun pair _ =>
        decide (pair.1 = viewerId) || decide (pair.2 = viewerId)).map Prod.fst ↔
      (blocks.find? pair).isSome ∧ (pair.1 = viewerId ∨ pair.2 = viewerId) := by
    intro pair
    simp only [List.mem_map, Prod.exists, exists_and_right, exists_eq_right,
      Table.mem_select, Bool.or_eq_true, decide_eq_true_eq, Option.isSome_iff_exists]
  rw [added]
  refine or_congr_right ⟨?_, ?_⟩
  · rintro ⟨⟨first, second⟩, member, same⟩
    obtain ⟨row, own⟩ := (listed _).mp member
    by_cases mine : first = viewerId
    · rw [blockPeer, if_pos mine] at same
      subst mine same
      exact .inl row
    · rw [blockPeer, if_neg mine] at same
      obtain rfl : second = viewerId := own.resolve_left mine
      subst same
      exact .inr row
  · rintro (row | row)
    · exact ⟨(viewerId, userId), (listed _).mpr ⟨row, .inl rfl⟩, if_pos rfl⟩
    · refine ⟨(userId, viewerId), (listed _).mpr ⟨row, .inr rfl⟩, ?_⟩
      by_cases own : userId = viewerId
      · rw [blockPeer, if_pos own, own]
      · exact if_neg own

def blockRelatedUserIds (viewerId : UserId) : Flow (List UserId) := do
  let rows : List (UserId × UserId) ← call (.blockFindManyOf viewerId)
  pure (rows.foldl (fun ids pair => addToSet ids (blockPeer viewerId pair)) [viewerId])

/-- The `where` of a search. The cursor is spread over the object last, so that its `id`
takes the place of the one that was there. -/
def searchWhere (excluded : List UserId) (text : String) (cursor : Option UserId) : UserWhere :=
  let filter : UserWhere := { id := .notIn excluded, text := text }
  match cursor with
  | none => filter
  | some cursor => { filter with id := .gt cursor }

structure SearchPage where
  items : List UserPublic
  nextCursor : Option UserId
  deriving DecidableEq

/-- A page of the rows that were read, one more than the limit at most. -/
def searchPage (limit : Nat) (rows : List UserPublic) : SearchPage :=
  if rows.length > limit then
    { items := rows.take limit, nextCursor := (rows.take limit).getLast?.map UserPublic.id }
  else { items := rows, nextCursor := none }

def searchUsers (viewerId : UserId) (query : UserSearchQueryDto) : Flow SearchPage := do
  let text := jsTrim query.q
  let excluded ← blockRelatedUserIds viewerId
  let rows : List UserPublic ←
    call (.userFindMany (searchWhere excluded text query.cursor) (query.limit + 1))
  pure (searchPage query.limit rows)

/-! ## A small installation -/

/-- A database that compares texts as they are. -/
def smallDeployment : Deployment where
  startsWithInsensitive := fun value text => text.toList.isPrefixOf value.toList
  containsInsensitive := fun value text =>
    value.toList.tails.any fun rest => text.toList.isPrefixOf rest

def rider (username : String) : User where
  username := username
  name := none
  isPrivate := false
  isBanned := false
  deletedAt := none
  followersCount := 0
  followingCount := 0
  postsCount := 0

/-- Riders 1 to 4, who have nothing yet. -/
def smallInstallation : State :=
  .initial smallDeployment 0 ((((Table.empty.insert 1 (rider "rider_1")).insert 2
    (rider "rider_2")).insert 3 (rider "rider_3")).insert 4 (rider "rider_4"))

end Motogram.Social
