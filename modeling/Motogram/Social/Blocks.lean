import Mathlib.Data.Fintype.Basic
import Motogram.Foundation.Staging
import Motogram.Social.Follows

/-!
# Blocks and follows between two riders

`blockUser` removes the follows between two riders, each in a transaction of its own, and
then writes the block. `follow` looks for a block, and writes its row in a later call. When a
block comes between the two, or the row between the removal and the block, both remain
(`follow_survives_block`).

When no follow is written while a block stands between the two riders, or while a
`blockUser` between them has looked at that follow and is still to write its block, no rider
follows another across a block (`blocked_riders_apart`).
-/

set_option autoImplicit false

namespace Motogram.Social

open Foundation Program Function Table Pool

variable {Index : Type}

/-! ## Calls -/

/-- A call about two riders. -/
inductive PairCall where
  | follow (followerId followingId : UserId)
  | unfollow (followerId followingId : UserId)
  | blockUser (initiatorId targetId : UserId)

def pairProgram : PairCall → Flow Unit
  | .follow followerId followingId => do
    let _ ← follow followerId followingId
    pure ()
  | .unfollow followerId followingId => unfollow followerId followingId
  | .blockUser initiatorId targetId => do
    let _ ← blockUser initiatorId targetId
    pure ()

abbrev SocialPool (Index : Type) := Pool Index SocialCall SocialReply ServiceError Unit State

/-- Calls about pairs of riders that share the stores. -/
def pairCalls (calls : Index → PairCall) (s : State) : SocialPool Index where
  threads := fun index => pairProgram (calls index)
  store := s

/-! ## The property and the condition -/

/-- A block stands between two riders, in either direction. -/
def State.Blocks (s : State) (first second : UserId) : Prop :=
  (s.blocks.find? (first, second)).isSome ∨ (s.blocks.find? (second, first)).isSome

instance (s : State) (first second : UserId) : Decidable (s.Blocks first second) :=
  inferInstanceAs (Decidable (_ ∨ _))

/-- No rider follows another across a block. -/
def State.Apart (s : State) : Prop :=
  ∀ first second, s.Blocks first second → s.follows.find? (first, second) = none

/-- A `blockUser` has looked at the follow, or removed it, and its block is still to come. -/
def PairCall.Guards (request : PairCall) (next : Option SocialCall) (followerId followingId : UserId) :
    Prop :=
  match request, next with
  | .blockUser initiatorId targetId, some (.followFindUnique first second) =>
    (first, second) = (targetId, initiatorId) ∧ (followerId, followingId) = (initiatorId, targetId)
  | .blockUser initiatorId targetId, some (.unfollowTransaction first second _) =>
    (first, second) = (targetId, initiatorId) ∧ (followerId, followingId) = (initiatorId, targetId)
  | .blockUser initiatorId targetId, some (.blockUpsert _ _) =>
    (followerId, followingId) = (initiatorId, targetId) ∨
      (followerId, followingId) = (targetId, initiatorId)
  | _, _ => False

instance (request : PairCall) (next : Option SocialCall) (followerId followingId : UserId) :
    Decidable (request.Guards next followerId followingId) := by
  unfold PairCall.Guards
  split <;> infer_instance

/-- A follow is written only where no block stands, and no other call is between its look at
that follow and its block. -/
def RespectsBlocks (calls : Index → PairCall) (pool : SocialPool Index) (index : Index) : Prop :=
  match pool.next? index with
  | some (.followTransaction followerId followingId _) =>
    ¬ pool.store.Blocks followerId followingId ∧
      ∀ other, ¬ (calls other).Guards (pool.next? other) followerId followingId
  | _ => True

instance [Fintype Index] (calls : Index → PairCall) (pool : SocialPool Index) (index : Index) :
    Decidable (RespectsBlocks calls pool index) := by
  unfold RespectsBlocks
  split <;> infer_instance

/-! ## Stages -/

def SocialCall.NoBlock : SocialCall → Prop
  | .blockUpsert _ _ => False
  | _ => True

/-- How far a call has come: anywhere in a call that writes no block, or at one of the calls of
`blockUser`. -/
inductive PairStage where
  | free (rest : Flow Unit)
  | findTarget (initiatorId targetId : UserId)
  | lookOut (initiatorId targetId : UserId)
  | removeOut (initiatorId targetId : UserId) (existing : FollowStatus)
  | lookIn (initiatorId targetId : UserId)
  | removeIn (initiatorId targetId : UserId) (existing : FollowStatus)
  | block (initiatorId targetId : UserId)

/-- The end of `blockUser`. -/
def writeBlock (initiatorId targetId : UserId) : Flow Unit := do
  let upserted : Except PrismaError Time ← call (.blockUpsert initiatorId targetId)
  let _ ← rethrow upserted
  pure ()

/-- `blockUser` from its second look on. -/
def removeFollower (initiatorId targetId : UserId) : Flow Unit := do
  unfollow targetId initiatorId
  writeBlock initiatorId targetId

def PairStage.program : PairStage → Flow Unit
  | .free rest => rest
  | .findTarget initiatorId targetId => do
    let target : Option User ← call (.userFindActive targetId)
    match target with
    | none => .fail userNotFound
    | some _ => do
      unfollow initiatorId targetId
      removeFollower initiatorId targetId
  | .lookOut initiatorId targetId => do
    unfollow initiatorId targetId
    removeFollower initiatorId targetId
  | .removeOut initiatorId targetId existing => do
    let deleted : Except PrismaError Unit ←
      call (.unfollowTransaction initiatorId targetId existing)
    rethrow deleted
    removeFollower initiatorId targetId
  | .lookIn initiatorId targetId => removeFollower initiatorId targetId
  | .removeIn initiatorId targetId existing => do
    let deleted : Except PrismaError Unit ←
      call (.unfollowTransaction targetId initiatorId existing)
    rethrow deleted
    writeBlock initiatorId targetId
  | .block initiatorId targetId => writeBlock initiatorId targetId

/-- The follows that a call at the stage has looked at or removed, its block still to come. -/
def PairStage.guards : PairStage → UserId → UserId → Prop
  | .lookIn initiatorId targetId, followerId, followingId =>
    (followerId, followingId) = (initiatorId, targetId)
  | .removeIn initiatorId targetId _, followerId, followingId =>
    (followerId, followingId) = (initiatorId, targetId)
  | .block initiatorId targetId, followerId, followingId =>
    (followerId, followingId) = (initiatorId, targetId) ∨
      (followerId, followingId) = (targetId, initiatorId)
  | _, _, _ => False

def PairStage.Serves (request : PairCall) : PairStage → Prop
  | .free rest => rest.Uses SocialCall.NoBlock
  | .findTarget initiatorId targetId => request = .blockUser initiatorId targetId
  | .lookOut initiatorId targetId => request = .blockUser initiatorId targetId
  | .removeOut initiatorId targetId _ => request = .blockUser initiatorId targetId
  | .lookIn initiatorId targetId => request = .blockUser initiatorId targetId
  | .removeIn initiatorId targetId _ => request = .blockUser initiatorId targetId
  | .block initiatorId targetId => request = .blockUser initiatorId targetId

/-- What each call leads to, in the store it is sent to. -/
inductive PairMoves (s : State) : PairStage → SocialCall → PairStage → Prop where
  | free {rest rest' : Flow Unit} {request : SocialCall} (quiet : request.NoBlock)
      (uses : rest'.Uses SocialCall.NoBlock) : PairMoves s (.free rest) request (.free rest')
  | absent {initiatorId targetId : UserId} :
      PairMoves s (.findTarget initiatorId targetId) (.userFindActive targetId)
        (.free (.fail userNotFound))
  | target {initiatorId targetId : UserId} :
      PairMoves s (.findTarget initiatorId targetId) (.userFindActive targetId)
        (.lookOut initiatorId targetId)
  | lookOut {initiatorId targetId : UserId} (none : s.follows.find? (initiatorId, targetId) = none) :
      PairMoves s (.lookOut initiatorId targetId) (.followFindUnique initiatorId targetId)
        (.lookIn initiatorId targetId)
  | foundOut {initiatorId targetId : UserId} {existing : FollowStatus} :
      PairMoves s (.lookOut initiatorId targetId) (.followFindUnique initiatorId targetId)
        (.removeOut initiatorId targetId existing)
  | removeOut {initiatorId targetId : UserId} {existing : FollowStatus}
      (removed : (answer (.unfollowTransaction initiatorId targetId existing) s).2.follows.find?
        (initiatorId, targetId) = none) :
      PairMoves s (.removeOut initiatorId targetId existing)
        (.unfollowTransaction initiatorId targetId existing) (.lookIn initiatorId targetId)
  | failOut {initiatorId targetId : UserId} {existing : FollowStatus} {error : ServiceError} :
      PairMoves s (.removeOut initiatorId targetId existing)
        (.unfollowTransaction initiatorId targetId existing) (.free (.fail error))
  | lookIn {initiatorId targetId : UserId} (none : s.follows.find? (targetId, initiatorId) = none) :
      PairMoves s (.lookIn initiatorId targetId) (.followFindUnique targetId initiatorId)
        (.block initiatorId targetId)
  | foundIn {initiatorId targetId : UserId} {existing : FollowStatus} :
      PairMoves s (.lookIn initiatorId targetId) (.followFindUnique targetId initiatorId)
        (.removeIn initiatorId targetId existing)
  | removeIn {initiatorId targetId : UserId} {existing : FollowStatus}
      (removed : (answer (.unfollowTransaction targetId initiatorId existing) s).2.follows.find?
        (targetId, initiatorId) = none) :
      PairMoves s (.removeIn initiatorId targetId existing)
        (.unfollowTransaction targetId initiatorId existing) (.block initiatorId targetId)
  | failIn {initiatorId targetId : UserId} {existing : FollowStatus} {error : ServiceError} :
      PairMoves s (.removeIn initiatorId targetId existing)
        (.unfollowTransaction targetId initiatorId existing) (.free (.fail error))
  | block {initiatorId targetId : UserId} {rest : Flow Unit} (uses : rest.Uses SocialCall.NoBlock) :
      PairMoves s (.block initiatorId targetId) (.blockUpsert initiatorId targetId) (.free rest)

theorem rethrow_uses {Value : Type} (reply : Except PrismaError Value) :
    (rethrow reply).Uses SocialCall.NoBlock := by
  cases reply <;> trivial

theorem unfollow_uses (followerId followingId : UserId) :
    (unfollow followerId followingId).Uses SocialCall.NoBlock := by
  refine Uses.send trivial fun existing => ?_
  cases existing with
  | none => trivial
  | some existing => exact Uses.send trivial fun deleted => rethrow_uses deleted

theorem follow_uses (followerId followingId : UserId) :
    (follow followerId followingId).Uses SocialCall.NoBlock := by
  refine Uses.bind (uses_throwIf _ _) fun _ => Uses.send trivial fun target => ?_
  cases target with
  | none => trivial
  | some target =>
    refine Uses.send trivial fun block => ?_
    refine Uses.bind (uses_throwIf _ _) fun _ => ?_
    refine Uses.send trivial fun saved => Uses.bind (rethrow_uses saved) fun _ => ?_
    split
    · exact ⟨trivial, fun _ => trivial⟩
    · trivial

theorem pairProgram_begins (request : PairCall) :
    ∃ stage : PairStage, pairProgram request = stage.program ∧ stage.Serves request ∧
      ∀ followerId followingId, ¬ stage.guards followerId followingId := by
  cases request with
  | follow followerId followingId =>
    exact ⟨.free _, rfl, (follow_uses followerId followingId).bind fun _ => trivial, fun _ _ => id⟩
  | unfollow followerId followingId =>
    exact ⟨.free _, rfl, unfollow_uses followerId followingId, fun _ _ => id⟩
  | blockUser initiatorId targetId =>
    by_cases own : initiatorId = targetId
    · refine ⟨.free (.fail cannotBlockSelf), ?_, trivial, fun _ _ => id⟩
      rw [pairProgram, blockUser, throwIf, if_pos own]
      rfl
    · refine ⟨.findTarget initiatorId targetId, ?_, rfl, fun _ _ => id⟩
      rw [pairProgram, blockUser, throwIf, if_neg own]
      simp only [PairStage.program, done_bind, call_bind]
      congr 1
      funext target
      cases target with
      | none => rfl
      | some target =>
        simp only [removeFollower, writeBlock, bind_assoc, call_bind,
          done_bind, pure_eq]

theorem unfollowTransaction_removed {s : State} {followerId followingId : UserId}
    {existing : FollowStatus}
    (ok : (answer (.unfollowTransaction followerId followingId existing) s).1 = .ok ()) :
    (answer (.unfollowTransaction followerId followingId existing) s).2.follows =
      s.follows.erase (followerId, followingId) := by
  simp only [answer] at ok ⊢
  split at ok
  · cases ok
  · rename_i present
    rw [if_neg present]
    split at ok
    · rename_i accepted
      rw [if_pos accepted]
      split at ok
      · cases ok
      · rename_i missing
        rw [if_neg missing]
        rfl
    · rename_i accepted
      rw [if_neg accepted]
      rfl

theorem pairStage_follows (stage : PairStage) (free : ∀ rest, stage = .free rest → rest.Uses SocialCall.NoBlock)
    (s : State) : Follows answer PairStage.program PairMoves stage s := by
  cases stage with
  | free rest =>
    have uses := free rest rfl
    cases rest with
    | done | fail => exact .inl rfl
    | call request next =>
      exact .inr ⟨request, next, .free _, rfl, .free uses.1 (uses.2 _), rfl⟩
  | findTarget initiatorId targetId =>
    cases found : (answer (.userFindActive targetId) s).1 with
    | none =>
      refine .inr ⟨_, _, .free (.fail userNotFound), rfl, .absent, ?_⟩
      simp only [Program.bind, found]
      rfl
    | some target =>
      refine .inr ⟨_, _, .lookOut initiatorId targetId, rfl, .target, ?_⟩
      simp only [Program.bind, found]
      rfl
  | lookOut initiatorId targetId =>
    cases found : s.follows.find? (initiatorId, targetId) with
    | none =>
      refine .inr ⟨_, _, .lookIn initiatorId targetId, rfl, .lookOut found, ?_⟩
      simp only [answer, found]
      rfl
    | some existing =>
      refine .inr ⟨_, _, .removeOut initiatorId targetId existing, rfl, .foundOut, ?_⟩
      simp only [answer, found]
      rfl
  | removeOut initiatorId targetId existing =>
    cases outcome : (answer (.unfollowTransaction initiatorId targetId existing) s).1 with
    | error error =>
      refine .inr ⟨_, _, .free (.fail (.prisma error)), rfl, .failOut, ?_⟩
      simp only [Program.bind, outcome]
      rfl
    | ok value =>
      have removed := unfollowTransaction_removed outcome
      refine .inr ⟨_, _, .lookIn initiatorId targetId, rfl, .removeOut ?_, ?_⟩
      · rw [removed, find?_erase, if_pos rfl]
      · simp only [Program.bind, outcome]
        rfl
  | lookIn initiatorId targetId =>
    cases found : s.follows.find? (targetId, initiatorId) with
    | none =>
      refine .inr ⟨_, _, .block initiatorId targetId, rfl, .lookIn found, ?_⟩
      simp only [answer, found]
      rfl
    | some existing =>
      refine .inr ⟨_, _, .removeIn initiatorId targetId existing, rfl, .foundIn, ?_⟩
      simp only [answer, found]
      rfl
  | removeIn initiatorId targetId existing =>
    cases outcome : (answer (.unfollowTransaction targetId initiatorId existing) s).1 with
    | error error =>
      refine .inr ⟨_, _, .free (.fail (.prisma error)), rfl, .failIn, ?_⟩
      simp only [Program.bind, outcome]
      rfl
    | ok value =>
      have removed := unfollowTransaction_removed outcome
      refine .inr ⟨_, _, .block initiatorId targetId, rfl, .removeIn ?_, ?_⟩
      · rw [removed, find?_erase, if_pos rfl]
      · simp only [Program.bind, outcome]
        rfl
  | block initiatorId targetId =>
    refine .inr ⟨_, _, .free _, rfl, .block ?_, rfl⟩
    exact (rethrow_uses _).bind fun _ => trivial

/-! ## What a call writes -/

theorem follows_answer {request : SocialCall} {s : State} {pair : UserId × UserId}
    (before : s.follows.find? pair = none) (other : ∀ status, request ≠ .followTransaction pair.1 pair.2 status) :
    (answer request s).2.follows.find? pair = none := by
  cases request with
  | followTransaction followerId followingId status =>
    have apart : pair ≠ (followerId, followingId) := fun same => other status (by rw [same])
    simp only [answer]
    split
    · exact before
    · rw [State.withFollows_follows, find?_upsert, if_neg apart]
      exact before
  | unfollowTransaction followerId followingId existing =>
    have erased : (s.follows.erase (followerId, followingId)).find? pair = none := by
      rw [find?_erase, before, ite_self]
    simp only [answer]
    split
    · exact before
    · split
      · split
        · exact before
        · exact erased
      · exact erased
  | userUpdate | blockUpsert =>
    simp only [answer]
    split
    · exact before
    · first | exact before | (split <;> exact before)
  | _ => exact before

/-- Only `blockUpsert` adds a block. -/
theorem blocks_answer {request : SocialCall} {s : State} {first second : UserId}
    (after : (answer request s).2.Blocks first second) :
    s.Blocks first second ∨ request = .blockUpsert first second ∨ request = .blockUpsert second first := by
  cases request with
  | blockUpsert initiatorId targetId =>
    simp only [answer] at after
    split at after
    · exact .inl after
    · split at after
      · exact .inl after
      · by_cases out : (first, second) = (initiatorId, targetId)
        · cases out
          exact .inr (.inl rfl)
        · by_cases back : (second, first) = (initiatorId, targetId)
          · cases back
            exact .inr (.inr rfl)
          · rw [State.Blocks, State.withBlocks_blocks, find?_insert_of_ne _ out,
              find?_insert_of_ne _ back] at after
            exact .inl after
  | blockDeleteMany initiatorId targetId =>
    have fewer : ∀ pair, ((s.blocks.erase (initiatorId, targetId)).find? pair).isSome →
        (s.blocks.find? pair).isSome := by
      intro pair present
      rw [find?_erase] at present
      split at present
      · cases present
      · exact present
    exact .inl (after.imp (fewer _) (fewer _))
  | userUpdate | followTransaction =>
    simp only [answer] at after
    split at after <;> exact .inl after
  | unfollowTransaction followerId followingId existing =>
    simp only [answer] at after
    split at after
    · exact .inl after
    · split at after
      · split at after <;> exact .inl after
      · exact .inl after
  | _ => exact .inl after

/-! ## The invariant -/

theorem PairStage.Serves.guards {stage : PairStage} {request : PairCall} {followerId followingId : UserId}
    (serves : stage.Serves request) (guards : stage.guards followerId followingId) :
    request.Guards stage.program.next? followerId followingId := by
  cases stage with
  | free | findTarget | lookOut | removeOut => exact guards.elim
  | lookIn | removeIn =>
    cases serves
    exact ⟨rfl, guards⟩
  | block initiatorId targetId =>
    cases serves
    exact guards

/-- No follow crosses a block, or will be crossed by one that is to come. -/
structure Guarded (calls : Index → PairCall) (stages : Index → PairStage) (s : State) : Prop where
  apart : s.Apart
  guarded : ∀ index followerId followingId, (stages index).guards followerId followingId →
    s.follows.find? (followerId, followingId) = none
  serves : ∀ index, (stages index).Serves (calls index)

namespace PairMoves

variable {s : State} {stage stage' : PairStage} {request : SocialCall} {pairCall : PairCall}

theorem serves (moves : PairMoves s stage request stage') (before : stage.Serves pairCall) :
    stage'.Serves pairCall := by
  cases moves with
  | free _ uses | block uses => exact uses
  | absent | failOut | failIn => trivial
  | target | lookOut | foundOut | removeOut | lookIn | foundIn | removeIn => exact before

/-- A block is written at the last stage of `blockUser`. -/
theorem blocks {initiatorId targetId : UserId}
    (moves : PairMoves s stage (.blockUpsert initiatorId targetId) stage') :
    stage = .block initiatorId targetId := by
  cases moves with
  | free quiet uses => exact quiet.elim
  | block uses => rfl

theorem guards (moves : PairMoves s stage request stage') {followerId followingId : UserId}
    (guards : stage'.guards followerId followingId) :
    (answer request s).2.follows.find? (followerId, followingId) = none ∨
      (stage.guards followerId followingId ∧
        ∀ status, request ≠ .followTransaction followerId followingId status) := by
  cases moves with
  | free | absent | target | foundOut | failOut | failIn | block => exact guards.elim
  | lookOut none =>
    cases guards
    exact .inl none
  | removeOut removed =>
    cases guards
    exact .inl removed
  | foundIn => exact .inr ⟨guards, by rintro _ ⟨⟩⟩
  | lookIn none =>
    obtain out | back := guards
    · exact .inr ⟨out, by rintro _ ⟨⟩⟩
    · cases back
      exact .inl none
  | removeIn removed =>
    obtain out | back := guards
    · exact .inr ⟨out, by rintro _ ⟨⟩⟩
    · cases back
      exact .inl removed

end PairMoves

variable [DecidableEq Index] {calls : Index → PairCall}

/-- A step under the condition keeps the two apart. -/
theorem Guarded.advance {pool : SocialPool Index} {stages : Index → PairStage} {index : Index}
    {request : SocialCall} {stage' : PairStage} (staged : pool.InStages (fun _ => PairStage.program) stages)
    (sound : Guarded calls stages pool.store) (respects : RespectsBlocks calls pool index)
    (asked : pool.next? index = some request) (moves : PairMoves pool.store (stages index) request stage') :
    Guarded calls (update stages index stage') (answer request pool.store).2 := by
  -- A follow that is written crosses no block, and no call guards it.
  have written : ∀ followerId followingId status,
      request = .followTransaction followerId followingId status →
        ¬ pool.store.Blocks followerId followingId ∧
          ∀ other, ¬ (stages other).guards followerId followingId := by
    rintro followerId followingId status rfl
    rw [RespectsBlocks, asked] at respects
    refine ⟨respects.1, fun other guards => respects.2 other ?_⟩
    rw [staged.next?]
    exact (sound.serves other).guards guards
  refine ⟨fun first second blocks => ?_, fun other followerId followingId guards => ?_, fun other => ?_⟩
  · obtain before | new | new := blocks_answer blocks
    · refine follows_answer (sound.apart first second before) fun status same => ?_
      exact (written first second status same).1 before
    · subst new
      have here := moves.blocks
      exact follows_answer (sound.guarded index first second (by rw [here]; exact .inl rfl))
        (by rintro _ ⟨⟩)
    · subst new
      have here := moves.blocks
      exact follows_answer (sound.guarded index first second (by rw [here]; exact .inr rfl))
        (by rintro _ ⟨⟩)
  · by_cases same : other = index
    · subst same
      rw [update_self] at guards
      obtain absent | ⟨before, quiet⟩ := moves.guards guards
      · exact absent
      · exact follows_answer (sound.guarded other followerId followingId before) quiet
    · rw [update_of_ne same] at guards
      refine follows_answer (sound.guarded other followerId followingId guards) fun status same' => ?_
      exact (written followerId followingId status same').2 other guards
  · by_cases same : other = index
    · subst same
      rw [update_self]
      exact moves.serves (sound.serves other)
    · rw [update_of_ne same]
      exact sound.serves other

/-- **When no follow is written while a block stands between the two, or while a `blockUser`
has looked at the follow and is still to write its block, no rider follows another across a
block.** -/
theorem blocked_riders_apart (calls : Index → PairCall) (s : State) (apart : s.Apart)
    (schedule : List Index)
    (steps : EachStep (advance answer) (RespectsBlocks calls) (pairCalls calls s) schedule) :
    Throughout (advance answer) (fun pool => pool.store.Apart) (pairCalls calls s) schedule := by
  choose stages begins serves free using fun index => pairProgram_begins (calls index)
  have staged : (pairCalls calls s).InStages (fun _ => PairStage.program) stages := begins
  have initially : Guarded calls stages (pairCalls calls s).store :=
    ⟨apart, fun index _ _ guards => absurd guards (free index _ _), serves⟩
  have through := throughout_of_stages (fun _ => PairMoves) (Guarded calls) (RespectsBlocks calls)
    (fun stages store index sound => pairStage_follows (stages index) (fun rest same => by
      have serves := sound.serves index
      rw [same] at serves
      exact serves) store)
    (fun pool stages index request stage' staged sound respects asked moves =>
      sound.advance staged respects asked moves) staged initially steps
  exact through.mono fun pool described => by
    obtain ⟨stages, -, sound⟩ := described
    exact sound.apart

/-! ## A small installation -/

/-- Rider 1 follows rider 2, who blocks rider 1. -/
def followAndBlock : Bool → PairCall
  | false => .follow 1 2
  | true => .blockUser 2 1

/-- The follow is written before the block looks at it. -/
theorem blocked_riders_apart_small :
    EachStep (advance answer) (RespectsBlocks followAndBlock)
        (pairCalls followAndBlock smallInstallation)
        (List.replicate 4 false ++ List.replicate 5 true) ∧
      Throughout (advance answer) (fun pool => pool.store.Apart)
        (pairCalls followAndBlock smallInstallation)
        (List.replicate 4 false ++ List.replicate 5 true) := by
  have steps : EachStep (advance answer) (RespectsBlocks followAndBlock)
      (pairCalls followAndBlock smallInstallation)
        (List.replicate 4 false ++ List.replicate 5 true) := by
    decide +kernel
  refine ⟨steps, blocked_riders_apart followAndBlock smallInstallation ?_ _ steps⟩
  rintro first second (block | block)
  · cases block
  · cases block

/-- The follow has found no block, and is written after the block. Both calls return, and
rider 1 follows rider 2 across the block. -/
theorem follow_survives_block :
    (∀ index, ((Foundation.follow (advance answer) (pairCalls followAndBlock smallInstallation)
        (List.replicate 2 false ++ List.replicate 4 true ++ List.replicate 2 false)).threads
          index).Ended) ∧
      ¬ (Foundation.follow (advance answer) (pairCalls followAndBlock smallInstallation)
        (List.replicate 2 false ++ List.replicate 4 true ++ List.replicate 2 false)).store.Apart := by
  refine ⟨by decide +kernel, fun apart => ?_⟩
  exact absurd (apart 1 2 (by decide +kernel)) (by decide +kernel)

end Motogram.Social
