import Motogram.Foundation.Interleaving

/-!
# Likes before the server has answered

`useLikePost` shows a like in the cached feed at once, and keeps the feed from before; when the request
fails, that feed is put back as a whole. So a failure undoes with its own like whatever others have
changed meanwhile, and brings back what others have undone. It harms nothing exactly when the posts of the
other mutations stand in the feed that was kept as they stand in the cache (`likes_shown_iff`).

A mutation begins here when `onMutate` reads the cache, and no refetch has arrived yet.
-/

set_option autoImplicit false

namespace Motogram.Mobile.Feed

open Foundation Function

variable {Index Rest : Type}

/-! ## The feed -/

structure FeedItem (Rest : Type) where
  id : String
  likesCount : Int
  likedByMe : Bool
  rest : Rest
  deriving DecidableEq

structure FeedPage (Rest : Type) where
  items : List (FeedItem Rest)
  nextCursor : Option String

def FeedItem.like (p : FeedItem Rest) (currentlyLiked : Bool) : FeedItem Rest :=
  { p with
    likedByMe := !currentlyLiked
    likesCount := if currentlyLiked then max 0 (p.likesCount - 1) else p.likesCount + 1 }

def applyOptimisticLike (feed : FeedPage Rest) (postId : String) (currentlyLiked : Bool) : FeedPage Rest :=
  { feed with items := feed.items.map fun p => if p.id = postId then p.like currentlyLiked else p }

def shown (feed : Option (FeedPage Rest)) (postId : String) : List (FeedItem Rest) :=
  (feed.elim [] (·.items)).filter fun p => p.id = postId

section Shown

variable (feed : Option (FeedPage Rest)) {postId other : String} (currentlyLiked : Bool)

/-- The items keep their ids. -/
theorem shown_map (postId other : String) :
    shown (feed.map (applyOptimisticLike · postId currentlyLiked)) other =
      (shown feed other).map fun p => if p.id = postId then p.like currentlyLiked else p := by
  cases feed with
  | none => rfl
  | some feed =>
    refine List.filter_map.trans (congrArg (List.map _) (List.filter_congr fun p _ => ?_))
    rw [comp_apply]
    split
    · rfl
    · rfl

theorem shown_like (postId : String) :
    shown (feed.map (applyOptimisticLike · postId currentlyLiked)) postId =
      (shown feed postId).map (·.like currentlyLiked) := by
  rw [shown_map]
  exact List.map_congr_left fun p member => if_pos (of_decide_eq_true (List.mem_filter.mp member).2)

theorem shown_like_of_ne (different : other ≠ postId) :
    shown (feed.map (applyOptimisticLike · postId currentlyLiked)) other = shown feed other := by
  have elsewhere : ∀ p ∈ shown feed other, p.id ≠ postId := fun p member same =>
    different ((of_decide_eq_true (List.mem_filter.mp member).2).symm.trans same)
  rw [shown_map, List.map_congr_left fun p member => if_neg (elsewhere p member), List.map_id']

end Shown

/-! ## Mutations -/

structure LikeVariables where
  postId : String
  currentlyLiked : Bool

/-- How far a mutation is, with the `previous` of its snapshot. -/
inductive Mutation (Rest : Type) where
  | idle
  | pending (previous : Option (FeedPage Rest))
  | succeeded (previous : Option (FeedPage Rest))
  | failed (previous : Option (FeedPage Rest))

structure State (Index Rest : Type) where
  feed : Option (FeedPage Rest)
  mutations : Index → Mutation Rest

/-- A cached feed, and no mutation yet. -/
def State.initial (feed : FeedPage Rest) : State Index Rest where
  feed := some feed
  mutations := fun _ => .idle

inductive LikeEvent (Index : Type) where
  | mutate (index : Index)
  | succeed (index : Index)
  | fail (index : Index)

/-- Mutations of pairwise different posts. -/
structure Likes (Index : Type) where
  vars : Index → LikeVariables
  distinct : ∀ first second, (vars first).postId = (vars second).postId → first = second

namespace Likes

variable (likes : Likes Index)

/-- What the cache shows of the post of a mutation is the post as it was before or as the mutation makes it. -/
def ShownOf (feed : Option (FeedPage Rest)) (vars : LikeVariables) : Mutation Rest → Prop
  | .idle => True
  | .pending previous | .succeeded previous =>
    shown feed vars.postId = (shown previous vars.postId).map (·.like vars.currentlyLiked)
  | .failed previous => shown feed vars.postId = shown previous vars.postId

/-- **Each post whose mutation has failed shows its state from before, and each whose mutation is pending
or has succeeded its optimistic state.** -/
def Shown (s : State Index Rest) : Prop := ∀ index, ShownOf s.feed (likes.vars index) (s.mutations index)

/-- **When a mutation fails, the posts of the others that have begun are in its snapshot as they are in
the cache.** -/
def FailsInTime (s : State Index Rest) : LikeEvent Index → Prop
  | .fail index => ∀ previous, s.mutations index = .pending previous →
    ∀ other ≠ index, s.mutations other ≠ .idle →
      shown previous (likes.vars other).postId = shown s.feed (likes.vars other).postId
  | _ => True

variable [DecidableEq Index]

/-- `onMutate`, `onError`, and a request that succeeds. -/
def turn (s : State Index Rest) : LikeEvent Index → State Index Rest
  | .mutate index =>
    match s.mutations index with
    | .idle =>
      let { postId, currentlyLiked } := likes.vars index
      { feed := s.feed.map (applyOptimisticLike · postId currentlyLiked)
        mutations := update s.mutations index (.pending s.feed) }
    | _ => s
  | .succeed index =>
    match s.mutations index with
    | .pending previous => { s with mutations := update s.mutations index (.succeeded previous) }
    | _ => s
  | .fail index =>
    match s.mutations index with
    | .pending previous =>
      { feed := previous.or s.feed
        mutations := update s.mutations index (.failed previous) }
    | _ => s

/-! ## Runs -/

structure Sound (s : State Index Rest) : Prop where
  cached : s.feed.isSome
  kept : ∀ index previous, s.mutations index = .pending previous → previous.isSome
  shown : likes.Shown s

variable {likes} {s : State Index Rest}

omit [DecidableEq Index] in
theorem ShownOf.congr {feed feed' : Option (FeedPage Rest)} {vars : LikeVariables} {mutation : Mutation Rest}
    (same : mutation ≠ .idle → shown feed' vars.postId = shown feed vars.postId)
    (before : ShownOf feed vars mutation) : ShownOf feed' vars mutation := by
  cases mutation with
  | idle => trivial
  | pending previous => exact (same nofun).trans before
  | succeeded previous => exact (same nofun).trans before
  | failed previous => exact (same nofun).trans before

omit [DecidableEq Index] in
theorem ShownOf.eq {feed feed' : Option (FeedPage Rest)} {vars : LikeVariables} {mutation : Mutation Rest}
    (first : ShownOf feed vars mutation) (second : ShownOf feed' vars mutation)
    (begun : mutation ≠ .idle) : shown feed' vars.postId = shown feed vars.postId := by
  cases mutation with
  | idle => exact absurd rfl begun
  | pending previous => exact second.trans first.symm
  | succeeded previous => exact second.trans first.symm
  | failed previous => exact second.trans first.symm

theorem Sound.turn (sound : likes.Sound s) (event : LikeEvent Index) (inTime : likes.FailsInTime s event) :
    likes.Sound (likes.turn s event) := by
  cases event with
  | mutate index =>
    cases here : s.mutations index with
    | idle =>
      simp only [Likes.turn, here]
      refine ⟨by rw [Option.isSome_map]; exact sound.cached, fun other previous waits => ?_, fun other => ?_⟩
      · obtain ⟨-, new⟩ | ⟨-, old⟩ := eq_of_update waits
        · cases new
          exact sound.cached
        · exact sound.kept other previous old
      · by_cases same : other = index
        · subst same
          simp only [update_self]
          exact shown_like ..
        · simp only [update_of_ne same]
          exact (sound.shown other).congr fun _ =>
            shown_like_of_ne _ _ fun post => same (likes.distinct _ _ post)
    | pending | succeeded | failed =>
      simp only [Likes.turn, here]
      exact sound
  | succeed index =>
    cases here : s.mutations index with
    | pending previous =>
      simp only [Likes.turn, here]
      refine ⟨sound.cached, fun other previous' waits => ?_, fun other => ?_⟩
      · obtain ⟨-, new⟩ | ⟨-, old⟩ := eq_of_update waits
        · cases new
        · exact sound.kept other previous' old
      · by_cases same : other = index
        · subst same
          have before := sound.shown other
          rw [here] at before
          simp only [update_self]
          exact before
        · simp only [update_of_ne same]
          exact sound.shown other
    | idle | succeeded | failed =>
      simp only [Likes.turn, here]
      exact sound
  | fail index =>
    cases here : s.mutations index with
    | pending previous =>
      obtain ⟨feed, rfl⟩ := Option.isSome_iff_exists.mp (sound.kept index previous here)
      simp only [Likes.turn, here]
      refine ⟨rfl, fun other previous' waits => ?_, fun other => ?_⟩
      · obtain ⟨-, new⟩ | ⟨-, old⟩ := eq_of_update waits
        · cases new
        · exact sound.kept other previous' old
      · by_cases same : other = index
        · subst same
          simp only [update_self]
          rfl
        · simp only [update_of_ne same]
          exact (sound.shown other).congr fun begun => inTime _ here other same begun
    | idle | succeeded | failed =>
      simp only [Likes.turn, here]
      exact sound

theorem Sound.not_shown (sound : likes.Sound s) (event : LikeEvent Index) (late : ¬ likes.FailsInTime s event) :
    ¬ likes.Shown (likes.turn s event) := by
  intro after
  cases event with
  | mutate | succeed => exact late trivial
  | fail index =>
    refine late fun previous here other different begun => ?_
    obtain ⟨feed, rfl⟩ := Option.isSome_iff_exists.mp (sound.kept index previous here)
    have later := after other
    simp only [Likes.turn, here, update_of_ne different] at later
    exact (sound.shown other).eq later begun

/-- **The likes are shown in every state exactly when every failure is in time.** -/
theorem likes_shown_iff (likes : Likes Index) (feed : FeedPage Rest) (events : List (LikeEvent Index)) :
    Throughout likes.turn likes.Shown (.initial feed) events ↔
      EachStep likes.turn likes.FailsInTime (.initial feed) events := by
  have start : likes.Sound (.initial feed) := ⟨rfl, nofun, fun _ => trivial⟩
  exact throughout_iff_eachStep (fun s sound => sound.shown) (fun s event sound met => sound.turn event met)
    (fun s event sound unmet => sound.not_shown event unmet) start events

/-! ## Two posts -/

def smallFeed : FeedPage Unit where
  items := [⟨"first", 3, false, ()⟩, ⟨"second", 0, false, ()⟩]
  nextCursor := none

def smallLikes : Likes Bool where
  vars
    | false => ⟨"first", false⟩
    | true => ⟨"second", false⟩
  distinct := by decide

/-- The like of the first post fails after the other one was liked, and takes that like away with it. -/
theorem failure_hides_other :
    ¬ Throughout smallLikes.turn smallLikes.Shown (.initial smallFeed)
      [.mutate false, .mutate true, .fail false] := by
  intro shown
  have pending := shown.last true
  exact absurd (congrArg (List.map (·.likedByMe)) pending) (by decide +kernel)

end Likes

end Motogram.Mobile.Feed
