import Mathlib.Data.Finset.Card
import Mathlib.Data.List.Basic
import Mathlib.Order.Interval.Finset.Nat
import Mathlib.Tactic.Common

/-!
# Fixed windows

A limiter counts hits under a key: the first hit creates the key, its caller then gives the key a time to
live, and when that is over the key is gone and the next hit starts anew. A hit is accepted while the
count is within the limit. Between the first hit and the time to live others may hit the key.

What has been hit so far is a list, each hit with its time, its count and the lifetime of the key it fell
in. Counts within one lifetime are different, so a lifetime accepts no more hits than the limit
(`Sound.perLifetime`). A key lives for the window at least, so two hits that are two lifetimes apart are
further apart than the window, and an interval of that length meets two lifetimes at most
(`Sound.perInterval`).
-/

set_option autoImplicit false

namespace Motogram.Foundation

open List

/-! ## The key -/

/-- A count with the time it is gone at, if that is set. -/
structure Counter where
  count : Nat
  deadline : Option Nat
  deriving DecidableEq

namespace Counter

/-- The counter as it is read at a time: absent from its deadline on. -/
def alive (now : Nat) (counter : Option Counter) : Option Counter :=
  counter.filter fun counter => counter.deadline.all fun deadline => decide (now < deadline)

/-- The counter after a hit: one that is absent counts from zero and has no deadline. -/
def hit (now : Nat) (counter : Option Counter) : Counter :=
  match alive now counter with
  | none => ⟨1, none⟩
  | some counter => { counter with count := counter.count + 1 }

/-- The counter with the window as its time to live; one that is absent stays absent. -/
def expire (now window : Nat) (counter : Option Counter) : Option Counter :=
  (alive now counter).map fun counter => { counter with deadline := some (now + window) }

theorem alive_eq_some {now : Nat} {stored : Option Counter} {counter : Counter} :
    alive now stored = some counter ↔
      stored = some counter ∧ ∀ deadline, counter.deadline = some deadline → now < deadline := by
  rw [alive, Option.filter_eq_some_iff]
  refine and_congr_right fun _ => ?_
  cases counter.deadline with
  | none => exact ⟨fun _ _ => nofun, fun _ => rfl⟩
  | some deadline =>
    rw [Option.all_some, decide_eq_true_eq]
    exact ⟨fun ahead _ same => Option.some.inj same ▸ ahead, fun ahead => ahead deadline rfl⟩

/-- What is absent stays absent. -/
theorem alive_of_le {now later : Nat} (le : now ≤ later) {stored : Option Counter} {counter : Counter}
    (present : alive later stored = some counter) : alive now stored = some counter := by
  obtain ⟨same, ahead⟩ := alive_eq_some.mp present
  exact alive_eq_some.mpr ⟨same, fun deadline set => le.trans_lt (ahead deadline set)⟩

theorem alive_hit (now : Nat) (stored : Option Counter) :
    alive now (some (hit now stored)) = some (hit now stored) := by
  rw [alive_eq_some]
  refine ⟨rfl, fun deadline set => ?_⟩
  unfold hit at set
  cases present : alive now stored with
  | none =>
    rw [present] at set
    cases set
  | some counter =>
    rw [present] at set
    exact (alive_eq_some.mp present).2 deadline set

end Counter

/-! ## Hits -/

structure Hit (Caller : Type) where
  caller : Caller
  time : Nat
  count : Nat
  lifetime : Nat

variable {Caller : Type}

/-- What the hits so far have to do with the counter: the current lifetime has begun at a time, and earlier
ones have ended before it. -/
structure Sound (window now : Nat) (stored : Option Counter) (born lifetime : Nat)
    (hits : List (Hit Caller)) : Prop where
  positive : ∀ counter, Counter.alive now stored = some counter → 1 ≤ counter.count
  born_le : born ≤ now
  gone : Counter.alive now stored = none → ∀ hit ∈ hits, hit.time < now ∧ born + window ≤ now
  long : ∀ counter deadline, Counter.alive now stored = some counter → counter.deadline = some deadline →
    born + window ≤ deadline
  ahead : ∀ counter deadline, Counter.alive now stored = some counter → counter.deadline = some deadline →
    ∀ hit ∈ hits, hit.time < deadline
  past : ∀ hit ∈ hits, hit.time ≤ now ∧ hit.lifetime ≤ lifetime
  counted : ∀ hit ∈ hits, 1 ≤ hit.count
  within : ∀ hit ∈ hits, hit.lifetime = lifetime →
    born ≤ hit.time ∧ ∀ counter, Counter.alive now stored = some counter → hit.count ≤ counter.count
  before : ∀ hit ∈ hits, hit.lifetime < lifetime → hit.time < born
  longBefore : ∀ hit ∈ hits, hit.lifetime + 1 < lifetime → hit.time + window < born
  distinct : hits.Pairwise fun first second => first.lifetime = second.lifetime → first.count ≠ second.count
  spaced : ∀ first ∈ hits, ∀ second ∈ hits, first.lifetime + 2 ≤ second.lifetime →
    first.time + window < second.time

theorem countP_le_add {α : Type} {whole first second : α → Prop} [DecidablePred whole] [DecidablePred first]
    [DecidablePred second] {items : List α} (split : ∀ item ∈ items, whole item → first item ∨ second item) :
    items.countP (fun item => decide (whole item)) ≤
      items.countP (fun item => decide (first item)) + items.countP fun item => decide (second item) := by
  induction items with
  | nil => exact Nat.le_refl 0
  | cons item items ih =>
    have rest := ih fun other member => split other (mem_cons_of_mem _ member)
    have here := split item mem_cons_self
    rw [countP_cons, countP_cons, countP_cons]
    by_cases counted : whole item
    · obtain one | two := here counted
      · simp only [counted, one, decide_true, if_true]
        split_ifs <;> omega
      · simp only [counted, two, decide_true, if_true]
        split_ifs <;> omega
    · simp only [counted, decide_false, Bool.false_eq_true, if_false]
      omega

namespace Sound

variable {window now born lifetime : Nat} {stored : Option Counter} {hits : List (Hit Caller)}

theorem start (absent : Counter.alive now stored = none) :
    Sound window now stored now 0 ([] : List (Hit Caller)) where
  positive := fun counter present => by
    rw [absent] at present
    cases present
  born_le := Nat.le_refl now
  gone := fun _ _ => nofun
  long := fun counter _ present => by
    rw [absent] at present
    cases present
  ahead := fun _ _ _ _ _ => nofun
  past := fun _ => nofun
  counted := fun _ => nofun
  within := fun _ => nofun
  before := fun _ => nofun
  longBefore := fun _ => nofun
  distinct := List.Pairwise.nil
  spaced := fun _ => nofun

/-- Time passes; the key may be gone then. -/
theorem elapse (sound : Sound window now stored born lifetime hits) {later : Nat} (le : now ≤ later) :
    Sound window later stored born lifetime hits where
  positive := fun counter present => sound.positive counter (Counter.alive_of_le le present)
  born_le := sound.born_le.trans le
  gone := by
    intro gone hit member
    cases present : Counter.alive now stored with
    | none =>
      obtain ⟨early, long⟩ := sound.gone present hit member
      exact ⟨early.trans_le le, long.trans le⟩
    | some counter =>
      -- its deadline has come
      obtain ⟨same, -⟩ := Counter.alive_eq_some.mp present
      have late : ¬ ∀ deadline, counter.deadline = some deadline → later < deadline := by
        intro ahead
        rw [Counter.alive_eq_some.mpr ⟨same, ahead⟩] at gone
        cases gone
      push Not at late
      obtain ⟨deadline, set, come⟩ := late
      have early := sound.ahead counter deadline present set hit member
      exact ⟨early.trans_le come, (sound.long counter deadline present set).trans come⟩
  long := fun counter deadline present => sound.long counter deadline (Counter.alive_of_le le present)
  ahead := fun counter deadline present => sound.ahead counter deadline (Counter.alive_of_le le present)
  past := fun hit member => ⟨(sound.past hit member).1.trans le, (sound.past hit member).2⟩
  counted := sound.counted
  within := fun hit member same =>
    ⟨(sound.within hit member same).1, fun counter present =>
      (sound.within hit member same).2 counter (Counter.alive_of_le le present)⟩
  before := sound.before
  longBefore := sound.longBefore
  distinct := sound.distinct
  spaced := sound.spaced

/-- The key is given its time to live. -/
theorem expire (sound : Sound window now stored born lifetime hits) (filled : 0 < window) :
    Sound window now (Counter.expire now window stored) born lifetime hits := by
  cases present : Counter.alive now stored with
  | none =>
    have absent : Counter.expire now window stored = none := by
      rw [Counter.expire, present, Option.map_none]
    have gone : Counter.alive now (none : Option Counter) = none := rfl
    rw [absent]
    exact
      { sound with
        positive := fun counter present' => nomatch gone.symm.trans present'
        gone := fun _ => sound.gone present
        long := fun counter deadline present' => nomatch gone.symm.trans present'
        ahead := fun counter deadline present' => nomatch gone.symm.trans present'
        within := fun hit member same =>
          ⟨(sound.within hit member same).1, fun counter present' => nomatch gone.symm.trans present'⟩ }
  | some counter =>
    have alive : Counter.alive now (Counter.expire now window stored) =
        some { counter with deadline := some (now + window) } := by
      rw [Counter.alive_eq_some, Counter.expire, present]
      refine ⟨rfl, ?_⟩
      rintro deadline ⟨⟩
      exact Nat.lt_add_of_pos_right filled
    refine { sound with positive := ?_, gone := ?_, long := ?_, ahead := ?_, within := ?_ }
    · intro counter' present'
      obtain rfl := Option.some.inj (alive.symm.trans present')
      exact sound.positive counter present
    · intro gone
      rw [alive] at gone
      cases gone
    · intro counter' deadline present' set
      obtain rfl := Option.some.inj (alive.symm.trans present')
      cases set
      exact Nat.add_le_add_right sound.born_le window
    · intro counter' deadline present' set hit member
      obtain rfl := Option.some.inj (alive.symm.trans present')
      cases set
      exact (sound.past hit member).1.trans_lt (Nat.lt_add_of_pos_right filled)
    · intro hit member same
      refine ⟨(sound.within hit member same).1, fun counter' present' => ?_⟩
      obtain rfl := Option.some.inj (alive.symm.trans present')
      exact (sound.within hit member same).2 counter present

theorem first (sound : Sound window now stored born lifetime hits)
    (absent : Counter.alive now stored = none) (caller : Caller) :
    Sound window now (some (Counter.hit now stored)) now (lifetime + 1)
      (hits ++ [⟨caller, now, (Counter.hit now stored).count, lifetime + 1⟩]) := by
  have one : Counter.hit now stored = ⟨1, none⟩ := by
    rw [Counter.hit, absent]
  have alive : ∀ counter, Counter.alive now (some (Counter.hit now stored)) = some counter →
      counter = ⟨1, none⟩ := by
    intro counter present
    rw [one] at present
    exact (Option.some.inj present).symm
  have early : ∀ hit ∈ hits, hit.time < now := fun hit member => (sound.gone absent hit member).1
  have longEarly : ∀ hit ∈ hits, hit.lifetime < lifetime → hit.time + window < now := by
    intro hit member older
    have ended := sound.before hit member older
    have long := (sound.gone absent hit member).2
    omega
  refine ⟨?_, Nat.le_refl now, ?_, ?_, ?_, ?_, ?_, ?_, ?_, ?_, ?_, ?_⟩
  · intro counter present
    rw [alive counter present]
  · intro gone
    rw [Counter.alive_hit] at gone
    cases gone
  · intro counter deadline present set
    rw [alive counter present] at set
    cases set
  · intro counter deadline present set
    rw [alive counter present] at set
    cases set
  · intro hit member
    obtain old | new := mem_append.mp member
    · exact ⟨(early hit old).le, (sound.past hit old).2.trans (Nat.le_succ _)⟩
    · rw [mem_singleton.mp new]
      exact ⟨Nat.le_refl _, Nat.le_refl _⟩
  · intro hit member
    obtain old | new := mem_append.mp member
    · exact sound.counted hit old
    · rw [mem_singleton.mp new, one]
  · intro hit member same
    obtain old | new := mem_append.mp member
    · have older := (sound.past hit old).2
      omega
    · rw [mem_singleton.mp new, one]
      refine ⟨Nat.le_refl now, fun counter present => ?_⟩
      rw [← Option.some.inj present]
  · intro hit member older
    obtain old | new := mem_append.mp member
    · exact early hit old
    · rw [mem_singleton.mp new] at older
      exact absurd older (Nat.lt_irrefl _)
  · intro hit member older
    obtain old | new := mem_append.mp member
    · exact longEarly hit old (Nat.lt_of_succ_lt_succ older)
    · rw [mem_singleton.mp new] at older
      exact absurd (Nat.lt_of_succ_lt older) (Nat.lt_irrefl _)
  · refine pairwise_append.mpr ⟨sound.distinct, pairwise_singleton _ _, ?_⟩
    intro hit member later new same
    rw [mem_singleton.mp new] at same
    have older := (sound.past hit member).2
    have same' : hit.lifetime = lifetime + 1 := same
    omega
  · intro hit member later member' apart
    obtain old | new := mem_append.mp member
    · obtain old' | new' := mem_append.mp member'
      · exact sound.spaced hit old later old' apart
      · rw [mem_singleton.mp new'] at apart ⊢
        exact longEarly hit old (Nat.lt_of_succ_lt_succ apart)
    · rw [mem_singleton.mp new] at apart
      obtain old' | new' := mem_append.mp member'
      · have older := (sound.past later old').2
        have apart' : lifetime + 1 + 2 ≤ later.lifetime := apart
        omega
      · rw [mem_singleton.mp new'] at apart
        exact absurd apart (by omega)

theorem again (sound : Sound window now stored born lifetime hits) {counter : Counter}
    (present : Counter.alive now stored = some counter) (caller : Caller) :
    Sound window now (some (Counter.hit now stored)) born lifetime
      (hits ++ [⟨caller, now, (Counter.hit now stored).count, lifetime⟩]) := by
  have next : Counter.hit now stored = { counter with count := counter.count + 1 } := by
    rw [Counter.hit, present]
  have alive : ∀ counter', Counter.alive now (some (Counter.hit now stored)) = some counter' →
      counter' = { counter with count := counter.count + 1 } := by
    intro counter' present'
    rw [Counter.alive_hit, next] at present'
    exact (Option.some.inj present').symm
  refine ⟨?_, sound.born_le, ?_, ?_, ?_, ?_, ?_, ?_, ?_, ?_, ?_, ?_⟩
  · intro counter' present'
    rw [alive counter' present']
    exact Nat.succ_pos _
  · intro gone
    rw [Counter.alive_hit] at gone
    cases gone
  · intro counter' deadline present' set
    rw [alive counter' present'] at set
    exact sound.long counter deadline present set
  · intro counter' deadline present' set hit member
    rw [alive counter' present'] at set
    obtain old | new := mem_append.mp member
    · exact sound.ahead counter deadline present set hit old
    · rw [mem_singleton.mp new]
      exact (Counter.alive_eq_some.mp present).2 deadline set
  · intro hit member
    obtain old | new := mem_append.mp member
    · exact sound.past hit old
    · rw [mem_singleton.mp new]
      exact ⟨Nat.le_refl _, Nat.le_refl _⟩
  · intro hit member
    obtain old | new := mem_append.mp member
    · exact sound.counted hit old
    · rw [mem_singleton.mp new, next]
      exact Nat.succ_pos _
  · intro hit member same
    obtain old | new := mem_append.mp member
    · refine ⟨(sound.within hit old same).1, fun counter' present' => ?_⟩
      rw [alive counter' present']
      exact ((sound.within hit old same).2 counter present).trans (Nat.le_succ _)
    · rw [mem_singleton.mp new]
      refine ⟨sound.born_le, fun counter' present' => ?_⟩
      rw [alive counter' present', next]
  · intro hit member older
    obtain old | new := mem_append.mp member
    · exact sound.before hit old older
    · rw [mem_singleton.mp new] at older
      exact absurd older (Nat.lt_irrefl _)
  · intro hit member older
    obtain old | new := mem_append.mp member
    · exact sound.longBefore hit old older
    · rw [mem_singleton.mp new] at older
      exact absurd (Nat.lt_of_succ_lt older) (Nat.lt_irrefl _)
  · refine pairwise_append.mpr ⟨sound.distinct, pairwise_singleton _ _, ?_⟩
    intro hit member later new same
    rw [mem_singleton.mp new] at same ⊢
    have fewer := (sound.within hit member same).2 counter present
    rw [next]
    exact (Nat.lt_succ_of_le fewer).ne
  · intro hit member later member' apart
    obtain old | new := mem_append.mp member
    · obtain old' | new' := mem_append.mp member'
      · exact sound.spaced hit old later old' apart
      · rw [mem_singleton.mp new'] at apart ⊢
        exact (sound.longBefore hit old apart).trans_le sound.born_le
    · rw [mem_singleton.mp new] at apart
      obtain old' | new' := mem_append.mp member'
      · have older := (sound.past later old').2
        have apart' : lifetime + 2 ≤ later.lifetime := apart
        omega
      · rw [mem_singleton.mp new'] at apart
        exact absurd apart (by omega)

/-! ### How many are accepted -/

/-- **A lifetime of the key accepts no more hits than the limit.** -/
theorem perLifetime (sound : Sound window now stored born lifetime hits) (limit life : Nat) :
    hits.countP (fun hit => decide (hit.lifetime = life ∧ hit.count ≤ limit)) ≤ limit := by
  -- their counts are different numbers from one to the limit
  let accepted := hits.filter fun hit => decide (hit.lifetime = life ∧ hit.count ≤ limit)
  have different : (accepted.map Hit.count).Nodup := by
    rw [List.Nodup, pairwise_map]
    refine (sound.distinct.filter _).imp_of_mem fun one two apart => ?_
    have same := (of_decide_eq_true (mem_filter.mp one).2).1
    have same' := (of_decide_eq_true (mem_filter.mp two).2).1
    exact apart (same.trans same'.symm)
  have bounded : (accepted.map Hit.count).toFinset ⊆ Finset.Icc 1 limit := by
    intro count member
    obtain ⟨hit, one, rfl⟩ := mem_map.mp (mem_toFinset.mp member)
    obtain ⟨old, few⟩ := mem_filter.mp one
    exact Finset.mem_Icc.mpr ⟨sound.counted hit old, (of_decide_eq_true few).2⟩
  have few := Finset.card_le_card bounded
  rw [toFinset_card_of_nodup different, length_map, Nat.card_Icc] at few
  rw [countP_eq_length_filter]
  exact few

/-- **An interval as long as the window accepts no more hits than twice the limit.** -/
theorem perInterval (sound : Sound window now stored born lifetime hits) (limit since : Nat) :
    hits.countP (fun hit => decide (since ≤ hit.time ∧ hit.time ≤ since + window ∧ hit.count ≤ limit)) ≤
      2 * limit := by
  by_cases any : ∃ life, ∃ hit ∈ hits, hit.lifetime = life ∧ since ≤ hit.time ∧ hit.time ≤ since + window
  · -- the first lifetime the interval meets, and the one after it
    obtain ⟨hit, member, here, lower, upper⟩ := Nat.find_spec any
    have least : ∀ other ∈ hits, since ≤ other.time → other.time ≤ since + window →
        Nat.find any ≤ other.lifetime :=
      fun other member' lower' upper' => Nat.find_min' any ⟨other, member', rfl, lower', upper'⟩
    have most : ∀ other ∈ hits, since ≤ other.time → other.time ≤ since + window →
        other.lifetime ≤ Nat.find any + 1 := by
      intro other member' lower' upper'
      by_contra late
      have apart := sound.spaced hit member other member' (by omega)
      omega
    have first := sound.perLifetime limit (Nat.find any)
    have second := sound.perLifetime limit (Nat.find any + 1)
    have split : ∀ other ∈ hits, since ≤ other.time ∧ other.time ≤ since + window ∧ other.count ≤ limit →
        (other.lifetime = Nat.find any ∧ other.count ≤ limit) ∨
          (other.lifetime = Nat.find any + 1 ∧ other.count ≤ limit) := by
      rintro other member' ⟨lower', upper', few⟩
      have low := least other member' lower' upper'
      have high := most other member' lower' upper'
      omega
    have both := countP_le_add split
    omega
  · have none_there : hits.countP
        (fun hit => decide (since ≤ hit.time ∧ hit.time ≤ since + window ∧ hit.count ≤ limit)) = 0 := by
      rw [countP_eq_zero]
      intro hit member here
      obtain ⟨lower, upper, -⟩ := of_decide_eq_true here
      exact any ⟨hit.lifetime, hit, member, rfl, lower, upper⟩
    rw [none_there]
    exact Nat.zero_le _

end Sound

end Motogram.Foundation
