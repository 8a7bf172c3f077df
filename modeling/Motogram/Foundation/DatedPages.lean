import Motogram.Foundation.Reading

/-!
# Pages in the order of dates

A store may list rows by a date that several of them share, and take as the cursor of a
request the key of a row: it then reads the rows whose date is at or beyond that row's, and
leaves out the first of them. What comes first among rows of one date is not said.

This leaves out the cursor's row itself only where that row is still listed and no other row
shares its date. `Settled` says so, or that nothing is left to read. A reader whose cursors
are all settled reads every row that is listed all the time once (`readsEachOnce`), when rows
only ever cease to be listed.
-/

set_option autoImplicit false

namespace Motogram.Foundation

open List

variable {Key Row Date : Type}

/-! ## The store -/

structure Arrangement [LinearOrder Date] (date : Row → Date) where
  order : List Row → List Row
  perm : ∀ rows, (order rows).Perm rows
  sorted : ∀ rows, (order rows).Pairwise fun first second => date first ≤ date second

section Arrangements

variable [LinearOrder Date]

instance datedTotal (date : Row → Date) : Std.Total fun first second => date first ≤ date second :=
  ⟨fun first second => le_total (date first) (date second)⟩

instance datedTrans (date : Row → Date) : IsTrans Row fun first second => date first ≤ date second :=
  ⟨fun _ _ _ => le_trans⟩

def Arrangement.stored (date : Row → Date) : Arrangement date where
  order := fun rows => rows.insertionSort fun first second => date first ≤ date second
  perm := fun rows => List.perm_insertionSort _ rows
  sorted := fun rows => List.pairwise_insertionSort _ rows

/-- Rows of one date come in the other order than they are stored in. -/
def Arrangement.reversed (date : Row → Date) : Arrangement date where
  order := fun rows => rows.reverse.insertionSort fun first second => date first ≤ date second
  perm := fun rows => (List.perm_insertionSort _ _).trans (List.reverse_perm rows)
  sorted := fun rows => List.pairwise_insertionSort _ rows.reverse

end Arrangements

section Store

variable [DecidableEq Key] [LinearOrder Date] {date : Row → Date}

/-- The rows a request lists: those that satisfy the condition, or, with a cursor, those of
them at or beyond the date of its row, without the first. A cursor that names no row lists
nothing. -/
def datedRows (arrangement : Arrangement fun entry : Key × Row => date entry.2) (table : Table Key Row)
    (condition : Key → Row → Bool) : Option Key → List (Key × Row)
  | none => arrangement.order (table.select condition)
  | some cursor =>
    match table.find? cursor with
    | none => []
    | some row => (arrangement.order ((table.select condition).filter fun entry =>
      decide (date row ≤ date entry.2))).drop 1

/-- The rows a request lists that takes from the end: with a cursor those at or before the date
of its row, without the last. -/
def datedRowsBack (arrangement : Arrangement fun entry : Key × Row => date entry.2)
    (table : Table Key Row) (condition : Key → Row → Bool) : Option Key → List (Key × Row)
  | none => arrangement.order (table.select condition)
  | some cursor =>
    match table.find? cursor with
    | none => []
    | some row => (arrangement.order ((table.select condition).filter fun entry =>
      decide (date entry.2 ≤ date row))).dropLast

/-- `findMany` with `take`: the first rows, or the last ones when it is negative. -/
def datedTake (arrangement : Arrangement fun entry : Key × Row => date entry.2) (table : Table Key Row)
    (condition : Key → Row → Bool) (cursor : Option Key) (take : Int) : List (Key × Row) :=
  if 0 ≤ take then (datedRows arrangement table condition cursor).take take.toNat
  else
    let rows := datedRowsBack arrangement table condition cursor
    rows.drop (rows.length - (-take).toNat)

end Store

/-! ## What a request answers -/

section Answer

variable [LinearOrder Date]

def atOrBeyond (dateOf : Key → Date) (listed : List Key) : Option Key → List Key
  | none => listed
  | some cursor => listed.filter fun key => decide (dateOf cursor ≤ dateOf key)

/-- With a cursor the first row is skipped. -/
def skipped : Option Key → Nat
  | none => 0
  | some _ => 1

def DatedAnswer (dateOf : Key → Date) (listed : List Key) (cursor : Option Key)
    (answer : List Key × Option Key) : Prop :=
  ∃ keys : List Key, keys.Perm (atOrBeyond dateOf listed cursor) ∧
    keys.Pairwise (fun first second => dateOf first ≤ dateOf second) ∧
      CutFrom id (keys.drop (skipped cursor)) answer

/-- Nothing is listed at or beyond the cursor's date, or the cursor's row is, and no other row of
its date. -/
def Settled (dateOf : Key → Date) (listed : List Key) (cursor : Key) : Prop :=
  (∀ key ∈ listed, dateOf key < dateOf cursor) ∨
    cursor ∈ listed ∧ ∀ key ∈ listed, dateOf key = dateOf cursor → key = cursor

instance [DecidableEq Key] (dateOf : Key → Date) (listed : List Key) (cursor : Key) :
    Decidable (Settled dateOf listed cursor) :=
  inferInstanceAs (Decidable ((∀ key ∈ listed, dateOf key < dateOf cursor) ∨
    cursor ∈ listed ∧ ∀ key ∈ listed, dateOf key = dateOf cursor → key = cursor))

/-- The keys that are left to read. -/
structure Remaining (dateOf : Key → Date) (listed : List Key) (cursor : Option Key)
    (answer : List Key × Option Key) (keys : List Key) : Prop where
  cut : CutFrom id keys answer
  sorted : keys.Pairwise fun first second => dateOf first ≤ dateOf second
  nodup : keys.Nodup
  known : ∀ key ∈ keys, key ∈ listed
  further : ∀ key ∈ keys, ∀ bound ∈ cursor, dateOf bound < dateOf key
  complete : ∀ key ∈ listed, (∀ bound ∈ cursor, dateOf bound ≤ dateOf key) →
    cursor = some key ∨ key ∈ keys

variable {dateOf : Key → Date} {listed : List Key} {answer : List Key × Option Key}

theorem remaining_first (nodup : listed.Nodup) (dated : DatedAnswer dateOf listed none answer) :
    ∃ keys, Remaining dateOf listed none answer keys := by
  obtain ⟨keys, perm, sorted, cut⟩ := dated
  refine ⟨keys, cut, sorted, (perm.nodup_iff).mpr nodup, ?_, ?_, ?_⟩
  · intro key member
    exact perm.mem_iff.mp member
  · intro key _ bound here
    cases here
  · intro key member _
    exact .inr (perm.mem_iff.mpr member)

/-- Behind a settled cursor exactly the later rows are left. -/
theorem remaining_settled (nodup : listed.Nodup) {cursor : Key}
    (dated : DatedAnswer dateOf listed (some cursor) answer) (settled : Settled dateOf listed cursor) :
    ∃ keys, Remaining dateOf listed (some cursor) answer keys := by
  obtain ⟨keys, perm, sorted, cut⟩ := dated
  have member : ∀ key, key ∈ keys ↔ key ∈ listed ∧ dateOf cursor ≤ dateOf key := by
    intro key
    rw [perm.mem_iff, atOrBeyond, mem_filter, decide_eq_true_eq]
  have distinct : keys.Nodup := (perm.nodup_iff).mpr (nodup.filter _)
  obtain nothing | ⟨here, alone⟩ := settled
  · have empty : keys = [] := by
      rw [eq_nil_iff_forall_not_mem]
      intro key inside
      obtain ⟨listed', le⟩ := (member key).mp inside
      exact absurd (nothing key listed') (not_lt.mpr le)
    subst empty
    refine ⟨[], cut, List.Pairwise.nil, nodup_nil, ?_, ?_, ?_⟩
    · intro key inside
      cases inside
    · intro key inside
      cases inside
    · intro key inside le
      exact absurd (nothing key inside) (not_lt.mpr (le cursor rfl))
  · -- The first row listed is the cursor's, and it is the one that is skipped.
    cases keys with
    | nil => exact absurd ((member cursor).mpr ⟨here, le_refl _⟩) not_mem_nil
    | cons first rest =>
      obtain ⟨before, sorted'⟩ := pairwise_cons.mp sorted
      obtain ⟨apart, distinct'⟩ := nodup_cons.mp distinct
      obtain ⟨firstListed, firstLe⟩ := (member first).mp (mem_cons_self ..)
      have own : first = cursor := by
        rcases mem_cons.mp ((member cursor).mpr ⟨here, le_refl _⟩) with same | later
        · exact same.symm
        · exact alone first firstListed (le_antisymm (before cursor later) firstLe)
      subst own
      refine ⟨rest, cut, sorted', distinct', ?_, ?_, ?_⟩
      · intro key inside
        exact ((member key).mp (mem_cons_of_mem _ inside)).1
      · intro key inside bound same
        obtain rfl : first = bound := by simpa using same
        obtain ⟨listed', le⟩ := (member key).mp (mem_cons_of_mem _ inside)
        refine lt_of_le_of_ne le fun equal => apart ?_
        rw [← alone key listed' equal.symm]
        exact inside
      · intro key inside le
        rcases mem_cons.mp ((member key).mpr ⟨inside, le first rfl⟩) with same | later
        · exact .inl (congrArg some same.symm)
        · exact .inr later

end Answer

/-! ## Following the cursors -/

section Run

variable [LinearOrder Date] {dateOf : Key → Date} {listed : Nat → List Key}

/-- Where a reader stands: the keys read are distinct and were listed at first, the cursor is one
of them and none is later, every request but the last has read one at least, and what has been
listed all the time is read or not before the cursor. -/
structure OnceEach (dateOf : Key → Date) (listed : Nat → List Key) (count : Nat)
    (reading : Reading Key Key) : Prop where
  nodup : reading.pages.flatten.Nodup
  known : ∀ key ∈ reading.pages.flatten, key ∈ listed 0
  many : ∀ cursor, reading.next = some cursor → count ≤ reading.pages.flatten.length
  start : reading.next = some none → reading.pages.flatten = []
  behind : ∀ cursor, reading.next = some (some cursor) → cursor ∈ reading.pages.flatten ∧
    ∀ key ∈ reading.pages.flatten, dateOf key ≤ dateOf cursor
  ahead : ∀ key, (∀ n < count, key ∈ listed n) → key ∈ reading.pages.flatten ∨
    ∃ cursor, reading.next = some cursor ∧ ∀ bound ∈ cursor, dateOf bound ≤ dateOf key

theorem onceEach_start : OnceEach dateOf listed 0 ⟨[], some none⟩ where
  nodup := nodup_nil
  known := by simp
  many := by simp
  start := by simp
  behind := by simp
  ahead := fun _ _ => .inr ⟨none, rfl, by simp⟩

variable {count : Nat} {reading : Reading Key Key}

theorem OnceEach.read (kept : OnceEach dateOf listed count reading) (fades : ∀ key ∈ listed count, key ∈ listed 0)
    {cursor : Option Key} (next : reading.next = some cursor) {page : List Key} {nextCursor : Option Key}
    {keys : List Key} (remaining : Remaining dateOf (listed count) cursor (page, nextCursor) keys) :
    OnceEach dateOf listed (count + 1) ⟨reading.pages ++ [page], nextCursor.map some⟩ := by
  have within : ∀ key ∈ page, key ∈ keys := remaining.cut.subset
  have all : (reading.pages ++ [page]).flatten = reading.pages.flatten ++ page := by
    rw [flatten_append, flatten_singleton]
  have order : page.Nodup ∧ page.Pairwise fun first second => dateOf first ≤ dateOf second := by
    have sub : page.Sublist keys := by
      have cut := remaining.cut
      cases cut with
      | all => exact List.Sublist.refl _
      | front split =>
        rw [split]
        exact List.Sublist.append_left (singleton_sublist.mpr (mem_cons_self ..)) _
    exact ⟨remaining.nodup.sublist sub, remaining.sorted.sublist sub⟩
  -- What was read before is dated before what remains.
  have before : ∀ key ∈ reading.pages.flatten, ∀ key' ∈ keys, dateOf key < dateOf key' := by
    intro key member key' inside
    cases cursor with
    | none =>
      rw [kept.start next] at member
      cases member
    | some bound =>
      exact lt_of_le_of_lt ((kept.behind bound next).2 key member)
        (remaining.further key' inside bound rfl)
  constructor
  · rw [all]
    refine nodup_append.mpr ⟨kept.nodup, order.1, fun key member key' inside same => ?_⟩
    exact absurd (before key member key' (within key' inside)) (same ▸ lt_irrefl _)
  · intro key member
    rw [all] at member
    rcases mem_append.mp member with old | new
    · exact kept.known key old
    · exact fades key (remaining.known key (within key new))
  · intro cursor' next'
    have cut := remaining.cut
    cases cut with
    | all => simp at next'
    | front split =>
      have many := kept.many cursor next
      rw [all, length_append, length_append, length_singleton]
      omega
  · intro next'
    cases nextCursor with
    | none | some => cases next'
  · intro bound next'
    have cut := remaining.cut
    cases cut with
    | all => simp at next'
    | front split =>
      rename_i earlier rest last
      obtain rfl : last = bound := by simpa using next'
      rw [all]
      refine ⟨by simp, fun key member => ?_⟩
      rcases mem_append.mp member with old | new
      · exact le_of_lt (before key old last (within last (by simp)))
      · rcases mem_append.mp new with earlier' | same
        · exact (pairwise_append.mp order.2).2.2 key earlier' last (mem_singleton.mpr rfl)
        · rw [mem_singleton.mp same]
  · intro key always
    rw [all]
    have now := always count (Nat.lt_succ_self count)
    have earlier := kept.ahead key fun n less => always n (Nat.lt_succ_of_lt less)
    rcases earlier with old | ⟨cursor', next', le⟩
    · exact .inl (mem_append_left _ old)
    · obtain rfl : cursor = cursor' := Option.some.inj (next.symm.trans next')
      rcases remaining.complete key now le with own | inside
      · subst own
        exact .inl (mem_append_left _ (kept.behind key next).1)
      · have cut := remaining.cut
        cases cut with
        | all => exact .inl (mem_append_right _ inside)
        | front split =>
          rename_i earlier rest last
          have sorted := remaining.sorted
          rw [split] at inside sorted
          rcases mem_append.mp inside with read | rest'
          · exact .inl (mem_append_right _ (mem_append_left _ read))
          · rcases mem_cons.mp rest' with same | later
            · exact .inl (by simp [same])
            · refine .inr ⟨some last, rfl, fun bound here => ?_⟩
              obtain rfl : last = bound := by simpa using here
              exact (pairwise_cons.mp (pairwise_append.mp sorted).2.1).1 key later

theorem OnceEach.refused (kept : OnceEach dateOf listed count reading) (nothing : listed count = []) :
    OnceEach dateOf listed (count + 1) ⟨reading.pages, none⟩ where
  nodup := kept.nodup
  known := kept.known
  many := by simp
  start := by simp
  behind := by simp
  ahead := by
    intro key always
    have now := always count (Nat.lt_succ_self count)
    rw [nothing] at now
    cases now

theorem OnceEach.stays (kept : OnceEach dateOf listed count reading) (ended : reading.next = none) :
    OnceEach dateOf listed (count + 1) reading where
  nodup := kept.nodup
  known := kept.known
  many := by simp [ended]
  start := kept.start
  behind := kept.behind
  ahead := fun key always => kept.ahead key fun n less => always n (Nat.lt_succ_of_lt less)

variable {fetch : Nat → Option Key → Option (List Key × Option Key)}

/-- The requests a reader makes are refused where nothing is listed, and answered by date
elsewhere. -/
def DatedRequests (dateOf : Key → Date) (listed : Nat → List Key)
    (fetch : Nat → Option Key → Option (List Key × Option Key)) : Prop :=
  ∀ n cursor, (readingAfter fetch n).next = some cursor → (fetch n cursor = none ∧ listed n = []) ∨
    ∃ answer, fetch n cursor = some answer ∧ DatedAnswer dateOf (listed n) cursor answer

/-- Every cursor a reader is given is settled at the next request. -/
def AllSettled (dateOf : Key → Date) (listed : Nat → List Key)
    (fetch : Nat → Option Key → Option (List Key × Option Key)) : Prop :=
  ∀ n cursor, (readingAfter fetch n).next = some (some cursor) → Settled dateOf (listed n) cursor

theorem allSettled_of_ended (count : Nat) (ended : (readingAfter fetch count).Ended)
    (each : ∀ n < count, ∀ cursor ∈ (readingAfter fetch n).next.join, Settled dateOf (listed n) cursor) :
    AllSettled dateOf listed fetch := by
  intro n cursor next
  by_cases before : n < count
  · exact each n before cursor (by rw [next]; rfl)
  · rw [readingAfter_of_ended ended (not_lt.mp before)] at next
    cases next.symm.trans ended

theorem onceEach_after (nodup : ∀ n, (listed n).Nodup) (fades : ∀ n, ∀ key ∈ listed n, key ∈ listed 0)
    (dated : DatedRequests dateOf listed fetch) (settled : AllSettled dateOf listed fetch) (count : Nat) :
    OnceEach dateOf listed count (readingAfter fetch count) := by
  induction count with
  | zero => exact onceEach_start
  | succ count ih =>
    rw [readingAfter]
    cases next : (readingAfter fetch count).next with
    | none =>
      rw [Reading.turn_of_ended next]
      exact ih.stays next
    | some cursor =>
      obtain ⟨refused, turned⟩ | ⟨page, nextCursor, answered, turned⟩ :=
        Reading.turn_of_next (fetch count) next
      · rw [turned]
        obtain ⟨-, nothing⟩ | ⟨answer, answered, -⟩ := dated count cursor next
        · exact ih.refused nothing
        · cases refused.symm.trans answered
      · rw [turned]
        obtain ⟨refused, -⟩ | ⟨answer, answered', dated'⟩ := dated count cursor next
        · cases refused.symm.trans answered
        · obtain rfl : answer = (page, nextCursor) := Option.some.inj (answered'.symm.trans answered)
          have left : ∃ keys, Remaining dateOf (listed count) cursor (page, nextCursor) keys := by
            cases cursor with
            | none => exact remaining_first (nodup count) dated'
            | some bound => exact remaining_settled (nodup count) dated' (settled count bound next)
          obtain ⟨keys, remaining⟩ := left
          exact ih.read (fades count) next remaining

variable [DecidableEq Key]

/-- The reading comes to an end, and has then read once each key that every request could find. -/
def ReadsEachOnce (listed : Nat → List Key) (fetch : Nat → Option Key → Option (List Key × Option Key)) :
    Prop :=
  (∃ count, (readingAfter fetch count).Ended) ∧ ∀ count, (readingAfter fetch count).Ended →
    ∀ key, (∀ n < count, key ∈ listed n) → (readingAfter fetch count).pages.flatten.count key = 1

/-- **A reader whose cursors are all settled reads every row that stays listed once.** -/
theorem readsEachOnce (nodup : ∀ n, (listed n).Nodup) (fades : ∀ n, ∀ key ∈ listed n, key ∈ listed 0)
    (dated : DatedRequests dateOf listed fetch) (settled : AllSettled dateOf listed fetch) :
    ReadsEachOnce listed fetch := by
  have kept := onceEach_after nodup fades dated settled
  constructor
  · -- As long as the reading goes on, each request has read one more of the rows listed at first.
    by_contra never
    push Not at never
    obtain ⟨cursor, next⟩ := Option.ne_none_iff_exists'.mp (never ((listed 0).length + 1))
    have many := (kept ((listed 0).length + 1)).many cursor next
    have few := ((subperm_of_subset (kept ((listed 0).length + 1)).nodup
      (kept ((listed 0).length + 1)).known)).length_le
    omega
  · intro count ended key always
    obtain read | ⟨cursor, next, -⟩ := (kept count).ahead key always
    · exact count_eq_one_of_mem (kept count).nodup read
    · cases next.symm.trans ended

omit [LinearOrder Date] in
/-- A list whose first page holds everything and has no cursor. -/
theorem readsEachOnce_of_first {keys : List Key} (answered : fetch 0 none = some (keys, none))
    (perm : keys.Perm (listed 0)) (nodup : (listed 0).Nodup) : ReadsEachOnce listed fetch := by
  have one : readingAfter fetch 1 = ⟨[keys], none⟩ := by
    rw [readingAfter, readingAfter, Reading.turn]
    simp only [answered]
    rfl
  have ended : (readingAfter fetch 1).Ended := by
    rw [one]
    rfl
  refine ⟨⟨1, ended⟩, fun count stopped key always => ?_⟩
  cases count with
  | zero => cases stopped
  | succ count =>
    rw [readingAfter_of_ended ended (Nat.succ_le_succ (Nat.zero_le count)), one, flatten_singleton]
    have first := always 0 (Nat.succ_pos count)
    exact count_eq_one_of_mem ((perm.nodup_iff).mpr nodup) (perm.mem_iff.mpr first)

omit [LinearOrder Date] in
theorem readsEachOnce_of_refused (refused : fetch 0 none = none) (nothing : listed 0 = []) :
    ReadsEachOnce listed fetch := by
  have one : readingAfter fetch 1 = ⟨[], none⟩ := by
    rw [readingAfter, readingAfter, Reading.turn]
    simp only [refused]
  refine ⟨⟨1, by rw [one]; rfl⟩, fun count stopped key always => ?_⟩
  cases count with
  | zero => cases stopped
  | succ count =>
    have first := always 0 (Nat.succ_pos count)
    rw [nothing] at first
    cases first

end Run

/-! ## Tables whose rows cease to be listed -/

section Tables

variable [DecidableEq Key] [LinearOrder Date] {date : Row → Date} {dateOf : Key → Date}

def listedKeys (table : Table Key Row) (condition : Key → Row → Bool) : List Key :=
  (table.select condition).map Prod.fst

omit [LinearOrder Date] in
theorem mem_listedKeys {table : Table Key Row} {condition : Key → Row → Bool} {key : Key} :
    key ∈ listedKeys table condition ↔ ∃ row, table.find? key = some row ∧ condition key row = true := by
  rw [listedKeys, mem_map]
  constructor
  · rintro ⟨⟨key', row⟩, member, rfl⟩
    exact ⟨row, Table.mem_select.mp member⟩
  · rintro ⟨row, holds⟩
    exact ⟨(key, row), Table.mem_select.mpr holds, rfl⟩

theorem datedRows_keys (arrangement : Arrangement fun entry : Key × Row => date entry.2)
    {table : Table Key Row} (dates : ∀ key row, table.find? key = some row → date row = dateOf key)
    (condition : Key → Row → Bool) {cursor : Option Key} (known : ∀ key ∈ cursor, (table.find? key).isSome) :
    ∃ keys : List Key, keys.Perm (atOrBeyond dateOf (listedKeys table condition) cursor) ∧
      keys.Pairwise (fun first second => dateOf first ≤ dateOf second) ∧
        (datedRows arrangement table condition cursor).map Prod.fst = keys.drop (skipped cursor) := by
  have dated : ∀ entry ∈ table.select condition, date entry.2 = dateOf entry.1 := by
    rintro ⟨key, row⟩ member
    exact dates key row (Table.mem_select.mp member).1
  have sorted : ∀ rows, (∀ entry ∈ rows, date entry.2 = dateOf entry.1) →
      ((arrangement.order rows).map Prod.fst).Pairwise fun first second => dateOf first ≤ dateOf second := by
    intro rows every
    refine pairwise_map.mpr ((arrangement.sorted rows).imp_of_mem fun first second le => ?_)
    rwa [← every _ ((arrangement.perm rows).mem_iff.mp first),
      ← every _ ((arrangement.perm rows).mem_iff.mp second)]
  cases cursor with
  | none =>
    exact ⟨_, (arrangement.perm (table.select condition)).map Prod.fst, sorted _ dated, rfl⟩
  | some bound =>
    obtain ⟨row, stored⟩ := Option.isSome_iff_exists.mp (known bound rfl)
    let later := (table.select condition).filter fun entry => decide (date row ≤ date entry.2)
    have some' : datedRows arrangement table condition (some bound) = (arrangement.order later).drop 1 := by
      rw [datedRows, stored]
    have keys : later.map Prod.fst = atOrBeyond dateOf (listedKeys table condition) (some bound) := by
      rw [atOrBeyond, listedKeys, filter_map]
      refine congrArg _ (filter_congr fun entry member => ?_)
      rw [dated entry member, dates bound row stored]
      rfl
    refine ⟨(arrangement.order later).map Prod.fst, ?_, ?_, ?_⟩
    · rw [← keys]
      exact (arrangement.perm later).map Prod.fst
    · exact sorted later fun entry member => dated entry (mem_of_mem_filter member)
    · rw [some', map_drop]
      rfl

omit [DecidableEq Key] in
theorem cutFrom_full {limit : Nat} (positive : 0 < limit) (keys : List Key) :
    CutFrom id keys (keys.take limit, if (keys.take limit).length = limit then (keys.take limit).getLast?
      else none) := by
  by_cases full : (keys.take limit).length = limit
  · obtain ⟨earlier, last, split⟩ := eq_nil_or_concat' (keys.take limit) |>.resolve_left fun empty => by
      rw [empty, length_nil] at full
      omega
    have parts : keys = earlier ++ last :: keys.drop limit :=
      calc keys = keys.take limit ++ keys.drop limit := (take_append_drop limit keys).symm
        _ = earlier ++ last :: keys.drop limit := by rw [split, append_assoc]; rfl
    rw [if_pos full, split, getLast?_concat]
    exact .front parts
  · have short : keys.length ≤ limit := by
      rw [length_take] at full
      omega
    rw [if_neg full, take_of_length_le short]
    exact .all

variable {tables : Nat → Table Key Row} {condition : Nat → Key → Row → Bool} {listed : Nat → List Key}
  {fetch : Nat → Option Key → Option (List Key × Option Key)}

/-- Rows keep their dates and stay in the table, and those that are not listed any more are not
listed again. -/
structure Fading (date : Row → Date) (dateOf : Key → Date) (tables : Nat → Table Key Row)
    (listed : Nat → List Key) : Prop where
  dates : ∀ n key row, (tables n).find? key = some row → date row = dateOf key
  stays : ∀ n key, ((tables n).find? key).isSome → ((tables (n + 1)).find? key).isSome
  fades : ∀ n, ∀ key ∈ listed (n + 1), key ∈ listed n

omit [LinearOrder Date] in
theorem Fading.first (fading : Fading date dateOf tables listed) (n : Nat) :
    ∀ key ∈ listed n, key ∈ listed 0 := by
  induction n with
  | zero => exact fun _ member => member
  | succ n ih => exact fun key member => ih key (fading.fades n key member)

def dateIn (date : Row → Date) (absent : Date) (table : Table Key Row) (key : Key) : Date :=
  ((table.find? key).map date).getD absent

variable (tables) in
omit [LinearOrder Date] in
theorem fading_of_changes (condition : Nat → Key → Row → Bool) (change : Nat → Key → Row → Row)
    (changes : ∀ n key, (tables (n + 1)).find? key = ((tables n).find? key).map (change n key))
    (keepsDate : ∀ n key row, date (change n key row) = date row)
    (fades : ∀ n key row, condition (n + 1) key (change n key row) = true → condition n key row = true)
    (absent : Date) :
    Fading date (dateIn date absent (tables 0)) tables fun n => listedKeys (tables n) (condition n) := by
  constructor
  · intro n
    induction n with
    | zero =>
      intro key row stored
      rw [dateIn, stored]
      rfl
    | succ n ih =>
      intro key row stored
      rw [changes] at stored
      obtain ⟨old, before, rfl⟩ := Option.map_eq_some_iff.mp stored
      rw [keepsDate]
      exact ih key old before
  · intro n key there
    rw [changes, Option.isSome_map]
    exact there
  · intro n key member
    obtain ⟨row, stored, holds⟩ := mem_listedKeys.mp member
    rw [changes] at stored
    obtain ⟨old, before, rfl⟩ := Option.map_eq_some_iff.mp stored
    exact mem_listedKeys.mpr ⟨old, before, fades n key old holds⟩

/-- Requests that are refused where nothing is listed, and cut their pages from what the table lists
elsewhere. -/
def TableRequests (arrangements : Nat → Arrangement fun entry : Key × Row => date entry.2)
    (tables : Nat → Table Key Row) (condition : Nat → Key → Row → Bool) (listed : Nat → List Key)
    (fetch : Nat → Option Key → Option (List Key × Option Key)) : Prop :=
  ∀ n cursor, (fetch n cursor = none ∧ listed n = []) ∨
    listed n = listedKeys (tables n) (condition n) ∧ ∃ answer, fetch n cursor = some answer ∧
      CutFrom id ((datedRows (arrangements n) (tables n) (condition n) cursor).map Prod.fst) answer

theorem mem_datedRows {arrangement : Arrangement fun entry : Key × Row => date entry.2}
    {table : Table Key Row} {condition : Key → Row → Bool} {cursor : Option Key} {entry : Key × Row}
    (member : entry ∈ datedRows arrangement table condition cursor) :
    table.find? entry.1 = some entry.2 ∧ condition entry.1 entry.2 = true := by
  have selected : entry ∈ table.select condition := by
    cases cursor with
    | none => exact (arrangement.perm _).mem_iff.mp member
    | some bound =>
      rw [datedRows] at member
      cases stored : table.find? bound with
      | none => simp [stored] at member
      | some row =>
        simp only [stored] at member
        exact mem_of_mem_filter ((arrangement.perm _).mem_iff.mp (mem_of_mem_drop member))
  exact Table.mem_select.mp selected

theorem cursor_stored {arrangements : Nat → Arrangement fun entry : Key × Row => date entry.2}
    (fading : Fading date dateOf tables listed)
    (requests : TableRequests arrangements tables condition listed fetch) (n : Nat) :
    ∀ cursor, (readingAfter fetch n).next = some (some cursor) → ((tables n).find? cursor).isSome := by
  induction n with
  | zero =>
    intro cursor next
    cases next
  | succ n ih =>
    intro cursor next
    rw [readingAfter] at next
    cases before : (readingAfter fetch n).next with
    | none =>
      rw [Reading.turn_of_ended before, before] at next
      cases next
    | some earlier =>
      obtain ⟨-, turned⟩ | ⟨page, nextCursor, answered, turned⟩ :=
        Reading.turn_of_next (fetch n) before
      · rw [turned] at next
        cases next
      · rw [turned] at next
        obtain ⟨refused, -⟩ | ⟨-, answer, answered', cut⟩ := requests n earlier
        · cases refused.symm.trans answered
        · obtain rfl : answer = (page, nextCursor) := Option.some.inj (answered'.symm.trans answered)
          obtain rfl : nextCursor = some cursor := by
            cases nextCursor with
            | none => cases next
            | some other => simpa using next
          have read : cursor ∈ page := by
            cases cut with
            | front split => simp
          obtain ⟨entry, member, rfl⟩ := mem_map.mp (cut.subset cursor read)
          exact fading.stays n entry.1 (Option.isSome_iff_exists.mpr ⟨_, (mem_datedRows member).1⟩)

/-- **A list by date is read once over where every cursor is settled**, when rows only cease to be
listed. -/
theorem readsEachOnce_tables {arrangements : Nat → Arrangement fun entry : Key × Row => date entry.2}
    (fading : Fading date dateOf tables listed)
    (requests : TableRequests arrangements tables condition listed fetch)
    (settled : AllSettled dateOf listed fetch) : ReadsEachOnce listed fetch := by
  have nodup : ∀ n, (listed n).Nodup := by
    intro n
    obtain ⟨-, nothing⟩ | ⟨same, -⟩ := requests n none
    · rw [nothing]
      exact nodup_nil
    · rw [same]
      exact (tables n).nodup_select (condition n)
  refine readsEachOnce nodup fading.first (fun n cursor next => ?_) settled
  obtain refused | ⟨same, answer, answered, cut⟩ := requests n cursor
  · exact .inl refused
  · have known : ∀ key ∈ cursor, ((tables n).find? key).isSome := by
      intro key here
      obtain rfl : cursor = some key := here
      exact cursor_stored fading requests n key next
    obtain ⟨keys, perm, sorted, dropped⟩ :=
      datedRows_keys (arrangements n) (fading.dates n) (condition n) known
    rw [dropped] at cut
    rw [same]
    exact .inr ⟨answer, answered, keys, perm, sorted, cut⟩

end Tables

end Motogram.Foundation
