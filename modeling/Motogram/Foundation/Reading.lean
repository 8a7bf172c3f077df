import Mathlib.Data.Set.Finite.Basic
import Mathlib.Data.List.Nodup
import Motogram.Foundation.Paging
import Motogram.Foundation.Table

/-!
# Reading page after page while the rows change

A reader who follows cursors makes one request after another, and between two of them rows
come and go. The `n`-th request is answered from the rows there are then. `readingAfter` is
how far the reader has come after so many requests: the pages read, and the cursor of the
next request, unless the reading has ended. A request that is refused ends it too.

Where every request cuts its page from the rows above the cursor (`keysetRequest`), the rows
come in ascending order over all pages, a row that every request could find is read, and the
reading ends when only finitely many rows are ever there (`readsInOrder`). What carries it is
that a row not yet read which was always there is above the cursor.
-/

set_option autoImplicit false

namespace Motogram.Foundation

variable {Key Row Item : Type}

/-- The pages a reader has read, and the cursor of the next request, if there is to be one. -/
structure Reading (Key Item : Type) where
  pages : List (List Item)
  next : Option (Option Key)
  deriving DecidableEq

/-- The reader makes the next request. -/
def Reading.turn (fetch : Option Key → Option (List Item × Option Key)) (reading : Reading Key Item) :
    Reading Key Item :=
  match reading.next with
  | none => reading
  | some cursor =>
    match fetch cursor with
    | none => ⟨reading.pages, none⟩
    | some (page, nextCursor) => ⟨reading.pages ++ [page], nextCursor.map some⟩

/-- How far the reader has come after so many requests. -/
def readingAfter (fetch : Nat → Option Key → Option (List Item × Option Key)) : Nat → Reading Key Item
  | 0 => ⟨[], some none⟩
  | count + 1 => (readingAfter fetch count).turn (fetch count)

def Reading.Ended (reading : Reading Key Item) : Prop := reading.next = none

instance Reading.decidableEnded (reading : Reading Key Item) : Decidable reading.Ended :=
  inferInstanceAs (Decidable (reading.next = none))

section Turn

variable {fetch : Option Key → Option (List Item × Option Key)} {reading : Reading Key Item}

theorem Reading.turn_of_ended (ended : reading.Ended) : reading.turn fetch = reading := by
  have ended' : reading.next = none := ended
  rw [Reading.turn, ended']

variable (fetch) in
theorem Reading.turn_of_next {cursor : Option Key} (next : reading.next = some cursor) :
    (fetch cursor = none ∧ reading.turn fetch = ⟨reading.pages, none⟩) ∨
      ∃ page nextCursor, fetch cursor = some (page, nextCursor) ∧
        reading.turn fetch = ⟨reading.pages ++ [page], nextCursor.map some⟩ := by
  cases answered : fetch cursor with
  | none =>
    refine .inl ⟨rfl, ?_⟩
    rw [Reading.turn, next]
    simp only [answered]
  | some answer =>
    refine .inr ⟨answer.1, answer.2, rfl, ?_⟩
    rw [Reading.turn, next]
    simp only [answered]

end Turn

theorem readingAfter_of_ended {fetch : Nat → Option Key → Option (List Item × Option Key)} {count : Nat}
    (ended : (readingAfter fetch count).Ended) {later : Nat} (le : count ≤ later) :
    readingAfter fetch later = readingAfter fetch count := by
  induction later, le using Nat.le_induction with
  | base => rfl
  | succ later le ih =>
    rw [readingAfter, ih]
    exact Reading.turn_of_ended ended

/-- A page that is shown in another form. -/
def showPage {Shown : Type} (shown : List Item → List Shown) (answer : Option (List Item × Option Key)) :
    Option (List Shown × Option Key) :=
  answer.map fun page => (shown page.1, page.2)

/-- A page whose rows are shown in another form. -/
def showRows {Shown : Type} (shown : Item → Shown) (answer : Option (List Item × Option Key)) :
    Option (List Shown × Option Key) :=
  showPage (List.map shown) answer

theorem readingAfter_showPage {Shown : Type} (shown : List Item → List Shown)
    (fetch : Nat → Option Key → Option (List Item × Option Key)) (count : Nat) :
    readingAfter (fun n cursor => showPage shown (fetch n cursor)) count =
      ⟨(readingAfter fetch count).pages.map shown, (readingAfter fetch count).next⟩ := by
  induction count with
  | zero => rfl
  | succ count ih =>
    rw [readingAfter, readingAfter, ih, Reading.turn]
    cases next : (readingAfter fetch count).next with
    | none =>
      rw [Reading.turn_of_ended next, next]
    | some cursor =>
      obtain ⟨refused, turned⟩ | ⟨page, nextCursor, answered, turned⟩ :=
        Reading.turn_of_next (fetch count) next
      · simp only [refused, turned, showPage, Option.map_none]
      · simp only [answered, turned, showPage, Option.map_some, List.map_append, List.map_cons,
          List.map_nil]

/-! ## Cutting a page -/

/-- A page cut from the front of these rows: all of them without a cursor, or the first of
them with the key of the last one cut. -/
inductive CutFrom (key : Row → Key) (rows : List Row) : List Row × Option Key → Prop where
  | all : CutFrom key rows (rows, none)
  | front {earlier rest : List Row} {last : Row} (split : rows = earlier ++ last :: rest) :
      CutFrom key rows (earlier ++ [last], some (key last))

theorem CutFrom.subset {key : Row → Key} {rows : List Row} {page : List Row × Option Key}
    (cut : CutFrom key rows page) : ∀ row ∈ page.1, row ∈ rows := by
  intro row member
  cases cut with
  | all => exact member
  | front split =>
    rw [split]
    rcases List.mem_append.mp member with before | last
    · exact List.mem_append_left _ before
    · rw [List.mem_singleton] at last
      exact List.mem_append_right _ (List.mem_cons.mpr (.inl last))

theorem keysetPage_length (limit : Nat) (key : Row → Key) (rows : List Row) :
    (keysetPage limit key (rows.take (limit + 1))).1.length ≤ limit := by
  rw [keysetPage]
  split
  · exact List.length_take_le ..
  · rename_i short
    exact Nat.not_lt.mp short

theorem keysetPage_cut {limit : Nat} (positive : 0 < limit) (key : Row → Key) (rows : List Row) :
    CutFrom key rows (keysetPage limit key (rows.take (limit + 1))) := by
  by_cases short : rows.length ≤ limit
  · rw [keysetPage_of_le short]
    exact .all
  · obtain ⟨earlier, last, split, taken, page⟩ := keysetPage_of_lt key positive (not_le.mp short)
    rw [page, taken]
    exact .front split

theorem servicePage_eq {Shown : Type} (shown : Key × Row → Shown) (limit : Nat)
    (rows : List (Key × Row)) :
    some ((if decide (rows.length > limit) then rows.take limit else rows).map shown,
      if decide (rows.length > limit) then
        (if decide (rows.length > limit) then rows.take limit else rows).getLast?.map Prod.fst
      else none) = showRows shown (some (keysetPage limit Prod.fst rows)) := by
  rw [keysetPage]
  by_cases more : rows.length > limit
  · simp only [more, decide_true, if_true, showRows, showPage, Option.map_some]
  · simp only [more, decide_false, if_false, showRows, showPage, Option.map_some, Bool.false_eq_true]

/-! ## Pages above a cursor -/

section Keyset

variable [LinearOrder Key] {key : Row → Key} {limit : Nat}

/-- The rows a request reads: all of them, or those above its cursor. -/
def beyond (key : Row → Key) (rows : List Row) : Option Key → List Row
  | none => rows
  | some cursor => above key rows cursor

theorem mem_beyond {rows : List Row} {cursor : Option Key} {row : Row} :
    row ∈ beyond key rows cursor ↔ row ∈ rows ∧ ∀ bound ∈ cursor, bound < key row := by
  cases cursor with
  | none => simp [beyond]
  | some bound => simp [beyond, mem_above]

theorem Ascending.beyond {rows : List Row} (ascending : Ascending key rows) (cursor : Option Key) :
    Ascending key (beyond key rows cursor) := by
  cases cursor with
  | none => exact ascending
  | some bound => exact ascending.above bound

/-- A request to a store that pages by key, with the rows there are for it to find; there are
none to a request that is refused. -/
def keysetRequest (limit : Nat) (key : Row → Key) (listed : Option (List Row)) (cursor : Option Key) :
    Option (List Row × Option Key) :=
  listed.map fun rows => keysetPage limit key ((beyond key rows cursor).take (limit + 1))

theorem select_beyond (table : Table Key Row) (condition : Key → Row → Bool) (cursor : Option Key) :
    ((table.select fun key row => condition key row &&
      cursor.all fun bound => decide (bound < key)).insertionSort fun first second => first.1 ≤ second.1) =
        beyond Prod.fst ((table.select condition).insertionSort fun first second => first.1 ≤ second.1)
          cursor := by
  cases cursor with
  | none =>
    simp only [Option.all_none, Bool.and_true]
    rfl
  | some bound =>
    rw [beyond, above, ← insertionSort_filter (table.nodup_select condition), Table.select,
      Table.select, List.filter_filter]
    refine congrArg _ (List.filter_congr fun entry _ => ?_)
    rw [Bool.and_comm]
    rfl

theorem showRows_keysetRequest {Shown : Type} (shown : Key × Row → Shown) (rows : List (Key × Row))
    (limit : Nat) (cursor : Option Key) :
    showRows Prod.snd (keysetRequest limit Prod.fst
      (some (rows.map fun entry => (entry.1, shown entry))) cursor) =
      showRows shown (some (keysetPage limit Prod.fst ((beyond Prod.fst rows cursor).take (limit + 1)))) := by
  have moved : beyond Prod.fst (rows.map fun entry => (entry.1, shown entry)) cursor =
      (beyond Prod.fst rows cursor).map fun entry => (entry.1, shown entry) := by
    cases cursor with
    | none => rfl
    | some bound =>
      rw [beyond, beyond, above, List.filter_map]
      rfl
  rw [keysetRequest, Option.map_some, moved, ← List.map_take, showRows, showRows, showPage, showPage,
    Option.map_some, keysetPage, keysetPage, List.length_map]
  split
  · rw [← List.map_take, List.map_map, List.getLast?_map, Option.map_map]
    rfl
  · rw [List.map_map]
    rfl

/-- What there is for a request to find. -/
def found (listed : Option (List Row)) : List Row := listed.getD []

/-- Where a reader stands who pages by key: no page longer than the limit, the rows in
ascending order over all pages, every page from the rows of its request, and a row that was
always there read or still ahead. -/
structure InOrder (limit : Nat) (key : Row → Key) (listed : Nat → Option (List Row)) (count : Nat)
    (reading : Reading Key Row) : Prop where
  bounded : ∀ page ∈ reading.pages, page.length ≤ limit
  ascending : Ascending key reading.pages.flatten
  known : ∀ index page, reading.pages[index]? = some page → ∀ row ∈ page, row ∈ found (listed index)
  reached : ∀ cursor, reading.next = some cursor → reading.pages.length = count ∧
    count ≤ reading.pages.flatten.length ∧ ∀ row ∈ reading.pages.flatten, ∃ bound ∈ cursor, key row ≤ bound
  ahead : ∀ id, (∀ n < count, ∃ row ∈ found (listed n), key row = id) →
    (∃ row ∈ reading.pages.flatten, key row = id) ∨
      ∃ cursor, reading.next = some cursor ∧ ∀ bound ∈ cursor, bound < id

theorem inOrder_start (listed : Nat → Option (List Row)) :
    InOrder limit key listed 0 ⟨[], some none⟩ where
  bounded := by simp
  ascending := List.Pairwise.nil
  known := by simp
  reached := by simp
  ahead := fun _ _ => .inr ⟨none, rfl, by simp⟩

variable {listed : Nat → Option (List Row)} {count : Nat} {reading : Reading Key Row}

theorem InOrder.read (kept : InOrder limit key listed count reading) {cursor : Option Key}
    (next : reading.next = some cursor) {rows page : List Row} {nextCursor : Option Key}
    (here : listed count = some rows) (ascends : Ascending key rows) (short : page.length ≤ limit)
    (cut : CutFrom key (beyond key rows cursor) (page, nextCursor)) :
    InOrder limit key listed (count + 1) ⟨reading.pages ++ [page], nextCursor.map some⟩ := by
  obtain ⟨requests, many, below⟩ := kept.reached cursor next
  have within : ∀ row ∈ page, row ∈ beyond key rows cursor := cut.subset
  have order : Ascending key page := by
    have whole := ascends.beyond cursor
    cases cut with
    | all => exact whole
    | front split =>
      refine List.Pairwise.sublist ?_ whole
      rw [split]
      exact List.Sublist.append_left (List.singleton_sublist.mpr (List.mem_cons_self ..)) _
  have after : ∀ row ∈ reading.pages.flatten, ∀ row' ∈ page, key row < key row' := by
    intro row member row' member'
    obtain ⟨bound, here', le⟩ := below row member
    exact lt_of_le_of_lt le ((mem_beyond.mp (within row' member')).2 bound here')
  have all : (reading.pages ++ [page]).flatten = reading.pages.flatten ++ page := by
    rw [List.flatten_append, List.flatten_singleton]
  constructor
  · intro page' member
    rcases List.mem_append.mp member with before | last
    · exact kept.bounded page' before
    · rw [List.mem_singleton.mp last]
      exact short
  · rw [all]
    exact List.pairwise_append.mpr ⟨kept.ascending, order, after⟩
  · intro index page' at' row member
    rcases Nat.lt_or_ge index reading.pages.length with before | last
    · rw [List.getElem?_append_left before] at at'
      exact kept.known index page' at' row member
    · obtain rfl : index = count := by
        have bound := (List.getElem?_eq_some_iff.mp at').1
        rw [List.length_append, List.length_singleton] at bound
        omega
      rw [List.getElem?_append_right last, requests] at at'
      obtain rfl : page = page' := by simpa using at'
      rw [here]
      exact (mem_beyond.mp (within row member)).1
  · intro cursor' next'
    cases cut with
    | all => simp at next'
    | front split =>
      rename_i earlier rest last
      obtain rfl : some (key last) = cursor' := by simpa using next'
      rw [all, List.length_append, List.length_append, List.length_append, List.length_singleton,
        List.length_singleton]
      refine ⟨by omega, by omega, fun row member => ⟨key last, rfl, ?_⟩⟩
      rcases List.mem_append.mp member with before | read
      · exact le_of_lt (after row before last (List.mem_append_right _ (List.mem_singleton.mpr rfl)))
      · rcases List.mem_append.mp read with earlier' | same
        · exact le_of_lt ((List.pairwise_append.mp order).2.2 row earlier' last
            (List.mem_singleton.mpr rfl))
        · rw [List.mem_singleton.mp same]
  · intro id always
    rw [all]
    have before := kept.ahead id fun n less => always n (Nat.lt_succ_of_lt less)
    rcases before with ⟨row, member, same⟩ | ⟨cursor', next', higher⟩
    · exact .inl ⟨row, List.mem_append_left _ member, same⟩
    · obtain rfl : cursor = cursor' := Option.some.inj (next.symm.trans next')
      obtain ⟨row, member, same⟩ := always count (Nat.lt_succ_self count)
      rw [here] at member
      have open' : row ∈ beyond key rows cursor :=
        mem_beyond.mpr ⟨member, fun bound here' => same ▸ higher bound here'⟩
      cases cut with
      | all => exact .inl ⟨row, List.mem_append_right _ open', same⟩
      | front split =>
        rename_i earlier rest last
        have whole := ascends.beyond cursor
        rw [split] at open' whole
        obtain ⟨-, later, -⟩ := List.pairwise_append.mp whole
        rcases List.mem_append.mp open' with read | rest'
        · exact .inl ⟨row, List.mem_append_right _ (List.mem_append_left _ read), same⟩
        · rcases List.mem_cons.mp rest' with rfl | further
          · exact .inl ⟨row, List.mem_append_right _ (List.mem_append_right _
              (List.mem_singleton.mpr rfl)), same⟩
          · refine .inr ⟨some (key last), rfl, fun bound here' => ?_⟩
            obtain rfl : key last = bound := by simpa using here'
            rw [← same]
            exact (List.pairwise_cons.mp later).1 row further

theorem InOrder.refused (kept : InOrder limit key listed count reading) (nothing : listed count = none) :
    InOrder limit key listed (count + 1) ⟨reading.pages, none⟩ where
  bounded := kept.bounded
  ascending := kept.ascending
  known := kept.known
  reached := by simp
  ahead := by
    intro id always
    obtain ⟨row, member, -⟩ := always count (Nat.lt_succ_self count)
    rw [nothing] at member
    cases member

theorem InOrder.stays (kept : InOrder limit key listed count reading) (ended : reading.Ended) :
    InOrder limit key listed (count + 1) reading where
  bounded := kept.bounded
  ascending := kept.ascending
  known := kept.known
  reached := by
    intro cursor next
    rw [show reading.next = none from ended] at next
    cases next
  ahead := by
    intro id always
    exact kept.ahead id fun n less => always n (Nat.lt_succ_of_lt less)

theorem InOrder.turn (positive : 0 < limit) (kept : InOrder limit key listed count reading)
    (ascends : ∀ rows, listed count = some rows → Ascending key rows) :
    InOrder limit key listed (count + 1) (reading.turn (keysetRequest limit key (listed count))) := by
  cases next : reading.next with
  | none =>
    rw [Reading.turn_of_ended next]
    exact kept.stays next
  | some cursor =>
    obtain ⟨refused, turned⟩ | ⟨page, nextCursor, answered, turned⟩ :=
      Reading.turn_of_next (keysetRequest limit key (listed count)) next
    · rw [turned]
      exact kept.refused (Option.map_eq_none_iff.mp refused)
    · obtain ⟨rows, here, cutPage⟩ := Option.map_eq_some_iff.mp answered
      rw [turned]
      refine kept.read next here (ascends rows here) ?_ ?_
      · have short := keysetPage_length limit key (beyond key rows cursor)
        rw [cutPage] at short
        exact short
      · have cut := keysetPage_cut positive key (beyond key rows cursor)
        rw [cutPage] at cut
        exact cut

theorem inOrder_after (positive : 0 < limit) (ascends : ∀ n rows, listed n = some rows → Ascending key rows)
    (count : Nat) :
    InOrder limit key listed count (readingAfter (fun n => keysetRequest limit key (listed n)) count) := by
  induction count with
  | zero => exact inOrder_start listed
  | succ count ih => exact ih.turn positive (ascends count)

end Keyset

/-- What a reader has read, where a row with this key and these items may be what the `n`-th
request is to find: pages no longer than the limit, ascending keys over all of them, every
item from what its request was to find, and, once the reading has ended, each key that every
request was to find. Of a row that was read only the item is shown. -/
structure ReadInOrder [LinearOrder Key] (limit : Nat) (matching : Nat → Key → Item → Prop)
    (count : Nat) (reading : Reading Key Item) (pages : List (List (Key × Item))) : Prop where
  shown : reading.pages = pages.map (List.map Prod.snd)
  bounded : ∀ page ∈ pages, page.length ≤ limit
  ascending : Ascending Prod.fst pages.flatten
  known : ∀ index page, pages[index]? = some page → ∀ row ∈ page, matching index row.1 row.2
  complete : reading.Ended → ∀ key, (∀ n < count, ∃ item, matching n key item) →
    key ∈ pages.flatten.map Prod.fst

/-- Following the cursors of a list reads in order, and comes to an end when only finitely many
keys are ever to be found. -/
structure ReadsInOrder [LinearOrder Key] (limit : Nat) (matching : Nat → Key → Item → Prop)
    (fetch : Nat → Option Key → Option (List Item × Option Key)) : Prop where
  reads : ∀ count, ∃ pages, ReadInOrder limit matching count (readingAfter fetch count) pages
  ends : {key | ∃ n item, matching n key item}.Finite → ∃ count, (readingAfter fetch count).Ended

section ReadInOrder

variable [LinearOrder Key] {limit : Nat} {matching : Nat → Key → Item → Prop}

theorem ReadInOrder.nodup {count : Nat} {reading : Reading Key Item} {pages : List (List (Key × Item))}
    (read : ReadInOrder limit matching count reading pages) : (pages.flatten.map Prod.fst).Nodup :=
  List.pairwise_map.mpr (read.ascending.imp fun less => ne_of_lt less)

/-- **A list that is paged by key is read in order, whatever rows come and go meanwhile.** -/
theorem readsInOrder (positive : 0 < limit) {listed : Nat → Option (List (Key × Item))}
    (ascends : ∀ n rows, listed n = some rows → Ascending Prod.fst rows)
    (lists : ∀ n key item, (key, item) ∈ found (listed n) ↔ matching n key item)
    {fetch : Nat → Option Key → Option (List Item × Option Key)}
    (answers : ∀ n cursor, fetch n cursor = showRows Prod.snd (keysetRequest limit Prod.fst (listed n) cursor)) :
    ReadsInOrder limit matching fetch := by
  have same : fetch = fun n cursor => showRows Prod.snd (keysetRequest limit Prod.fst (listed n) cursor) := by
    funext n cursor
    exact answers n cursor
  have after : ∀ count, readingAfter fetch count =
      ⟨(readingAfter (fun n => keysetRequest limit Prod.fst (listed n)) count).pages.map (List.map Prod.snd),
        (readingAfter (fun n => keysetRequest limit Prod.fst (listed n)) count).next⟩ := by
    intro count
    rw [same]
    exact readingAfter_showPage (List.map Prod.snd) (fun n => keysetRequest limit Prod.fst (listed n)) count
  have kept := inOrder_after positive ascends
  have reads : ∀ count, ∃ pages, ReadInOrder limit matching count (readingAfter fetch count) pages := by
    intro count
    refine ⟨_, ?_, (kept count).bounded, (kept count).ascending, ?_, ?_⟩
    · rw [after]
    · intro index page listed' row member
      exact (lists index row.1 row.2).mp ((kept count).known index page listed' row member)
    · intro ended key always
      rw [after] at ended
      have always' : ∀ n < count, ∃ row ∈ found (listed n), row.1 = key := by
        intro n less
        obtain ⟨item, matches'⟩ := always n less
        exact ⟨(key, item), (lists n key item).mpr matches', rfl⟩
      obtain ⟨row, member, same'⟩ | ⟨cursor, next, -⟩ := (kept count).ahead key always'
      · exact List.mem_map.mpr ⟨row, member, same'⟩
      · cases next.symm.trans ended
  refine ⟨reads, fun finite => ?_⟩
  -- As long as the reading goes on, each request has read one more of the keys.
  by_contra never
  push Not at never
  have going := never (finite.toFinset.card + 1)
  obtain ⟨pages, read⟩ := reads (finite.toFinset.card + 1)
  have within : (pages.flatten.map Prod.fst).toFinset ⊆ finite.toFinset := by
    intro key member
    obtain ⟨row, read', rfl⟩ := List.mem_map.mp (List.mem_toFinset.mp member)
    obtain ⟨page, listed', member'⟩ := List.mem_flatten.mp read'
    obtain ⟨index, bound, rfl⟩ := List.getElem_of_mem listed'
    rw [Set.Finite.mem_toFinset]
    exact ⟨index, row.2, read.known index _ (List.getElem?_eq_getElem bound) row member'⟩
  have few := Finset.card_le_card within
  rw [List.toFinset_card_of_nodup read.nodup, List.length_map] at few
  have shown := read.shown
  rw [after] at going shown
  obtain ⟨cursor, next⟩ := Option.ne_none_iff_exists'.mp going
  obtain ⟨-, many, -⟩ := (kept (finite.toFinset.card + 1)).reached cursor next
  have lengths : ∀ pages' : List (List (Key × Item)),
      (pages'.map (List.map Prod.snd)).flatten.length = pages'.flatten.length := by
    intro pages'
    rw [← List.map_flatten, List.length_map]
  have same' := congrArg (fun pages => pages.flatten.length) shown
  rw [lengths, lengths] at same'
  omega

end ReadInOrder

end Motogram.Foundation
