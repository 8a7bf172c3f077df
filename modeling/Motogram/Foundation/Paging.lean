import Mathlib.Data.List.Sort
import Mathlib.Order.Basic

/-!
# Pages behind a cursor

A reader asks for a page, and with it gets a cursor to ask for the next one, until there is
none. `Chain` is that a list of pages is what following the cursors reads, to the end.

A store that pages by key reads the rows above the cursor in the order of their keys, one
more than it returns; the extra row tells whether there is a next page, whose cursor is then
the key of the last row returned (`keysetPage`). From a cursor on such a store reads every
row above it once (`chain_above`).
-/

set_option autoImplicit false

namespace Motogram.Foundation

open List

variable {Key Row : Type}

/-- Following the cursors from this one on reads these pages, and then ends. -/
inductive Chain (fetch : Option Key → Option (List Row × Option Key)) :
    Option Key → List (List Row) → Prop where
  | last {cursor : Option Key} {rows : List Row} (read : fetch cursor = some (rows, none)) :
      Chain fetch cursor [rows]
  | next {cursor : Option Key} {rows : List Row} {key : Key} {pages : List (List Row)}
      (read : fetch cursor = some (rows, some key)) (rest : Chain fetch (some key) pages) :
      Chain fetch cursor (rows :: pages)

theorem Chain.unique {fetch : Option Key → Option (List Row × Option Key)} {cursor : Option Key}
    {first second : List (List Row)} (one : Chain fetch cursor first)
    (two : Chain fetch cursor second) : first = second := by
  induction one generalizing second with
  | last read =>
    cases two with
    | last read' =>
      rw [read] at read'
      cases read'
      rfl
    | next read' rest =>
      rw [read] at read'
      cases read'
  | next read rest ih =>
    cases two with
    | last read' =>
      rw [read] at read'
      cases read'
    | next read' rest' =>
      rw [read] at read'
      cases read'
      rw [ih rest']

/-- The page of the rows that were read, one more than the limit at most. -/
def keysetPage (limit : Nat) (key : Row → Key) (rows : List Row) : List Row × Option Key :=
  if rows.length > limit then (rows.take limit, (rows.take limit).getLast?.map key) else (rows, none)

section Keyset

variable [LinearOrder Key] {key : Row → Key} {rows : List Row} {limit : Nat}

instance total_keys : Std.Total fun first second : Key × Row => first.1 ≤ second.1 :=
  ⟨fun first second => le_total first.1 second.1⟩

instance trans_keys : IsTrans (Key × Row) fun first second => first.1 ≤ second.1 := ⟨fun _ _ _ => le_trans⟩

/-- Rows in the order of their keys, each key once. -/
def Ascending (key : Row → Key) (rows : List Row) : Prop :=
  rows.Pairwise fun first second => key first < key second

def above (key : Row → Key) (rows : List Row) (cursor : Key) : List Row :=
  rows.filter fun row => decide (cursor < key row)

theorem mem_above {cursor : Key} {row : Row} : row ∈ above key rows cursor ↔ row ∈ rows ∧ cursor < key row := by
  rw [above, mem_filter, decide_eq_true_eq]

theorem Ascending.above (ascending : Ascending key rows) (cursor : Key) : Ascending key (above key rows cursor) :=
  List.Pairwise.filter _ ascending

theorem above_append (first second : List Row) (cursor : Key) :
    above key (first ++ second) cursor = above key first cursor ++ above key second cursor :=
  filter_append ..

theorem above_key {earlier later : List Row} {row : Row} (ascending : Ascending key (earlier ++ row :: later)) :
    above key (earlier ++ row :: later) (key row) = later := by
  obtain ⟨-, after, before⟩ := pairwise_append.mp ascending
  obtain ⟨greater, -⟩ := pairwise_cons.mp after
  have none : above key earlier (key row) = [] := by
    rw [above, filter_eq_nil_iff]
    intro other member
    have less := before other member row (mem_cons_self ..)
    simp [le_of_lt less]
  have all : above key (row :: later) (key row) = later := by
    rw [above, filter_cons_of_neg (by simp), filter_eq_self]
    intro other member
    exact decide_eq_true (greater other member)
  rw [above_append, none, all, nil_append]

theorem above_above {cursor higher : Key} (le : cursor ≤ higher) :
    above key (above key rows cursor) higher = above key rows higher := by
  rw [above, above, filter_filter]
  refine filter_congr fun row _ => ?_
  by_cases greater : higher < key row
  · simp [greater, lt_of_le_of_lt le greater]
  · simp [greater]

theorem ascending_insertionSort {rows : List (Key × Row)} (nodup : (rows.map Prod.fst).Nodup) :
    Ascending Prod.fst (rows.insertionSort fun first second => first.1 ≤ second.1) := by
  have sorted : (rows.insertionSort fun first second => first.1 ≤ second.1).Pairwise
      fun first second => first.1 ≤ second.1 := pairwise_insertionSort _ _
  have apart : (rows.insertionSort fun first second => first.1 ≤ second.1).Pairwise
      fun first second => first.1 ≠ second.1 := by
    have perm := (perm_insertionSort (fun first second => first.1 ≤ second.1) rows).map Prod.fst
    exact pairwise_map.mp ((perm.nodup_iff).mpr nodup)
  exact (sorted.and apart).imp fun both => lt_of_le_of_ne both.1 both.2

theorem insertionSort_filter {rows : List (Key × Row)} (nodup : (rows.map Prod.fst).Nodup)
    (condition : Key × Row → Bool) :
    ((rows.filter condition).insertionSort fun first second => first.1 ≤ second.1) =
      (rows.insertionSort fun first second => first.1 ≤ second.1).filter condition := by
  have left : Ascending Prod.fst
      ((rows.filter condition).insertionSort fun first second => first.1 ≤ second.1) :=
    ascending_insertionSort (nodup.sublist (filter_sublist.map Prod.fst))
  have right : Ascending Prod.fst
      ((rows.insertionSort fun first second => first.1 ≤ second.1).filter condition) :=
    List.Pairwise.filter _ (ascending_insertionSort nodup)
  refine List.Perm.eq_of_pairwise (fun first second _ _ less more => ?_) left right ?_
  · exact absurd more (lt_asymm less)
  · exact (perm_insertionSort _ _).trans ((perm_insertionSort _ _).filter _).symm

theorem length_below_le_iff {earlier later : List Row} {row : Row} {bound : Key}
    (ascending : Ascending key (earlier ++ row :: later)) :
    ((earlier ++ row :: later).filter fun other => decide (key other < bound)).length ≤
      earlier.length ↔ ¬ key row < bound := by
  obtain ⟨-, after, before⟩ := pairwise_append.mp ascending
  obtain ⟨greater, -⟩ := pairwise_cons.mp after
  rw [filter_append, length_append]
  by_cases below : key row < bound
  · have all : (earlier.filter fun other => decide (key other < bound)) = earlier := by
      rw [filter_eq_self]
      intro other member
      exact decide_eq_true ((before other member row (mem_cons_self ..)).trans below)
    have first : ((row :: later).filter fun other => decide (key other < bound)) =
        row :: later.filter fun other => decide (key other < bound) := by
      rw [filter_cons, if_pos (decide_eq_true below)]
    rw [all, first, length_cons]
    constructor
    · omega
    · intro no
      exact absurd below no
  · have none : ((row :: later).filter fun other => decide (key other < bound)) = [] := by
      rw [filter_eq_nil_iff]
      intro other member
      rw [decide_eq_true_eq]
      rcases mem_cons.mp member with rfl | further
      · exact below
      · exact fun less => below ((greater other further).trans less)
    rw [none, length_nil]
    exact ⟨fun _ => below, fun _ => length_filter_le _ _⟩

theorem exists_last_of_lt (positive : 0 < limit) (longer : limit < rows.length) :
    ∃ earlier last, rows.take limit = earlier ++ [last] ∧ rows = earlier ++ last :: rows.drop limit := by
  obtain ⟨earlier, last, split⟩ := eq_nil_or_concat' (rows.take limit) |>.resolve_left fun empty => by
    have short := congrArg length empty
    rw [length_take, length_nil] at short
    omega
  refine ⟨earlier, last, split, ?_⟩
  calc rows = rows.take limit ++ rows.drop limit := (take_append_drop limit rows).symm
    _ = earlier ++ last :: rows.drop limit := by rw [split, append_assoc]; rfl

omit [LinearOrder Key] in
theorem keysetPage_of_le (short : rows.length ≤ limit) :
    keysetPage limit key (rows.take (limit + 1)) = (rows, none) := by
  rw [take_of_length_le (by omega), keysetPage, if_neg (by omega)]

variable (key) in
omit [LinearOrder Key] in
theorem keysetPage_of_lt (positive : 0 < limit) (longer : limit < rows.length) :
    ∃ earlier last, rows = earlier ++ last :: rows.drop limit ∧ rows.take limit = earlier ++ [last] ∧
      keysetPage limit key (rows.take (limit + 1)) = (rows.take limit, some (key last)) := by
  obtain ⟨earlier, last, taken, split⟩ := exists_last_of_lt positive longer
  refine ⟨earlier, last, split, taken, ?_⟩
  have again : (rows.take (limit + 1)).take limit = rows.take limit := by
    rw [take_take, Nat.min_eq_left (Nat.le_succ limit)]
  have length : (rows.take (limit + 1)).length > limit := by
    rw [length_take]
    omega
  rw [keysetPage, if_pos length, again, taken]
  simp

/-- **From a cursor on, every row above it is read, once and in order.** -/
theorem chain_above {fetch : Option Key → Option (List Row × Option Key)} (positive : 0 < limit)
    (ascending : Ascending key rows)
    (reads : ∀ cursor, fetch (some cursor) =
      some (keysetPage limit key ((above key rows cursor).take (limit + 1)))) (cursor : Key) :
    ∃ pages, Chain fetch (some cursor) pages ∧ pages.flatten = above key rows cursor := by
  -- The induction is on the number of rows above the cursor.
  generalize bound : (above key rows cursor).length = count
  induction count using Nat.strong_induction_on generalizing cursor with
  | _ count ih =>
    by_cases short : (above key rows cursor).length ≤ limit
    · refine ⟨[above key rows cursor], .last ?_, by simp⟩
      rw [reads cursor, keysetPage_of_le short]
    · obtain ⟨earlier, last, split, taken, page⟩ :=
        keysetPage_of_lt key positive (not_le.mp short)
      have member : last ∈ above key rows cursor := by
        rw [split]
        exact mem_append_right _ (mem_cons_self ..)
      have rest : above key rows (key last) = (above key rows cursor).drop limit := by
        have order := ascending.above cursor
        rw [← above_above (le_of_lt (mem_above.mp member).2)]
        rw [split] at order
        conv_lhs => rw [split]
        exact above_key order
      have less : (above key rows (key last)).length < count := by
        rw [rest, length_drop]
        omega
      obtain ⟨pages, chain, read⟩ := ih _ less (key last) rfl
      refine ⟨_, .next ((reads cursor).trans (congrArg some page)) chain, ?_⟩
      rw [flatten_cons, read, rest, take_append_drop]

/-- **Where the first page is cut from other rows than the later ones**, the first rows are
read, and then every row above the last of them. -/
theorem chain_first {fetch : Option Key → Option (List Row × Option Key)} (positive : 0 < limit)
    (ascending : Ascending key rows)
    (reads : ∀ cursor, fetch (some cursor) =
      some (keysetPage limit key ((above key rows cursor).take (limit + 1)))) {first : List Row}
    (start : fetch none = some (keysetPage limit key (first.take (limit + 1)))) :
    (first.length ≤ limit ∧ Chain fetch none [first]) ∨
      ∃ earlier last pages, earlier.length + 1 = limit ∧ first = earlier ++ last :: first.drop limit ∧
        limit < first.length ∧ Chain fetch none pages ∧
          pages.flatten = earlier ++ last :: above key rows (key last) := by
  by_cases short : first.length ≤ limit
  · refine .inl ⟨short, .last ?_⟩
    rw [start, keysetPage_of_le short]
  · obtain ⟨earlier, last, split, taken, page⟩ :=
      keysetPage_of_lt key positive (not_le.mp short)
    obtain ⟨pages, chain, read⟩ := chain_above positive ascending reads (key last)
    have length := congrArg length taken
    rw [length_take, length_append, length_singleton] at length
    refine .inr ⟨earlier, last, _, by omega, split, not_le.mp short,
      .next (start.trans (congrArg some page)) chain, ?_⟩
    rw [flatten_cons, read, taken, append_assoc]
    rfl

end Keyset

end Motogram.Foundation
