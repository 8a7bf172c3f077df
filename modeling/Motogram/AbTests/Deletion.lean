import Motogram.AbTests.Stickiness

/-!
# Deleting a test

`DELETE /ab-tests/:key` takes any text for a key. The service deletes the configuration by its name, and
looks for the assignments with a pattern made of the key. A key the schema of a write accepts has no letter
a pattern reads in another way, and finds what begins with itself; the route does not ask for such a key.

So a deletion is exact when no assignment of another test matches the pattern, and only then
(`delete_exact_iff`). A key without the four letters a pattern reads in another way is never read as one
(`not_capturesOther_of_plain`).
-/

set_option autoImplicit false

namespace Motogram.AbTests

open Foundation

variable {datetime : String → Bool} {sha1 : String → BitVec 160} {s : State} {key : String}

/-! ## What a deletion is to do -/

/-- From `s` to `t` the test and its assignments are gone, and the other ones are as they were. -/
structure DeletesExactly (key : String) (s t : State) : Prop where
  config_gone : t.redis.find? (configName key) = none
  assignments_gone : ∀ userId, isUuid userId = true → t.redis.find? (assignName key userId) = none
  configs_kept : ∀ other, other ≠ key → t.redis.find? (configName other) = s.redis.find? (configName other)
  assignments_kept : ∀ other userId, other ≠ key → isUuid userId = true →
    t.redis.find? (assignName other userId) = s.redis.find? (assignName other userId)

/-- The assignments that are stored are those of tests, which have the keys the schema accepts. -/
def Assigned (s : State) : Prop :=
  ∀ key userId, isUuid userId = true → (s.redis.find? (assignName key userId)).isSome →
    isSnakeCaseKey key = true

/-- The pattern of the key matches an assignment of another test that is stored. -/
def CapturesOther (key : String) (s : State) : Prop :=
  ∃ other userId, other ≠ key ∧ isUuid userId = true ∧ (s.redis.find? (assignName other userId)).isSome ∧
    globMatches (assignPattern key).toList (assignName other userId).toList = true

/-! ## What it does -/

theorem find?_without (s : State) (names : List String) (name : String) :
    (s.without names).redis.find? name = if name ∈ names then none else s.redis.find? name := by
  rw [State.without_redis, Table.find?_eraseWhere]
  cases s.redis.find? name with
  | none => simp
  | some stored => by_cases member : name ∈ names <;> simp [member, Option.filter]

theorem find?_without_keys (s : State) (pattern name : String) :
    (s.without (s.keys pattern)).redis.find? name =
      if globMatches pattern.toList name.toList = true then none else s.redis.find? name := by
  rw [find?_without]
  cases found : s.redis.find? name with
  | none => rw [ite_self, ite_self]
  | some stored =>
    have listed : name ∈ s.redis.entries.map Prod.fst :=
      List.mem_map.mpr ⟨(name, stored), s.redis.mem_entries_iff.mpr found, rfl⟩
    have member : name ∈ s.keys pattern ↔ globMatches pattern.toList name.toList = true := by
      rw [State.keys, List.mem_filter]
      exact and_iff_right listed
    simp only [member]

theorem find?_deleteFound (removed : Nat) (assignments : List String) (s : State) (name : String) :
    ((deleteFound removed assignments).exec s).2.redis.find? name =
      if name ∈ assignments then none else s.redis.find? name := by
  unfold deleteFound
  by_cases some_found : assignments.length > 0
  · rw [if_pos some_found, ← find?_without]
    rfl
  · rw [List.length_eq_zero_iff.mp (Nat.eq_zero_of_not_pos some_found)]
    rfl

theorem find?_delete (key name : String) (s : State) :
    ((delete key).exec s).2.redis.find? name =
      if globMatches (assignPattern key).toList name.toList = true ∨ name = configName key then none
      else s.redis.find? name := by
  have whole : ((delete key).exec s).2 = ((deleteFound (s.redis.count fun name _ => decide (name ∈ [configName key]))
      ((s.without [configName key]).keys (assignPattern key))).exec (s.without [configName key])).2 := rfl
  rw [whole, find?_deleteFound, ← find?_without, find?_without_keys, find?_without, ← ite_or]
  simp only [List.mem_singleton]

/-! ## What the pattern matches -/

theorem plain_of_keyLetter {letter : Char} (valid : keyLetter letter = true) : Glob.Plain letter := by
  refine ⟨?_, ?_, ?_, ?_⟩
  all_goals
    rintro rfl
    cases valid

/-- The letters of the names of assignments are plain. -/
theorem plain_assignPrefix : ∀ c ∈ "ab_test:assign:".toList, Glob.Plain c :=
  List.forall_iff_forall_mem.mp (by decide)

theorem globMatches_plain (plain : ∀ c ∈ key.toList, Glob.Plain c) (name : List Char) :
    globMatches (assignPattern key).toList name = true ↔
      "ab_test:assign:".toList ++ key.toList ++ [':'] <+: name := by
  rw [assignPattern_toList]
  refine globMatches_begins (fun c member => ?_) name
  obtain member | colon := List.mem_append.mp member
  · obtain inPrefix | inKey := List.mem_append.mp member
    · exact plain_assignPrefix c inPrefix
    · exact plain c inKey
  · rw [List.mem_singleton.mp colon]
    decide

theorem not_globMatches_configName (key other : String) :
    ¬ globMatches (assignPattern key).toList (configName other).toList = true := by
  intro matched
  have pattern : (assignPattern key).toList = "ab_test:assign:".toList ++ (key.toList ++ [':', '*']) := by
    rw [assignPattern_toList]
    simp only [List.append_assoc, List.cons_append, List.nil_append]
  rw [pattern, globMatches, Glob.parse_append plain_assignPrefix, Glob.fits_letters] at matched
  obtain ⟨rest, whole, -⟩ := matched
  rw [configName_toList] at whole
  have letters := congrArg (List.take 9) whole
  rw [List.take_append_of_le_length (by decide), List.take_append_of_le_length (by decide)] at letters
  exact absurd letters (by decide)

/-! ## When it is exact -/

theorem captures_own (plain : ∀ c ∈ key.toList, Glob.Plain c) (userId : String) :
    globMatches (assignPattern key).toList (assignName key userId).toList = true := by
  rw [globMatches_plain plain, assignName_toList, List.append_assoc, List.prefix_append_right_inj,
    List.prefix_append_right_inj]
  exact ⟨userId.toList, rfl⟩

theorem not_capturesOther_of_plain (assigned : Assigned s) (plain : ∀ c ∈ key.toList, Glob.Plain c) :
    ¬ CapturesOther key s := by
  rintro ⟨other, userId, different, uuid, stored, matched⟩
  have valid := assigned other userId uuid stored
  rw [globMatches_plain plain, assignName_toList, List.append_assoc, List.prefix_append_right_inj] at matched
  obtain ⟨rest, whole⟩ := matched
  have users : ':' ∉ userId.toList := not_mem_of_isUuid uuid (by decide)
  have others : ':' ∉ other.toList := not_mem_of_isSnakeCaseKey valid rfl
  -- there is one colon in the name, so the key ends where the other one does
  rw [List.append_assoc] at whole
  exact different (String.toList_injective ((List.append_cons_inj_of_notMem others users).mp whole.symm).1)

/-- What the pattern captures apart from the assignments of the test is all that can go wrong. -/
theorem deletesExactly_of_apart (assigned : Assigned s) (apart : ¬ CapturesOther key s) :
    DeletesExactly key s ((delete key).exec s).2 := by
  refine ⟨?_, ?_, ?_, ?_⟩
  · rw [find?_delete, if_pos (.inr rfl)]
  · intro userId uuid
    rw [find?_delete]
    by_cases matched : globMatches (assignPattern key).toList (assignName key userId).toList = true
    · rw [if_pos (.inl matched)]
    · rw [if_neg (not_or.mpr ⟨matched, (configName_ne_assignName key key userId).symm⟩)]
      cases found : s.redis.find? (assignName key userId) with
      | none => rfl
      | some stored =>
        have valid := assigned key userId uuid (by rw [found]; rfl)
        have plain : ∀ c ∈ key.toList, Glob.Plain c :=
          fun c member => plain_of_keyLetter (keyLetter_of_isSnakeCaseKey valid c member)
        exact absurd (captures_own plain userId) matched
  · intro other different
    have named : configName other ≠ configName key := fun same => different (configName_injective same)
    rw [find?_delete, if_neg (not_or.mpr ⟨not_globMatches_configName key other, named⟩)]
  · intro other userId different uuid
    rw [find?_delete]
    by_cases matched : globMatches (assignPattern key).toList (assignName other userId).toList = true
    · rw [if_pos (.inl matched)]
      cases found : s.redis.find? (assignName other userId) with
      | none => rfl
      | some stored => exact absurd ⟨other, userId, different, uuid, by rw [found]; rfl, matched⟩ apart
    · rw [if_neg (not_or.mpr ⟨matched, (configName_ne_assignName key other userId).symm⟩)]

/-- **A deletion is exact when the pattern matches no assignment of another test, and only then.** -/
theorem delete_exact_iff (key : String) (s : State) (assigned : Assigned s) :
    DeletesExactly key s ((delete key).exec s).2 ↔ ¬ CapturesOther key s := by
  constructor
  · rintro exact' ⟨other, userId, different, uuid, stored, matched⟩
    have kept := exact'.assignments_kept other userId different uuid
    rw [find?_delete, if_pos (.inl matched)] at kept
    rw [← kept] at stored
    cases stored
  · exact deletesExactly_of_apart assigned

/-! ## What is stored in a run -/

def ByUser (_ : State) : Op datetime → Prop
  | .assign _ userId => isUuid userId = true
  | _ => True

/-- A run stores the assignments of tests only. -/
theorem assigned_step (s : State) (op : Op datetime) (held : Tidy s ∧ Assigned s) (byUser : ByUser s op) :
    Tidy (step sha1 s op) ∧ Assigned (step sha1 s op) := by
  obtain ⟨tidy, assigned⟩ := held
  refine ⟨tidy_step s op tidy, fun key userId uuid stored => ?_⟩
  cases op with
  | upsert body updatedBy =>
    have written : (step sha1 s (.upsert body updatedBy)).redis = s.redis.put (configName body.dto.key)
        (.json (storedConfig body.input (toISOString s.now) (some updatedBy.val))) := rfl
    rw [written, Table.find?_put, if_neg (configName_ne_assignName body.dto.key key userId).symm] at stored
    exact assigned key userId uuid stored
  | assign other otherUser =>
    rw [step, exec_assign] at stored
    cases read : s.config datetime other with
    | none =>
      rw [read] at stored
      exact assigned key userId uuid stored
    | some config =>
      obtain ⟨value, found, -⟩ := accepted_of_config read
      have valid := tidy other _ found
      rw [read] at stored
      dsimp only at stored
      split at stored
      · exact assigned key userId uuid stored
      · split at stored
        · exact assigned key userId uuid stored
        · rw [State.written_redis, Table.find?_put] at stored
          by_cases same : assignName key userId = assignName other otherUser
          · have letters := congrArg String.toList same
            rw [assignName_toList, assignName_toList] at letters
            have users : ':' ∉ otherUser.toList := not_mem_of_isUuid byUser (by decide)
            have others : ':' ∉ other.toList := not_mem_of_isSnakeCaseKey valid rfl
            have cut := (List.append_cons_inj_of_notMem others users).mp (List.append_cancel_left letters).symm
            rw [← String.toList_injective cut.1]
            exact valid
          · rw [if_neg same] at stored
            exact assigned key userId uuid stored
  | elapse milliseconds => exact assigned key userId uuid stored

theorem assigned_follow (now : Time) (ops : List (Op datetime))
    (byUser : EachStep (step sha1) ByUser (.initial now) ops) :
    Assigned (follow (step sha1) (.initial now) ops) := by
  have start : Tidy (.initial now) ∧ Assigned (.initial now) := by
    refine ⟨fun key stored found => ?_, fun key userId _ stored => ?_⟩
    · cases found
    · cases stored
  exact (last_of_keeps assigned_step start byUser).2

/-! ## A key that is a pattern -/

def feedAssigned : State := follow (step feedDigest) (.initial 0)
  [.upsert feedHalves feedRider, .assign "home_feed" feedRider]

theorem assigned_feedAssigned : Assigned feedAssigned :=
  assigned_follow 0 _ ⟨trivial, feedRider.property, trivial⟩

/-- The test is deleted by its key. -/
theorem delete_exact_small :
    DeletesExactly "home_feed" feedAssigned ((delete "home_feed").exec feedAssigned).2 := by
  refine (delete_exact_iff "home_feed" feedAssigned assigned_feedAssigned).mpr ?_
  exact not_capturesOther_of_plain assigned_feedAssigned
    (List.forall_iff_forall_mem.mp (by decide))

/-- `DELETE /ab-tests/*` deletes the assignment of a test that is kept. -/
theorem star_deletes_assignment :
    ¬ DeletesExactly "*" feedAssigned ((delete "*").exec feedAssigned).2 := by
  intro exact'
  have kept := exact'.assignments_kept "home_feed" feedRider (by decide) feedRider.property
  have matched : globMatches (assignPattern "*").toList (assignName "home_feed" feedRider).toList = true := by
    decide +kernel
  rw [find?_delete, if_pos (.inl matched)] at kept
  have stored : (feedAssigned.redis.find? (assignName "home_feed" feedRider)).isSome := by decide +kernel
  rw [← kept] at stored
  cases stored

end Motogram.AbTests
