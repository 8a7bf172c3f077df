import Motogram.Events.Waitlist

/-!
# Who is promoted first

A free place goes to the waiting participant whose row is the oldest. The row dates from the
first answer of the participant and keeps its time through every later one, so somebody who
was interested early and asks for a place late stands before those who have waited all along.

`Queued` adds to a state since when each participant has been on the waitlist of one event.
In every run of `rsvp` from the creation of the event on, the oldest row is that of whoever
came first, as long as nobody with an older row joins a waitlist that has younger ones
(`promoted_in_turn_iff`).
-/

set_option autoImplicit false

namespace Motogram.Events

open Foundation Program Table Option
open Social (RsvpStatus)

variable {s t : State} {eventId : EventId} {userId : UserId}

/-! ## The rows -/

def State.joined (s : State) (eventId : EventId) (userId : UserId) : Option Time :=
  (s.participants.find? (eventId, userId)).map Participant.joinedAt

def SameRow (s t : State) (eventId : EventId) (userId : UserId) : Prop :=
  t.participants.find? (eventId, userId) = s.participants.find? (eventId, userId)

theorem SameRow.status (same : SameRow s t eventId userId) : t.status eventId userId = s.status eventId userId :=
  congrArg (Option.map Participant.rsvpStatus) same

theorem SameRow.joined (same : SameRow s t eventId userId) : t.joined eventId userId = s.joined eventId userId :=
  congrArg (Option.map Participant.joinedAt) same

theorem Moves.sameRow {written : Option RsvpStatus} {other : EventId} {user : UserId}
    (moves : Moves s t eventId userId written) (different : (other, user) ≠ (eventId, userId)) :
    SameRow s t other user := by
  have same := congrArg (fun table => table.find? (other, user)) moves.others
  simp only [find?_erase, if_neg different] at same
  exact same

theorem joined_isSome : (s.joined eventId userId).isSome = (s.status eventId userId).isSome := by
  rw [State.joined, State.status, isSome_map, isSome_map]

/-- A status that is changed leaves the time of the row alone. -/
theorem updateParticipant_joined {status : RsvpStatus}
    (done : s.updateParticipant eventId userId status = .ok t) :
    t.joined eventId userId = s.joined eventId userId := by
  unfold State.updateParticipant at done
  split at done
  · cases done
  · cases done
    rw [State.joined, State.withParticipants_participants, find?_modify_self,
      map_map]
    rfl

/-- The row of a new participation bears the time of the call. -/
theorem save_joined {existing : Option RsvpStatus} {effective : RsvpStatus}
    (done : s.save eventId userId existing effective = .ok t) :
    t.joined eventId userId = some ((s.joined eventId userId).getD s.now) := by
  cases existing with
  | none =>
    obtain ⟨between, saved, counted⟩ := ok_of_bind done
    have participants := (saved_count counted).2.1
    rw [State.joined, participants, State.joined]
    unfold State.createParticipant at saved
    split at saved
    · cases saved
    · split at saved
      · cases saved
      · rename_i free there
        cases saved
        have absent : s.participants.find? (eventId, userId) = none := by simpa using free
        rw [State.withParticipants_participants, find?_insert_self absent, absent]
        rfl
  | some status =>
    obtain ⟨between, saved, counted⟩ := ok_of_bind done
    have participants := (saved_count counted).2.1
    have present := (updateParticipant_effect saved).2.2.2
    rw [← joined_isSome] at present
    obtain ⟨time, joined⟩ := isSome_iff_exists.mp present
    have same := updateParticipant_joined saved
    rw [joined] at same ⊢
    rw [State.joined, participants]
    exact same

theorem head_or_before {Entry : Type} {before : Entry → Entry → Prop} {list : List Entry}
    (ordered : list.Pairwise before) {first other : Entry} (head : list.head? = some first)
    (listed : other ∈ list) : other = first ∨ before first other := by
  cases list with
  | nil => cases listed
  | cons entry rest =>
    cases head
    rcases List.mem_cons.mp listed with same | later
    · exact .inl same
    · exact .inr ((List.pairwise_cons.mp ordered).1 other later)

theorem nextWaiting_oldest {next other : UserId} {first second : Time}
    (chosen : s.nextWaiting eventId = some next) (waits : s.status eventId other = some .waitlist)
    (joined : s.joined eventId next = some first) (joined' : s.joined eventId other = some second) :
    first ≤ second := by
  obtain ⟨⟨⟨event, user⟩, participant⟩, head, rfl⟩ := map_eq_some_iff.mp chosen
  have ordered := List.pairwise_insertionSort
    (fun first second : (EventId × UserId) × Participant => first.2.joinedAt ≤ second.2.joinedAt)
    (s.participantsWith eventId .waitlist)
  have order := List.perm_insertionSort
    (fun first second : (EventId × UserId) × Participant => first.2.joinedAt ≤ second.2.joinedAt)
    (s.participantsWith eventId .waitlist)
  obtain ⟨found, rfl, -⟩ := mem_participantsWith.mp (order.mem_iff.mp (List.mem_of_head? head))
  obtain ⟨row, found', status⟩ := map_eq_some_iff.mp waits
  have listed : ((event, other), row) ∈ s.participantsWith event .waitlist :=
    mem_participantsWith.mpr ⟨found', rfl, status⟩
  rw [State.joined] at joined joined'
  rw [show s.participants.find? (event, user) = some participant from found] at joined
  rw [found'] at joined'
  cases joined
  cases joined'
  obtain same | before := head_or_before ordered head (order.mem_iff.mpr listed)
  · cases same
    exact Nat.le_refl _
  · exact before

/-! ## What a call does to one event -/

/-- The promotion of a transaction that frees a place: the one with the oldest row of those who
waited and did not call. -/
structure Promotes (s t : State) (eventId : EventId) (userId next : UserId) : Prop where
  freed : s.status eventId userId = some .going
  waited : s.status eventId next = some .waitlist
  going : t.status eventId next = some .going
  joined : t.joined eventId next = s.joined eventId next
  oldest : ∀ other first second, s.status eventId other = some .waitlist → other ≠ userId →
    s.joined eventId next = some first → s.joined eventId other = some second → first ≤ second

/-- What a call of `rsvp` does to the rows of one event. -/
inductive RowsEffect (s : State) (eventId : EventId) (userId : UserId) (dto : RsvpEventDto) (t : State) :
    Prop
  | same (rows : ∀ user, SameRow s t eventId user) : RowsEffect s eventId userId dto t
  | left (asks : dto.status = .notGoing) (promoted : Option UserId) (gone : t.status eventId userId = none)
      (promotes : ∀ next, promoted = some next → Promotes s t eventId userId next)
      (rows : ∀ user, user ≠ userId → promoted ≠ some user → SameRow s t eventId user) :
      RowsEffect s eventId userId dto t
  | saved (event : Event) (own : dto.eventId = eventId) (found : s.existing eventId = some event)
      (status : t.status eventId userId = some (chosenStatus event.limit (s.going eventId)
        (s.status eventId userId) dto.status))
      (joined : t.joined eventId userId = some ((s.joined eventId userId).getD s.now))
      (rows : ∀ user, user ≠ userId → SameRow s t eventId user) : RowsEffect s eventId userId dto t

theorem leave_rows {wasGoing limited : Bool} {promoted : List UserId}
    (was : wasGoing = true ↔ s.status eventId userId = some .going)
    (done : s.leave eventId userId wasGoing limited = .ok (t, promoted)) :
    (∀ next ∈ promoted, Promotes s t eventId userId next) ∧ t.status eventId userId = none ∧
      ∀ user, user ≠ userId → user ∉ promoted → SameRow s t eventId user := by
  have other : ∀ {user user' : UserId}, user ≠ user' → (eventId, user) ≠ (eventId, user') :=
    fun apart same => apart (Prod.mk.inj same).2
  have nobody : ∀ {u : State}, Moves s u eventId userId none →
      (∀ next ∈ [], Promotes s u eventId userId next) ∧ u.status eventId userId = none ∧
        ∀ user, user ≠ userId → user ∉ ([] : List UserId) → SameRow s u eventId user :=
    fun moves => ⟨fun _ => nofun, moves.own, fun user apart _ => moves.sameRow (other apart)⟩
  obtain ⟨left, deleted, done⟩ := ok_of_bind done
  obtain ⟨moves, -⟩ := deleteParticipant_effect deleted
  cases wasGoing with
  | false =>
    cases done
    exact nobody moves
  | true =>
    obtain ⟨counted, decrement, done⟩ := ok_of_bind done
    have leaves : Moves s counted eventId userId none :=
      moves.of_participants (countParticipants_effect decrement).2.1
    cases limited with
    | false =>
      cases done
      exact nobody leaves
    | true =>
      have done : counted.promote eventId = .ok (t, promoted) := done
      unfold State.promote at done
      split at done
      · cases done
        exact nobody leaves
      · rename_i next first
        obtain ⟨moved, updated, done⟩ := ok_of_bind done
        obtain ⟨recounted, increment, done⟩ := ok_of_bind done
        cases done
        have promotes : Moves counted t eventId next (some .going) :=
          (updateParticipant_effect updated).1.of_participants (countParticipants_effect increment).2.1
        have waits := nextWaiting_eq_some first
        have apart : next ≠ userId := by
          rintro rfl
          rw [leaves.own] at waits
          cases waits
        refine ⟨?_, ?_, fun user gone kept => ?_⟩
        · intro chosen listed
          cases List.mem_singleton.mp listed
          refine ⟨was.mp rfl, ?_, promotes.own, ?_,
            fun waiting early late waited gone joined joined' => ?_⟩
          · rw [← (leaves.sameRow (other apart)).status]
            exact waits
          · rw [← (leaves.sameRow (other apart)).joined, ← updateParticipant_joined updated,
              State.joined, State.joined, (countParticipants_effect increment).2.1]
          · have still := (leaves.sameRow (other gone)).status.trans waited
            refine nextWaiting_oldest first still ?_ ?_
            · rw [(leaves.sameRow (other apart)).joined]
              exact joined
            · rw [(leaves.sameRow (other gone)).joined]
              exact joined'
        · rw [(promotes.sameRow (other apart.symm)).status]
          exact leaves.own
        · rw [List.mem_singleton] at kept
          exact (promotes.sameRow (other kept)).trans (leaves.sameRow (other gone))

theorem rsvp_rows (s : State) (eventId : EventId) (userId : UserId) (dto : RsvpEventDto) :
    RowsEffect s eventId userId dto (eventStep s (.rsvp userId dto)) := by
  have outcome := rsvp_outcome s userId dto
  generalize eventStep s (.rsvp userId dto) = t at outcome
  cases outcome with
  | refused | stays | unknown => exact .same fun user => rfl
  | left event promoted t found asks done =>
    by_cases own : dto.eventId = eventId
    · subst own
      obtain ⟨promotes, gone, rows⟩ := leave_rows decide_eq_true_iff done
      obtain empty | ⟨next, single⟩ : promoted = [] ∨ ∃ next, promoted = [next] := by
        cases leave_effect done with
        | vacated => exact .inl rfl
        | replaced mid next => exact .inr ⟨next, rfl⟩
      · subst empty
        exact .left asks none gone (fun _ => nofun) fun user apart _ =>
          rows user apart List.not_mem_nil
      · subst single
        refine .left asks (some next) gone ?_ fun user apart kept => rows user apart ?_
        · rintro _ ⟨⟩
          exact promotes next (List.mem_singleton.mpr rfl)
        · intro listed
          exact kept (congrArg some (List.mem_singleton.mp listed).symm)
    · refine .same fun user => ?_
      have apart : eventId ≠ dto.eventId := fun same => own same.symm
      have off : ∀ user', (eventId, user) ≠ (dto.eventId, user') := fun _ same => apart (Prod.mk.inj same).1
      cases leave_effect done with
      | vacated moves => exact moves.sameRow (off _)
      | replaced mid next freed bounded moves waits promotes =>
        exact (promotes.sameRow (off _)).trans (moves.sameRow (off _))
  | saved event t found asks done =>
    have moves := (save_effect done).moves
    by_cases own : dto.eventId = eventId
    · subst own
      exact .saved event rfl found moves.own (save_joined done) fun user apart =>
        moves.sameRow fun same => apart (Prod.mk.inj same).2
    · exact .same fun user => moves.sameRow fun same => own (Prod.mk.inj same).1.symm

/-! ## The waitlist of an event -/

/-- A call of `rsvp` some time after the call before it. -/
structure TimedRsvp where
  milliseconds : Nat
  later : 0 < milliseconds
  userId : UserId
  dto : RsvpEventDto

/-- A state with the time since when each participant has been on the waitlist of an event. -/
structure Queued where
  state : State
  since : UserId → Option Time

def Queued.found (q : Queued) (call : TimedRsvp) : State := q.state.elapsed call.milliseconds

/-- Whoever waits before a call and after it goes on waiting; whoever waits after it only has
come with it. -/
def Queued.step (eventId : EventId) (q : Queued) (call : TimedRsvp) : Queued where
  state := eventStep (q.found call) (.rsvp call.userId call.dto)
  since := fun user =>
    if (eventStep (q.found call) (.rsvp call.userId call.dto)).status eventId user = some .waitlist then
      if (q.found call).status eventId user = some .waitlist then q.since user
      else some (q.found call).now
    else none

/-- A NOT_GOING promotes nobody who came after somebody who is waiting as well. -/
def Queued.PromotesInTurn (eventId : EventId) (q : Queued) (call : TimedRsvp) : Prop :=
  call.dto.status = .notGoing → ∀ first second early late, q.since first = some early →
    q.since second = some late → early < late →
      (q.step eventId call).state.status eventId second ≠ some .going

/-- Whoever came first to the waitlist has the older row. -/
def Queued.InTurn (eventId : EventId) (q : Queued) : Prop :=
  ∀ first second early late, q.since first = some early → q.since second = some late → early < late →
    ∀ joined joined', q.state.joined eventId first = some joined →
      q.state.joined eventId second = some joined' → joined < joined'

/-- The call puts a participant who has answered before on the waitlist, where somebody waits
whose row is younger. -/
def Queued.Overtakes (eventId : EventId) (q : Queued) (call : TimedRsvp) : Prop :=
  call.dto.eventId = eventId ∧ (q.found call).status eventId call.userId ≠ some .waitlist ∧
    (∃ event, (q.found call).existing eventId = some event ∧
      chosenStatus event.limit ((q.found call).going eventId) ((q.found call).status eventId call.userId)
        call.dto.status = .waitlist) ∧
    ∃ waiting joined joined', (q.found call).status eventId waiting = some .waitlist ∧
      (q.found call).joined eventId call.userId = some joined ∧
      (q.found call).joined eventId waiting = some joined' ∧ joined ≤ joined'

/-- What a run keeps: the waiting are those with a time, nothing lies in the future, and whoever
came first has the older row. -/
structure Queued.Sound (eventId : EventId) (q : Queued) : Prop where
  waits : ∀ user, q.state.status eventId user = some .waitlist ↔ (q.since user).isSome = true
  entered : ∀ user time, q.since user = some time → time ≤ q.state.now
  dated : ∀ user time, q.state.joined eventId user = some time → time ≤ q.state.now
  inTurn : q.InTurn eventId

theorem Queued.found_now (q : Queued) (call : TimedRsvp) : q.state.now < (q.found call).now :=
  Nat.lt_add_of_pos_right call.later

theorem SameRest.now (rest : SameRest s t) : t.now = s.now := by
  have same := congrArg State.now rest
  exact same

theorem rsvp_now (s : State) (userId : UserId) (dto : RsvpEventDto) :
    (eventStep s (.rsvp userId dto)).now = s.now := by
  have effect := rsvp_effect s userId dto
  generalize eventStep s (.rsvp userId dto) = t at effect
  cases effect with
  | refused | stays | unknown => rfl
  | left event promoted t found asks left =>
    cases left with
    | vacated _ _ rest | replaced _ _ _ _ _ _ _ _ rest => exact rest.now
  | saved event t found asks saved => exact saved.rest.now

section Step

variable {q : Queued} {call : TimedRsvp} {user : UserId}

theorem Queued.since_of_not_waiting (apart : (q.step eventId call).state.status eventId user ≠ some .waitlist) :
    (q.step eventId call).since user = none :=
  if_neg apart

theorem Queued.since_of_new (waits : (q.step eventId call).state.status eventId user = some .waitlist)
    (apart : (q.found call).status eventId user ≠ some .waitlist) :
    (q.step eventId call).since user = some (q.found call).now :=
  (if_pos waits).trans (if_neg apart)

/-- Whoever keeps the status has been waiting for as long as before. -/
theorem Queued.Sound.since_of_same (sound : q.Sound eventId)
    (same : (q.step eventId call).state.status eventId user = (q.found call).status eventId user) :
    (q.step eventId call).since user = q.since user := by
  by_cases waiting : (q.found call).status eventId user = some .waitlist
  · exact (if_pos (same.trans waiting)).trans (if_pos waiting)
  · have absent : q.since user = none := by
      have waits := sound.waits user
      rw [← not_isSome_iff_eq_none, ← waits]
      exact waiting
    rw [Queued.since_of_not_waiting (same ▸ waiting), absent]

/-- A call after which nobody waits who did not wait before. -/
theorem Queued.Sound.of_stays (sound : q.Sound eventId)
    (stays : ∀ user, (q.step eventId call).state.status eventId user ≠ some .waitlist ∧
        (∀ time, (q.step eventId call).state.joined eventId user = some time → time ≤ (q.found call).now) ∨
      (q.step eventId call).state.status eventId user = (q.found call).status eventId user ∧
        (q.step eventId call).state.joined eventId user = (q.found call).joined eventId user) :
    (q.step eventId call).Sound eventId := by
  have now : (q.step eventId call).state.now = (q.found call).now := rsvp_now _ _ _
  have later := q.found_now call
  have kept : ∀ user time, (q.step eventId call).since user = some time → q.since user = some time ∧
      (q.step eventId call).state.joined eventId user = q.state.joined eventId user := by
    intro user time since
    rcases stays user with ⟨gone, -⟩ | ⟨status, joined⟩
    · rw [Queued.since_of_not_waiting gone] at since
      cases since
    · rw [sound.since_of_same status] at since
      exact ⟨since, joined⟩
  refine ⟨fun user => ?_, fun user time since => ?_, fun user time joined => ?_, ?_⟩
  · rcases stays user with ⟨gone, -⟩ | ⟨status, -⟩
    · rw [Queued.since_of_not_waiting gone]
      exact iff_of_false gone Bool.false_ne_true
    · rw [sound.since_of_same status, status]
      exact sound.waits user
  · rw [now]
    exact Nat.le_of_lt (Nat.lt_of_le_of_lt (sound.entered user time (kept user time since).1) later)
  · rw [now]
    rcases stays user with ⟨-, past⟩ | ⟨-, same⟩
    · exact past time joined
    · rw [same] at joined
      exact Nat.le_of_lt (Nat.lt_of_le_of_lt (sound.dated user time joined) later)
  · intro first second early late since since' before joined joined' row row'
    obtain ⟨was, same⟩ := kept first early since
    obtain ⟨was', same'⟩ := kept second late since'
    rw [same] at row
    rw [same'] at row'
    exact sound.inTurn first second early late was was' before joined joined' row row'

theorem Queued.Sound.joins (sound : q.Sound eventId)
    (status : (q.step eventId call).state.status eventId call.userId = some .waitlist)
    (was : (q.found call).status eventId call.userId ≠ some .waitlist)
    (others : ∀ user, user ≠ call.userId →
      (q.step eventId call).state.status eventId user = (q.found call).status eventId user ∧
        (q.step eventId call).state.joined eventId user = (q.found call).joined eventId user)
    (dated : ∀ time, (q.step eventId call).state.joined eventId call.userId = some time →
      time ≤ (q.found call).now)
    (behind : ∀ waiting joined joined', (q.found call).status eventId waiting = some .waitlist →
      (q.found call).joined eventId waiting = some joined →
        (q.step eventId call).state.joined eventId call.userId = some joined' → joined < joined') :
    (q.step eventId call).Sound eventId := by
  have now : (q.step eventId call).state.now = (q.found call).now := rsvp_now _ _ _
  have later := q.found_now call
  have own := Queued.since_of_new status was
  have kept : ∀ user, user ≠ call.userId → (q.step eventId call).since user = q.since user :=
    fun user apart => sound.since_of_same (others user apart).1
  refine ⟨fun user => ?_, fun user time since => ?_, fun user time joined => ?_, ?_⟩
  · by_cases same : user = call.userId
    · subst same
      rw [own]
      exact iff_of_true status rfl
    · rw [kept user same, (others user same).1]
      exact sound.waits user
  · rw [now]
    by_cases same : user = call.userId
    · subst same
      rw [own] at since
      exact Nat.le_of_eq (some.inj since).symm
    · rw [kept user same] at since
      exact Nat.le_of_lt (Nat.lt_of_le_of_lt (sound.entered user time since) later)
  · rw [now]
    by_cases same : user = call.userId
    · subst same
      exact dated time joined
    · rw [(others user same).2] at joined
      exact Nat.le_of_lt (Nat.lt_of_le_of_lt (sound.dated user time joined) later)
  · intro first second early late since since' before joined joined' row row'
    by_cases same : first = call.userId
    · -- Nobody has been waiting for less long than the caller.
      subst same
      rw [own] at since
      cases since
      by_cases same' : second = call.userId
      · subst same'
        rw [own] at since'
        cases since'
        exact absurd before (Nat.lt_irrefl _)
      · rw [kept second same'] at since'
        have entered := sound.entered second late since'
        exact absurd (Nat.lt_trans later before) (Nat.not_lt.mpr entered)
    · rw [kept first same] at since
      rw [(others first same).2] at row
      by_cases same' : second = call.userId
      · subst same'
        have waits := (sound.waits first).mpr (isSome_iff_exists.mpr ⟨early, since⟩)
        exact behind first joined joined' waits row row'
      · rw [kept second same'] at since'
        rw [(others second same').2] at row'
        exact sound.inTurn first second early late since since' before joined joined' row row'

/-- **A call that overtakes nobody keeps the waitlist in turn.** -/
theorem Queued.Sound.step (sound : q.Sound eventId) (met : ¬ q.Overtakes eventId call) :
    (q.step eventId call).Sound eventId := by
  have effect := rsvp_rows (q.found call) eventId call.userId call.dto
  change RowsEffect _ _ _ _ (q.step eventId call).state at effect
  have later := q.found_now call
  have past : ∀ user time, (q.found call).joined eventId user = some time → time ≤ (q.found call).now :=
    fun user time joined => Nat.le_of_lt (Nat.lt_of_le_of_lt (sound.dated user time joined) later)
  cases effect with
  | same rows => exact sound.of_stays fun user => .inr ⟨(rows user).status, (rows user).joined⟩
  | left asks promoted gone promotes rows =>
    refine sound.of_stays fun user => ?_
    by_cases own : user = call.userId
    · subst own
      have absent : (q.step eventId call).state.joined eventId call.userId = none := by
        rw [← not_isSome_iff_eq_none, joined_isSome, gone]
        exact Bool.false_ne_true
      refine .inl ⟨by rw [gone]; nofun, fun time joined => ?_⟩
      rw [absent] at joined
      cases joined
    · by_cases next : promoted = some user
      · have chosen := promotes user next
        refine .inl ⟨by rw [chosen.going]; nofun, fun time joined => ?_⟩
        rw [chosen.joined] at joined
        exact past user time joined
      · exact .inr ⟨(rows user own next).status, (rows user own next).joined⟩
  | saved event own found status joined rows =>
    have others : ∀ user, user ≠ call.userId →
        (q.step eventId call).state.status eventId user = (q.found call).status eventId user ∧
          (q.step eventId call).state.joined eventId user = (q.found call).joined eventId user :=
      fun user apart => ⟨(rows user apart).status, (rows user apart).joined⟩
    have dated : ∀ time, (q.step eventId call).state.joined eventId call.userId = some time →
        time ≤ (q.found call).now := by
      intro time row
      rw [joined] at row
      cases before : (q.found call).joined eventId call.userId with
      | none =>
        rw [before] at row
        exact Nat.le_of_eq (some.inj row).symm
      | some time' =>
        rw [before] at row
        exact (some.inj row) ▸ past call.userId time' before
    by_cases queues : chosenStatus event.limit ((q.found call).going eventId)
        ((q.found call).status eventId call.userId) call.dto.status = .waitlist
    · rw [queues] at status
      by_cases was : (q.found call).status eventId call.userId = some .waitlist
      · -- The caller waits already, and goes on waiting.
        refine sound.of_stays fun user => .inr ?_
        by_cases same : user = call.userId
        · subst same
          have present : ((q.found call).joined eventId call.userId).isSome = true := by
            rw [joined_isSome, was]
            rfl
          obtain ⟨time, before⟩ := isSome_iff_exists.mp present
          rw [before] at joined ⊢
          exact ⟨status.trans was.symm, joined⟩
        · exact others user same
      · -- The caller comes to the waitlist, after everybody who waits.
        refine sound.joins status was others dated fun waiting time time' waits row row' => ?_
        rw [joined] at row'
        cases before : (q.found call).joined eventId call.userId with
        | none =>
          rw [before] at row'
          cases row'
          exact Nat.lt_of_le_of_lt (sound.dated waiting time row) later
        | some time'' =>
          rw [before] at row'
          cases row'
          refine Nat.not_le.mp fun older => met ⟨own, was, ⟨event, found, queues⟩, ?_⟩
          exact ⟨waiting, time'', time, waits, before, row, older⟩
    · refine sound.of_stays fun user => ?_
      by_cases same : user = call.userId
      · subst same
        refine .inl ⟨?_, dated⟩
        rw [status]
        exact fun waits => queues (some.inj waits)
      · exact .inr (others user same)

/-- **While the waitlist is in turn, whoever came first is promoted first.** -/
theorem Queued.Sound.promotes (sound : q.Sound eventId) : q.PromotesInTurn eventId call := by
  intro asks first second early late since since' before going
  have effect := rsvp_rows (q.found call) eventId call.userId call.dto
  change RowsEffect _ _ _ _ (q.step eventId call).state at effect
  have waits : (q.found call).status eventId first = some .waitlist :=
    (sound.waits first).mpr (isSome_iff_exists.mpr ⟨early, since⟩)
  have waits' : (q.found call).status eventId second = some .waitlist :=
    (sound.waits second).mpr (isSome_iff_exists.mpr ⟨late, since'⟩)
  cases effect with
  | same rows =>
    rw [(rows second).status, waits'] at going
    cases going
  | left asks' promoted gone promotes rows =>
    by_cases own : second = call.userId
    · rw [own, gone] at going
      cases going
    · by_cases next : promoted = some second
      · have chosen := promotes second next
        have apart : first ≠ call.userId := by
          rintro rfl
          rw [chosen.freed] at waits
          cases waits
        have dated : ∀ user, (q.found call).status eventId user = some .waitlist →
            ∃ time, (q.found call).joined eventId user = some time := by
          intro user waiting
          rw [← isSome_iff_exists, joined_isSome, waiting]
          rfl
        obtain ⟨time, joined⟩ := dated first waits
        obtain ⟨time', joined'⟩ := dated second waits'
        have oldest := chosen.oldest first time' time waits apart joined' joined
        have turn := sound.inTurn first second early late since since' before time time' joined joined'
        exact absurd oldest (Nat.not_le.mpr turn)
      · rw [(rows second own next).status, waits'] at going
        cases going
  | saved event own found status joined rows =>
    by_cases same : second = call.userId
    · subst same
      rw [status, asks] at going
      unfold chosenStatus at going
      split at going
      · cases going
      · cases going
    · rw [(rows second same).status, waits'] at going
      cases going

/-- **Overtaking leaves somebody who came last with the older row.** -/
theorem Queued.Sound.breaks (sound : q.Sound eventId) (overtakes : q.Overtakes eventId call) :
    ¬ (q.step eventId call).InTurn eventId := by
  obtain ⟨own, was, ⟨event, found, queues⟩, waiting, time, time', waits, row, row', older⟩ := overtakes
  have outcome := rsvp_outcome (q.found call) call.userId call.dto
  have present : (q.found call).status call.dto.eventId call.userId ≠ none := by
    rw [own, Ne, ← not_isSome_iff_eq_none, not_not, ← joined_isSome, row]
    rfl
  have saved : (q.step eventId call).state.status eventId call.userId = some .waitlist ∧
      (q.step eventId call).state.joined eventId call.userId = some time ∧
      SameRow (q.found call) (q.step eventId call).state eventId waiting := by
    have apart : waiting ≠ call.userId := fun same => was (same ▸ waits)
    have after : (q.step eventId call).state = eventStep (q.found call) (.rsvp call.userId call.dto) := rfl
    rw [after]
    generalize eventStep (q.found call) (.rsvp call.userId call.dto) = t at outcome
    cases outcome with
    | refused missing =>
      rw [own, found] at missing
      cases missing
    | stays _ absent | unknown _ absent => exact absurd absent present
    | left event' promoted t found' asks done =>
      rw [asks] at queues
      unfold chosenStatus at queues
      split at queues <;> cases queues
    | saved event' t found' asks done =>
      have moves := (save_effect done).moves
      have joined := save_joined done
      rw [own] at moves joined found'
      rw [found] at found'
      cases found'
      rw [queues] at moves
      rw [row] at joined
      exact ⟨moves.own, joined, moves.sameRow fun same => apart (Prod.mk.inj same).2⟩
  obtain ⟨status, joined, same⟩ := saved
  intro turn
  obtain ⟨early, since⟩ := isSome_iff_exists.mp ((sound.waits waiting).mp waits)
  have kept := (sound.since_of_same same.status).trans since
  have before : early < (q.found call).now :=
    Nat.lt_of_le_of_lt (sound.entered waiting early since) (q.found_now call)
  have younger := turn waiting call.userId early (q.found call).now kept
    (Queued.since_of_new status was) before time' time (same.joined.trans row') joined
  exact absurd older (Nat.not_le.mpr younger)

end Step

/-! ## From the creation on -/

/-- Before anybody waits. -/
def State.queued (s : State) : Queued := ⟨s, fun _ => none⟩

theorem created_sound (counted : s.Counted) (organizerId : UserId) (dto : CreateEventDto) :
    (s.created organizerId dto).queued.Sound s.fresh := by
  obtain ⟨moves, free⟩ := created_moves counted organizerId dto
  have others : ∀ user, user ≠ organizerId → (s.created organizerId dto).status s.fresh user = none := by
    intro user apart
    rw [moves.status_of_ne fun same => apart (Prod.mk.inj same).2]
    exact free user
  refine ⟨fun user => iff_of_false ?_ Bool.false_ne_true, fun _ _ => nofun, fun user time joined => ?_,
    fun _ _ _ _ => nofun⟩
  · by_cases same : user = organizerId
    · rw [same]
      change (s.created organizerId dto).status s.fresh organizerId ≠ _
      rw [moves.own]
      nofun
    · change (s.created organizerId dto).status s.fresh user ≠ _
      rw [others user same]
      nofun
  · have row : (s.created organizerId dto).joined s.fresh user = some time := joined
    by_cases same : user = organizerId
    · subst same
      have absent : s.participants.find? (s.fresh, user) = none := by
        have status := free user
        rwa [State.status, map_eq_none_iff] at status
      rw [State.joined] at row
      dsimp only [State.created] at row
      rw [find?_insert_self absent] at row
      cases row
      exact Nat.le_refl _
    · have status := others user same
      rw [← not_isSome_iff_eq_none, ← joined_isSome, row] at status
      exact absurd rfl status

/-- **From the creation of an event on, whoever came first to the waitlist stands first in every
state of a run exactly when no call puts a participant with an older row behind somebody with a
younger one; and then every freed place goes to whoever came first.** -/
theorem promoted_in_turn_iff (empty : s.NoEvents) (earlier : List EventOp) {organizerId : UserId}
    {dto : CreateEventDto} (creates : (follow eventStep s earlier).creates organizerId dto)
    (calls : List TimedRsvp) :
    let eventId := (follow eventStep s earlier).fresh
    let start := (eventStep (follow eventStep s earlier) (.createEvent organizerId dto)).queued
    (Throughout (Queued.step eventId) (Queued.InTurn eventId) start calls ↔
        EachStep (Queued.step eventId) (fun q call => ¬ q.Overtakes eventId call) start calls) ∧
      (EachStep (Queued.step eventId) (fun q call => ¬ q.Overtakes eventId call) start calls →
        EachStep (Queued.step eventId) (fun q call => q.PromotesInTurn eventId call) start calls) := by
  intro eventId start
  have sound : start.Sound eventId := by
    change (eventStep (follow eventStep s earlier) (.createEvent organizerId dto)).queued.Sound _
    rw [createEvent_step, if_pos creates]
    exact created_sound (empty.counted.follow earlier) organizerId dto
  have keeps : ∀ (q : Queued) (call : TimedRsvp), q.Sound eventId → ¬ q.Overtakes eventId call →
      (q.step eventId call).Sound eventId := fun q call held met => held.step met
  refine ⟨throughout_iff_eachStep (fun q held => held.inTurn) keeps ?_ sound calls, fun steps => ?_⟩
  · exact fun q call held overtakes => held.breaks (not_not.mp overtakes)
  · exact eachStep_of_keeps keeps (fun q call held _ => held.promotes) sound steps

/-- An event for one, which its organizer takes. -/
def rideForOne : Queued :=
  (eventStep smallInstallation (.createEvent 1 (smallEvent .isPublic none 1 (by decide)))).queued

/-- A call a second after the call before it. -/
def secondLater (userId : UserId) (status : RsvpStatus) : TimedRsvp :=
  ⟨1000, by decide, userId, ⟨1, status⟩⟩

/-- Riders 2 and 3 ask for the place, and the organizer gives it up. -/
def askedInTurn : List TimedRsvp :=
  [secondLater 2 .going, secondLater 3 .going, secondLater 1 .notGoing]

theorem promoted_in_turn_small :
    (Throughout (Queued.step 1) (Queued.InTurn 1) rideForOne askedInTurn ↔
        EachStep (Queued.step 1) (fun q call => ¬ q.Overtakes 1 call) rideForOne askedInTurn) ∧
      (EachStep (Queued.step 1) (fun q call => ¬ q.Overtakes 1 call) rideForOne askedInTurn →
        EachStep (Queued.step 1) (fun q call => q.PromotesInTurn 1 call) rideForOne askedInTurn) := by
  have empty : smallInstallation.NoEvents := ⟨rfl, rfl⟩
  have creates : (follow eventStep smallInstallation []).creates 1
      (smallEvent .isPublic none 1 (by decide)) := by decide +kernel
  exact promoted_in_turn_iff empty [] creates askedInTurn

/-- Rider 3 is interested first, and asks for the place after rider 2. -/
def interestedFirst : List TimedRsvp :=
  [secondLater 3 .interested, secondLater 2 .going, secondLater 3 .going, secondLater 1 .notGoing]

/-- The place goes to rider 3, who came to the waitlist after rider 2. -/
theorem late_comer_promoted :
    ¬ EachStep (Queued.step 1) (fun q call => q.PromotesInTurn 1 call) rideForOne interestedFirst := by
  rintro ⟨-, -, -, promotes, -⟩
  have since : (follow (Queued.step 1) rideForOne (interestedFirst.take 3)).since 2 = some 2000 := by
    decide +kernel
  have since' : (follow (Queued.step 1) rideForOne (interestedFirst.take 3)).since 3 = some 3000 := by
    decide +kernel
  exact promotes rfl 2 3 2000 3000 since since' (by decide) (by decide +kernel)

end Motogram.Events
