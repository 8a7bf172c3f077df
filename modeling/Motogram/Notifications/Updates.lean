import Motogram.Foundation.Interleaving
import Motogram.Notifications.Preferences

/-!
# Updates of preferences that overlap

`updatePreferences` reads the row of a user, lays the named fields over it, and writes the whole row back.
So the row carries the updates of the last call that wrote and of those that the row carried when that call
read it (`Lineage`). What calls on disjoint fields have asked for is kept exactly when each call is carried by
the row or asked for what was there before (`preferences_kept_iff`).
-/

set_option autoImplicit false

namespace Motogram.Notifications

open Foundation Program Pool

/-! ## The update -/

inductive PreferenceField where
  | pushFollow | pushLike | pushComment | pushMention | pushParty | pushEmergency | pushCommunity | pushEvent
  | emailDigest
  deriving DecidableEq

def NotificationPreferences.get (preferences : NotificationPreferences) : PreferenceField → Bool
  | .pushFollow => preferences.pushFollow
  | .pushLike => preferences.pushLike
  | .pushComment => preferences.pushComment
  | .pushMention => preferences.pushMention
  | .pushParty => preferences.pushParty
  | .pushEmergency => preferences.pushEmergency
  | .pushCommunity => preferences.pushCommunity
  | .pushEvent => preferences.pushEvent
  | .emailDigest => preferences.emailDigest

/-- The fields a request names, with what it asks for. -/
abbrev UpdateNotificationPreferencesDto := PreferenceField → Option Bool

/-- `{ ...current, ...dto }`. -/
def UpdateNotificationPreferencesDto.over (dto : UpdateNotificationPreferencesDto)
    (current : NotificationPreferences) : NotificationPreferences where
  pushFollow := (dto .pushFollow).getD current.pushFollow
  pushLike := (dto .pushLike).getD current.pushLike
  pushComment := (dto .pushComment).getD current.pushComment
  pushMention := (dto .pushMention).getD current.pushMention
  pushParty := (dto .pushParty).getD current.pushParty
  pushEmergency := (dto .pushEmergency).getD current.pushEmergency
  pushCommunity := (dto .pushCommunity).getD current.pushCommunity
  pushEvent := (dto .pushEvent).getD current.pushEvent
  emailDigest := (dto .emailDigest).getD current.emailDigest

@[simp] theorem get_over (dto : UpdateNotificationPreferencesDto) (current : NotificationPreferences)
    (field : PreferenceField) : (dto.over current).get field = (dto field).getD (current.get field) := by
  cases field <;> rfl

inductive PreferenceCall where
  | findUnique (userId : UserId)
  | upsert (userId : UserId) (create update : NotificationPreferences)

@[reducible] def PreferenceReply : PreferenceCall → Type
  | .findUnique _ => Option NotificationPreferences
  | .upsert _ _ _ => NotificationPreferences

/-- The rows of the table. -/
abbrev PreferenceRows := UserId → Option NotificationPreferences

def answer : (call : PreferenceCall) → PreferenceRows → PreferenceReply call × PreferenceRows
  | .findUnique userId, rows => (rows userId, rows)
  | .upsert userId create update, rows =>
    let row := if (rows userId).isNone then create else update
    (row, Function.update rows userId (some row))

abbrev PreferenceFlow := Program PreferenceCall PreferenceReply Empty NotificationPreferences

abbrev PreferencePool (Index : Type) :=
  Pool Index PreferenceCall PreferenceReply Empty NotificationPreferences PreferenceRows

def updatePreferences (userId : UserId) (dto : UpdateNotificationPreferencesDto) : PreferenceFlow := do
  let row : Option NotificationPreferences ← send (PreferenceCall.findUnique userId)
  let current := getPreferences row
  let next := dto.over current
  send (PreferenceCall.upsert userId next next)

/-! ## What a row carries -/

/-- How far a call is: it has read a row, which carried these calls, or it has written its own. -/
inductive Progress (Index : Type) where
  | waiting
  | read (basis : List Index)
  | written

/-- The calls whose updates the row carries, the last one first. -/
structure Lineage (Index : Type) where
  carried : List Index
  progress : Index → Progress Index

def Lineage.initial {Index : Type} : Lineage Index where
  carried := []
  progress := fun _ => .waiting

def Lineage.turn {Index : Type} [DecidableEq Index] (lineage : Lineage Index) (index : Index) : Lineage Index :=
  match lineage.progress index with
  | .waiting => { lineage with progress := Function.update lineage.progress index (.read lineage.carried) }
  | .read basis =>
    { carried := index :: basis
      progress := Function.update lineage.progress index .written }
  | .written => lineage

/-! ## Updates on disjoint fields -/

structure Updates (Index : Type) where
  userId : UserId
  dto : Index → UpdateNotificationPreferencesDto
  disjoint : ∀ field first second, (dto first field).isSome → (dto second field).isSome → first = second

namespace Updates

variable {Index : Type} (updates : Updates Index) (rows : PreferenceRows)

/-- All calls are still to be made. -/
def pool : PreferencePool Index where
  threads := fun index => updatePreferences updates.userId (updates.dto index)
  store := rows

/-- **Every field has what the call that names it asked for, and the value it had where no call does.** -/
def Kept (now : PreferenceRows) : Prop :=
  ∀ field, (∀ index value, updates.dto index field = some value →
      (getPreferences (now updates.userId)).get field = value) ∧
    ((∀ index, updates.dto index field = none) →
      (getPreferences (now updates.userId)).get field = (getPreferences (rows updates.userId)).get field)

/-- The call asks for what is there. -/
def AsksNothing (index : Index) : Prop :=
  ∀ field value, updates.dto index field = some value → (getPreferences (rows updates.userId)).get field = value

/-- The preferences with the updates of some calls, the last one first. -/
def applied (current : NotificationPreferences) : List Index → NotificationPreferences
  | [] => current
  | index :: basis => (updates.dto index).over (applied current basis)

variable {updates rows} {current : NotificationPreferences} {field : PreferenceField} {carried : List Index}

theorem get_applied_of_mem {index : Index} {value : Bool} (member : index ∈ carried)
    (asks : updates.dto index field = some value) : (updates.applied current carried).get field = value := by
  induction carried with
  | nil => cases member
  | cons first basis ih =>
    rw [applied, get_over]
    cases named : updates.dto first field with
    | some value' =>
      obtain rfl := updates.disjoint field first index (named ▸ rfl) (asks ▸ rfl)
      exact Option.some.inj (named.symm.trans asks)
    | none =>
      obtain rfl | earlier := List.mem_cons.mp member
      · cases named.symm.trans asks
      · exact ih earlier

theorem get_applied_of_none (unnamed : ∀ index ∈ carried, updates.dto index field = none) :
    (updates.applied current carried).get field = current.get field := by
  induction carried with
  | nil => rfl
  | cons first basis ih =>
    rw [applied, get_over, unnamed first (List.mem_cons_self ..)]
    exact ih fun index member => unnamed index (List.mem_cons_of_mem _ member)

theorem unnamed_of_not_mem {index : Index} {value : Bool} (asks : updates.dto index field = some value)
    (absent : index ∉ carried) : ∀ other ∈ carried, updates.dto other field = none := by
  intro other member
  by_contra named
  obtain rfl := updates.disjoint field other index (Option.isSome_iff_ne_none.mpr named) (asks ▸ rfl)
  exact absent member

theorem kept_applied_iff {now : PreferenceRows}
    (holds : getPreferences (now updates.userId) = updates.applied (getPreferences (rows updates.userId)) carried) :
    updates.Kept rows now ↔ ∀ index, index ∈ carried ∨ updates.AsksNothing rows index := by
  unfold Kept
  rw [holds]
  constructor
  · intro kept index
    by_cases member : index ∈ carried
    · exact .inl member
    · refine .inr fun field value asks => ?_
      rw [← get_applied_of_none (unnamed_of_not_mem asks member)]
      exact (kept field).1 index value asks
  · intro each field
    refine ⟨fun index value asks => ?_, fun free => get_applied_of_none fun index _ => free index⟩
    by_cases member : index ∈ carried
    · exact get_applied_of_mem member asks
    · rw [get_applied_of_none (unnamed_of_not_mem asks member)]
      exact (each index).resolve_left member field value asks

/-! ## Runs -/

variable (updates rows) in
/-- What a call has still to do. -/
def Rest (index : Index) : Progress Index → PreferenceFlow → Prop
  | .waiting, rest => rest = updatePreferences updates.userId (updates.dto index)
  | .read basis, rest =>
    let next := updates.applied (getPreferences (rows updates.userId)) (index :: basis)
    rest = .call (.upsert updates.userId next next) .done
  | .written, rest => rest.value?.isSome

variable (updates rows) in
/-- The row is as the calls it carries have made it, and so was each row that was read. -/
structure Carries (pool : PreferencePool Index) (lineage : Lineage Index) : Prop where
  row : getPreferences (pool.store updates.userId) =
    updates.applied (getPreferences (rows updates.userId)) lineage.carried
  rest : ∀ index, updates.Rest rows index (lineage.progress index) (pool.threads index)

variable [DecidableEq Index] {pool : PreferencePool Index} {lineage : Lineage Index}

theorem Carries.turn (carries : updates.Carries rows pool lineage) (index : Index) :
    updates.Carries rows (pool.advance answer index) (lineage.turn index) := by
  have others : ∀ {progress rest}, updates.Rest rows index progress rest → ∀ other,
      updates.Rest rows other (Function.update lineage.progress index progress other)
        (Function.update pool.threads index rest other) := by
    intro progress rest here other
    by_cases same : other = index
    · subst same
      rwa [Function.update_self, Function.update_self]
    · rw [Function.update_of_ne same, Function.update_of_ne same]
      exact carries.rest other
  have here := carries.rest index
  cases progress : lineage.progress index with
  | waiting =>
    rw [progress] at here
    rw [advance_of_call here, Lineage.turn, progress]
    refine ⟨carries.row, others ?_⟩
    change call _ _ = _
    rw [applied, ← carries.row]
    rfl
  | read basis =>
    rw [progress] at here
    rw [advance_of_call here, Lineage.turn, progress]
    refine ⟨?_, others rfl⟩
    simp only [answer, Function.update_self, ite_self]
    rfl
  | written =>
    rw [progress] at here
    have ended : (pool.threads index).Ended := by
      obtain ⟨saved, done⟩ := Option.isSome_iff_exists.mp here
      rw [value?_eq_some.mp done]
      rfl
    rw [advance_of_ended ended, Lineage.turn, progress]
    exact carries

theorem Carries.follow (carries : updates.Carries rows pool lineage) (schedule : List Index) :
    updates.Carries rows (follow (advance answer) pool schedule) (follow Lineage.turn lineage schedule) := by
  induction schedule generalizing pool lineage with
  | nil => exact carries
  | cons index schedule ih => exact ih (carries.turn index)

/-- **What was asked for is kept exactly when the row carries every call that asks for something new.** -/
theorem preferences_kept_iff (updates : Updates Index) (rows : PreferenceRows) (schedule : List Index) :
    updates.Kept rows (Foundation.follow (advance answer) (updates.pool rows) schedule).store ↔
      ∀ index, index ∈ (Foundation.follow Lineage.turn .initial schedule).carried ∨ updates.AsksNothing rows index := by
  have start : updates.Carries rows (updates.pool rows) .initial := ⟨rfl, fun _ => rfl⟩
  exact kept_applied_iff (start.follow schedule).row

/-! ## Two requests -/

/-- One request takes likes off, and the other asks for a digest. -/
def smallUpdates : Updates Bool where
  userId := 1
  dto
    | false => fun field => if field = .pushLike then some false else none
    | true => fun field => if field = .emailDigest then some true else none
  disjoint := fun field => by cases field <;> decide

/-- Both read before either writes, and the first row that is written is overwritten. -/
theorem overlapping_update_lost :
    (∀ index, ((Foundation.follow (advance answer) (smallUpdates.pool fun _ => none)
        [false, true, false, true]).threads index).value?.isSome) ∧
      ¬ smallUpdates.Kept (fun _ => none)
        (Foundation.follow (advance answer) (smallUpdates.pool fun _ => none) [false, true, false, true]).store := by
  refine ⟨by decide, fun kept => ?_⟩
  have likes := (kept .pushLike).1 false false rfl
  exact absurd likes (by decide)

end Updates

end Motogram.Notifications
