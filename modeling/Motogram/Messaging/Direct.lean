import Motogram.Messaging.Conversations
import Motogram.Messaging.Resend

/-!
# Two riders open their chat

`findOrCreateDirect` looks for a direct conversation in which both riders are active, and creates
one when there is none. Nothing in the database keeps two such conversations apart, so two calls
that both look before either creates leave two (`chat_splits`).

A creation is timely when there still is no such conversation. The riders have at most one throughout
an interleaving, and every call that returns has returned it, exactly when every creation is timely
(`one_chat_iff`).
-/

set_option autoImplicit false

namespace Motogram.Messaging

open Foundation Program Table Pool

variable {Index : Type} {userAId userBId : UserId}

/-! ## The calls -/

/-- A call that opens a chat, or the passage of time. -/
inductive DirectCall where
  | findOrCreateDirect (userAId userBId : UserId)
  | elapse (milliseconds : Nat)

abbrev DirectFlow := Flow (Option ConversationDetail)

def DirectCall.program : DirectCall → DirectFlow
  | .findOrCreateDirect userAId userBId =>
    Messaging.findOrCreateDirect userAId userBId >>= fun detail => pure (some detail)
  | .elapse milliseconds => call (.elapse milliseconds) >>= fun _ => pure none

abbrev DirectPool (Index : Type) :=
  Pool Index MessagingCall MessagingReply ServiceError (Option ConversationDetail) State

/-- Calls that have not begun. -/
def directPool (calls : Index → DirectCall) (s : State) : DirectPool Index where
  threads := fun index => (calls index).program
  store := s

/-- The two users, in either order. -/
def Pair (userAId userBId first second : UserId) : Prop :=
  (first = userAId ∧ second = userBId) ∨ (first = userBId ∧ second = userAId)

variable {conversation : Conversation} {s : State} {first second : UserId} {calls : Index → DirectCall}

theorem Pair.apart (pair : Pair userAId userBId first second) (different : userAId ≠ userBId) :
    first ≠ second := by
  obtain ⟨rfl, rfl⟩ | ⟨rfl, rfl⟩ := pair
  · exact different
  · exact Ne.symm different

/-- Every chat that is opened is one of the two users. -/
def Between (userAId userBId : UserId) (calls : Index → DirectCall) : Prop :=
  ∀ index first second, calls index = .findOrCreateDirect first second →
    Pair userAId userBId first second

/-! ## The conversations of two users -/

/-- A direct conversation that is not deleted, with exactly these active participants. -/
structure IsChat (userAId userBId : UserId) (conversation : Conversation) : Prop where
  direct : conversation.type = .direct
  kept : conversation.deletedAt = none
  active : ∀ userId, conversation.hasActive userId = true ↔ userId = userAId ∨ userId = userBId

/-- A chat of the two users is stored under the id. -/
def State.HasChat (s : State) (userAId userBId : UserId) (id : ConversationId) : Prop :=
  ∃ conversation, s.conversations.find? id = some conversation ∧ IsChat userAId userBId conversation

/-- There is at most one chat of the two users. -/
def State.OneChat (s : State) (userAId userBId : UserId) : Prop :=
  ∀ first second, s.HasChat userAId userBId first → s.HasChat userAId userBId second → first = second

/-- What the tables keep: an identifier still to be drawn is free, a participant is a user, and a
direct conversation has no third participant. -/
structure State.Tidy (s : State) : Prop where
  fresh : ∀ count, s.fresh ≤ count → s.conversations.find? (s.deployment.uuid count) = none
  known : ∀ id conversation userId, s.conversations.find? id = some conversation →
    (conversation.participants.find? userId).isSome → (s.users.find? userId).isSome
  two : ∀ id conversation first second third, s.conversations.find? id = some conversation →
    conversation.type = .direct → (conversation.participants.find? first).isSome →
      (conversation.participants.find? second).isSome → (conversation.participants.find? third).isSome →
        first = second ∨ third = first ∨ third = second

/-- There is at most one chat of the two users, and every call that has returned has returned it. -/
def OneChatReturned (userAId userBId : UserId) (pool : DirectPool Index) : Prop :=
  pool.store.OneChat userAId userBId ∧
    ∀ index detail, pool.threads index = .done (some detail) →
      pool.store.HasChat userAId userBId detail.id

/-- A conversation the query of `findOrCreateDirect` finds. -/
def State.hasDirect (s : State) (userAId userBId : UserId) : Bool :=
  s.conversations.entries.any fun entry => entry.2.isDirectOf userAId userBId

/-- A creation finds that there still is no conversation. -/
def CreatesFirst : MessagingCall → State → Prop
  | .conversationCreateDirect userAId userBId, s => s.hasDirect userAId userBId = false
  | _, _ => True

instance (request : MessagingCall) (s : State) : Decidable (CreatesFirst request s) := by
  unfold CreatesFirst
  split <;> infer_instance

/-! ## The rows -/

theorem Conversation.isDirectOf_iff :
    conversation.isDirectOf first second = true ↔ conversation.type = .direct ∧
      conversation.deletedAt = none ∧ conversation.hasActive first = true ∧
        conversation.hasActive second = true := by
  simp only [Conversation.isDirectOf, Bool.and_eq_true, decide_eq_true_eq, Option.isNone_iff_eq_none,
    and_assoc]

theorem Conversation.participant_of_active {userId : UserId} (active : conversation.hasActive userId = true) :
    (conversation.participants.find? userId).isSome := by
  rw [Conversation.hasActive, Option.any_eq_true] at active
  obtain ⟨row, found, -⟩ := active
  rw [found]
  rfl

theorem State.hasDirect_eq_true :
    s.hasDirect first second = true ↔
      ∃ id conversation, s.conversations.find? id = some conversation ∧
        conversation.isDirectOf first second = true := by
  rw [State.hasDirect, List.any_eq_true]
  constructor
  · rintro ⟨⟨id, conversation⟩, listed, direct⟩
    exact ⟨id, conversation, (mem_entries_iff _).mp listed, direct⟩
  · rintro ⟨id, conversation, found, direct⟩
    exact ⟨(id, conversation), (mem_entries_iff _).mpr found, direct⟩

/-- A chat of two users is what the query finds, in either order. -/
theorem IsChat.isDirectOf (chat : IsChat userAId userBId conversation)
    (pair : Pair userAId userBId first second) : conversation.isDirectOf first second = true := by
  have a := (chat.active userAId).mpr (.inl rfl)
  have b := (chat.active userBId).mpr (.inr rfl)
  rw [Conversation.isDirectOf_iff]
  obtain ⟨rfl, rfl⟩ | ⟨rfl, rfl⟩ := pair
  · exact ⟨chat.direct, chat.kept, a, b⟩
  · exact ⟨chat.direct, chat.kept, b, a⟩

theorem State.Tidy.isChat (tidy : s.Tidy) (different : userAId ≠ userBId) {id : ConversationId}
    {conversation : Conversation} {first second : UserId} (pair : Pair userAId userBId first second)
    (found : s.conversations.find? id = some conversation)
    (direct : conversation.isDirectOf first second = true) : IsChat userAId userBId conversation := by
  obtain ⟨type, kept, one, two⟩ := Conversation.isDirectOf_iff.mp direct
  have a : conversation.hasActive userAId = true := by
    obtain ⟨rfl, rfl⟩ | ⟨rfl, rfl⟩ := pair <;> assumption
  have b : conversation.hasActive userBId = true := by
    obtain ⟨rfl, rfl⟩ | ⟨rfl, rfl⟩ := pair <;> assumption
  refine ⟨type, kept, fun userId => ⟨fun active => ?_, ?_⟩⟩
  · have among := tidy.two id conversation userAId userBId userId found type
      (Conversation.participant_of_active a) (Conversation.participant_of_active b)
      (Conversation.participant_of_active active)
    exact among.resolve_left different
  · rintro (rfl | rfl)
    · exact a
    · exact b

theorem find?_newDirect (now : Time) (different : userAId ≠ userBId) (userId : UserId) :
    (newDirect now userAId userBId).participants.find? userId =
      if userId = userAId ∨ userId = userBId then some (newParticipant now) else none := by
  simp only [newDirect, find?_insert, find?_empty]
  by_cases a : userId = userAId
  · subst a
    simp [different]
  · by_cases b : userId = userBId
    · subst b
      simp [a]
    · simp [a, b]

theorem isChat_newDirect (now : Time) (different : userAId ≠ userBId) {first second : UserId}
    (pair : Pair userAId userBId first second) : IsChat userAId userBId (newDirect now first second) := by
  refine ⟨rfl, rfl, fun userId => ?_⟩
  have apart := pair.apart different
  have same : (userId = first ∨ userId = second) ↔ (userId = userAId ∨ userId = userBId) := by
    obtain ⟨rfl, rfl⟩ | ⟨rfl, rfl⟩ := pair
    · exact Iff.rfl
    · exact or_comm
  rw [Conversation.hasActive, find?_newDirect now apart, ← same]
  by_cases among : userId = first ∨ userId = second
  · simp [among, newParticipant]
  · simp [among]

/-! ## What a call changes -/

/-- The calls of `findOrCreateDirect` for the two users. -/
inductive DirectRequest (userAId userBId : UserId) : MessagingCall → Prop where
  | block (first second : UserId) : DirectRequest userAId userBId (.blockFindFirst first second)
  | find (first second : UserId) : DirectRequest userAId userBId (.conversationFindFirstDirect first second)
  | create (first second : UserId) (pair : Pair userAId userBId first second) :
      DirectRequest userAId userBId (.conversationCreateDirect first second)
  | elapse (milliseconds : Nat) : DirectRequest userAId userBId (.elapse milliseconds)

/-- The tables stay tidy, and the conversations stay as they are. -/
def Grows (s t : State) : Prop :=
  s.Tidy → t.Tidy ∧ ∀ id conversation, s.conversations.find? id = some conversation →
    t.conversations.find? id = some conversation

theorem Grows.refl (s : State) : Grows s s := fun tidy => ⟨tidy, fun _ _ found => found⟩

theorem Grows.trans (first second third : State) (one : Grows first second) (two : Grows second third) :
    Grows first third := by
  intro tidy
  obtain ⟨tidy', kept⟩ := one tidy
  obtain ⟨tidy'', kept'⟩ := two tidy'
  exact ⟨tidy'', fun id conversation found => kept' id conversation (kept id conversation found)⟩

theorem State.Tidy.find?_createDirect (tidy : s.Tidy) (first second : UserId) (id : ConversationId) :
    (s.createDirect first second).conversations.find? id =
      if id = s.deployment.uuid s.fresh then some (newDirect s.now first second)
      else s.conversations.find? id := by
  change (s.conversations.insert _ _).find? id = _
  by_cases new : id = s.deployment.uuid s.fresh
  · rw [if_pos new, new]
    exact find?_insert_self (tidy.fresh s.fresh (Nat.le_refl _)) _
  · rw [if_neg new]
    exact find?_insert_of_ne _ new _

theorem State.Tidy.createDirect (tidy : s.Tidy) {first second : UserId} (different : first ≠ second)
    (one : (s.users.find? first).isSome) (two : (s.users.find? second).isSome) :
    Grows s (s.createDirect first second) := by
  intro _
  -- the participants of the new conversation are the two users
  have among : ∀ userId, ((newDirect s.now first second).participants.find? userId).isSome →
      userId = first ∨ userId = second := by
    intro userId present
    rw [find?_newDirect s.now different] at present
    by_contra neither
    rw [if_neg neither] at present
    cases present
  refine ⟨⟨fun count later => ?_, fun id conversation userId found present => ?_,
    fun id conversation u v w found direct hasU hasV hasW => ?_⟩, fun id conversation found => ?_⟩
  · have drawn : s.fresh + 1 ≤ count := later
    have apart : s.deployment.uuid count ≠ s.deployment.uuid s.fresh := by
      intro same
      have := s.deployment.uuid_injective same
      omega
    change (s.createDirect first second).conversations.find? (s.deployment.uuid count) = none
    rw [tidy.find?_createDirect, if_neg apart]
    exact tidy.fresh count (by omega)
  · change (s.users.find? userId).isSome
    rw [tidy.find?_createDirect] at found
    split at found
    · cases found
      obtain rfl | rfl := among userId present
      · exact one
      · exact two
    · exact tidy.known id conversation userId found present
  · rw [tidy.find?_createDirect] at found
    split at found
    · cases found
      obtain rfl | rfl := among u hasU
      · obtain rfl | rfl := among v hasV
        · exact .inl rfl
        · exact .inr (among w hasW)
      · obtain rfl | rfl := among v hasV
        · exact .inr (among w hasW).symm
        · exact .inl rfl
    · exact tidy.two id conversation u v w found direct hasU hasV hasW
  · rw [tidy.find?_createDirect, if_neg, found]
    rintro rfl
    rw [tidy.fresh s.fresh (Nat.le_refl _)] at found
    cases found

theorem grows_answer (different : userAId ≠ userBId) (request : MessagingCall) (s : State)
    (asked : DirectRequest userAId userBId request) : Grows s (answer request s).2 := by
  cases asked with
  | block | find => exact .refl s
  | elapse milliseconds => exact fun tidy => ⟨⟨tidy.fresh, tidy.known, tidy.two⟩, fun _ _ found => found⟩
  | create first second pair =>
    intro tidy
    have apart := pair.apart different
    cases one : s.users.find? first with
    | none =>
      simp only [answer, one]
      exact Grows.refl s tidy
    | some profile =>
      cases two : s.users.find? second with
      | none =>
        simp only [answer, one, two]
        exact Grows.refl s tidy
      | some profile' =>
        simp only [answer, one, two]
        exact tidy.createDirect apart (Option.isSome_of_eq_some one) (Option.isSome_of_eq_some two) tidy

theorem State.Tidy.users_of_hasDirect (tidy : s.Tidy) {first second : UserId}
    (direct : s.hasDirect first second = true) :
    (s.users.find? first).isSome ∧ (s.users.find? second).isSome := by
  obtain ⟨id, conversation, found, match'⟩ := State.hasDirect_eq_true.mp direct
  obtain ⟨-, -, one, two⟩ := Conversation.isDirectOf_iff.mp match'
  exact ⟨tidy.known id conversation first found (Conversation.participant_of_active one),
    tidy.known id conversation second found (Conversation.participant_of_active two)⟩

/-- A creation adds one chat to those that are there. -/
theorem State.Tidy.hasChat_createDirect (tidy : s.Tidy) (different : userAId ≠ userBId)
    {first second : UserId} (pair : Pair userAId userBId first second) {id : ConversationId} :
    (s.createDirect first second).HasChat userAId userBId id ↔
      id = s.deployment.uuid s.fresh ∨ s.HasChat userAId userBId id := by
  constructor
  · rintro ⟨conversation, found, chat⟩
    rw [tidy.find?_createDirect] at found
    by_cases new : id = s.deployment.uuid s.fresh
    · exact .inl new
    · rw [if_neg new] at found
      exact .inr ⟨conversation, found, chat⟩
  · rintro (rfl | ⟨conversation, found, chat⟩)
    · refine ⟨newDirect s.now first second, ?_, isChat_newDirect s.now different pair⟩
      rw [tidy.find?_createDirect, if_pos rfl]
    · refine ⟨conversation, ?_, chat⟩
      rw [tidy.find?_createDirect, if_neg, found]
      rintro rfl
      rw [tidy.fresh s.fresh (Nat.le_refl _)] at found
      cases found

/-- **A call keeps one chat exactly when it is timely.** -/
theorem oneChat_answer_iff (different : userAId ≠ userBId) (tidy : s.Tidy) (one : s.OneChat userAId userBId)
    {request : MessagingCall} (asked : DirectRequest userAId userBId request) :
    (answer request s).2.OneChat userAId userBId ↔ CreatesFirst request s := by
  cases asked with
  | block | find | elapse => exact ⟨fun _ => trivial, fun _ => one⟩
  | create first second pair =>
    by_cases there : (s.users.find? first).isSome ∧ (s.users.find? second).isSome
    · obtain ⟨profile, here⟩ := Option.isSome_iff_exists.mp there.1
      obtain ⟨profile', here'⟩ := Option.isSome_iff_exists.mp there.2
      simp only [answer, here, here']
      constructor
      · intro still
        -- a chat from before would be a second one
        cases before : s.hasDirect first second with
        | false => exact before
        | true =>
          obtain ⟨id, conversation, found, direct⟩ := State.hasDirect_eq_true.mp before
          have chat : s.HasChat userAId userBId id :=
            ⟨conversation, found, tidy.isChat different pair found direct⟩
          have same := still id (s.deployment.uuid s.fresh)
            ((tidy.hasChat_createDirect different pair).mpr (.inr chat))
            ((tidy.hasChat_createDirect different pair).mpr (.inl rfl))
          rw [same, tidy.fresh s.fresh (Nat.le_refl _)] at found
          cases found
      · intro timely
        have none' : ∀ id, ¬ s.HasChat userAId userBId id := by
          rintro id ⟨conversation, found, chat⟩
          have before := State.hasDirect_eq_true.mpr ⟨id, conversation, found, chat.isDirectOf pair⟩
          rw [timely] at before
          cases before
        intro id id' chat chat'
        have new := ((tidy.hasChat_createDirect different pair).mp chat).resolve_right (none' id)
        have new' := ((tidy.hasChat_createDirect different pair).mp chat').resolve_right (none' id')
        exact new.trans new'.symm
    · have stays : (answer (.conversationCreateDirect first second) s).2 = s := by
        simp only [answer]
        split
        · rename_i profile profile' here here'
          exact absurd ⟨Option.isSome_of_eq_some here, Option.isSome_of_eq_some here'⟩ there
        · rfl
      rw [stays]
      refine ⟨fun _ => ?_, fun _ => one⟩
      cases before : s.hasDirect first second with
      | false => exact before
      | true => exact absurd (tidy.users_of_hasDirect before) there

/-! ## The programs -/

theorem findOrCreateDirect_uses (pair : Pair userAId userBId first second) :
    (findOrCreateDirect first second).Uses (DirectRequest userAId userBId) := by
  refine (uses_throwIf _ _).bind fun _ => ?_
  refine Uses.bind (Uses.send (.block first second) fun _ => uses_throwIf _ _) fun _ => ?_
  refine Uses.send (.find first second) fun existing => ?_
  cases existing with
  | some found => exact uses_done _
  | none =>
    refine Uses.send (.create first second pair) fun reply => ?_
    cases reply <;> trivial

theorem directPool_uses (between : Between userAId userBId calls) (s : State) :
    (directPool calls s).AllUse (DirectRequest userAId userBId) := by
  intro index
  change (calls index).program.Uses (DirectRequest userAId userBId)
  cases shape : calls index with
  | findOrCreateDirect first second =>
    exact (findOrCreateDirect_uses (between index first second shape)).bind fun _ => uses_done _
  | elapse milliseconds => exact ⟨.elapse milliseconds, fun _ => uses_done _⟩

def ReturnsChat (userAId userBId : UserId) (value : Option ConversationDetail) (s : State) : Prop :=
  s.Tidy ∧ ∀ detail, value = some detail → s.HasChat userAId userBId detail.id

theorem ReturnsChat.stays (value : Option ConversationDetail) (s t : State) (grows : Grows s t)
    (returns : ReturnsChat userAId userBId value s) : ReturnsChat userAId userBId value t := by
  obtain ⟨tidy, chats⟩ := returns
  obtain ⟨tidy', kept⟩ := grows tidy
  refine ⟨tidy', fun detail here => ?_⟩
  obtain ⟨conversation, found, chat⟩ := chats detail here
  exact ⟨conversation, kept _ _ found, chat⟩

theorem createDirect_settles (tidy : s.Tidy) (different : userAId ≠ userBId) {first second : UserId}
    (pair : Pair userAId userBId first second) :
    (createDirect first second >>= fun detail => pure (some detail)).Settles answer Grows
      (ReturnsChat userAId userBId) s := by
  intro later grows
  have tidy' := (grows tidy).1
  have grows' := grows_answer different (.conversationCreateDirect first second) later (.create first second pair)
  simp only [answer] at grows' ⊢
  split
  · rename_i profile profile' here here'
    simp only [here, here'] at grows'
    refine ⟨(grows' tidy').1, ?_⟩
    rintro detail ⟨⟩
    exact (tidy'.hasChat_createDirect different pair).mpr (.inl rfl)
  · trivial

/-- **A call that returns, returns a chat of the two users.** -/
theorem findOrCreateDirect_settles (tidy : s.Tidy) (different : userAId ≠ userBId) {first second : UserId}
    (pair : Pair userAId userBId first second) :
    (findOrCreateDirect first second >>= fun detail => pure (some detail)).Settles answer Grows
      (ReturnsChat userAId userBId) s := by
  rw [findOrCreateDirect, throwIf_of_not (pair.apart different)]
  intro later grows
  have tidy' := (grows tidy).1
  cases block : (answer (.blockFindFirst first second) later).1 with
  | true => trivial
  | false =>
    intro later' grows'
    have tidy'' := (grows' tidy').1
    cases existing : (later'.conversations.entries.find? fun entry => entry.2.isDirectOf first second) with
    | none =>
      simp only [answer, existing, Option.map_none]
      exact createDirect_settles tidy'' different pair
    | some entry =>
      simp only [answer, existing, Option.map_some]
      refine ⟨tidy'', ?_⟩
      rintro detail ⟨⟩
      have found := (mem_entries_iff _).mp (List.mem_of_find?_eq_some existing)
      have direct : entry.2.isDirectOf first second = true := by
        simpa using List.find?_some existing
      exact ⟨entry.2, found, tidy''.isChat different pair found direct⟩

theorem directPool_settles (between : Between userAId userBId calls) {s : State} (tidy : s.Tidy)
    (different : userAId ≠ userBId) (index : Index) :
    ((directPool calls s).threads index).Settles answer Grows (ReturnsChat userAId userBId) s := by
  change (calls index).program.Settles answer Grows (ReturnsChat userAId userBId) s
  cases shape : calls index with
  | findOrCreateDirect first second =>
    exact findOrCreateDirect_settles tidy different (between index first second shape)
  | elapse milliseconds =>
    intro later grows
    obtain ⟨tidy', -⟩ := grows tidy
    refine ⟨⟨tidy'.fresh, tidy'.known, tidy'.two⟩, ?_⟩
    rintro detail ⟨⟩

theorem tidy_throughout [DecidableEq Index] {calls : Index → DirectCall} (different : userAId ≠ userBId)
    (between : Between userAId userBId calls) {s : State} (tidy : s.Tidy) (schedule : List Index) :
    Throughout (advance answer) (fun pool => pool.store.Tidy) (directPool calls s) schedule := by
  have keeps : ∀ request (store : State), DirectRequest userAId userBId request → store.Tidy →
      True → (answer request store).2.Tidy :=
    fun request store asked held _ => (grows_answer different request store asked held).1
  have always := throughout_iff_obliged keeps (fun _ _ _ _ never => absurd trivial never)
    (directPool_uses between s) tidy schedule
  refine always.mpr (eachStep_of_forall_mem (fun _ _ _ _ _ => ?_) _)
  trivial

/-- **Two users have at most one chat throughout, and every call that returns has returned it,
exactly when every creation still finds none.** -/
theorem one_chat_iff [DecidableEq Index] {calls : Index → DirectCall} (different : userAId ≠ userBId)
    (between : Between userAId userBId calls) {s : State} (tidy : s.Tidy)
    (one : s.OneChat userAId userBId) (schedule : List Index) :
    Throughout (advance answer) (OneChatReturned userAId userBId) (directPool calls s) schedule ↔
      EachStep (advance answer) (Obliged CreatesFirst) (directPool calls s) schedule := by
  have uses := directPool_uses between s
  let kept (s : State) : Prop := s.Tidy ∧ s.OneChat userAId userBId
  have start : kept (directPool calls s).store := ⟨tidy, one⟩
  have keeps : ∀ request store, DirectRequest userAId userBId request → kept store →
      CreatesFirst request store → kept (answer request store).2 :=
    fun request store asked held timely => ⟨(grows_answer different request store asked held.1).1,
      (oneChat_answer_iff different held.1 held.2 asked).mpr timely⟩
  have breaks : ∀ request store, DirectRequest userAId userBId request → kept store →
      ¬ CreatesFirst request store → ¬ kept (answer request store).2 :=
    fun request store asked held late after =>
      late ((oneChat_answer_iff different held.1 held.2 asked).mp after.2)
  rw [← throughout_iff_obliged keeps breaks uses start schedule]
  constructor
  · intro holds
    exact (holds.and (tidy_throughout different between tidy schedule)).mono fun pool both =>
      ⟨both.2, both.1.1⟩
  · intro holds
    have settled := throughout_settled Grows.refl Grows.trans
      (fun request store asked => grows_answer different request store asked) ReturnsChat.stays uses
      (directPool_settles between tidy different) schedule
    exact (holds.and settled).mono fun pool both =>
      ⟨both.1.2, fun index detail returned => (both.2 index (some detail) returned).2 detail rfl⟩

/-! ## Two calls -/

def noChatYet : State := { smallInstallation with conversations := .empty }

/-- Each of the two opens the chat. -/
def bothOpen : Bool → DirectCall
  | false => .findOrCreateDirect 1 2
  | true => .findOrCreateDirect 2 1

theorem bothOpen_between : Between 1 2 bothOpen := by
  intro index first second opened
  cases index with
  | false =>
    cases opened
    exact .inl ⟨rfl, rfl⟩
  | true =>
    cases opened
    exact .inr ⟨rfl, rfl⟩

theorem noChatYet_tidy : noChatYet.Tidy where
  fresh := fun _ _ => rfl
  known := fun _ _ _ found => nomatch found
  two := fun _ _ _ _ _ found => nomatch found

theorem noChatYet_oneChat : noChatYet.OneChat 1 2 := by
  rintro first second ⟨conversation, found, -⟩
  cases found

/-- Rider 2 opens the chat after rider 1 has. -/
theorem one_chat_small :
    Throughout (advance answer) (OneChatReturned 1 2) (directPool bothOpen noChatYet)
        [false, false, false, true, true] ↔
      EachStep (advance answer) (Obliged CreatesFirst) (directPool bothOpen noChatYet)
        [false, false, false, true, true] :=
  one_chat_iff (by decide) bothOpen_between noChatYet_tidy noChatYet_oneChat _

/-- Both look before either creates, and the chat splits in two. -/
theorem chat_splits :
    ¬ ∀ schedule : List Bool,
      Throughout (advance answer) (OneChatReturned 1 2) (directPool bothOpen noChatYet) schedule := by
  intro claim
  obtain ⟨-, returned⟩ := (claim [false, false, true, true, false, true]).last
  have one := (claim [false, false, true, true, false, true]).last.1
  have first : ((follow (advance answer) (directPool bothOpen noChatYet)
      [false, false, true, true, false, true]).threads false).value?.map
        (fun result => result.map ConversationDetail.id) = some (some "") := by
    decide +kernel
  have second : ((follow (advance answer) (directPool bothOpen noChatYet)
      [false, false, true, true, false, true]).threads true).value?.map
        (fun result => result.map ConversationDetail.id) = some (some "a") := by
    decide +kernel
  obtain ⟨result, value, id⟩ := Option.map_eq_some_iff.mp first
  obtain ⟨detail, rfl, id⟩ := Option.map_eq_some_iff.mp id
  obtain ⟨result', value', id'⟩ := Option.map_eq_some_iff.mp second
  obtain ⟨detail', rfl, id'⟩ := Option.map_eq_some_iff.mp id'
  have chat := returned false detail (value?_eq_some.mp value)
  have chat' := returned true detail' (value?_eq_some.mp value')
  have same : "" = "a" := (Option.some.inj id).symm.trans ((one _ _ chat chat').trans (Option.some.inj id'))
  exact absurd same (by decide)

end Motogram.Messaging
