import Motogram.Fanout.Service

/-!
# A signed request is let through once

The signed text is the time stamp, the nonce and the body with dots between them, and a body may have
dots of its own. Still it is read one way only (`one_reading`): a time stamp that held the nonce would
have four minus signs, and no number has more than two; a nonce that held a part of the body would leave
a text that is no body.

The time stamp of a request is at most thirty seconds from the clock, before or after, so a request is
fresh for sixty seconds at most, and its nonce is taken for as long (`authentic`). The signature is one
of the body as it was parsed and written again: where a numeral is too large the body that was signed
has `null` in its place (`infinite_for_null`).
-/

set_option autoImplicit false

namespace Motogram.Fanout

open Foundation Function

variable {hmac : String → String → List UInt8} {secret : Option String}

/-! ## The signed text -/

theorem toList_signedText (ts nonce bodyStr : String) :
    (signedText ts nonce bodyStr).toList = ts.toList ++ '.' :: (nonce.toList ++ '.' :: bodyStr.toList) := by
  simp [signedText]

theorem toList_stringify (body : Body) : (stringify body).toList = JsonText.write JsNumber.write body := by
  rw [stringify, String.toList_ofList]

theorem cut_of_dot {first second rest rest' : List Char} (noDot : '.' ∉ first)
    (same : first ++ '.' :: rest = second ++ '.' :: rest') :
    (first = second ∧ rest = rest') ∨ ∃ more, second = first ++ '.' :: more ∧ rest = more ++ '.' :: rest' := by
  obtain ⟨more, rfl, tail⟩ | ⟨more, rfl, tail⟩ := List.append_eq_append_iff.mp same
  · cases more with
    | nil =>
      cases tail
      exact .inl ⟨(List.append_nil first).symm, rfl⟩
    | cons c more =>
      cases tail
      exact .inr ⟨more, rfl, rfl⟩
  · cases more with
    | nil =>
      cases tail
      exact .inl ⟨List.append_nil second, rfl⟩
    | cons c more =>
      cases tail
      exact absurd (List.mem_append_right second List.mem_cons_self) noDot

theorem no_dot_in_digits {c : Char} {value : Nat} (member : c ∈ (toString value).toList) : c ≠ '.' := by
  rw [Nat.toString_eq_repr, Nat.toList_repr] at member
  rintro rfl
  cases isDigit_of_mem_toDigits member

theorem no_dot_in_hexDigits {width value : Nat} : '.' ∉ hexDigits width value := by
  intro member
  obtain ⟨place, -, same⟩ := List.mem_map.mp member
  exact Nat.digitChar_ne _ (by decide) same

theorem no_dot_in_uuidText (id : Nat) : '.' ∉ (uuidText id).toList := by
  rw [uuidText, String.toList_ofList]
  simp [no_dot_in_hexDigits]

theorem minus_of_uuidText (id : Nat) : 4 ≤ (uuidText id).toList.count '-' := by
  rw [uuidText, String.toList_ofList]
  simp only [List.count_append, List.count_cons_self]
  omega

variable {s : State} {message : Message} {request : InternalRequest}

/-- **The signed text of a sender is read one way only**: a time stamp that is a number, a nonce and the
text of a body that give it are those of the message. -/
theorem one_reading (sent : message.Sent) {ts nonce : String} {body : Body} {t : ℚ}
    (number : finiteNumber ts = some t) (same : message.text = signedText ts nonce (stringify body)) :
    message.ts = ts ∧ message.nonce = nonce ∧ stringify message.body = stringify body := by
  obtain ⟨now, stamp⟩ := sent.ts
  obtain ⟨id, uuid⟩ := sent.nonce
  obtain ⟨fields, object⟩ := sent.body
  have letters := congrArg String.toList same
  rw [Message.text, toList_signedText, toList_signedText] at letters
  have noDot : '.' ∉ message.ts.toList := by
    rw [stamp]
    exact fun member => no_dot_in_digits member rfl
  have noDot' : '.' ∉ message.nonce.toList := by
    rw [uuid]
    exact no_dot_in_uuidText id
  obtain ⟨first, rest⟩ | ⟨more, longer, rest⟩ := cut_of_dot noDot letters
  · obtain ⟨second, last⟩ | ⟨more, -, last⟩ := cut_of_dot noDot' rest
    · exact ⟨String.toList_injective first, String.toList_injective second, String.toList_injective last⟩
    · -- what is taken for the body follows a dot in the text of an object
      rw [toList_stringify, toList_stringify, object] at last
      exact absurd last (JsonText.not_text_after_dot numberText_write fields body more)
  · -- the time stamp has all of the nonce in it
    have few := minus_of_finiteNumber number
    have many := minus_of_uuidText id
    rw [← uuid] at many
    have within : message.nonce.toList.count '-' ≤ more.count '-' := by
      obtain ⟨inner, -⟩ | ⟨more', inner, -⟩ := cut_of_dot noDot' rest
      · rw [inner]
      · rw [inner, List.count_append]
        exact Nat.le_add_right _ _
    rw [longer, List.count_append, List.count_cons_of_ne (by decide)] at few
    omega

/-! ## What the guard lets through -/

/-- The request carries the time stamp and the nonce of the message, and a body that is written as the
one that was signed. -/
def Carries (request : InternalRequest) (message : Message) : Prop :=
  request.ts = some message.ts ∧ request.nonce = some message.nonce ∧
    stringify request.bodyOrEmpty = stringify message.body

instance (request : InternalRequest) (message : Message) : Decidable (Carries request message) :=
  inferInstanceAs (Decidable (_ ∧ _))

theorem headers_eq_some {ts nonce sig : String} (headers : request.headers = some (ts, nonce, sig)) :
    request.ts = some ts ∧ request.nonce = some nonce ∧ request.sig = some sig := by
  obtain ⟨ts', stamp, headers⟩ := Option.bind_eq_some_iff.mp headers
  obtain ⟨nonce', uuid, headers⟩ := Option.bind_eq_some_iff.mp headers
  obtain ⟨sig', signature, headers⟩ := Option.bind_eq_some_iff.mp headers
  cases headers
  exact ⟨(Option.filter_eq_some_iff.mp stamp).1, (Option.filter_eq_some_iff.mp uuid).1,
    (Option.filter_eq_some_iff.mp signature).1⟩

/-- Nobody forges a signature: one that fits is of a text that a sender has signed. -/
def Unforged (hmac : String → String → List UInt8) (secret : Option String) (s : State) : Event → Prop
  | .handle request =>
    ∀ ts nonce sig key, request.headers = some (ts, nonce, sig) → secret = some key →
      fromHex sig.toList = hmac key (signedText ts nonce (stringify request.bodyOrEmpty)) →
        ∃ message ∈ s.signed, message.text = signedText ts nonce (stringify request.bodyOrEmpty)
  | _ => True

theorem signed_handle (s : State) (request : InternalRequest) :
    (step hmac secret s (.handle request)).signed = s.signed := by
  unfold step
  dsimp only
  split <;> rfl

theorem mem_signed_step (event : Event) (signed : message ∈ s.signed) :
    message ∈ (step hmac secret s event).signed := by
  cases event with
  | elapse milliseconds => exact signed
  | emit dispatch => exact List.mem_append_left _ signed
  | handle request =>
    rw [signed_handle]
    exact signed

theorem mem_accepted {keys : NonceKeys} (through : canActivate hmac secret s.now request s.keys = .ok keys) :
    { time := s.now, request := request } ∈ (step hmac secret s (.handle request)).accepted := by
  simp only [step, through]
  exact List.mem_append_right _ (List.mem_singleton_self _)

/-- Each request that was let through carries a signed message, no two the same one, and its nonce is
taken until sixty seconds after it. -/
structure Sound (s : State) : Prop where
  sent : ∀ message ∈ s.signed, message.Sent
  carried : ∀ acceptance ∈ s.accepted, ∃ message ∈ s.signed, Carries acceptance.request message
  taken : ∀ acceptance ∈ s.accepted, ∃ ts nonce t last,
    acceptance.request.ts = some ts ∧ acceptance.request.nonce = some nonce ∧
      finiteNumber ts = some t ∧ |(acceptance.time : ℚ) - t| ≤ 30000 ∧
        s.keys (nonceKey nonce) = some last ∧ acceptance.time + 60000 ≤ last
  once : ∀ message, s.accepted.countP (fun acceptance => Carries acceptance.request message) ≤ 1

theorem sound_start (now : Time) (keys : NonceKeys) : Sound (start now keys) where
  sent := fun _ => nofun
  carried := fun _ => nofun
  taken := fun _ => nofun
  once := fun _ => Nat.zero_le 1

/-- While the time stamp of a request is fresh, its nonce is taken. -/
theorem not_carried_again (sound : Sound s) {request : InternalRequest} {ts nonce sig : String}
    (admits : Admits hmac secret s.now request s.keys ts nonce sig) {message : Message}
    (carries : Carries request message) {acceptance : Acceptance} (earlier : acceptance ∈ s.accepted) :
    ¬ Carries acceptance.request message := by
  intro again
  obtain ⟨ts', nonce', t, last, stamp, uuid, number, fresh, key, late⟩ := sound.taken acceptance earlier
  obtain ⟨stamp', uuid', -⟩ := headers_eq_some admits.headers
  have sameStamp : ts' = ts := by
    rw [again.1, ← carries.1, stamp'] at stamp
    exact (Option.some.inj stamp).symm
  have sameNonce : nonce' = nonce := by
    rw [again.2.1, ← carries.2.1, uuid'] at uuid
    exact (Option.some.inj uuid).symm
  subst sameStamp sameNonce
  obtain ⟨t', number', fresh'⟩ := admits.fresh
  obtain rfl := Option.some.inj (number.symm.trans number')
  have past : last < s.now := admits.unused last key
  have within : (s.now : ℚ) ≤ acceptance.time + 60000 := by
    have before := (abs_le.mp fresh).1
    have after := (abs_le.mp fresh').2
    linarith
  have within' : s.now ≤ acceptance.time + 60000 := by exact_mod_cast within
  have some_time : acceptance.time + 60000 < s.now := late.trans_lt past
  exact absurd within' (Nat.not_le.mpr some_time)

theorem sound_step (s : State) (event : Event) (sound : Sound s) (unforged : Unforged hmac secret s event) :
    Sound (step hmac secret s event) := by
  cases event with
  | elapse milliseconds => exact { sound with }
  | emit dispatch =>
    refine { sound with sent := ?_, carried := ?_ }
    · intro message member
      obtain old | new := List.mem_append.mp member
      · exact sound.sent message old
      · obtain ⟨posting, posted, rfl⟩ := Option.map_eq_some_iff.mp (Option.mem_toList.mp new)
        exact sent_of_posting hmac posted
    · intro acceptance member
      obtain ⟨message, signed, carries⟩ := sound.carried acceptance member
      exact ⟨message, mem_signed_step (.emit dispatch) signed, carries⟩
  | handle request =>
    cases through : canActivate hmac secret s.now request s.keys with
    | error refusal =>
      simp only [step, through]
      exact sound
    | ok keys =>
      obtain ⟨ts, nonce, sig, admits, rfl⟩ := (canActivate_eq_ok hmac).mp through
      obtain ⟨stamp, uuid, -⟩ := headers_eq_some admits.headers
      obtain ⟨t, number, fresh⟩ := admits.fresh
      obtain ⟨key, shared, -, signature⟩ := admits.signature
      obtain ⟨message, signed, text⟩ := unforged ts nonce sig key admits.headers shared signature
      obtain ⟨sameStamp, sameNonce, sameBody⟩ := one_reading (sound.sent message signed) number text
      have carries : Carries request message :=
        ⟨stamp.trans (congrArg some sameStamp.symm), uuid.trans (congrArg some sameNonce.symm),
          sameBody.symm⟩
      simp only [step, through]
      refine ⟨sound.sent, ?_, ?_, ?_⟩
      · intro acceptance member
        obtain old | new := List.mem_append.mp member
        · exact sound.carried acceptance old
        · rw [List.mem_singleton.mp new]
          exact ⟨message, signed, carries⟩
      · intro acceptance member
        obtain old | new := List.mem_append.mp member
        · obtain ⟨ts', nonce', t', last, stamp', uuid', number', fresh', taken, late⟩ :=
            sound.taken acceptance old
          by_cases same : nonceKey nonce' = nonceKey nonce
          · -- the key is set anew, for longer than it was
            have past : last < s.now := admits.unused last (same ▸ taken)
            refine ⟨ts', nonce', t', s.now + 60000, stamp', uuid', number', fresh', ?_, ?_⟩
            · exact (congrArg _ same).trans (update_self _ _ _)
            · exact late.trans (past.le.trans (Nat.le_add_right _ _))
          · exact ⟨ts', nonce', t', last, stamp', uuid', number', fresh',
              (update_of_ne same _ _).trans taken, late⟩
        · rw [List.mem_singleton.mp new]
          exact ⟨ts, nonce, t, s.now + 60000, stamp, uuid, number, fresh, update_self _ _ _,
            le_rfl⟩
      · intro other
        rw [List.countP_append, List.countP_singleton]
        by_cases carriesOther : Carries request other
        · have none_before : s.accepted.countP (fun acceptance => Carries acceptance.request other) = 0 := by
            rw [List.countP_eq_zero]
            intro acceptance earlier
            exact decide_eq_false (not_carried_again sound admits carriesOther earlier) ▸ Bool.false_ne_true
          rw [none_before, if_pos (decide_eq_true carriesOther)]
        · rw [if_neg (decide_eq_false carriesOther ▸ Bool.false_ne_true)]
          exact sound.once other

/-! ## One message -/

def sharedSecret : String := "0123456789abcdef0123456789abcdef"

/-- A message for a user whose socket is on another replica. -/
def ended (data : Body) : Dispatch where
  serverHostname := "api-1"
  member := some
    { role := .member, isOnline := true, joinedAt := 0, leftAt := none, serverHostname := some "api-2" }
  userId := 7
  event := "party:ended"
  data := some data
  nonce := 1
  status := some 200

/-- The time stamp, the nonce and the body that are signed for it. -/
def endedMessage : Message where
  ts := "1700000000000"
  nonce := "00000000-0000-0000-0000-000000000001"
  body := (ended .null).body

/-- The digest of that text under that secret. -/
def endedHmac (key text : String) : List UInt8 :=
  if key = sharedSecret ∧ text = endedMessage.text then
    [155, 75, 247, 211, 72, 224, 0, 240, 94, 244, 132, 22, 19, 247, 73, 133, 61, 116, 195, 31, 19, 102, 68,
      212, 56, 247, 39, 174, 20, 51, 231, 8]
  else []

/-- The request that is posted, perhaps with other data in it. -/
def endedRequest (data : Body) : InternalRequest where
  ts := some endedMessage.ts
  nonce := some endedMessage.nonce
  sig := some "9b4bf7d348e000f05ef4841613f749853d74c31f136644d438f727ae1433e708"
  body := some (ended data).body

theorem signed_ended : (step endedHmac (some sharedSecret) (start 1700000000000 fun _ => none)
    (.emit (ended .null))).signed = [endedMessage] := by
  have stamp : toString 1700000000000 = endedMessage.ts := by decide +kernel
  have uuid : uuidText 1 = endedMessage.nonce := by decide +kernel
  simp only [step, start, emitToPartyUser, ended]
  rw [uuid]
  rfl

theorem mem_signed_ended : endedMessage ∈ (step endedHmac (some sharedSecret)
    (start 1700000000000 fun _ => none) (.emit (ended .null))).signed :=
  signed_ended ▸ List.mem_singleton_self _

/-- The request is not forged, whatever data are in it, as long as they are written as those signed. -/
theorem unforged_ended {data : Body} {s : State} (signed : endedMessage ∈ s.signed)
    (same : stringify (ended data).body = stringify endedMessage.body) :
    Unforged endedHmac (some sharedSecret) s (.handle (endedRequest data)) := by
  intro ts nonce sig key headers shared signature
  obtain ⟨stamp, uuid, -⟩ := headers_eq_some headers
  cases stamp
  cases uuid
  exact ⟨endedMessage, signed, congrArg (signedText _ _) same.symm⟩

/-! ## Every run -/

/-- Every request that was let through carries a message that a sender signed, and no message is carried
by two of them. -/
structure Authentic (s : State) : Prop where
  signed : ∀ acceptance ∈ s.accepted, ∃ message ∈ s.signed, Carries acceptance.request message
  once : ∀ message ∈ s.signed,
    s.accepted.countP (fun acceptance => Carries acceptance.request message) ≤ 1

/-- **Only signed messages are let through, each of them once**, when signatures are not forged. -/
theorem authentic (now : Time) (keys : NonceKeys) (events : List Event)
    (unforged : EachStep (step hmac secret) (Unforged hmac secret) (start now keys) events) :
    Throughout (step hmac secret) Authentic (start now keys) events := by
  have sound : Throughout (step hmac secret) Sound (start now keys) events :=
    throughout_of_keeps sound_step (sound_start now keys) unforged
  exact sound.mono fun s sound => ⟨sound.carried, fun message _ => sound.once message⟩

/-- The message is posted to the other replica, let through there, and half a minute later not again. -/
theorem authentic_small :
    let events : List Event := [.emit (ended .null), .elapse 500, .handle (endedRequest .null),
      .elapse 29500, .handle (endedRequest .null)]
    Throughout (step endedHmac (some sharedSecret)) Authentic (start 1700000000000 fun _ => none) events ∧
      (follow (step endedHmac (some sharedSecret)) (start 1700000000000 fun _ => none) events).accepted.length
        = 1 := by
  have signed := mem_signed_ended
  refine ⟨authentic _ _ _ ⟨trivial, trivial, unforged_ended ?_ rfl, trivial, unforged_ended ?_ rfl, trivial⟩,
    by decide +kernel⟩
  · exact mem_signed_step _ signed
  · exact mem_signed_step _ (mem_signed_step _ (mem_signed_step _ signed))

/-- A body whose numeral is read as infinite is let through under the signature of one with `null`. -/
theorem infinite_for_null :
    ¬ ∀ (hmac : String → String → List UInt8) (secret : Option String) (now : Time) (keys : NonceKeys)
        (events : List Event),
      EachStep (step hmac secret) (Unforged hmac secret) (start now keys) events →
        Throughout (step hmac secret)
          (fun s => ∀ acceptance ∈ s.accepted, ∃ message ∈ s.signed,
            acceptance.request.ts = some message.ts ∧ acceptance.request.nonce = some message.nonce ∧
              acceptance.request.body = some message.body)
          (start now keys) events := by
  intro all
  have holds := all endedHmac (some sharedSecret) 1700000000000 (fun _ => none)
    [.emit (ended .null), .handle (endedRequest (.number (.infinite false)))]
    ⟨trivial, unforged_ended mem_signed_ended rfl, trivial⟩
  have through : (canActivate endedHmac (some sharedSecret) 1700000000000
      (endedRequest (.number (.infinite false))) fun _ => none).toOption.isSome = true := by
    decide +kernel
  cases admitted : canActivate endedHmac (some sharedSecret) 1700000000000
      (endedRequest (.number (.infinite false))) fun _ => none with
  | error refusal =>
    rw [admitted] at through
    cases through
  | ok keys =>
    obtain ⟨message, signed, -, -, same⟩ := holds.last
      { time := 1700000000000, request := endedRequest (.number (.infinite false)) } (mem_accepted admitted)
    change message ∈ (step _ _ _ (.handle _)).signed at signed
    rw [signed_handle] at signed
    rw [List.mem_singleton.mp signed] at same
    cases same

end Motogram.Fanout
