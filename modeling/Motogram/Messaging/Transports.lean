import Motogram.Messaging.Schemas

/-!
# Two transports for one message

A message can be sent by the socket message `message:send` and by a REST route, and a
reaction by `message:react` and by another route. The schemas of the socket messages
leave out what the REST schemas refine, and they ask for the type of the message, which
the REST schema has a default for.

For a payload whose fields both schemas read alike (`WellFormed`), the handler of the
socket message passes a message on exactly when the type is given and the invite, when
given, is an object; the REST route does exactly when the message carries what its type
calls for. So the transports agree exactly when a well-formed payload does both or
neither (`transports_agree_iff`), and then they store the same.
-/

set_option autoImplicit false

namespace Motogram.Messaging

open Foundation Program Option

variable {zod : Zod} {raw : Json}

/-! ## The body of the REST route -/

/-- A field under another name, when it is there. -/
def renamed (raw : Json) (name as' : String) : List (String × Json) :=
  ((raw.field name).map fun value => (as', value)).toList

/-- `inviteData` as the invite that the type calls for. -/
def calledInvite (raw : Json) : List (String × Json) :=
  match raw.field "messageType" with
  | some (.string "RIDE_INVITE") => renamed raw "inviteData" "rideInvite"
  | some (.string "EVENT_INVITE") => renamed raw "inviteData" "eventInvite"
  | _ => []

/-- The body with the fields of a payload of `message:send`. -/
def restBody (raw : Json) : Json :=
  .object (renamed raw "clientId" "clientId" ++ renamed raw "messageType" "messageType" ++
    renamed raw "content" "content" ++ renamed raw "mediaUrls" "mediaUrls" ++ calledInvite raw)

/-- The body with the fields of a payload of `message:react`. -/
def restReactBody (raw : Json) : Json :=
  .object (renamed raw "emoji" "emoji" ++ renamed raw "remove" "remove")

def textField (raw : Json) (name : String) : Option String :=
  match raw.field name with
  | some (.string text) => some text
  | _ => none

/-- The message the REST route would send for the payload. -/
def restMessage (zod : Zod) (raw : Json) : Option SendMessageDto := do
  let conversationId ← textField raw "conversationId"
  (parseSendMessage zod (injected (restBody raw) "conversationId" conversationId)).toOption

/-- The reaction the REST route would make for the payload. -/
def restReaction (zod : Zod) (raw : Json) : Option ReactMessageDto := do
  let messageId ← textField raw "messageId"
  reactMessageSchema zod (some (injected (restReactBody raw) "messageId" messageId))

/-! ## Agreement -/

/-- Both transports pass a message on or neither does, and both then do the same to the
stores. -/
structure SendsAlike (zod : Zod) (raw : Json) : Prop where
  accepted : (wsSendMessage zod raw).toOption.isSome ↔ (restMessage zod raw).isSome
  stored : ∀ userId conversationId s, textField raw "conversationId" = some conversationId →
    (wsSendMessage zod raw).toOption.isSome →
      ((handleSend zod userId raw).exec s).2 =
        ((restSend zod userId conversationId (restBody raw)).exec s).2

/-- Both transports accept a reaction or neither does, and both then do the same to the
stores. -/
structure ReactsAlike (zod : Zod) (raw : Json) : Prop where
  accepted : (wsMessageReactSchema zod (some raw)).isSome ↔ (restReaction zod raw).isSome
  stored : ∀ userId messageId s, textField raw "messageId" = some messageId →
    (wsMessageReactSchema zod (some raw)).isSome →
      ((handleReact zod userId raw).exec s).2 =
        ((restReact zod userId messageId (restReactBody raw)).exec s).2

/-! ## What a payload is like -/

/-- The name of the type; `TEXT` when none is given. -/
def typeName (raw : Json) : String := (textField raw "messageType").getD "TEXT"

def TextField (raw : Json) (name : String) (check : String → Bool) : Prop :=
  ∃ text, raw.field name = some (.string text) ∧ check text = true

def IsRideInvite (zod : Zod) (data : Json) : Prop :=
  data.isObject = true ∧ TextField data "partyId" zod.uuid ∧
    TextField data "partyName" (fun _ => true) ∧ TextField data "leaderName" (fun _ => true) ∧
      (data.field "routeId" = none ∨ TextField data "routeId" zod.uuid)

def IsEventInvite (zod : Zod) (data : Json) : Prop :=
  data.isObject = true ∧ TextField data "eventId" zod.uuid ∧
    TextField data "title" (fun _ => true) ∧ TextField data "meetingPointName" (fun _ => true) ∧
      TextField data "startTime" (fun _ => true)

/-- The fields that both schemas read are well formed, and so is the invite when the type
calls for it and it is there. -/
structure WellFormed (zod : Zod) (raw : Json) : Prop where
  object : raw.isObject = true
  conversationId : TextField raw "conversationId" zod.uuid
  clientId : TextField raw "clientId" zod.uuid
  messageType : raw.field "messageType" = none ∨
    TextField raw "messageType" fun name => decide (name ∈ messageTypeNames.map Prod.fst)
  content : raw.field "content" = none ∨
    TextField raw "content" fun text => decide (jsLength text ≤ 4000)
  mediaUrls : raw.field "mediaUrls" = none ∨ ∃ items, raw.field "mediaUrls" = some (.array items) ∧
    items.length ≤ 10 ∧ ∀ item ∈ items, ∃ url, item = .string url ∧ zod.url url = true
  rideInvite : typeName raw = "RIDE_INVITE" → ∀ data, raw.field "inviteData" = some data →
    IsRideInvite zod data
  eventInvite : typeName raw = "EVENT_INVITE" → ∀ data, raw.field "inviteData" = some data →
    IsEventInvite zod data

/-- What the schema of the socket message alone asks for: the type is given, and the
invite, when given, is an object. -/
def GivesType (raw : Json) : Prop :=
  raw.field "messageType" ≠ none ∧ ∀ data, raw.field "inviteData" = some data → data.isObject = true

/-- There is a text that is not blank. -/
def HasText (raw : Json) : Prop := TextField raw "content" fun text => decide (jsTrim text ≠ "")

def HasMedia (raw : Json) : Prop :=
  ∃ items, raw.field "mediaUrls" = some (.array items) ∧ items ≠ []

/-- What the REST schema alone asks for: the payload carries what its type calls for. -/
def Carries (raw : Json) : Prop :=
  match typeName raw with
  | "TEXT" => HasText raw
  | "IMAGE" | "VIDEO" | "FILE" => HasMedia raw
  | "RIDE_INVITE" | "EVENT_INVITE" => raw.field "inviteData" ≠ none
  | _ => HasText raw ∨ HasMedia raw

structure WellFormedReaction (zod : Zod) (raw : Json) : Prop where
  object : raw.isObject = true
  messageId : TextField raw "messageId" zod.uuid
  emoji : TextField raw "emoji" fun text =>
    decide (1 ≤ jsLength text) && decide (jsLength text ≤ 16)
  remove : raw.field "remove" = none ∨ ∃ value, raw.field "remove" = some (.bool value)

/-! ## The fields both schemas read -/

/-- An invite, read when the type calls for it. -/
def called {α : Type} (isCalled : Prop) [Decidable isCalled] (schema : Schema α) :
    Schema (Option α) := fun input =>
  if isCalled then Schema.optional schema input else some none

/-- What both schemas read of a payload. -/
def sharedMessage (zod : Zod) (raw : Json) : Option SendMessageDto := do
  let value ← Schema.object (some raw)
  let conversationId ← Schema.string zod.uuid (value.field "conversationId")
  let clientId ← Schema.string zod.uuid (value.field "clientId")
  let messageType ←
    Schema.withDefault .text (Schema.enumeration messageTypeNames) (value.field "messageType")
  let content ← contentSchema (value.field "content")
  let mediaUrls ← mediaUrlsSchema zod (value.field "mediaUrls")
  let rideInvite ←
    called (messageType = .rideInvite) (rideInviteDataSchema zod) (value.field "inviteData")
  let eventInvite ←
    called (messageType = .eventInvite) (eventInviteDataSchema zod) (value.field "inviteData")
  some ⟨conversationId, clientId, messageType, content, mediaUrls, rideInvite, eventInvite⟩

def sharedInvites (zod : Zod) (inviteData : Option Json) (payload : WsMessageSend) :
    Option SendMessageDto := do
  let rideInvite ← called (payload.messageType = .rideInvite) (rideInviteDataSchema zod) inviteData
  let eventInvite ← called (payload.messageType = .eventInvite) (eventInviteDataSchema zod) inviteData
  some (payload.dto rideInvite eventInvite)

theorem withInvite_eq (payload : WsMessageSend) :
    (payload.withInvite zod).toOption = sharedInvites zod payload.inviteData payload := by
  obtain ⟨conversationId, clientId, messageType, content, mediaUrls, inviteData, timestamp⟩ := payload
  cases inviteData with
  | none => cases messageType <;> rfl
  | some data =>
    cases messageType with
    | rideInvite =>
      simp only [WsMessageSend.withInvite, sharedInvites, called, Schema.optional]
      cases rideInviteDataSchema zod (some data) <;> rfl
    | eventInvite =>
      simp only [WsMessageSend.withInvite, sharedInvites, called, Schema.optional]
      cases eventInviteDataSchema zod (some data) <;> rfl
    | _ => rfl

theorem wsSendMessage_toOption (zod : Zod) (raw : Json) :
    (wsSendMessage zod raw).toOption = (wsMessageSendSchema zod (some raw)).bind fun payload =>
      sharedInvites zod payload.inviteData payload := by
  rw [wsSendMessage]
  cases wsMessageSendSchema zod (some raw) with
  | none => rfl
  | some payload => exact withInvite_eq payload

/-- An object is read as it is, and nothing else is read. -/
theorem optional_object (input : Option Json) :
    ((∀ data, input = some data → data.isObject = true) →
        Schema.optional Schema.object input = some input) ∧
      (¬ (∀ data, input = some data → data.isObject = true) →
        Schema.optional Schema.object input = none) := by
  cases input with
  | none => exact ⟨fun _ => rfl, fun absent => absurd (fun data => by rintro ⟨⟩) absent⟩
  | some data =>
    cases data with
    | object fields =>
      refine ⟨fun _ => rfl, fun other => absurd (fun data => ?_) other⟩
      rintro ⟨⟩
      rfl
    | _ => exact ⟨fun isObject => absurd (isObject _ rfl) Bool.false_ne_true, fun _ => rfl⟩

/-- With a valid time stamp, the socket handler passes on what both read, when the type is
given and the invite is an object. -/
theorem wsSendMessage_eq (zod : Zod) (timestamp : (Schema.positiveInt (raw.field "clientTimestamp")).isSome) :
    (GivesType raw → (wsSendMessage zod raw).toOption = sharedMessage zod raw) ∧
      (¬ GivesType raw → (wsSendMessage zod raw).toOption = none) := by
  obtain ⟨clientTimestamp, valid⟩ := isSome_iff_exists.mp timestamp
  rw [wsSendMessage_toOption]
  cases raw with
  | object fields =>
    obtain ⟨isRead, isRefused⟩ := optional_object ((Json.object fields).field "inviteData")
    simp only [wsMessageSendSchema, sharedMessage, Schema.object, valid, Option.bind_eq_bind,
      Option.bind_assoc, Option.bind_some, sharedInvites]
    rw [GivesType]
    cases (Json.object fields).field "messageType" with
    | none =>
      have untyped : Schema.enumeration messageTypeNames none = none := rfl
      refine ⟨fun gives => absurd rfl gives.1, fun _ => ?_⟩
      simp only [untyped, Option.bind_none, Option.bind_fun_none]
    | some name =>
      refine ⟨fun gives => ?_, fun ungiven => ?_⟩
      · simp only [isRead gives.2, Option.bind_some]
        rfl
      · have other := fun isObject => ungiven ⟨Option.some_ne_none name, isObject⟩
        simp only [isRefused other, Option.bind_none, Option.bind_fun_none]
  | _ => exact ⟨fun _ => rfl, fun _ => rfl⟩

theorem lookup_renamed (raw : Json) (name as' other : String) :
    Json.lookup other (renamed raw name as') = if as' = other then raw.field name else none := by
  rw [renamed]
  cases raw.field name with
  | none | some => simp [Json.lookup]

theorem lookup_calledInvite (raw : Json) (name : String) :
    Json.lookup name (calledInvite raw) =
      if textField raw "messageType" = some "RIDE_INVITE" ∧ name = "rideInvite" ∨
          textField raw "messageType" = some "EVENT_INVITE" ∧ name = "eventInvite" then
        raw.field "inviteData"
      else none := by
  rw [calledInvite, textField]
  cases raw.field "messageType" with
  | none => simp [Json.lookup]
  | some value =>
    cases value with
    | string text =>
      by_cases ride : text = "RIDE_INVITE"
      · simp [ride, lookup_renamed, eq_comm]
      · by_cases event : text = "EVENT_INVITE"
        · simp [event, lookup_renamed, eq_comm]
        · simp [ride, event, Json.lookup]
    | _ => simp [Json.lookup]

def routeBody (raw : Json) (conversationId : String) : Json :=
  injected (restBody raw) "conversationId" conversationId

theorem field_routeBody (raw : Json) (conversationId name : String) :
    (routeBody raw conversationId).field name =
      if "conversationId" = name then some (.string conversationId)
      else (if "clientId" = name then raw.field "clientId" else none).or
        ((if "messageType" = name then raw.field "messageType" else none).or
          ((if "content" = name then raw.field "content" else none).or
            ((if "mediaUrls" = name then raw.field "mediaUrls" else none).or
              (Json.lookup name (calledInvite raw))))) := by
  simp only [routeBody, injected, restBody, Json.field, Json.fields, Json.lookup,
    Json.lookup_append, lookup_renamed, Option.or_assoc]

def messageTypeSchema : Schema MessageType :=
  Schema.withDefault .text (Schema.enumeration messageTypeNames)

theorem messageType_listed {messageType : MessageType}
    (read : messageTypeSchema (raw.field "messageType") = some messageType) :
    (typeName raw, messageType) ∈ messageTypeNames := by
  rw [typeName, textField]
  cases named : raw.field "messageType" with
  | none =>
    rw [named] at read
    cases read
    decide
  | some value =>
    rw [named] at read
    obtain ⟨text, here, listed⟩ := Schema.enumeration_eq_some read
    cases here
    exact listed

theorem messageType_eq {messageType : MessageType}
    (read : messageTypeSchema (raw.field "messageType") = some messageType) :
    (messageType = .rideInvite ↔ typeName raw = "RIDE_INVITE") ∧
      (messageType = .eventInvite ↔ typeName raw = "EVENT_INVITE") := by
  have listed := messageType_listed read
  generalize typeName raw = name at listed
  simp only [messageTypeNames, List.mem_cons, Prod.mk.injEq, List.not_mem_nil, or_false] at listed
  obtain ⟨rfl, rfl⟩ | ⟨rfl, rfl⟩ | ⟨rfl, rfl⟩ | ⟨rfl, rfl⟩ | ⟨rfl, rfl⟩ | ⟨rfl, rfl⟩ |
    ⟨rfl, rfl⟩ := listed <;> simp

variable {input : Option Json} {name : String} {dto : SendMessageDto}

theorem typeName_eq_iff (other : name ≠ "TEXT") :
    typeName raw = name ↔ textField raw "messageType" = some name := by
  rw [typeName]
  cases textField raw "messageType" with
  | none => simpa using other.symm
  | some text => simp

/-- The REST schema reads of the body what both read of the payload. -/
theorem sendMessageObject_routeBody {conversationId : String}
    (named : raw.field "conversationId" = some (.string conversationId)) :
    sendMessageObject zod (some (routeBody raw conversationId)) = sharedMessage zod raw := by
  have isObject : Schema.object (some raw) = some raw := by
    cases raw with
    | object fields => rfl
    | _ => cases named
  have conversation : (routeBody raw conversationId).field "conversationId" =
      raw.field "conversationId" := by
    rw [field_routeBody, if_pos rfl, named]
  have client : (routeBody raw conversationId).field "clientId" = raw.field "clientId" := by
    simp [field_routeBody, lookup_calledInvite]
  have type : (routeBody raw conversationId).field "messageType" = raw.field "messageType" := by
    simp [field_routeBody, lookup_calledInvite]
  have content : (routeBody raw conversationId).field "content" = raw.field "content" := by
    simp [field_routeBody, lookup_calledInvite]
  have media : (routeBody raw conversationId).field "mediaUrls" = raw.field "mediaUrls" := by
    simp [field_routeBody, lookup_calledInvite]
  have ride : (routeBody raw conversationId).field "rideInvite" =
      if textField raw "messageType" = some "RIDE_INVITE" then raw.field "inviteData" else none := by
    simp [field_routeBody, lookup_calledInvite]
  have event : (routeBody raw conversationId).field "eventInvite" =
      if textField raw "messageType" = some "EVENT_INVITE" then raw.field "inviteData" else none := by
    simp [field_routeBody, lookup_calledInvite]
  have isBody : Schema.object (some (routeBody raw conversationId)) =
      some (routeBody raw conversationId) := rfl
  simp only [sendMessageObject, sharedMessage, isObject, isBody, Option.bind_eq_bind,
    Option.bind_some, conversation, client, type, content, media, ride, event]
  refine bind_congr fun _ _ => bind_congr fun _ _ =>
    bind_congr fun messageType read => bind_congr fun _ _ =>
      bind_congr fun _ _ => ?_
  obtain ⟨isRide, isEvent⟩ := messageType_eq read
  rw [typeName_eq_iff (by decide)] at isRide isEvent
  simp only [← isRide, ← isEvent]
  cases messageType <;> rfl

theorem parseSendMessage_toOption (zod : Zod) (input : Json) :
    (parseSendMessage zod input).toOption =
      (sendMessageObject zod (some input)).filter fun dto => decide (dto.issues = []) := by
  rw [parseSendMessage]
  cases sendMessageObject zod (some input) with
  | none => rfl
  | some dto =>
    by_cases passes : dto.issues = []
    · simp only [if_pos passes, filter_some, decide_eq_true passes]
      rfl
    · simp only [if_neg passes, filter_some, decide_eq_false passes]
      rfl

theorem textField_eq_some {text : String} :
    textField raw name = some text ↔ raw.field name = some (.string text) := by
  rw [textField]
  cases raw.field name with
  | none => simp
  | some value => cases value <;> simp

theorem string_of_textField_eq_none (absent : textField raw name = none) (check : String → Bool) :
    Schema.string check (raw.field name) = none := by
  rw [textField] at absent
  cases here : raw.field name with
  | none => rfl
  | some value =>
    cases value with
    | string text =>
      rw [here] at absent
      cases absent
    | _ => rfl

/-- The REST route passes on what both read, when the refinement has no issue. -/
theorem restMessage_eq (zod : Zod) (raw : Json) :
    restMessage zod raw = (sharedMessage zod raw).filter fun dto => decide (dto.issues = []) := by
  cases text : textField raw "conversationId" with
  | none =>
    have unread : sharedMessage zod raw = none := by
      cases raw with
      | object fields =>
        simp only [sharedMessage, Schema.object, Option.bind_eq_bind, Option.bind_some,
          string_of_textField_eq_none text, Option.bind_none]
      | _ => rfl
    rw [restMessage, text, unread]
    rfl
  | some conversationId =>
    rw [restMessage, text, Option.bind_eq_bind, Option.bind_some, parseSendMessage_toOption,
      ← sendMessageObject_routeBody (textField_eq_some.mp text)]
    rfl

/-! ## What both read -/

theorem isSome_string_field {check : String → Bool} :
    (Schema.string check (raw.field name)).isSome ↔ TextField raw name check :=
  Schema.isSome_string

theorem isSome_optional_string {check : String → Bool} :
    (Schema.optional (Schema.string check) (raw.field name)).isSome ↔
      raw.field name = none ∨ TextField raw name check := by
  rw [Schema.isSome_optional]
  cases here : raw.field name with
  | none => simp
  | some value =>
    rw [TextField, here]
    simp [Schema.isSome_string]

theorem isSome_rideInvite {data : Json} :
    (rideInviteDataSchema zod (some data)).isSome ↔ IsRideInvite zod data := by
  rw [IsRideInvite, ← isSome_string_field, ← isSome_string_field, ← isSome_string_field,
    ← isSome_optional_string]
  cases data with
  | object fields =>
    simp only [rideInviteDataSchema, Schema.object, Option.bind_eq_bind, Option.bind_some,
      Json.isObject, true_and]
    exact Schema.isSome_bind fun _ _ => Schema.isSome_bind fun _ _ =>
      Schema.isSome_bind fun _ _ => Schema.isSome_bind_some
  | _ => simp [rideInviteDataSchema, Schema.object, Json.isObject]

theorem isSome_eventInvite {data : Json} :
    (eventInviteDataSchema zod (some data)).isSome ↔ IsEventInvite zod data := by
  rw [IsEventInvite, ← isSome_string_field, ← isSome_string_field, ← isSome_string_field,
    ← isSome_string_field]
  cases data with
  | object fields =>
    simp only [eventInviteDataSchema, Schema.object, Option.bind_eq_bind, Option.bind_some,
      Json.isObject, true_and]
    exact Schema.isSome_bind fun _ _ => Schema.isSome_bind fun _ _ =>
      Schema.isSome_bind fun _ _ => Schema.isSome_bind_some
  | _ => simp [eventInviteDataSchema, Schema.object, Json.isObject]

theorem isSome_mediaUrls :
    (mediaUrlsSchema zod input).isSome ↔ input = none ∨ ∃ items, input = some (.array items) ∧
      items.length ≤ 10 ∧ ∀ item ∈ items, ∃ url, item = .string url ∧ zod.url url = true := by
  rw [mediaUrlsSchema, Schema.isSome_withDefault]
  cases input with
  | none => simp
  | some value => simp [Schema.isSome_array, Schema.isSome_string]

theorem isSome_messageType :
    (messageTypeSchema (raw.field "messageType")).isSome ↔ raw.field "messageType" = none ∨
      TextField raw "messageType" fun name => decide (name ∈ messageTypeNames.map Prod.fst) := by
  rw [messageTypeSchema, Schema.isSome_withDefault]
  cases here : raw.field "messageType" with
  | none => simp
  | some value => simp [TextField, here, Schema.isSome_enumeration]

/-- An invite of the wrong type is not read. -/
theorem isSome_called {isCalled : Prop} [Decidable isCalled] {α : Type} {schema : Schema α} {input : Option Json}
    {accepted : Json → Prop} (accepts : ∀ data, (schema (some data)).isSome ↔ accepted data) :
    (called isCalled schema input).isSome ↔ (isCalled → ∀ data, input = some data → accepted data) := by
  rw [called]
  by_cases calls : isCalled
  · rw [if_pos calls, Schema.isSome_optional]
    simp only [accepts, calls, true_imp_iff]
  · rw [if_neg calls]
    simp only [isSome_some, calls, false_imp_iff]

/-- **Both read the payloads that are well formed.** -/
theorem isSome_sharedMessage (zod : Zod) (raw : Json) : (sharedMessage zod raw).isSome ↔ WellFormed zod raw := by
  have parts : (sharedMessage zod raw).isSome ↔ raw.isObject = true ∧
      TextField raw "conversationId" zod.uuid ∧ TextField raw "clientId" zod.uuid ∧
        (raw.field "messageType" = none ∨ TextField raw "messageType" fun name =>
            decide (name ∈ messageTypeNames.map Prod.fst)) ∧
          (contentSchema (raw.field "content")).isSome ∧
            (mediaUrlsSchema zod (raw.field "mediaUrls")).isSome ∧
              (typeName raw = "RIDE_INVITE" → ∀ data, raw.field "inviteData" = some data →
                  IsRideInvite zod data) ∧
                (typeName raw = "EVENT_INVITE" → ∀ data, raw.field "inviteData" = some data →
                  IsEventInvite zod data) := by
    cases raw with
    | object fields =>
      simp only [sharedMessage, Schema.object, Option.bind_eq_bind, Option.bind_some,
        Json.isObject, true_and]
      rw [← isSome_string_field, ← isSome_string_field, ← isSome_messageType]
      refine Schema.isSome_bind fun _ _ => Schema.isSome_bind fun _ _ =>
        Schema.isSome_bind fun messageType read => Schema.isSome_bind fun _ _ =>
          Schema.isSome_bind fun _ _ => ?_
      obtain ⟨isRide, isEvent⟩ := messageType_eq read
      rw [← isRide, ← isEvent, ← isSome_called fun _ => isSome_rideInvite,
        ← isSome_called fun _ => isSome_eventInvite]
      exact Schema.isSome_bind fun _ _ => Schema.isSome_bind_some
    | _ => exact ⟨fun read => absurd read Bool.false_ne_true, fun all => absurd all.1 Bool.false_ne_true⟩
  rw [parts, contentSchema, isSome_optional_string, isSome_mediaUrls]
  constructor
  · rintro ⟨object, conversationId, clientId, messageType, content, mediaUrls, ride, event⟩
    exact ⟨object, conversationId, clientId, messageType, content, mediaUrls, ride, event⟩
  · rintro ⟨object, conversationId, clientId, messageType, content, mediaUrls, ride, event⟩
    exact ⟨object, conversationId, clientId, messageType, content, mediaUrls, ride, event⟩

/-! ## What the REST schema asks for -/

theorem issueIf_eq_nil {condition : Bool} {path message : String} :
    issueIf condition path message = [] ↔ condition = false := by
  cases condition <;> simp [issueIf]

theorem issues_eq_nil (dto : SendMessageDto) :
    dto.issues = [] ↔ (dto.messageType = .text → dto.hasText = true) ∧
      (dto.messageType = .image ∨ dto.messageType = .video ∨ dto.messageType = .file →
        dto.hasMedia = true) ∧
      (dto.messageType = .rideInvite → dto.rideInvite.isSome = true) ∧
      (dto.messageType = .eventInvite → dto.eventInvite.isSome = true) ∧
      (dto.hasText = true ∨ dto.hasMedia = true ∨ dto.hasInvite = true) := by
  simp only [SendMessageDto.issues, List.append_eq_nil_iff, issueIf_eq_nil, Bool.and_eq_false_imp,
    Bool.not_eq_false', decide_eq_true_eq, Bool.and_eq_true, Bool.not_eq_true', and_assoc,
    isNone_eq_false_iff]
  have some_carried : (dto.hasText = false ∧ dto.hasMedia = false → dto.hasInvite = true) ↔
      (dto.hasText = true ∨ dto.hasMedia = true ∨ dto.hasInvite = true) := by
    cases dto.hasText <;> cases dto.hasMedia <;> simp
  rw [some_carried]

theorem sharedMessage_eq_some (read : sharedMessage zod raw = some dto) :
    messageTypeSchema (raw.field "messageType") = some dto.messageType ∧
      contentSchema (raw.field "content") = some dto.content ∧
      mediaUrlsSchema zod (raw.field "mediaUrls") = some dto.mediaUrls ∧
      called (dto.messageType = .rideInvite) (rideInviteDataSchema zod) (raw.field "inviteData") =
        some dto.rideInvite ∧
      called (dto.messageType = .eventInvite) (eventInviteDataSchema zod) (raw.field "inviteData") =
        some dto.eventInvite := by
  cases raw with
  | object fields =>
    simp only [sharedMessage, Schema.object, Option.bind_eq_bind, Option.bind_some,
      bind_eq_some_iff, Option.some.injEq] at read
    obtain ⟨_, _, _, _, messageType, type, content, text, mediaUrls, media, rideInvite, ride,
      eventInvite, event, rfl⟩ := read
    exact ⟨type, text, media, ride, event⟩
  | _ => cases read

theorem hasText_iff (read : contentSchema (raw.field "content") = some dto.content) :
    dto.hasText = true ↔ HasText raw := by
  rw [SendMessageDto.hasText, HasText, TextField]
  cases here : raw.field "content" with
  | none =>
    rw [here] at read
    have absent := Option.some.inj read
    simp [← absent]
  | some value =>
    rw [here] at read
    obtain ⟨text, parsed, same⟩ := map_eq_some_iff.mp read
    cases value with
    | string content =>
      obtain ⟨_, isText⟩ := ite_none_right_eq_some.mp parsed
      cases isText
      simp [← same]
    | _ => cases parsed

theorem mapM_eq_nil_iff {α β : Type} {item : α → Option β} {items : List α} {parsed : List β}
    (read : items.mapM item = some parsed) : parsed = [] ↔ items = [] := by
  cases items with
  | nil =>
    cases read
    simp
  | cons value items =>
    rw [List.mapM_cons] at read
    obtain ⟨first, _, read⟩ := bind_eq_some_iff.mp read
    obtain ⟨rest, _, read⟩ := bind_eq_some_iff.mp read
    cases read
    simp

theorem hasMedia_iff (read : mediaUrlsSchema zod (raw.field "mediaUrls") = some dto.mediaUrls) :
    dto.hasMedia = true ↔ HasMedia raw := by
  rw [SendMessageDto.hasMedia, HasMedia]
  cases here : raw.field "mediaUrls" with
  | none =>
    rw [here] at read
    have absent := Option.some.inj read
    simp [← absent]
  | some value =>
    rw [here] at read
    cases value with
    | array items =>
      obtain ⟨_, parsed⟩ := ite_none_right_eq_some.mp read
      simp [mapM_eq_nil_iff parsed]
    | _ => cases read

theorem isSome_of_called {isCalled : Prop} [Decidable isCalled] {α : Type} {schema : Schema α}
    {input : Option Json} {invite : Option α} (read : called isCalled schema input = some invite) :
    invite.isSome = true ↔ isCalled ∧ input ≠ none := by
  rw [called] at read
  by_cases calls : isCalled
  · rw [if_pos calls] at read
    cases input with
    | none =>
      cases read
      simp
    | some data =>
      obtain ⟨value, _, rfl⟩ := map_eq_some_iff.mp read
      simp [calls]
  · rw [if_neg calls] at read
    cases read
    simp [calls]

/-- **The refinement has no issue exactly when the payload carries what its type calls
for.** -/
theorem issues_iff_carries (read : sharedMessage zod raw = some dto) : dto.issues = [] ↔ Carries raw := by
  obtain ⟨type, content, media, ride, event⟩ := sharedMessage_eq_some read
  have isRide := isSome_of_called ride
  have isEvent := isSome_of_called event
  rw [issues_eq_nil, SendMessageDto.hasInvite, Bool.or_eq_true, isRide, isEvent, hasText_iff content,
    hasMedia_iff media, Carries]
  have listed := messageType_listed type
  generalize typeName raw = name at listed
  generalize dto.messageType = messageType at listed
  simp only [messageTypeNames, List.mem_cons, Prod.mk.injEq, List.not_mem_nil, or_false] at listed
  obtain ⟨rfl, rfl⟩ | ⟨rfl, rfl⟩ | ⟨rfl, rfl⟩ | ⟨rfl, rfl⟩ | ⟨rfl, rfl⟩ | ⟨rfl, rfl⟩ |
    ⟨rfl, rfl⟩ := listed <;> simp <;> tauto

/-! ## When the transports agree -/

theorem restMessage_isSome (zod : Zod) (raw : Json) :
    (restMessage zod raw).isSome ↔ WellFormed zod raw ∧ Carries raw := by
  rw [restMessage_eq, ← isSome_sharedMessage]
  cases read : sharedMessage zod raw with
  | none => simp
  | some dto =>
    rw [← issues_iff_carries read]
    by_cases passes : dto.issues = [] <;> simp [passes]

theorem wsSendMessage_isSome (timestamp : (Schema.positiveInt (raw.field "clientTimestamp")).isSome) :
    (wsSendMessage zod raw).toOption.isSome ↔ WellFormed zod raw ∧ GivesType raw := by
  obtain ⟨accepts, refuses⟩ := wsSendMessage_eq zod timestamp
  by_cases gives : GivesType raw
  · rw [accepts gives, isSome_sharedMessage]
    simp [gives]
  · rw [refuses gives]
    simp [gives]

theorem restMessage_eq_of_wsSendMessage
    (timestamp : (Schema.positiveInt (raw.field "clientTimestamp")).isSome)
    (accepted : (restMessage zod raw).isSome) {dto : SendMessageDto}
    (passed : (wsSendMessage zod raw).toOption = some dto) : restMessage zod raw = some dto := by
  obtain ⟨accepts, refuses⟩ := wsSendMessage_eq zod timestamp
  rw [restMessage_eq] at accepted ⊢
  by_cases gives : GivesType raw
  · rw [accepts gives] at passed
    rw [passed, filter_some] at accepted ⊢
    split at accepted
    · rw [if_pos ‹_›]
    · cases accepted
  · rw [refuses gives] at passed
    cases passed

/-- Handling the outcome of a program in the one way or the other leaves the same store. -/
theorem exec_handled {α β γ : Type} (flow : Flow α) (wrap : α → β) (answer' : α → γ)
    (refuse : ServiceError → β) (s : State) :
    (Flow.exec ((flow >>= fun value => pure (wrap value)).rescue fun error => pure (refuse error))
        s).2 = (Flow.exec (flow >>= fun value => pure (answer' value)) s).2 := by
  unfold Flow.exec
  rw [run_rescue, run_bind, run_bind]
  cases run answer flow s with
  | mk outcome after => cases outcome <;> rfl

theorem sendsAlike_iff (timestamp : (Schema.positiveInt (raw.field "clientTimestamp")).isSome) :
    SendsAlike zod raw ↔ (WellFormed zod raw → (GivesType raw ↔ Carries raw)) := by
  have accepts : ((wsSendMessage zod raw).toOption.isSome ↔ (restMessage zod raw).isSome) ↔
      (WellFormed zod raw → (GivesType raw ↔ Carries raw)) := by
    rw [wsSendMessage_isSome timestamp, restMessage_isSome, and_congr_right_iff]
  refine ⟨fun alike => accepts.mp alike.accepted, fun agree => ⟨accepts.mpr agree, ?_⟩⟩
  intro userId conversationId s named passes
  obtain ⟨dto, passed⟩ := isSome_iff_exists.mp passes
  have read := restMessage_eq_of_wsSendMessage timestamp ((accepts.mpr agree).mp passes) passed
  rw [restMessage, named, Option.bind_eq_bind, Option.bind_some] at read
  rw [handleSend, restSend]
  cases socket : wsSendMessage zod raw with
  | error code =>
    rw [socket] at passed
    cases passed
  | ok message =>
    rw [socket] at passed
    cases passed
    cases route : parseSendMessage zod (injected (restBody raw) "conversationId" conversationId) with
    | error refusal =>
      rw [route] at read
      cases read
    | ok message =>
      rw [route] at read
      cases read
      exact exec_handled _ _ _ _ s

/-! ## Reactions -/

theorem field_routeReactBody (raw : Json) (messageId name : String) :
    (injected (restReactBody raw) "messageId" messageId).field name =
      if "messageId" = name then some (.string messageId)
      else (if "emoji" = name then raw.field "emoji" else none).or
        (if "remove" = name then raw.field "remove" else none) := by
  simp only [injected, restReactBody, Json.field, Json.fields, Json.lookup,
    Json.lookup_append, lookup_renamed]

/-- The REST route reads of the body what its schema reads of the payload. -/
theorem restReaction_eq (zod : Zod) (raw : Json) : restReaction zod raw = reactMessageSchema zod (some raw) := by
  cases text : textField raw "messageId" with
  | none =>
    rw [restReaction, text]
    cases raw with
    | object fields =>
      simp only [reactMessageSchema, Schema.object, Option.bind_eq_bind, Option.bind_some,
        string_of_textField_eq_none text, Option.bind_none]
    | _ => rfl
  | some messageId =>
    have named := textField_eq_some.mp text
    have isObject : Schema.object (some raw) = some raw := by
      cases raw with
      | object fields => rfl
      | _ => cases named
    rw [restReaction, text]
    have isBody : Schema.object (some (injected (restReactBody raw) "messageId" messageId)) =
        some (injected (restReactBody raw) "messageId" messageId) := rfl
    simp [reactMessageSchema, isObject, isBody, field_routeReactBody, named]

theorem reactMessageSchema_eq (zod : Zod) (input : Option Json) :
    reactMessageSchema zod input = (wsMessageReactSchema zod input).filter fun dto => zod.isEmoji dto.emoji := by
  rw [reactMessageSchema, wsMessageReactSchema]
  cases Schema.object input with
  | none => rfl
  | some value =>
    simp only [Schema.string_and, Option.bind_eq_bind, Option.bind_some]
    cases Schema.string zod.uuid (value.field "messageId") with
    | none => rfl
    | some messageId =>
      cases Option.filter (fun text => decide (jsLength text ≤ 16))
          (Schema.string (fun text => decide (1 ≤ jsLength text)) (value.field "emoji")) with
      | none => rfl
      | some text =>
        cases Schema.withDefault false Schema.boolean (value.field "remove") with
        | none => simp
        | some remove =>
          by_cases isEmoji : zod.isEmoji text = true
          · simp [Option.filter, isEmoji]
          · simp [Option.filter, isEmoji]

theorem isSome_remove :
    (Schema.withDefault false Schema.boolean input).isSome ↔
      input = none ∨ ∃ value, input = some (.bool value) := by
  rw [Schema.isSome_withDefault]
  cases input with
  | none => simp
  | some value => cases value <;> simp [Schema.boolean]

theorem wsMessageReact_isSome (zod : Zod) (raw : Json) :
    (wsMessageReactSchema zod (some raw)).isSome ↔ WellFormedReaction zod raw := by
  have parts : (wsMessageReactSchema zod (some raw)).isSome ↔ raw.isObject = true ∧
      (Schema.string zod.uuid (raw.field "messageId")).isSome ∧
        (Schema.string (fun text => decide (1 ≤ jsLength text) && decide (jsLength text ≤ 16))
          (raw.field "emoji")).isSome ∧
          (Schema.withDefault false Schema.boolean (raw.field "remove")).isSome := by
    cases raw with
    | object fields =>
      simp only [wsMessageReactSchema, Schema.object, Option.bind_eq_bind, Option.bind_some,
        Json.isObject, true_and]
      exact Schema.isSome_bind fun _ _ => Schema.isSome_bind fun _ _ => Schema.isSome_bind_some
    | _ => simp [wsMessageReactSchema, Schema.object, Json.isObject]
  rw [parts, isSome_string_field, isSome_string_field, isSome_remove]
  constructor
  · rintro ⟨object, messageId, emoji, remove⟩
    exact ⟨object, messageId, emoji, remove⟩
  · rintro ⟨object, messageId, emoji, remove⟩
    exact ⟨object, messageId, emoji, remove⟩

theorem field_emoji {dto : ReactMessageDto} (read : wsMessageReactSchema zod (some raw) = some dto) :
    raw.field "emoji" = some (.string dto.emoji) := by
  cases raw with
  | object fields =>
    simp only [wsMessageReactSchema, Schema.object, Option.bind_eq_bind, Option.bind_some,
      bind_eq_some_iff, Option.some.injEq] at read
    obtain ⟨_, _, text, isText, _, _, rfl⟩ := read
    cases here : (Json.object fields).field "emoji" with
    | none =>
      rw [here] at isText
      cases isText
    | some value =>
      rw [here] at isText
      cases value with
      | string emoji =>
        obtain ⟨_, same⟩ := ite_none_right_eq_some.mp isText
        cases same
        rfl
      | _ => cases isText
  | _ => cases read

theorem reactsAlike_iff :
    ReactsAlike zod raw ↔ (WellFormedReaction zod raw → TextField raw "emoji" zod.isEmoji) := by
  rw [← wsMessageReact_isSome]
  refine ⟨fun alike accepted => ?_, fun emoji => ⟨?_, ?_⟩⟩
  · have passes := alike.accepted.mp accepted
    obtain ⟨dto, read⟩ := isSome_iff_exists.mp accepted
    rw [restReaction_eq, reactMessageSchema_eq, read, filter_some] at passes
    refine ⟨dto.emoji, field_emoji read, ?_⟩
    by_contra other
    rw [if_neg other] at passes
    cases passes
  all_goals
    have same : restReaction zod raw = wsMessageReactSchema zod (some raw) := by
      rw [restReaction_eq, reactMessageSchema_eq]
      cases read : wsMessageReactSchema zod (some raw) with
      | none => rfl
      | some dto =>
        rw [read] at emoji
        obtain ⟨text, here, isEmoji⟩ := emoji rfl
        rw [field_emoji read] at here
        cases here
        rw [filter_some, if_pos isEmoji]
  · rw [same]
  · intro userId messageId s named accepted
    obtain ⟨dto, read⟩ := isSome_iff_exists.mp accepted
    rw [restReaction, named, Option.bind_eq_bind, Option.bind_some, read] at same
    rw [handleReact, restReact, read, same]
    exact exec_handled _ (fun _ => _) _ _ s

/-! ## The result -/

/-- **The transports agree exactly when a payload that both can read either gives its type,
with an object for its invite, and carries what the type calls for, or does neither**; and
on a reaction exactly when its text, being of the right length, is an emoji. -/
theorem transports_agree_iff (zod : Zod) (raw reaction : Json)
    (timestamp : (Schema.positiveInt (raw.field "clientTimestamp")).isSome) :
    (SendsAlike zod raw ↔ (WellFormed zod raw → (GivesType raw ↔ Carries raw))) ∧
      (ReactsAlike zod reaction ↔
        (WellFormedReaction zod reaction → TextField reaction "emoji" zod.isEmoji)) :=
  ⟨sendsAlike_iff timestamp, reactsAlike_iff⟩

/-- A small validation library: identifiers have thirty-six characters, addresses start
with the scheme, pictures are those of one block, and dates are whole numbers. -/
def smallZod : Zod where
  uuid := fun text => decide (text.length = 36)
  url := fun text => "https://".isPrefixOf text
  extendedPictographic := fun c => decide (0x1F300 ≤ c.toNat ∧ c.toNat ≤ 0x1FAFF)
  date := fun
    | .number value => if value.den = 1 then some value.num else none
    | _ => none

def smallUuid : Json := .string "8d2cfa6e-38a3-4c0a-9d0c-6f0f3a3f2b11"

/-- A message of type `TEXT`, with this content. -/
def textPayload (content : List (String × Json)) : Json :=
  .object ([("conversationId", smallUuid), ("clientId", smallUuid),
    ("messageType", .string "TEXT"), ("clientTimestamp", .number 1700000000000)] ++ content)

def reactionPayload (emoji : String) : Json :=
  .object [("messageId", smallUuid), ("emoji", .string emoji)]

theorem transports_agree_small :
    (SendsAlike smallZod (textPayload [("content", .string "hello")]) ↔
        (WellFormed smallZod (textPayload [("content", .string "hello")]) →
          (GivesType (textPayload [("content", .string "hello")]) ↔
            Carries (textPayload [("content", .string "hello")])))) ∧
      (ReactsAlike smallZod (reactionPayload "🏍") ↔
        (WellFormedReaction smallZod (reactionPayload "🏍") →
          TextField (reactionPayload "🏍") "emoji" smallZod.isEmoji)) :=
  transports_agree_iff smallZod (textPayload [("content", .string "hello")])
    (reactionPayload "🏍") (by decide)

/-- A message of type `TEXT` without a text passes the one transport and not the other, and
so does a reaction with a word. -/
theorem transports_disagree :
    ((Schema.positiveInt ((textPayload []).field "clientTimestamp")).isSome ∧
        (wsSendMessage smallZod (textPayload [])).toOption.isSome ∧
        ¬ SendsAlike smallZod (textPayload [])) ∧
      (wsMessageReactSchema smallZod (some (reactionPayload "ok"))).isSome ∧
        ¬ ReactsAlike smallZod (reactionPayload "ok") := by
  have sent : (wsSendMessage smallZod (textPayload [])).toOption.isSome := by decide
  have reacted : (wsMessageReactSchema smallZod (some (reactionPayload "ok"))).isSome := by decide
  refine ⟨⟨by decide, sent, fun alike => ?_⟩, reacted, fun alike => ?_⟩
  · have accepted := alike.accepted.mp sent
    exact absurd accepted (by decide)
  · have accepted := alike.accepted.mp reacted
    exact absurd accepted (by decide)

end Motogram.Messaging
