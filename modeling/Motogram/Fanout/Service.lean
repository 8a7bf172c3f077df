import Motogram.Literals
import Motogram.Messaging.Schemas

/-!
# Fan-out between replicas

`fanout.service.ts` and `internal-token.guard.ts`: a message for a user whose socket is on another
replica is posted to that replica, signed with a secret that all replicas share. The guard there checks
how old the request is, its signature and that its nonce has not been used.

`hmac` is the keyed hash of the crypto library, as bytes. The key of a nonce is kept with the last
moment it is present.
-/

set_option autoImplicit false

namespace Motogram.Fanout

open Foundation Function
open Messaging (jsLength)

/-! ## Texts -/

abbrev Body := JsonValue JsNumber

/-- `JSON.stringify` -/
def stringify (body : Body) : String := String.ofList (JsonText.write JsNumber.write body)

/-- The digits of a number in hexadecimal, that many. -/
def hexDigits (width value : Nat) : List Char :=
  (List.range width).map fun place => JsonText.hexLetter (value / 16 ^ (width - 1 - place) % 16)

def uuidText (id : Nat) : String :=
  String.ofList (hexDigits 8 (id / 16 ^ 24) ++ '-' :: hexDigits 4 (id / 16 ^ 20) ++
    '-' :: hexDigits 4 (id / 16 ^ 16) ++ '-' :: hexDigits 4 (id / 16 ^ 12) ++ '-' :: hexDigits 12 id)

/-- `digest('hex')` -/
def hexText (bytes : List UInt8) : String := String.ofList (bytes.flatMap fun byte => hexDigits 2 byte.toNat)

/-- `Buffer.from(text, 'hex')`: it stops at the first pair that is not two digits. -/
def fromHex : List Char → List UInt8
  | high :: low :: rest =>
    if digitValue high < 16 ∧ digitValue low < 16 then
      UInt8.ofNat (digitValue high * 16 + digitValue low) :: fromHex rest
    else []
  | _ => []

/-! ## What is signed -/

/-- What a sender signs together. -/
structure Message where
  ts : String
  nonce : String
  body : Body

/-- `${ts}.${nonce}.${bodyStr}` -/
def signedText (ts nonce bodyStr : String) : String := ts ++ "." ++ nonce ++ "." ++ bodyStr

def Message.text (message : Message) : String := signedText message.ts message.nonce (stringify message.body)

variable (hmac : String → String → List UInt8)

/-! ## The sender -/

/-- A call of `emitToPartyUser`: what it is given, the replica it runs on, and what it draws and learns
on its way. -/
structure Dispatch where
  serverHostname : String
  -- `findFirst` with `leftAt: null`
  member : Option PartyMember
  userId : UserId
  event : String
  data : Option Body
  -- `randomUUID()`
  nonce : Nat
  -- the status of the response, unless `fetch` throws
  status : Option Nat

/-- `{ userId, event, data }`: a member that is undefined is not written. -/
def Dispatch.body (dispatch : Dispatch) : Body :=
  .object ([("userId", .string (uuidText dispatch.userId)), ("event", .string dispatch.event)] ++
    (dispatch.data.map fun data => ("data", data)).toList)

/-- A request that is posted. -/
structure Posting where
  url : String
  message : Message
  sig : String

/-- What is posted, and whether `emitToUser` of the gateway of this replica is called. -/
structure Emitted where
  posting : Option Posting
  emitToUser : Bool

def emitToPartyUser (secret : Option String) (now : Time) (dispatch : Dispatch) : Emitted :=
  let host := (dispatch.member.bind PartyMember.serverHostname).filter fun host =>
    host ≠ "" && host ≠ dispatch.serverHostname
  match host, secret.filter fun secret => secret ≠ "" with
  | none, _ | some _, none => { posting := none, emitToUser := true }
  | some host, some secret =>
    let message : Message := { ts := toString now, nonce := uuidText dispatch.nonce, body := dispatch.body }
    { posting := some
        { url := "http://" ++ host ++ ":3000/v1/internal/fanout"
          message := message
          sig := hexText (hmac secret message.text) }
      emitToUser := dispatch.status.all fun status => ! (decide (200 ≤ status) && decide (status ≤ 299)) }

/-! ## The guard -/

/-- A request for `/v1/internal/fanout`: three headers and the parsed body. -/
structure InternalRequest where
  ts : Option String
  nonce : Option String
  sig : Option String
  body : Option Body

/-- `req.body ?? {}` -/
def InternalRequest.bodyOrEmpty (request : InternalRequest) : Body :=
  match request.body with
  | none | some .null => .object []
  | some body => body

/-- The keys of nonces, each with the last moment it is there. -/
abbrev NonceKeys := String → Option Time

/-- The reasons of the `UnauthorizedException`s. -/
inductive Refusal where
  | missing
  | stale
  | misconfigured
  | badSig
  | replay
  deriving DecidableEq

def Refusal.text : Refusal → String
  | .missing => "internal_auth_missing"
  | .stale => "internal_auth_stale"
  | .misconfigured => "internal_auth_misconfigured"
  | .badSig => "internal_auth_bad_sig"
  | .replay => "internal_auth_replay"

def nonceKey (nonce : String) : String := "internal:fanout:nonce:" ++ nonce

/-- `SET key '1' EX 60 NX`: the keys after it, unless the key is there. -/
def setNonce (now : Time) (key : String) (keys : NonceKeys) : Option NonceKeys :=
  if (keys key).any fun last => decide (now ≤ last) then none
  else some (update keys key (some (now + 60000)))

/-- The headers, when each has a text. -/
def InternalRequest.headers (request : InternalRequest) : Option (String × String × String) := do
  let ts ← request.ts.filter fun ts => ts ≠ ""
  let nonce ← request.nonce.filter fun nonce => nonce ≠ ""
  let sig ← request.sig.filter fun sig => sig ≠ ""
  pure (ts, nonce, sig)

/-- `canActivate`: the keys of nonces after a request that is let through. -/
def canActivate (secret : Option String) (now : Time) (request : InternalRequest) (keys : NonceKeys) :
    Except Refusal NonceKeys :=
  match request.headers with
  | none => .error .missing
  | some (ts, nonce, sig) =>
    match (finiteNumber ts).filter fun t => |(now : ℚ) - t| ≤ 30000 with
    | none => .error .stale
    | some _ =>
      match secret.filter fun secret => 32 ≤ jsLength secret with
      | none => .error .misconfigured
      | some secret =>
        let expected := hexText (hmac secret (signedText ts nonce (stringify request.bodyOrEmpty)))
        if fromHex sig.toList ≠ fromHex expected.toList then .error .badSig
        else
          match setNonce now (nonceKey nonce) keys with
          | none => .error .replay
          | some keys' => .ok keys'

/-! ## The replicas -/

/-- A request that was let through, and when. -/
structure Acceptance where
  time : Time
  request : InternalRequest

structure State where
  now : Time
  keys : NonceKeys
  signed : List Message
  accepted : List Acceptance

/-- At the start nothing has been signed and nothing let through. -/
def start (now : Time) (keys : NonceKeys) : State where
  now := now
  keys := keys
  signed := []
  accepted := []

inductive Event where
  | elapse (milliseconds : Nat)
  | emit (dispatch : Dispatch)
  | handle (request : InternalRequest)

def step (secret : Option String) (s : State) : Event → State
  | .elapse milliseconds => { s with now := s.now + milliseconds }
  | .emit dispatch =>
    { s with
      signed := s.signed ++ ((emitToPartyUser hmac secret s.now dispatch).posting.map Posting.message).toList }
  | .handle request =>
    match canActivate hmac secret s.now request s.keys with
    | .error _ => s
    | .ok keys =>
      { s with keys := keys, accepted := s.accepted ++ [{ time := s.now, request := request }] }

/-! ## What each function does -/

/-- Digits of a byte are read back. -/
theorem fromHex_hexText (bytes : List UInt8) : fromHex (hexText bytes).toList = bytes := by
  rw [hexText, String.toList_ofList]
  induction bytes with
  | nil => rfl
  | cons byte rest ih =>
    have digit : ∀ value < 16, digitValue (JsonText.hexLetter value) = value := by decide
    have high := digit (byte.toNat / 16 % 16) (Nat.mod_lt _ (by decide))
    have low := digit (byte.toNat % 16) (Nat.mod_lt _ (by decide))
    have pair : hexDigits 2 byte.toNat =
        [JsonText.hexLetter (byte.toNat / 16 % 16), JsonText.hexLetter (byte.toNat % 16)] := by
      simp [hexDigits, List.range_succ]
    have small := byte.toNat_lt
    have same : byte.toNat / 16 % 16 * 16 + byte.toNat % 16 = byte.toNat := by omega
    rw [List.flatMap_cons, pair, List.cons_append, List.cons_append, List.nil_append, fromHex, high, low,
      if_pos ⟨Nat.mod_lt _ (by decide), Nat.mod_lt _ (by decide)⟩, same, UInt8.ofNat_toNat, ih]

/-- What a sender signs: a time in digits, a UUID and an object. -/
structure Message.Sent (message : Message) : Prop where
  ts : ∃ now : Time, message.ts = toString now
  nonce : ∃ id : Nat, message.nonce = uuidText id
  body : ∃ fields, message.body = .object fields

theorem sent_of_posting {secret : Option String} {now : Time} {dispatch : Dispatch} {posting : Posting}
    (posted : (emitToPartyUser hmac secret now dispatch).posting = some posting) : posting.message.Sent := by
  unfold emitToPartyUser at posted
  dsimp only at posted
  split at posted
  · cases posted
  · cases posted
  · cases posted
    exact ⟨⟨now, rfl⟩, ⟨dispatch.nonce, rfl⟩, ⟨_, rfl⟩⟩

/-- Everything the guard has checked of a request it lets through. -/
structure Admits (secret : Option String) (now : Time) (request : InternalRequest) (keys : NonceKeys)
    (ts nonce sig : String) : Prop where
  headers : request.headers = some (ts, nonce, sig)
  fresh : ∃ t, finiteNumber ts = some t ∧ |(now : ℚ) - t| ≤ 30000
  signature : ∃ key, secret = some key ∧ 32 ≤ jsLength key ∧
    fromHex sig.toList = hmac key (signedText ts nonce (stringify request.bodyOrEmpty))
  unused : ∀ last, keys (nonceKey nonce) = some last → last < now

theorem setNonce_eq_some {now : Time} {key : String} {keys keys' : NonceKeys} :
    setNonce now key keys = some keys' ↔
      (∀ last, keys key = some last → last < now) ∧
        keys' = update keys key (some (now + 60000)) := by
  unfold setNonce
  cases stored : keys key with
  | none =>
    rw [Option.any_none, if_neg Bool.false_ne_true, Option.some.injEq]
    exact ⟨fun same => ⟨fun last => nofun, same.symm⟩, fun both => both.2.symm⟩
  | some last =>
    rw [Option.any_some]
    by_cases present : now ≤ last
    · rw [if_pos (decide_eq_true present)]
      refine ⟨nofun, fun both => ?_⟩
      exact absurd (both.1 last rfl) (Nat.not_lt.mpr present)
    · rw [if_neg (Bool.not_eq_true _ ▸ decide_eq_false present), Option.some.injEq]
      refine ⟨fun same => ⟨?_, same.symm⟩, fun both => both.2.symm⟩
      rintro other ⟨⟩
      exact Nat.not_le.mp present

/-- **The guard lets a request through exactly when all its checks succeed**, and then the nonce is
taken for 60 seconds. -/
theorem canActivate_eq_ok {secret : Option String} {now : Time} {request : InternalRequest}
    {keys keys' : NonceKeys} :
    canActivate hmac secret now request keys = .ok keys' ↔
      ∃ ts nonce sig, Admits hmac secret now request keys ts nonce sig ∧
        keys' = update keys (nonceKey nonce) (some (now + 60000)) := by
  constructor
  · intro through
    unfold canActivate at through
    split at through
    · cases through
    · rename_i ts nonce sig headers
      split at through
      · cases through
      · rename_i t fresh
        obtain ⟨number, recent⟩ := Option.filter_eq_some_iff.mp fresh
        split at through
        · cases through
        · rename_i key configured
          obtain ⟨shared, long⟩ := Option.filter_eq_some_iff.mp configured
          dsimp only at through
          split at through
          · cases through
          · rename_i same
            split at through
            · cases through
            · rename_i stored
              cases through
              obtain ⟨unused, rfl⟩ := setNonce_eq_some.mp stored
              have signature := not_not.mp same
              rw [fromHex_hexText] at signature
              exact ⟨ts, nonce, sig,
                { headers := headers
                  fresh := ⟨t, number, of_decide_eq_true recent⟩
                  signature := ⟨key, shared, of_decide_eq_true long, signature⟩
                  unused := unused }, rfl⟩
  · rintro ⟨ts, nonce, sig, admits, rfl⟩
    obtain ⟨t, number, recent⟩ := admits.fresh
    obtain ⟨key, rfl, long, signature⟩ := admits.signature
    have stored := setNonce_eq_some.mpr ⟨admits.unused, rfl⟩
    unfold canActivate
    rw [admits.headers]
    dsimp only
    rw [number, Option.filter_some, if_pos (decide_eq_true recent)]
    rw [Option.filter_some, if_pos (decide_eq_true long)]
    dsimp only
    rw [fromHex_hexText, if_neg (not_not.mpr signature), stored]

end Motogram.Fanout
