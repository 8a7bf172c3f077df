import Motogram.Notifications.Preferences

/-!
# The push service

`push.service.ts`: a push goes to every device of its recipients whose token is not revoked, by the
dispatcher of the platform of the device. Tokens that a dispatcher finds invalid are revoked. What is
handed to a dispatcher is noted in `dispatched`. The service asks for no preference.
-/

set_option autoImplicit false

namespace Motogram.Notifications

/-! ## Devices and dispatchers -/

inductive Platform where
  | ios
  | android
  | expo
  | web
  deriving DecidableEq

/-- The columns of `device_tokens` that a push reads. -/
structure DeviceToken where
  userId : UserId
  token : String
  platform : Platform
  revokedAt : Option Time
  deriving DecidableEq

/-- What a push tells of, the `type` in its data. -/
inductive PushKind where
  | emergencyNearby
  | messageReceived
  | questCompleted
  deriving DecidableEq

def PushKind.type : PushKind → NotificationType
  | .emergencyNearby => .emergencyNearby
  | .messageReceived => .message
  | .questCompleted => .questCompleted

inductive PushOutcome where
  | ok
  | invalid
  | error
  deriving DecidableEq

/-- `PUSH_DRY_RUN`, and the dispatchers that are registered. A dispatcher that throws counts as one
that answers `error`. -/
structure PushConfig where
  dryRun : Bool
  dispatchers : Platform → Option (String → PushKind → PushOutcome)

structure PushDispatchResult where
  success : Nat
  failure : Nat
  invalidTokens : List String
  deriving DecidableEq

/-- A push that was handed to a dispatcher. -/
structure Dispatch where
  userId : UserId
  token : String
  kind : PushKind
  deriving DecidableEq

structure PushState where
  devices : List DeviceToken
  dispatched : List Dispatch

/-! ## The service -/

def PushConfig.dispatcher? (config : PushConfig) (platform : Platform) :
    Option (String → PushKind → PushOutcome) :=
  if config.dryRun then none else config.dispatchers platform

/-- `dispatch`. -/
def PushConfig.dispatch (config : PushConfig) (kind : PushKind) (device : DeviceToken) : PushOutcome :=
  match config.dispatcher? device.platform with
  | none => .ok
  | some send => send device.token kind

def PushConfig.reaches (config : PushConfig) (device : DeviceToken) : Bool :=
  (config.dispatcher? device.platform).isSome

/-- The count of the outcomes. -/
def PushDispatchResult.add (result : PushDispatchResult) (device : DeviceToken) :
    PushOutcome → PushDispatchResult
  | .ok => { result with success := result.success + 1 }
  | .invalid =>
    { result with failure := result.failure + 1, invalidTokens := result.invalidTokens ++ [device.token] }
  | .error => { result with failure := result.failure + 1 }

def PushConfig.dispatches (config : PushConfig) (kind : PushKind) (devices : List DeviceToken) : List Dispatch :=
  (devices.filter config.reaches).map fun device => ⟨device.userId, device.token, kind⟩

/-- `dispatchBulk`. -/
def dispatchBulk (config : PushConfig) (now : Time) (kind : PushKind) (devices : List DeviceToken)
    (s : PushState) : PushDispatchResult × PushState :=
  let result := devices.foldl (fun result device => result.add device (config.dispatch kind device)) ⟨0, 0, []⟩
  (result,
    { devices := s.devices.map fun device =>
        if device.token ∈ result.invalidTokens then { device with revokedAt := some now } else device
      dispatched := s.dispatched ++ config.dispatches kind devices })

/-- `sendToUsers`. -/
def sendToUsers (config : PushConfig) (now : Time) (kind : PushKind) (userIds : List UserId)
    (s : PushState) : PushDispatchResult × PushState :=
  if userIds.isEmpty then (⟨0, 0, []⟩, s)
  else
    dispatchBulk config now kind
      (s.devices.filter fun device => decide (device.userId ∈ userIds) && device.revokedAt.isNone) s

/-! ## Whom a push reaches -/

def PushState.Reachable (config : PushConfig) (s : PushState) (userId : UserId) : Prop :=
  ∃ device ∈ s.devices, device.userId = userId ∧ device.revokedAt = none ∧ config.reaches device = true

theorem mem_dispatched_sendToUsers {config : PushConfig} {now : Time} {kind : PushKind}
    {userIds : List UserId} {s : PushState} {dispatch : Dispatch} :
    dispatch ∈ (sendToUsers config now kind userIds s).2.dispatched ↔
      dispatch ∈ s.dispatched ∨ (dispatch.kind = kind ∧ dispatch.userId ∈ userIds ∧
        ∃ device ∈ s.devices, device.userId = dispatch.userId ∧ device.token = dispatch.token ∧
          device.revokedAt = none ∧ config.reaches device = true) := by
  rw [sendToUsers]
  split
  · rename_i nobody
    rw [List.isEmpty_iff.mp nobody]
    simp
  · rw [dispatchBulk, List.mem_append]
    refine or_congr_right ?_
    simp only [PushConfig.dispatches, List.mem_map, List.mem_filter, Bool.and_eq_true, decide_eq_true_eq,
      Option.isNone_iff_eq_none]
    constructor
    · rintro ⟨device, ⟨⟨there, among, live⟩, reaches⟩, rfl⟩
      exact ⟨rfl, among, device, there, rfl, rfl, live, reaches⟩
    · rintro ⟨rfl, among, device, there, same, token, live, reaches⟩
      refine ⟨device, ⟨⟨there, by rw [same]; exact among, live⟩, reaches⟩, ?_⟩
      rw [same, token]

end Motogram.Notifications
