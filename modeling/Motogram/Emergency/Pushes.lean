import Motogram.Emergency.Coverage

/-!
# The push of an alert

An alert that passes its checks is pushed once, to the riders the search around it finds, but for the
requester and those a block separates from the requester (`State.alertRecipients`); nothing is pushed
when there are none. Every notification that is stored is for somebody who wants it
(`createAlert_reports`).
-/

set_option autoImplicit false

namespace Motogram.Emergency

open Foundation Program State

variable {s t after : State}

/-! ## What an alert leaves -/

/-- Emissions are sent, and notifications are stored for those who want them. -/
structure Reports (before after : State) (sent : List EmergencyEmission) : Prop where
  base : after.base = before.base
  pushEmergency : after.pushEmergency = before.pushEmergency
  alerts : ∀ alertId, (before.emergencyAlerts.find? alertId).isSome = true →
    (after.emergencyAlerts.find? alertId).isSome = true
  emissions : after.emissions = before.emissions ++ sent
  notified : ∃ created, after.notifications = before.notifications ++ created ∧
    ∀ notification ∈ created, (before.pushEmergency notification.userId).getD defaultPushEmergency = true

theorem Reports.of_eq (base : t.base = s.base) (pushEmergency : t.pushEmergency = s.pushEmergency)
    (alerts : ∀ alertId, (s.emergencyAlerts.find? alertId).isSome = true →
      (t.emergencyAlerts.find? alertId).isSome = true)
    (emissions : t.emissions = s.emissions) (notifications : t.notifications = s.notifications) :
    Reports s t [] :=
  ⟨base, pushEmergency, alerts, by rw [emissions, List.append_nil],
    [], by rw [notifications, List.append_nil], fun _ => nofun⟩

theorem Reports.refl (s : State) : Reports s s [] := .of_eq rfl rfl (fun _ => id) rfl rfl

theorem Reports.trans {first second third : State} {one two : List EmergencyEmission}
    (left : Reports first second one) (right : Reports second third two) : Reports first third (one ++ two) := by
  obtain ⟨created, appended, wanted⟩ := left.notified
  obtain ⟨created', appended', wanted'⟩ := right.notified
  refine ⟨right.base.trans left.base, right.pushEmergency.trans left.pushEmergency,
    fun alertId there => right.alerts alertId (left.alerts alertId there), ?_, created ++ created', ?_, ?_⟩
  · rw [right.emissions, left.emissions, List.append_assoc]
  · rw [appended', appended, List.append_assoc]
  · intro notification member
    obtain member | member := List.mem_append.mp member
    · exact wanted notification member
    · rw [← left.pushEmergency]
      exact wanted' notification member

/-- A call that sends nothing, stores no notification and leaves the location stores alone. -/
def EmergencyCall.Plain : EmergencyCall → Prop
  | .location _ | .emit _ | .elapse _ | .notificationCreate _ => False
  | _ => True

theorem notify_reports (alertId : AlertId) (recipients : List (UserId × Int)) (s : State) :
    Reports s (s.notify alertId recipients) [] := by
  induction recipients generalizing s with
  | nil => exact .refl s
  | cons recipient rest ih =>
    have first : Reports s ((s.withResponders (s.emergencyResponders.insert (alertId, recipient.1)
        (notifiedRow s.fresh s.base.now recipient.2))).withFresh (s.fresh + 1)) [] :=
      .of_eq rfl rfl (fun _ => id) rfl rfl
    exact first.trans (ih _)

theorem answer_reports (request : EmergencyCall) (plain : request.Plain) (s : State) :
    Reports s (answer request s).2 [] := by
  cases request with
  | location | emit | elapse | notificationCreate => exact plain.elim
  | emergencyAlertCreate userId dto city =>
    simp only [answer]
    split
    · exact .refl s
    · refine .of_eq rfl rfl (fun alertId there => ?_) rfl rfl
      change ((s.emergencyAlerts.insert s.fresh _).find? alertId).isSome = true
      rw [Table.find?_insert]
      split
      · rfl
      · exact there
  | emergencyAlertUpdate alertId patch =>
    simp only [answer]
    split
    · exact .refl s
    · refine .of_eq rfl rfl (fun other there => ?_) rfl rfl
      exact (Table.isSome_find?_modify _ _ _ _).trans there
  | emergencyResponderCreateMany alertId recipients =>
    simp only [answer]
    split
    · exact notify_reports alertId recipients s
    · exact .refl s
  | emergencyResponderUpsert alertId responderId patch =>
    simp only [answer]
    split
    · exact .of_eq rfl rfl (fun _ => id) rfl rfl
    · split <;> exact .of_eq rfl rfl (fun _ => id) rfl rfl
  | setAdminNotifyLockNx =>
    simp only [answer]
    split <;> exact .of_eq rfl rfl (fun _ => id) rfl rfl
  | _ => exact .of_eq rfl rfl (fun _ => id) rfl rfl

theorem exec_reports {Value : Type} {flow : Flow Value} (plain : flow.Uses EmergencyCall.Plain) (s : State) :
    Reports s (flow.exec s).2 [] := by
  have each : ∀ request t, EmergencyCall.Plain request → Reports s t [] → Reports s (answer request t).2 [] :=
    fun request t allowed before => before.trans (answer_reports request allowed t)
  exact plain.run_keeps answer each (Reports.refl s)

/-! ## Handing out -/

/-- The riders a push goes to. -/
def EmergencyEmission.pushed? : EmergencyEmission → Option (List UserId)
  | .push recipients _ _ => some recipients
  | _ => none

/-- A notification of a rider who is there is stored when the rider wants it. -/
theorem createNotification_reports (s : State) (notification : Notification)
    (known : (s.base.users notification.userId).isSome = true) :
    ∃ t, (createNotification notification).exec s = (.ok (), t) ∧ Reports s t [] := by
  obtain ⟨user, found⟩ := Option.isSome_iff_exists.mp known
  cases wanted : (s.pushEmergency notification.userId).getD defaultPushEmergency with
  | false =>
    refine ⟨s, ?_, .refl s⟩
    change run answer (if (s.pushEmergency notification.userId).getD _ = true then _ else _) s = _
    rw [wanted]
    rfl
  | true =>
    have stored : answer (.notificationCreate notification) s = (.ok (), s.withNotification notification) := by
      simp only [answer, found]
    refine ⟨s.withNotification notification, ?_, rfl, rfl, fun _ => id, (List.append_nil _).symm,
      [notification], rfl, ?_⟩
    · change run answer (if (s.pushEmergency notification.userId).getD _ = true then _ else _) s = _
      rw [wanted]
      exact run_call_of_answer answer stored _
    · intro other member
      rw [List.mem_singleton.mp member]
      exact wanted

theorem notifyAll_reports (s : State) (alertId : AlertId) (requesterId : UserId) (recipients : List Recipient)
    (known : ∀ recipient ∈ recipients, (s.base.users recipient.1).isSome = true) :
    ∃ t, (notifyAll alertId requesterId recipients).exec s = (.ok (), t) ∧ Reports s t [] := by
  induction recipients generalizing s with
  | nil => exact ⟨s, rfl, .refl s⟩
  | cons recipient rest ih =>
    obtain ⟨userId, distance⟩ := recipient
    obtain ⟨t, created, reports⟩ := createNotification_reports s
      (.nearby userId alertId requesterId (mathRound distance)) (known _ List.mem_cons_self)
    obtain ⟨u, ran, reports'⟩ := ih t fun other member => by
      rw [reports.base]
      exact known other (List.mem_cons_of_mem _ member)
    exact ⟨u, (run_bind_of_ok answer created _).trans ran, reports.trans reports'⟩

theorem broadcastNearby_reports (alertId : AlertId) (requesterId : UserId) (requester : Requester)
    (alert : EmergencyAlert) (recipients : List Recipient) (s : State) :
    ∃ sent t, (broadcastNearby alertId requesterId requester alert recipients).exec s = (.ok (), t) ∧
      Reports s t sent ∧ sent.filterMap EmergencyEmission.pushed? = [] := by
  induction recipients generalizing s with
  | nil => exact ⟨[], s, rfl, .refl s, rfl⟩
  | cons recipient rest ih =>
    obtain ⟨userId, distance⟩ := recipient
    let emission := EmergencyEmission.nearby userId
      { alertId := alertId
        requesterId := requesterId
        requesterUsername := requester.username
        type := alert.type
        latitude := alert.latitude
        longitude := alert.longitude
        distanceMeters := mathRound distance
        createdAt := alert.createdAt }
    obtain ⟨sent, t, ran, reports, quiet⟩ := ih (s.sent emission)
    have first : Reports s (s.sent emission) [emission] :=
      ⟨rfl, rfl, fun _ => id, rfl, [], (List.append_nil _).symm, fun _ => nofun⟩
    exact ⟨emission :: sent, t, ran, first.trans reports, quiet⟩

theorem dispatch_reports (s : State) (alertId : AlertId) (userId : UserId) (requester : Requester)
    (alert : EmergencyAlert) (recipients : List Recipient)
    (known : ∀ recipient ∈ recipients, (s.base.users recipient.1).isSome = true) :
    ∃ sent t, (dispatchNearbyNotifications alertId userId requester alert recipients).exec s = (.ok (), t) ∧
      Reports s t sent ∧ sent.filterMap EmergencyEmission.pushed? = [recipients.map Prod.fst] := by
  obtain ⟨t, notified, reports⟩ := notifyAll_reports s alertId userId recipients known
  let pushed := EmergencyEmission.push (recipients.map Prod.fst) alertId userId
  obtain ⟨sent, u, ran, reports', quiet⟩ :=
    broadcastNearby_reports alertId userId requester alert recipients (t.sent pushed)
  have push : Reports t (t.sent pushed) [pushed] :=
    ⟨rfl, rfl, fun _ => id, rfl, [], (List.append_nil _).symm, fun _ => nofun⟩
  refine ⟨pushed :: sent, u, (run_bind_of_ok answer notified _).trans ran,
    reports.trans (push.trans reports'), ?_⟩
  rw [List.filterMap_cons, quiet]
  rfl

/-! ## Whom an alert reaches -/

/-- The riders found whom no block separates from the requester. -/
def State.unblocked (s : State) (userId : UserId) (riders : List NearbyRiderRaw) : List Recipient :=
  withoutBlocked (answer (.blockFindMany userId ((candidatesOf userId riders).map Prod.fst)) s).1
    (candidatesOf userId riders)

/-- Those of them that are told: all, when every one is still a user. -/
def State.toldAmong (s : State) (userId : UserId) (riders : List NearbyRiderRaw) : List UserId :=
  if ∀ recipient ∈ s.unblocked userId riders, (s.base.users recipient.1).isSome = true then
    (s.unblocked userId riders).map Prod.fst
  else []

theorem State.toldAmong_congr (base : t.base = s.base) {userId : UserId} {riders : List NearbyRiderRaw} :
    t.toldAmong userId riders = s.toldAmong userId riders := by
  have unblocked : t.unblocked userId riders = s.unblocked userId riders := by
    simp only [unblocked, answer, base]
  rw [toldAmong, unblocked]
  exact if_congr (by rw [base]) rfl rfl

/-- The alert passes the checks before the search. -/
def State.allowsAlert (s : State) (userId : UserId) (dto : CreateEmergencyAlertDto) (requester : Requester) :
    Bool :=
  !requester.isBanned && !(dto.holdDurationMs.any fun held => decide (held < sosMinHoldMs)) &&
    decide ((bumped s.base.now (s.rateCount userId)).value ≤ maxAlertsPer10Min) &&
      (s.base.users userId).isSome

/-- The riders an alert is pushed to. -/
def State.alertRecipients (s : State) (userId : UserId) (dto : CreateEmergencyAlertDto)
    (requester : Requester) : List UserId :=
  if s.allowsAlert userId dto requester then
    match alertSearch s dto requester with
    | .error _ => []
    | .ok hits => s.toldAmong userId (s.base.readHits hits)
  else []

def pushesTo (recipients : List UserId) : List (List UserId) := if recipients.isEmpty then [] else [recipients]

theorem rethrow_plain {Value : Type} (reply : Except PrismaError Value) :
    (rethrow reply).Uses EmergencyCall.Plain := by
  cases reply <;> trivial

theorem notifyNearby_reports (s : State) (userId : UserId) (requester : Requester) (alertId : AlertId)
    (alert : EmergencyAlert) (riders : List NearbyRiderRaw)
    (created : (s.emergencyAlerts.find? alertId).isSome = true) :
    ∃ sent, Reports s ((notifyNearby userId requester alertId alert riders).exec s).2 sent ∧
      sent.filterMap EmergencyEmission.pushed? = pushesTo (s.toldAmong userId riders) := by
  rw [notifyNearby_eq]
  cases nobody : (candidatesOf userId riders).isEmpty with
  | true =>
    have none : s.unblocked userId riders = [] := by
      rw [unblocked, List.isEmpty_iff.mp nobody]
      rfl
    refine ⟨[], .refl s, ?_⟩
    rw [toldAmong, none]
    rfl
  | false =>
    change ∃ sent, Reports s ((notifyFiltered userId requester alertId alert
      (s.unblocked userId riders)).exec s).2 sent ∧ _
    rw [notifyFiltered, toldAmong]
    generalize s.unblocked userId riders = filtered
    cases filtered with
    | nil =>
      refine ⟨[], exec_reports ?_ s, rfl⟩
      refine Uses.send trivial fun updated => ?_
      exact Uses.bind (rethrow_plain updated) fun _ => trivial
    | cons recipient rest =>
      generalize listed : recipient :: rest = recipients
      have some' : recipients.isEmpty = false := by
        rw [← listed]
        rfl
      have rows : (∀ row ∈ recipients.map fun candidate => (candidate.1, mathRound candidate.2),
          (s.base.users row.1).isSome = true) ↔
            ∀ recipient ∈ recipients, (s.base.users recipient.1).isSome = true := by
        simp only [List.forall_mem_map]
      rw [some']
      by_cases known : ∀ recipient ∈ recipients, (s.base.users recipient.1).isSome = true
      · have inserted : answer (.emergencyResponderCreateMany alertId
            (recipients.map fun candidate => (candidate.1, mathRound candidate.2))) s =
            (.ok (), s.notify alertId
              (recipients.map fun candidate => (candidate.1, mathRound candidate.2))) := by
          simp only [answer]
          rw [if_pos ⟨created, rows.mpr known⟩]
        let t := s.notify alertId (recipients.map fun candidate => (candidate.1, mathRound candidate.2))
        have first : Reports s t [] := notify_reports _ _ s
        obtain ⟨row, found⟩ := Option.isSome_iff_exists.mp (first.alerts alertId created)
        have updated : answer (.emergencyAlertUpdate alertId (.notifiedCount recipients.length)) t =
            (.ok ((AlertPatch.notifiedCount recipients.length).apply row),
              t.withAlerts (t.emergencyAlerts.modify alertId
                (AlertPatch.notifiedCount recipients.length).apply)) := by
          simp only [answer]
          rw [found]
        have second := answer_reports (.emergencyAlertUpdate alertId (.notifiedCount recipients.length))
          trivial t
        rw [updated] at second
        obtain ⟨sent, u, ran, third, pushed⟩ := dispatch_reports
          (t.withAlerts (t.emergencyAlerts.modify alertId
            (AlertPatch.notifiedCount recipients.length).apply)) alertId userId requester alert recipients
          (by rw [second.base, first.base]; exact known)
        refine ⟨sent, ?_, ?_⟩
        · change Reports s (run answer (.call _ _) s).2 sent
          rw [run_call_of_answer answer inserted]
          change Reports s (run answer (.call _ _) t).2 sent
          rw [run_call_of_answer answer updated]
          change Reports s (run answer (dispatchNearbyNotifications alertId userId requester alert
            recipients >>= fun _ => pure _) _).2 sent
          rw [run_bind_of_ok answer ran]
          exact first.trans (second.trans third)
        · rw [pushed, if_pos known, ← listed]
          rfl
      · have refused : answer (.emergencyResponderCreateMany alertId
            (recipients.map fun candidate => (candidate.1, mathRound candidate.2))) s =
            (.error .foreignKeyViolation, s) := by
          simp only [answer]
          rw [if_neg fun both => known (rows.mp both.2)]
        refine ⟨[], ?_, ?_⟩
        · change Reports s (run answer (.call _ _) s).2 []
          rw [run_call_of_answer answer refused]
          exact .refl s
        · rw [if_neg known]
          rfl

/-- The counter of the alerts goes up by one. -/
theorem countAlert_reports (s : State) (userId : UserId) :
    ∃ t, (countAlert userId).exec s = (.ok (bumped s.base.now (s.rateCount userId)).value, t) ∧
      Reports s t [] := by
  have plain : (countAlert userId).Uses EmergencyCall.Plain := by
    refine Uses.send trivial fun count => ?_
    split
    · exact Uses.send trivial fun _ => trivial
    · trivial
  refine ⟨((countAlert userId).exec s).2, ?_, exec_reports plain s⟩
  have counted : answer (.incrRateCount userId) s = ((bumped s.base.now (s.rateCount userId)).value,
    s.withRateCount userId (some (bumped s.base.now (s.rateCount userId)))) := rfl
  refine Prod.ext ?_ rfl
  change (run answer (.call _ _) s).1 = _
  rw [run_call_of_answer answer counted]
  change (run answer (if _ then _ else _) _).1 = _
  split <;> rfl

/-- **An alert is pushed to its recipients, once, and stores notifications only for those who want
them.** -/
theorem createAlert_reports (s : State) (userId : UserId) (dto : CreateEmergencyAlertDto)
    (requester : Requester) :
    ∃ sent, Reports s ((createAlert s.base.deployment userId dto requester).exec s).2 sent ∧
      sent.filterMap EmergencyEmission.pushed? = pushesTo (s.alertRecipients userId dto requester) := by
  have silent : s.allowsAlert userId dto requester = false →
      pushesTo (s.alertRecipients userId dto requester) = [] := by
    intro refused
    rw [alertRecipients, refused]
    rfl
  rw [createAlert, Flow.exec, run_throwIf_bind]
  by_cases banned : requester.isBanned = true
  · rw [if_pos banned, silent (by simp [allowsAlert, banned])]
    exact ⟨[], .refl s, rfl⟩
  rw [if_neg banned, run_throwIf_bind]
  by_cases short : (dto.holdDurationMs.any fun held => decide (held < sosMinHoldMs)) = true
  · rw [if_pos short, silent (by simp [allowsAlert, short])]
    exact ⟨[], .refl s, rfl⟩
  obtain ⟨t, counted, first⟩ := countAlert_reports s userId
  rw [if_neg short, run_bind_of_ok answer counted]
  by_cases often : (bumped s.base.now (s.rateCount userId)).value > maxAlertsPer10Min
  · rw [if_pos often, silent (by simp [allowsAlert, Nat.not_le_of_gt often])]
    refine ⟨[], first.trans (exec_reports ?_ t), rfl⟩
    refine Uses.send trivial fun remaining => ?_
    refine Uses.bind (Uses.send trivial fun locked => ?_) fun _ => trivial
    split
    · trivial
    · exact Uses.send trivial fun _ => trivial
  rw [if_neg often]
  cases known : s.base.users userId with
  | none =>
    have refused : answer (.emergencyAlertCreate userId dto requester.city) t =
        (.error .foreignKeyViolation, t) := by
      simp only [answer, first.base, known]
    rw [silent (by simp [allowsAlert, known])]
    refine ⟨[], ?_, rfl⟩
    change Reports s (run answer (.call _ _) t).2 []
    rw [run_call_of_answer answer refused]
    exact first
  | some user =>
    have allowed : s.allowsAlert userId dto requester = true := by
      simp [allowsAlert, banned, short, Nat.le_of_not_gt often, known]
    let alert := newAlert s.base.now userId dto requester.city
    let u := (t.withAlerts (t.emergencyAlerts.insert t.fresh alert)).withFresh (t.fresh + 1)
    have created : answer (.emergencyAlertCreate userId dto requester.city) t = (.ok (t.fresh, alert), u) := by
      simp only [answer, first.base, known]
      rfl
    have second := answer_reports (.emergencyAlertCreate userId dto requester.city) trivial t
    rw [created] at second
    have there : (u.emergencyAlerts.find? t.fresh).isSome = true := by
      change ((t.emergencyAlerts.insert t.fresh alert).find? t.fresh).isSome = true
      rw [Table.find?_insert]
      split
      · rfl
      · rename_i occupied
        exact Option.isSome_iff_ne_none.mpr fun absent => occupied ⟨rfl, absent⟩
    have base : u.base = s.base := second.base.trans first.base
    have queried := run_queryNearbyRaw u ⟨dto.latitude, dto.longitude⟩ dto.radiusMeters requester.city
      maxRecipients
    rw [base] at queried
    rw [alertRecipients, if_pos allowed, alertSearch]
    change ∃ sent, Reports s (run answer (.call _ _) t).2 sent ∧ _
    rw [run_call_of_answer answer created]
    change ∃ sent, Reports s (run answer (queryNearbyRaw s.base.deployment _ _ _ _ >>= _) u).2 sent ∧ _
    cases searched : s.base.geosearchKey (userLocationShard s.base.deployment requester.city)
        ⟨dto.latitude, dto.longitude⟩ dto.radiusMeters maxRecipients with
    | error error =>
      rw [searched] at queried
      rw [run_bind_of_error answer queried]
      exact ⟨[], first.trans second, rfl⟩
    | ok hits =>
      rw [searched] at queried
      rw [run_bind_of_ok answer queried]
      obtain ⟨sent, third, pushed⟩ :=
        notifyNearby_reports u userId requester t.fresh alert (s.base.readHits hits) there
      refine ⟨sent, first.trans (second.trans third), ?_⟩
      rw [pushed, toldAmong_congr base]

end Motogram.Emergency
