import MqttClient.Connection

/-! # Reports to the user over runs

When `on_disconnect` and `on_connection_complete` are called, over every run of
`Connection.step`. -/

namespace MqttClient.Connection

/-! ## `on_disconnect` -/

/-- 1 while an accepted disconnect waits for its report. -/
def awaitingDisconnect (connection : Connection) : Nat :=
  if connection.state = .disconnecting then 1 else 0

/-- Over a stretch of execution, `on_disconnect` calls plus a disconnect still
awaited at the end equal accepted disconnects plus one awaited at the start. -/
def DisconnectBalanced (before after : Connection) (events : List Event) : Prop :=
  events.count .disconnect + after.awaitingDisconnect =
    events.count .disconnectAccepted + before.awaitingDisconnect

theorem DisconnectBalanced.refl (connection : Connection) :
    DisconnectBalanced connection connection [] := by
  simp [DisconnectBalanced]

theorem DisconnectBalanced.trans {first middle last : Connection}
    {events later : List Event} (head : DisconnectBalanced first middle events)
    (tail : DisconnectBalanced middle last later) :
    DisconnectBalanced first last (events ++ later) := by
  simp only [DisconnectBalanced, List.count_append] at *
  omega

@[simp] theorem count_disconnect_requestComplete (completions : List Completion) :
    (completions.map Event.requestComplete).count .disconnect = 0 :=
  List.count_eq_zero.mpr (by simp)

@[simp] theorem count_disconnectAccepted_requestComplete (completions : List Completion) :
    (completions.map Event.requestComplete).count .disconnectAccepted = 0 :=
  List.count_eq_zero.mpr (by simp)

theorem destroyFinal_balanced (connection : Connection) :
    DisconnectBalanced connection connection.destroyFinal.1 connection.destroyFinal.2 := by
  simp [DisconnectBalanced, destroyFinal, awaitingDisconnect]

theorem startDestroy_balanced (connection : Connection) :
    DisconnectBalanced connection connection.startDestroy.1 connection.startDestroy.2 := by
  unfold startDestroy
  split
  · split <;> simp_all [DisconnectBalanced, awaitingDisconnect, mqttDisconnectImpl]
  · exact destroyFinal_balanced connection

theorem releaseReference_balanced (connection : Connection) :
    DisconnectBalanced connection connection.releaseReference.1
      connection.releaseReference.2 := by
  unfold releaseReference
  split
  · exact startDestroy_balanced connection
  · exact .refl connection

theorem DisconnectBalanced.andThen {before : Connection} {first : Connection × List Event}
    {next : Connection → Connection × List Event}
    (head : DisconnectBalanced before first.1 first.2)
    (tail : DisconnectBalanced first.1 (next first.1).1 (next first.1).2) :
    DisconnectBalanced before (andThen first next).1 (andThen first next).2 :=
  head.trans tail

theorem shutdownFinish_balanced (connection : Connection) (report : Event)
    (accepted : report ≠ .disconnectAccepted)
    (paid : (report = .disconnect) ↔ connection.state = .disconnecting) :
    DisconnectBalanced connection (connection.shutdownFinish report).1
      (connection.shutdownFinish report).2 := by
  have reported : DisconnectBalanced connection { connection with state := .disconnected }
      [report] := by
    by_cases disconnecting : connection.state = .disconnecting
    · simp [DisconnectBalanced, awaitingDisconnect, disconnecting, paid.mpr disconnecting]
    · have unpaid : report ≠ .disconnect := fun same => disconnecting (paid.mp same)
      simp [DisconnectBalanced, awaitingDisconnect, disconnecting, List.count_singleton,
        accepted, unpaid]
  refine DisconnectBalanced.andThen ?_ (releaseReference_balanced _)
  split
  · exact reported.andThen (destroyFinal_balanced _)
  · exact reported

theorem shutdownClose_balanced (connection : Connection) :
    DisconnectBalanced connection connection.shutdownClose.1 connection.shutdownClose.2 := by
  simp only [DisconnectBalanced, shutdownClose, awaitingDisconnect]
  split <;> simp_all

theorem disconnect_balanced (connection : Connection) :
    DisconnectBalanced connection connection.disconnect.1 connection.disconnect.2.1 := by
  unfold disconnect
  split
  · exact .refl connection
  · rename_i open_
    simp only [not_and, not_not] at open_
    simp only [DisconnectBalanced, awaitingDisconnect, mqttDisconnectImpl]
    by_cases connected : connection.state = .connected <;> simp_all

theorem onInterrupted_balanced (connection : Connection) (errorCode : ErrorCode)
    (disconnectOnInterrupt : Bool) :
    DisconnectBalanced connection (connection.onInterrupted errorCode disconnectOnInterrupt).1
      (connection.onInterrupted errorCode disconnectOnInterrupt).2 := by
  have interrupted : DisconnectBalanced connection connection [.interrupted errorCode] := by
    simp [DisconnectBalanced]
  unfold onInterrupted
  split
  · exact interrupted.andThen (disconnect_balanced connection)
  · exact interrupted

theorem mqttClientShutdown_balanced (connection : Connection) (errorCode : ErrorCode)
    (disconnectOnInterrupt : Bool) :
    DisconnectBalanced connection
      (connection.mqttClientShutdown errorCode disconnectOnInterrupt).1
      (connection.mqttClientShutdown errorCode disconnectOnInterrupt).2 := by
  refine DisconnectBalanced.andThen (shutdownClose_balanced connection) ?_
  have closedState : connection.shutdownClose.1.state =
      if connection.state = .connected then .reconnecting else connection.state := rfl
  unfold shutdownBranch
  split
  · simp [DisconnectBalanced, awaitingDisconnect]
  · refine DisconnectBalanced.andThen (onInterrupted_balanced _ _ _) ?_
    split
    · exact shutdownFinish_balanced _ _ (by simp) (by simp_all)
    · simp [DisconnectBalanced, awaitingDisconnect]
  · exact shutdownFinish_balanced _ _ (by simp) (by simp_all)
  · exact shutdownFinish_balanced _ _ (by simp) (by simp_all)
  · exact .refl _

theorem connect_balanced (connection : Connection) (options : ConnectionOptions)
    (failure : Option ConnectFailure) (held : connection.userReferences ≠ 0) :
    DisconnectBalanced connection (connection.connect options failure).1
      (connection.connect options failure).2.1 := by
  have fromClientId : ∀ connecting : Connection, connecting.state = .connecting →
      connecting.userReferences ≠ 0 →
      DisconnectBalanced connecting (connecting.connectFromClientId failure).1
        (connecting.connectFromClientId failure).2.1 := by
    intro connecting state held
    unfold connectFromClientId
    split
    · simp [DisconnectBalanced, awaitingDisconnect, connectError, state]
    · split <;> split <;>
        simp_all [DisconnectBalanced, awaitingDisconnect, connectError, releaseLifecycle,
          releaseReference]
  unfold connect
  split
  · exact .refl connection
  · rename_i disconnected
    have entered : DisconnectBalanced connection
        { connection with state := .connecting, cleanSession := options.cleanSession } [] := by
      simp_all [DisconnectBalanced, awaitingDisconnect]
    split
    · split
      · exact entered
      · split
        · exact entered.trans (by simp [DisconnectBalanced, awaitingDisconnect, connectError])
        · exact entered.trans (fromClientId _ rfl held)
    · exact entered.trans (fromClientId _ rfl held)

theorem mqttClientInit_balanced (connection : Connection) (errorCode : ErrorCode)
    (failure : Option InitFailure) :
    DisconnectBalanced connection (connection.mqttClientInit errorCode failure).1
      (connection.mqttClientInit errorCode failure).2 := by
  unfold mqttClientInit
  split
  · exact mqttClientShutdown_balanced _ _ _
  · split
    · simp [DisconnectBalanced, awaitingDisconnect]
    · split <;> simp [DisconnectBalanced, awaitingDisconnect, initHandleError]

theorem perform_balanced (connection : Connection) (action : Action)
    (enabled : connection.enabled action = true) :
    DisconnectBalanced connection (connection.perform action).1
      (connection.perform action).2 := by
  cases action with
  | connect options failure =>
      exact connect_balanced connection options failure (by simpa [Connection.enabled] using enabled)
  | disconnect => exact disconnect_balanced connection
  | release =>
      exact @DisconnectBalanced.trans _ _ _ [] _
        (by simp [DisconnectBalanced, awaitingDisconnect]) (releaseReference_balanced _)
  | channelSetup setup =>
      cases setup with
      | init errorCode failure => exact mqttClientInit_balanced connection errorCode failure
      | websocketRejected => simp [perform, channelSetup, DisconnectBalanced, awaitingDisconnect]
  | channelShutdown errorCode disconnectOnInterrupt =>
      exact mqttClientShutdown_balanced connection errorCode disconnectOnInterrupt
  | connackReceived =>
      simp only [perform, connackReceived]
      split <;> simp_all [DisconnectBalanced, awaitingDisconnect]
  | connackTimeout =>
      simp only [perform, connackReceivedTimeout]
      split <;> simp [DisconnectBalanced, awaitingDisconnect]
  | attemptReconnect connectFails =>
      simp only [perform, attemptReconnect]
      split <;> simp [DisconnectBalanced, awaitingDisconnect]
  | acquire | submitRequest _ | sendRequest _ | requestComplete _ _ =>
      simp [perform, DisconnectBalanced, awaitingDisconnect]

theorem step_balanced {connection next : Connection} {action : Action} {events : List Event}
    (stepped : connection.step action = some (next, events)) :
    DisconnectBalanced connection next events := by
  obtain ⟨-, enabled, performed⟩ := step_eq_some.mp stepped
  simpa [performed] using perform_balanced connection action enabled

theorem releaseReference_state {connection : Connection}
    (disconnected : connection.state = .disconnected) :
    connection.releaseReference.1.state = .disconnected := by
  unfold releaseReference startDestroy
  split <;> simp [destroyFinal, disconnected]

theorem shutdownFinish_state (connection : Connection) (report : Event) :
    (connection.shutdownFinish report).1.state = .disconnected := by
  unfold shutdownFinish releaseLifecycle
  apply releaseReference_state
  split <;> simp [destroyFinal]

theorem releaseReference_no_disconnect (connection : Connection) :
    .disconnect ∉ connection.releaseReference.2 := by
  unfold releaseReference startDestroy
  split
  · split
    · split <;> simp
    · simp [destroyFinal]
  · simp

theorem connect_no_disconnect (connection : Connection) (options : ConnectionOptions)
    (failure : Option ConnectFailure) :
    .disconnect ∉ (connection.connect options failure).2.1 := by
  have fromClientId : ∀ connecting : Connection,
      .disconnect ∉ (connecting.connectFromClientId failure).2.1 := by
    intro connecting
    unfold connectFromClientId
    split
    · simp [connectError]
    · split <;> split <;> simp [connectError, releaseLifecycle, releaseReference_no_disconnect]
  unfold connect
  split
  · simp
  · split
    · split
      · simp
      · split
        · simp [connectError]
        · exact fromClientId _
    · exact fromClientId _

theorem onInterrupted_no_disconnect (connection : Connection) (errorCode : ErrorCode)
    (disconnectOnInterrupt : Bool) :
    .disconnect ∉ (connection.onInterrupted errorCode disconnectOnInterrupt).2 := by
  unfold onInterrupted
  split
  · simp only [andThen_snd, List.mem_append, List.mem_singleton, reduceCtorEq, false_or]
    unfold disconnect
    split <;> simp
  · simp

theorem mqttClientShutdown_disconnected (connection : Connection) (errorCode : ErrorCode)
    (disconnectOnInterrupt : Bool)
    (reported : .disconnect ∈ (connection.mqttClientShutdown errorCode disconnectOnInterrupt).2) :
    (connection.mqttClientShutdown errorCode disconnectOnInterrupt).1.state = .disconnected := by
  simp only [mqttClientShutdown, andThen_snd, andThen_fst, List.mem_append] at reported ⊢
  rcases reported with cancelled | reported
  · simp [shutdownClose] at cancelled
  unfold shutdownBranch at reported ⊢
  split at reported
  · simp at reported
  · simp only [andThen_snd, andThen_fst, List.mem_append] at reported ⊢
    split
    · exact shutdownFinish_state _ _
    · rename_i notDisconnecting
      rcases reported with interrupted | finished
      · exact absurd interrupted (onInterrupted_no_disconnect _ _ _)
      · simp [notDisconnecting] at finished
  · exact shutdownFinish_state _ _
  · exact shutdownFinish_state _ _
  · simp at reported

theorem mqttClientInit_disconnected (connection : Connection) (errorCode : ErrorCode)
    (failure : Option InitFailure)
    (reported : .disconnect ∈ (connection.mqttClientInit errorCode failure).2) :
    (connection.mqttClientInit errorCode failure).1.state = .disconnected := by
  unfold mqttClientInit at reported ⊢
  split
  · rename_i failed
    rw [if_pos failed] at reported
    exact mqttClientShutdown_disconnected _ _ _ reported
  · rename_i succeeded
    rw [if_neg succeeded] at reported
    split at reported
    · simp at reported
    · split at reported <;> simp [initHandleError] at reported

theorem perform_disconnected (connection : Connection) (action : Action)
    (reported : .disconnect ∈ (connection.perform action).2) :
    (connection.perform action).1.state = .disconnected := by
  cases action with
  | channelSetup setup =>
      cases setup with
      | init errorCode failure => exact mqttClientInit_disconnected _ _ _ reported
      | websocketRejected => simp [perform, channelSetup] at reported
  | channelShutdown errorCode disconnectOnInterrupt =>
      exact mqttClientShutdown_disconnected connection errorCode disconnectOnInterrupt reported
  | connect options failure =>
      exact absurd reported (connect_no_disconnect connection options failure)
  | release => exact absurd reported (releaseReference_no_disconnect _)
  | disconnect => simp [perform, disconnect] at reported; split at reported <;> simp at reported
  | connackReceived =>
      simp only [perform, connackReceived] at reported
      split at reported <;> simp at reported
  | acquire | submitRequest _ | connackTimeout | attemptReconnect _ | sendRequest _
  | requestComplete _ _ => simp [perform] at reported

/-- `on_disconnect` is called at most once per accepted disconnect, and never in a
run in which none was accepted: over every run from a new connection, the calls
plus a disconnect still awaited equal the accepted disconnects, at every point
of the run. The step that calls it leaves the connection DISCONNECTED, which
`shutdownFinish` sets before the call. -/
theorem on_disconnect_once_per_accepted_disconnect {actions : List Action}
    {final : Connection} {log : List Event}
    (ran : Connection.new.run actions = some (final, log)) :
    log.count .disconnect + final.awaitingDisconnect = log.count .disconnectAccepted ∧
      ∀ {connection next : Connection} {action : Action} {events : List Event},
        connection.step action = some (next, events) → .disconnect ∈ events →
          next.state = .disconnected := by
  refine ⟨by simpa [DisconnectBalanced, awaitingDisconnect, Connection.new] using
    run_relation DisconnectBalanced.refl (fun head tail => head.trans tail) step_balanced ran, ?_⟩
  intro connection next action events stepped reported
  obtain ⟨-, -, performed⟩ := step_eq_some.mp stepped
  simpa [performed] using perform_disconnected connection action (by simpa [performed])

theorem on_disconnect_once_in_session :
    Connection.new.run [.connect ⟨none, false⟩ none, .channelSetup (.init .success none),
        .connackReceived, .disconnect, .channelShutdown .success false] =
      some (Connection.new, [.connectionComplete .success, .disconnectAccepted, .disconnect]) ∧
    ([Event.connectionComplete .success, .disconnectAccepted, .disconnect].count .disconnect +
        Connection.new.awaitingDisconnect =
      [Event.connectionComplete .success, .disconnectAccepted, .disconnect].count
        .disconnectAccepted ∧
      ∀ {connection next : Connection} {action : Action} {events : List Event},
        connection.step action = some (next, events) → .disconnect ∈ events →
          next.state = .disconnected) := by
  refine ⟨?ran, on_disconnect_once_per_accepted_disconnect ?ran⟩
  rfl

end MqttClient.Connection

namespace MqttClient

/-- Whether an event is a call of `on_connection_complete`. -/
def Event.isConnectionComplete : Event → Bool
  | .connectionComplete _ => true
  | _ => false

namespace Connection

/-! ## `on_connection_complete` -/

@[simp] theorem countP_connectionComplete_requestComplete (completions : List Completion) :
    (completions.map Event.requestComplete).countP Event.isConnectionComplete = 0 := by
  simp [List.countP_eq_zero, Event.isConnectionComplete]

theorem releaseReference_no_connectionComplete (connection : Connection) :
    connection.releaseReference.2.countP Event.isConnectionComplete = 0 := by
  unfold releaseReference startDestroy
  split
  · split
    · split <;> simp [Event.isConnectionComplete]
    · simp [destroyFinal, Event.isConnectionComplete]
  · simp

theorem mqttClientInit_failure {connection : Connection}
    (connecting : connection.state = .connecting) (failure : InitFailure) :
    (connection.mqttClientInit .success (some failure)).2 = [.connectionComplete .other] ∧
      (connection.mqttClientInit .success (some failure)).1.state = .connecting ∧
      (connection.mqttClientInit .success (some failure)).1.channel =
        connection.channel.shutdown ∧
      (connection.mqttClientInit .success (some failure)).1.destroyed = connection.destroyed := by
  cases failure <;> simp [mqttClientInit, initHandleError, connecting]

theorem mqttClientShutdown_connecting {connection : Connection}
    (connecting : connection.state = .connecting) (errorCode : ErrorCode)
    (disconnectOnInterrupt : Bool) :
    (connection.mqttClientShutdown errorCode disconnectOnInterrupt).2.countP
        Event.isConnectionComplete = 1 ∧
      (connection.mqttClientShutdown errorCode disconnectOnInterrupt).1.state = .disconnected := by
  simp only [mqttClientShutdown, andThen_snd, andThen_fst, connecting, shutdownBranch]
  refine ⟨?_, shutdownFinish_state _ _⟩
  simp [shutdownClose, shutdownFinish, releaseLifecycle, releaseReference_no_connectionComplete,
    Event.isConnectionComplete]

theorem step_channelShutdown {connection : Connection} (alive : connection.destroyed = false)
    (live : connection.channel = .established ∨ connection.channel = .shuttingDown)
    (errorCode : ErrorCode) (disconnectOnInterrupt : Bool) :
    connection.step (.channelShutdown errorCode disconnectOnInterrupt) =
      some ((connection.mqttClientShutdown errorCode disconnectOnInterrupt).1,
        (connection.mqttClientShutdown errorCode disconnectOnInterrupt).2) :=
  step_eq_some.mpr ⟨alive, by simpa [enabled] using live, rfl⟩

/-- For every connection in CONNECTING whose channel is setting up, and every step
of `s_mqtt_client_init` that can fail once the channel exists, the failure report
of `handle_error` is followed, when the channel's shutdown callback runs, by the
report of the CONNECTING branch of `s_mqtt_client_shutdown`: `on_connection_complete`
is called twice before the state returns to DISCONNECTED. -/
theorem init_failure_reports_connection_complete_twice {connection : Connection}
    (alive : connection.destroyed = false) (connecting : connection.state = .connecting)
    (settingUp : connection.channel = .settingUp) (failure : InitFailure)
    (errorCode : ErrorCode) (disconnectOnInterrupt : Bool) :
    ∃ final log,
      connection.run [.channelSetup (.init .success (some failure)),
          .channelShutdown errorCode disconnectOnInterrupt] = some (final, log) ∧
        log.countP Event.isConnectionComplete = 2 ∧ final.state = .disconnected := by
  obtain ⟨reported, stillConnecting, shuttingDown, kept⟩ :=
    mqttClientInit_failure connecting failure
  have setUp : connection.step (.channelSetup (.init .success (some failure))) =
      some ((connection.mqttClientInit .success (some failure)).1, [.connectionComplete .other]) :=
    step_eq_some.mpr ⟨alive, by simp [enabled, settingUp], Prod.ext rfl reported⟩
  have shutDown := step_channelShutdown (kept.trans alive)
    (by simp [shuttingDown, settingUp, ChannelPhase.shutdown]) errorCode disconnectOnInterrupt
  obtain ⟨twice, disconnected⟩ :=
    mqttClientShutdown_connecting stillConnecting errorCode disconnectOnInterrupt
  refine ⟨_, _, by rw [run_cons_of_step setUp, run_cons_of_step shutDown]; rfl, ?_, disconnected⟩
  simp [twice, Event.isConnectionComplete]

theorem init_failure_reports_twice_on_first_connect :
    (Connection.new.connect ⟨none, false⟩ none).1.destroyed = false ∧
      (Connection.new.connect ⟨none, false⟩ none).1.state = .connecting ∧
      (Connection.new.connect ⟨none, false⟩ none).1.channel = .settingUp ∧
      ∃ final log,
        (Connection.new.connect ⟨none, false⟩ none).1.run
            [.channelSetup (.init .success (some .slotInsertEnd)), .channelShutdown .other false] =
          some (final, log) ∧
        log.countP Event.isConnectionComplete = 2 ∧ final.state = .disconnected :=
  ⟨rfl, rfl, rfl, init_failure_reports_connection_complete_twice rfl rfl rfl _ _ _⟩

/-- A first connection whose slot insertion fails in `s_mqtt_client_init`:
`on_connection_complete` is called by `handle_error` and again by the shutdown
callback, and the connection is DISCONNECTED again. -/
theorem connect_then_init_failure_reports_twice :
    Connection.new.run [.connect ⟨none, false⟩ none,
        .channelSetup (.init .success (some .slotInsertEnd)), .channelShutdown .other false] =
      some (Connection.new, [.connectionComplete .other, .connectionComplete .other]) := rfl

end Connection

end MqttClient
