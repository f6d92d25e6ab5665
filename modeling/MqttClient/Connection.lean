import MqttClient.Requests

/-! # The connection state machine

The lifecycle half of `client.c`, one step per entry point or callback. The calls into
collaborators that can fail are step parameters, so a run explores every failure at
every point, in every order the event loop allows. -/

namespace MqttClient

/-- Where the connection's channel is in its life. -/
inductive ChannelPhase
  /-- No channel belongs to the connection. -/
  | absent
  /-- `s_mqtt_client_connect` started one; its setup callback has not run. -/
  | settingUp
  /-- `s_mqtt_client_init` installed the handler and sent CONNECT. -/
  | established
  /-- `aws_channel_shutdown` was called; the shutdown callback has not run. -/
  | shuttingDown
  deriving DecidableEq, Repr

/-- `aws_channel_shutdown`: a channel that exists starts shutting down. -/
def ChannelPhase.shutdown : ChannelPhase → ChannelPhase
  | .absent => .absent
  | _ => .shuttingDown

/-- `struct aws_mqtt_client_connection`, by the fields the lifecycle reads and
writes. `ref_count` is split into the reference that a successful connect holds
for the lifetime of its channels and the references held by the user. -/
structure Connection where
  state : ConnectionState
  /-- `connection->slot != NULL`. -/
  slot : Bool
  channel : ChannelPhase
  cleanSession : Bool
  lifecycleReferences : Nat
  userReferences : Nat
  /-- `reconnect_task->task` is scheduled on an event loop. -/
  reconnectScheduled : Bool
  /-- `s_connack_received_timeout` is scheduled on the channel. -/
  connackTaskScheduled : Bool
  /-- `on_disconnect` was replaced by `s_on_final_disconnect`. -/
  finalDisconnect : Bool
  destroyed : Bool
  requests : RequestTracker
  deriving DecidableEq, Repr

/-- What the user and the engine observe. `disconnectAccepted` marks a
disconnect that moved the state to DISCONNECTING (a user disconnect returning
`AWS_OP_SUCCESS`, or the one started by the last release). -/
inductive Event
  | connectionComplete (errorCode : ErrorCode)
  | interrupted (errorCode : ErrorCode)
  | resumed
  | disconnect
  | disconnectAccepted
  | requestComplete (completion : Completion)
  deriving DecidableEq, Repr

/-- Run `next` on the connection that `first` leaves, keeping the events of both
in order. -/
def andThen (first : Connection × List Event) (next : Connection → Connection × List Event) :
    Connection × List Event :=
  ((next first.1).1, first.2 ++ (next first.1).2)

@[simp] theorem andThen_fst (first : Connection × List Event)
    (next : Connection → Connection × List Event) :
    (andThen first next).1 = (next first.1).1 := rfl

@[simp] theorem andThen_snd (first : Connection × List Event)
    (next : Connection → Connection × List Event) :
    (andThen first next).2 = first.2 ++ (next first.1).2 := rfl

namespace Connection

/-- `aws_mqtt_client_connection_new`: DISCONNECTED, one reference held by the caller. -/
def new : Connection where
  state := .disconnected
  slot := false
  channel := .absent
  cleanSession := false
  lifecycleReferences := 0
  userReferences := 1
  reconnectScheduled := false
  connackTaskScheduled := false
  finalDisconnect := false
  destroyed := false
  requests := .empty

/-! ## Destruction -/

/-- Modelled from the spec: `mqtt_disconnect_impl` (in `client_channel_handler.c`)
shuts the channel down when a slot is installed, and does nothing otherwise. -/
def mqttDisconnectImpl (connection : Connection) : Connection :=
  { connection with
    channel := if connection.slot then connection.channel.shutdown else connection.channel }

/-- `s_mqtt_client_connection_destroy_final`: every pending request is completed
with `CONNECTION_DESTROYED` and the connection is freed. -/
def destroyFinal (connection : Connection) : Connection × List Event :=
  let destroyed := connection.requests.destroyRequests
  ({ connection with destroyed := true, requests := destroyed.1 },
    destroyed.2.map .requestComplete)

/-- `s_mqtt_client_connection_start_destroy`, run when the last reference goes. -/
def startDestroy (connection : Connection) : Connection × List Event :=
  if connection.state ≠ .disconnected then
    let final := { connection with finalDisconnect := true }
    if connection.state ≠ .disconnecting then
      ({ mqttDisconnectImpl final with state := .disconnecting }, [.disconnectAccepted])
    else (final, [])
  else destroyFinal connection

/-- What `aws_ref_count_release` does after a reference was dropped: the last one
starts the destruction. -/
def releaseReference (connection : Connection) : Connection × List Event :=
  if connection.lifecycleReferences + connection.userReferences = 0 then
    startDestroy connection
  else (connection, [])

/-- `aws_mqtt_client_connection_release` of the reference that connect acquired. -/
def releaseLifecycle (connection : Connection) : Connection × List Event :=
  releaseReference { connection with
    lifecycleReferences := connection.lifecycleReferences - 1 }

/-! ## Connect and disconnect -/

/-- `aws_tls_connection_options`, by whether `server_name` is set. -/
structure TlsConnectionOptions where
  serverName : Bool
  deriving DecidableEq, Repr

/-- The fields of `aws_mqtt_connection_options` that the lifecycle reads. -/
structure ConnectionOptions where
  tlsOptions : Option TlsConnectionOptions
  cleanSession : Bool
  deriving DecidableEq, Repr

/-- The calls inside `aws_mqtt_client_connection_connect` that can fail. -/
inductive ConnectFailure
  | tlsConnectionOptionsCopy
  | tlsSetServerName
  | clientIdCopy
  | mqttClientConnect
  deriving DecidableEq, Repr

/-- The `error:` label of `aws_mqtt_client_connection_connect`. -/
def connectError (connection : Connection) (events : List Event) :
    Connection × List Event × Except ErrorCode Unit :=
  ({ connection with state := .disconnected }, events, .error .other)

/-- `aws_mqtt_client_connection_connect` from the client-id copy on: the
clean-session cancellation, the lifecycle acquire and `s_mqtt_client_connect`. -/
def connectFromClientId (connection : Connection) (failure : Option ConnectFailure) :
    Connection × List Event × Except ErrorCode Unit :=
  if failure = some .clientIdCopy then connectError connection []
  else
    let cancelled :=
      if connection.cleanSession then connection.requests.cancelPendingRequests
      else (connection.requests, [])
    let acquired := { connection with
      requests := cancelled.1, lifecycleReferences := connection.lifecycleReferences + 1 }
    let events := cancelled.2.map Event.requestComplete
    if failure = some .mqttClientConnect then
      let released := releaseLifecycle acquired
      connectError released.1 (events ++ released.2)
    else ({ acquired with channel := .settingUp }, events, .ok ())

/-- `aws_mqtt_client_connection_connect`. -/
def connect (connection : Connection) (options : ConnectionOptions)
    (failure : Option ConnectFailure) : Connection × List Event × Except ErrorCode Unit :=
  if connection.state ≠ .disconnected then (connection, [], .error .alreadyConnected)
  else
    let connecting := { connection with
      state := .connecting, cleanSession := options.cleanSession }
    match options.tlsOptions with
    | some tls =>
        if failure = some .tlsConnectionOptionsCopy then (connecting, [], .error .other)
        else if !tls.serverName ∧ failure = some .tlsSetServerName then
          connectError connecting []
        else connectFromClientId connecting failure
    | none => connectFromClientId connecting failure

/-- `aws_mqtt_client_connection_disconnect`. -/
def disconnect (connection : Connection) : Connection × List Event × Except ErrorCode Unit :=
  if connection.state ≠ .connected ∧ connection.state ≠ .reconnecting then
    (connection, [], .error .notConnected)
  else
    (mqttDisconnectImpl { connection with state := .disconnecting, finalDisconnect := false },
      [.disconnectAccepted], .ok ())

/-! ## Channel callbacks -/

/-- The error code `s_mqtt_client_shutdown` reports: a clean shutdown that the
user did not ask for is an unexpected hangup. -/
def shutdownErrorCode (prevState : ConnectionState) (errorCode : ErrorCode) : ErrorCode :=
  if errorCode = .success ∧ prevState ≠ .disconnecting ∧ prevState ≠ .disconnected then
    .unexpectedHangup
  else errorCode

/-- The `if (disconnected_state)` tail of `s_mqtt_client_shutdown`: DISCONNECTED,
then the report (an `on_disconnect` that is `s_on_final_disconnect` destroys the
connection), then the release of the lifecycle reference. -/
def shutdownFinish (connection : Connection) (report : Event) : Connection × List Event :=
  let disconnected := { connection with state := .disconnected }
  andThen
    (if report = .disconnect ∧ disconnected.finalDisconnect then
      andThen (disconnected, [report]) destroyFinal
    else (disconnected, [report]))
    releaseLifecycle

/-- The first critical section of `s_mqtt_client_shutdown` and the cancellation
after it: the request lists are moved, CONNECTED becomes RECONNECTING and the slot
is cleared; with a clean session every request is completed and released. The
channel is gone, and its CONNACK task with it. -/
def shutdownClose (connection : Connection) : Connection × List Event :=
  let moved := connection.requests.shutdownRequests connection.cleanSession
  ({ connection with
      state := if connection.state = .connected then .reconnecting else connection.state
      slot := false, channel := .absent, connackTaskScheduled := false, requests := moved.1 },
    moved.2.map Event.requestComplete)

/-- The `on_interrupted` callback; `disconnectOnInterrupt` is whether the user
calls `aws_mqtt_client_connection_disconnect` in it. -/
def onInterrupted (connection : Connection) (errorCode : ErrorCode)
    (disconnectOnInterrupt : Bool) : Connection × List Event :=
  if disconnectOnInterrupt then
    andThen (connection, [.interrupted errorCode]) fun interrupted =>
      (interrupted.disconnect.1, interrupted.disconnect.2.1)
  else (connection, [.interrupted errorCode])

/-- The rest of `s_mqtt_client_shutdown`, by the state it found. -/
def shutdownBranch (closed : Connection) (prevState : ConnectionState)
    (errorCode : ErrorCode) (disconnectOnInterrupt : Bool) : Connection × List Event :=
  match prevState with
  | .reconnecting => ({ closed with reconnectScheduled := true }, [])
  | .connected =>
      andThen (closed.onInterrupted errorCode disconnectOnInterrupt) fun interrupted =>
        if interrupted.state = .disconnecting then interrupted.shutdownFinish .disconnect
        else ({ interrupted with reconnectScheduled := true }, [])
  | .disconnecting => closed.shutdownFinish .disconnect
  | .connecting => closed.shutdownFinish (.connectionComplete errorCode)
  | .disconnected => (closed, [])

/-- `s_mqtt_client_shutdown`. -/
def mqttClientShutdown (connection : Connection) (errorCode : ErrorCode)
    (disconnectOnInterrupt : Bool) : Connection × List Event :=
  andThen connection.shutdownClose fun closed =>
    closed.shutdownBranch connection.state (shutdownErrorCode connection.state errorCode)
      disconnectOnInterrupt

/-- The calls inside `s_mqtt_client_init` that can fail, in the order it makes them. -/
inductive InitFailure
  | slotNew
  | slotInsertEnd
  | slotSetHandler
  | connackTaskAlloc
  | currentClockTime
  | messageForPacket
  | connectEncode
  | slotSendMessage
  deriving DecidableEq, Repr

/-- The `handle_error:` label of `s_mqtt_client_init`. -/
def initHandleError (connection : Connection) : Connection × List Event :=
  ({ connection with channel := connection.channel.shutdown },
    [.connectionComplete .other])

/-- `s_mqtt_client_init`: the channel's setup callback. -/
def mqttClientInit (connection : Connection) (errorCode : ErrorCode)
    (failure : Option InitFailure) : Connection × List Event :=
  if errorCode ≠ .success then mqttClientShutdown connection errorCode false
  else if connection.state = .disconnecting then
    ({ connection with channel := connection.channel.shutdown }, [])
  else
    match failure with
    | some .slotNew => initHandleError connection
    | some .slotInsertEnd | some .slotSetHandler | some .connackTaskAlloc
    | some .currentClockTime => initHandleError { connection with slot := true }
    | some .messageForPacket | some .connectEncode | some .slotSendMessage =>
        initHandleError { connection with slot := true, connackTaskScheduled := true }
    | none =>
        ({ connection with
          slot := true, connackTaskScheduled := true, channel := .established }, [])

/-- How a channel's setup ends: through `s_mqtt_client_init` with an error or a
channel, or, over websockets, shut down by `s_on_websocket_setup` when the
conversion or the handshake validator fails. -/
inductive ChannelSetup
  | init (errorCode : ErrorCode) (failure : Option InitFailure)
  | websocketRejected
  deriving DecidableEq, Repr

def channelSetup (connection : Connection) : ChannelSetup → Connection × List Event
  | .init errorCode failure => mqttClientInit connection errorCode failure
  | .websocketRejected => ({ connection with channel := connection.channel.shutdown }, [])

/-- `s_connack_received_timeout` run by the channel. -/
def connackReceivedTimeout (connection : Connection) : Connection :=
  let fired := { connection with connackTaskScheduled := false }
  if connection.state = .connecting ∨ connection.state = .reconnecting then
    { fired with channel := fired.channel.shutdown }
  else fired

/-- Modelled from the spec: an accepted CONNACK (in `client_channel_handler.c`).
CONNECTING and RECONNECTING become CONNECTED; a first connection reports
`on_connection_complete`, a reconnection `on_resumed`. -/
def connackReceived (connection : Connection) : Connection × List Event :=
  match connection.state with
  | .connecting => ({ connection with state := .connected }, [.connectionComplete .success])
  | .reconnecting => ({ connection with state := .connected }, [.resumed])
  | _ => (connection, [])

/-- `s_attempt_reconnect` run by the event loop: the task is rescheduled when
`s_mqtt_client_connect` fails, and a channel is set up otherwise. -/
def attemptReconnect (connection : Connection) (connectFails : Bool) : Connection :=
  if connectFails then connection
  else { connection with reconnectScheduled := false, channel := .settingUp }

/-! ## Runs -/

/-- Everything that can happen to a connection: the user's calls, and the
callbacks and tasks the event loop runs. -/
inductive Action
  | connect (options : ConnectionOptions) (failure : Option ConnectFailure)
  | disconnect
  | acquire
  | release
  | submitRequest (request : Request)
  | channelSetup (setup : ChannelSetup)
  | channelShutdown (errorCode : ErrorCode) (disconnectOnInterrupt : Bool)
  | connackReceived
  | connackTimeout
  | attemptReconnect (connectFails : Bool)
  | sendRequest (result : RequestState)
  | requestComplete (packetId : UInt16) (errorCode : ErrorCode)
  deriving DecidableEq, Repr

/-- Whether an action can happen now: a user call needs a reference held by the
user, and a callback or task needs the channel or the schedule it belongs to. -/
def enabled (connection : Connection) : Action → Bool
  | .connect _ _ | .disconnect | .acquire | .release | .submitRequest _ =>
      connection.userReferences ≠ 0
  | .channelSetup _ => connection.channel = .settingUp
  | .channelShutdown _ _ =>
      connection.channel = .established ∨ connection.channel = .shuttingDown
  | .connackReceived => connection.channel = .established
  | .connackTimeout => connection.connackTaskScheduled
  | .attemptReconnect _ => connection.reconnectScheduled
  | .sendRequest _ =>
      connection.state = .connected ∧ connection.channel = .established ∧
        connection.requests.pendingRequestsList ≠ []
  | .requestComplete _ _ => true

/-- What an action does. A request that `mqtt_create_request` refuses (packet id
0) changes nothing. -/
def perform (connection : Connection) : Action → Connection × List Event
  | .connect options failure =>
      ((connection.connect options failure).1, (connection.connect options failure).2.1)
  | .disconnect => (connection.disconnect.1, connection.disconnect.2.1)
  | .acquire => ({ connection with userReferences := connection.userReferences + 1 }, [])
  | .release =>
      releaseReference { connection with userReferences := connection.userReferences - 1 }
  | .submitRequest request =>
      ({ connection with
        requests := (connection.requests.mqttCreateRequest request).getD connection.requests },
        [])
  | .channelSetup setup => connection.channelSetup setup
  | .channelShutdown errorCode disconnectOnInterrupt =>
      connection.mqttClientShutdown errorCode disconnectOnInterrupt
  | .connackReceived => connection.connackReceived
  | .connackTimeout => (connection.connackReceivedTimeout, [])
  | .attemptReconnect connectFails => (connection.attemptReconnect connectFails, [])
  | .sendRequest result =>
      let sent := (connection.requests.sendRequest result).getD (connection.requests, [])
      ({ connection with requests := sent.1 }, sent.2.map Event.requestComplete)
  | .requestComplete packetId errorCode =>
      let completed := connection.requests.mqttRequestComplete packetId errorCode
      ({ connection with requests := completed.1 }, completed.2.map Event.requestComplete)

/-- One step, or `none` when the action cannot happen: nothing runs on a
destroyed connection. -/
def step (connection : Connection) (action : Action) : Option (Connection × List Event) :=
  if !connection.destroyed && connection.enabled action then some (connection.perform action)
  else none

theorem step_eq_some {connection next : Connection} {action : Action} {events : List Event} :
    connection.step action = some (next, events) ↔
      connection.destroyed = false ∧ connection.enabled action = true ∧
        connection.perform action = (next, events) := by
  unfold step
  split <;> simp_all

/-- A run of actions from a connection: its final connection and every event, or
`none` when some action could not happen. -/
def run (connection : Connection) : List Action → Option (Connection × List Event)
  | [] => some (connection, [])
  | action :: actions =>
      (connection.step action).bind fun (next, events) =>
        (run next actions).map fun (final, later) => (final, events ++ later)

theorem run_cons_eq {connection final : Connection} {action : Action}
    {actions : List Action} {log : List Event}
    (ran : connection.run (action :: actions) = some (final, log)) :
    ∃ next events later, connection.step action = some (next, events) ∧
      next.run actions = some (final, later) ∧ log = events ++ later := by
  simp only [run, Option.bind_eq_some, Option.map_eq_some'] at ran
  obtain ⟨⟨next, events⟩, stepped, ⟨final', later⟩, rest, equal⟩ := ran
  cases equal
  exact ⟨next, events, later, stepped, rest, rfl⟩

theorem run_cons_of_step {connection next : Connection} {action : Action}
    {actions : List Action} {events : List Event}
    (stepped : connection.step action = some (next, events)) :
    connection.run (action :: actions) =
      (next.run actions).map fun (final, later) => (final, events ++ later) := by
  simp [run, stepped]

theorem run_invariant_of_allowed {Invariant : Connection → Prop} {Allowed : Action → Prop}
    (preserved : ∀ {connection next : Connection} {action : Action} {events : List Event},
      Allowed action → Invariant connection → connection.step action = some (next, events) →
        Invariant next) :
    ∀ {actions : List Action} {connection final : Connection} {log : List Event},
      (∀ action ∈ actions, Allowed action) → Invariant connection →
        connection.run actions = some (final, log) → Invariant final
  | [], _, _, _, _, holds, ran => by
      simp only [run, Option.some.injEq, Prod.mk.injEq] at ran
      exact ran.1 ▸ holds
  | _ :: _, _, _, _, allowed, holds, ran => by
      obtain ⟨next, events, later, stepped, rest, -⟩ := run_cons_eq ran
      exact run_invariant_of_allowed preserved
        (fun action member => allowed action (.tail _ member))
        (preserved (allowed _ (.head _)) holds stepped) rest

theorem run_invariant {Invariant : Connection → Prop}
    (preserved : ∀ {connection next : Connection} {action : Action} {events : List Event},
      Invariant connection → connection.step action = some (next, events) → Invariant next)
    {actions : List Action} {connection final : Connection} {log : List Event}
    (holds : Invariant connection) (ran : connection.run actions = some (final, log)) :
    Invariant final :=
  @run_invariant_of_allowed Invariant (fun _ => True) (fun _ => preserved) actions connection
    final log (fun _ _ => trivial) holds ran

theorem run_relation {Relation : Connection → Connection → List Event → Prop}
    (refl : ∀ connection, Relation connection connection [])
    (trans : ∀ {first middle last : Connection} {events later : List Event},
      Relation first middle events → Relation middle last later →
        Relation first last (events ++ later))
    (stepped : ∀ {connection next : Connection} {action : Action} {events : List Event},
      connection.step action = some (next, events) → Relation connection next events) :
    ∀ {actions : List Action} {connection final : Connection} {log : List Event},
      connection.run actions = some (final, log) → Relation connection final log
  | [], connection, _, _, ran => by
      simp only [run, Option.some.injEq, Prod.mk.injEq] at ran
      obtain ⟨rfl, rfl⟩ := ran
      exact refl connection
  | _ :: _, _, _, _, ran => by
      obtain ⟨next, events, later, first, rest, rfl⟩ := run_cons_eq ran
      exact trans (stepped first) (run_relation refl trans stepped rest)

end Connection

end MqttClient
