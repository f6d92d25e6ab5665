import MqttClient.Connection

/-! # The lifecycle invariant

`Coherent` holds in every reachable state of a connection. The lifecycle reference is
held exactly while the state is not DISCONNECTED in every run in which no connect fails
at its TLS-options copy, a failure that leaves the connection `Stranded`. -/

namespace MqttClient

/-- A channel whose setup callback has run and whose shutdown callback has not. -/
def ChannelPhase.Up (phase : ChannelPhase) : Prop :=
  phase = .established ∨ phase = .shuttingDown

@[simp] theorem ChannelPhase.up_shutdown {phase : ChannelPhase} :
    phase.shutdown.Up ↔ phase ≠ .absent := by
  cases phase <;> simp [ChannelPhase.shutdown, ChannelPhase.Up]

theorem ChannelPhase.Up.ne_absent {phase : ChannelPhase} (up : phase.Up) : phase ≠ .absent := by
  rcases up with rfl | rfl <;> simp

@[simp] theorem ChannelPhase.shutdown_of_up {phase : ChannelPhase} (up : phase.Up) :
    phase.shutdown = .shuttingDown := by
  rcases up with rfl | rfl <;> rfl

@[simp] theorem ChannelPhase.shutdown_absent : ChannelPhase.absent.shutdown = .absent := rfl

@[simp] theorem ChannelPhase.not_up_absent : ¬ChannelPhase.absent.Up := by
  simp [ChannelPhase.Up]

@[simp] theorem ChannelPhase.not_up_settingUp : ¬ChannelPhase.settingUp.Up := by
  simp [ChannelPhase.Up]

@[simp] theorem ChannelPhase.up_established : ChannelPhase.established.Up := .inl rfl

@[simp] theorem ChannelPhase.up_shuttingDown : ChannelPhase.shuttingDown.Up := .inr rfl

namespace Connection

/-- The facts that hold in every reachable state, whatever connect returned. -/
structure Coherent (connection : Connection) : Prop where
  slot_up : connection.slot = true → connection.channel.Up
  connack_up : connection.connackTaskScheduled = true → connection.channel.Up
  reconnect_absent : connection.reconnectScheduled = true → connection.channel = .absent
  reconnect_state : connection.reconnectScheduled = true →
    connection.state = .reconnecting ∨ connection.state = .disconnecting
  channel_state : connection.channel ≠ .absent → connection.state ≠ .disconnected
  connected_up : connection.state = .connected → connection.channel.Up
  ongoing_up : connection.requests.ongoingRequestsList ≠ [] → connection.channel.Up
  consistent : connection.requests.Consistent

/-- The lifecycle reference is held exactly while the state is not DISCONNECTED. -/
def HoldsLifecycle (connection : Connection) : Prop :=
  connection.lifecycleReferences = if connection.state = .disconnected then 0 else 1

/-- The lifecycle of every run without a failed TLS-options copy: the reference
matches the state, and `on_disconnect` is the user's. -/
def Settled (connection : Connection) : Prop :=
  connection.HoldsLifecycle ∧ connection.finalDisconnect = false

/-- What a failed TLS-options copy leaves: CONNECTING with no lifecycle
reference, no channel and no reconnect, and after the last release DISCONNECTING
with `s_on_final_disconnect`, which nothing will ever call. -/
def Stranded (connection : Connection) : Prop :=
  connection.lifecycleReferences = 0 ∧ connection.channel = .absent ∧
    connection.reconnectScheduled = false ∧
    (connection.state = .connecting ∧ connection.finalDisconnect = false ∨
      connection.state = .disconnecting ∧ connection.finalDisconnect = true)

structure Invariant (connection : Connection) : Prop where
  coherent : connection.Coherent
  lifecycle : connection.Settled ∨ connection.Stranded

/-- No channel, slot, task, reconnect or ongoing request: what a shutdown leaves. -/
@[mk_iff] structure Quiet (connection : Connection) : Prop where
  channel : connection.channel = .absent
  slot : connection.slot = false
  connack : connection.connackTaskScheduled = false
  reconnect : connection.reconnectScheduled = false
  ongoing : connection.requests.ongoingRequestsList = []
  consistent : connection.requests.Consistent

variable {connection : Connection}

theorem Quiet.coherent (quiet : connection.Quiet)
    (notConnected : connection.state ≠ .connected) : connection.Coherent where
  slot_up := by simp [quiet.slot]
  connack_up := by simp [quiet.connack]
  reconnect_absent := by simp [quiet.reconnect]
  reconnect_state := by simp [quiet.reconnect]
  channel_state := by simp [quiet.channel]
  connected_up := fun connected => absurd connected notConnected
  ongoing_up := by simp [quiet.ongoing]
  consistent := quiet.consistent

theorem Coherent.idle (coherent : connection.Coherent) (down : ¬connection.channel.Up) :
    connection.slot = false ∧ connection.connackTaskScheduled = false ∧
      connection.requests.ongoingRequestsList = [] ∧ connection.state ≠ .connected := by
  refine ⟨?_, ?_, ?_, fun connected => down (coherent.connected_up connected)⟩
  · simpa using mt coherent.slot_up down
  · simpa using mt coherent.connack_up down
  · simpa using mt coherent.ongoing_up down

theorem Coherent.quiet (coherent : connection.Coherent)
    (absent : connection.channel = .absent)
    (notScheduled : connection.reconnectScheduled = false) : connection.Quiet :=
  have idle := coherent.idle (by simp [absent])
  ⟨absent, idle.1, idle.2.1, notScheduled, idle.2.2.1, coherent.consistent⟩

theorem mqttDisconnectImpl_eq_self (unset : connection.slot = false) :
    connection.mqttDisconnectImpl = connection := by
  cases connection
  subst unset
  rfl

theorem Coherent.quiet_of_disconnected (coherent : connection.Coherent)
    (disconnected : connection.state = .disconnected) : connection.Quiet :=
  coherent.quiet (by_contra fun live => coherent.channel_state live disconnected)
    (by
      by_contra scheduled
      rcases coherent.reconnect_state (by simpa using scheduled) with state | state <;>
        simp [disconnected] at state)

theorem Stranded.not_settled (stranded : connection.Stranded) : ¬connection.Settled := by
  obtain ⟨zero, -, -, ⟨state, -⟩ | ⟨state, -⟩⟩ := stranded <;>
    simp [Settled, HoldsLifecycle, zero, state]

theorem Invariant.settled_of_live (invariant : connection.Invariant)
    (live : connection.channel ≠ .absent) : connection.Settled :=
  invariant.lifecycle.resolve_right fun stranded => live stranded.2.1

theorem Invariant.settled_of_disconnected (invariant : connection.Invariant)
    (disconnected : connection.state = .disconnected) : connection.Settled :=
  invariant.lifecycle.resolve_right fun ⟨_, _, _, stranded⟩ => by
    rcases stranded with ⟨state, -⟩ | ⟨state, -⟩ <;> simp [disconnected] at state

theorem Settled.lifecycle_one (settled : connection.Settled)
    (notDisconnected : connection.state ≠ .disconnected) :
    connection.lifecycleReferences = 1 := by
  simpa [HoldsLifecycle, notDisconnected] using settled.1

/-- `next` satisfies the invariant, and the lifecycle of `connection` carries
over: a settled connection stays settled and a stranded one stranded. -/
structure Kept (connection next : Connection) : Prop where
  invariant : next.Invariant
  settled : connection.Settled → next.Settled
  stranded : connection.Stranded → next.Stranded

theorem Kept.refl (invariant : connection.Invariant) : Kept connection connection :=
  ⟨invariant, id, id⟩

theorem Kept.trans {middle next : Connection} (first : Kept connection middle)
    (second : Kept middle next) : Kept connection next :=
  ⟨second.invariant, second.settled ∘ first.settled, second.stranded ∘ first.stranded⟩

theorem Kept.of_settled {next : Connection} (before : connection.Settled)
    (coherent : next.Coherent) (settled : next.Settled) : Kept connection next :=
  ⟨⟨coherent, .inl settled⟩, fun _ => settled, fun stranded => absurd before stranded.not_settled⟩

theorem Kept.of_stranded {next : Connection} (before : connection.Stranded)
    (coherent : next.Coherent) (stranded : next.Stranded) : Kept connection next :=
  ⟨⟨coherent, .inr stranded⟩, fun settled => absurd settled before.not_settled, fun _ => stranded⟩

/-! ## Destruction -/

theorem Quiet.destroyFinal (quiet : connection.Quiet) : connection.destroyFinal.1.Quiet where
  channel := quiet.channel
  slot := quiet.slot
  connack := quiet.connack
  reconnect := quiet.reconnect
  ongoing := by simpa [Connection.destroyFinal, RequestTracker.destroyRequests] using quiet.ongoing
  consistent := RequestTracker.destroyRequests_consistent quiet.consistent quiet.ongoing

theorem Invariant.destroyFinal (invariant : connection.Invariant)
    (disconnected : connection.state = .disconnected) :
    Kept connection connection.destroyFinal.1 := by
  have quiet := invariant.coherent.quiet_of_disconnected disconnected
  have settled := invariant.settled_of_disconnected disconnected
  exact .of_settled settled
    (quiet.destroyFinal.coherent (by simp [Connection.destroyFinal, disconnected]))
    (by simpa [Settled, HoldsLifecycle, Connection.destroyFinal] using settled)

theorem Invariant.startDestroy (invariant : connection.Invariant)
    (last : connection.lifecycleReferences + connection.userReferences = 0) :
    Kept connection connection.startDestroy.1 := by
  unfold Connection.startDestroy
  split
  · rename_i notDisconnected
    rcases invariant.lifecycle with settled | stranded
    · have := settled.lifecycle_one notDisconnected
      omega
    have quiet := invariant.coherent.quiet stranded.2.1 stranded.2.2.1
    refine .of_stranded stranded (Quiet.coherent ?_ ?_) ?_ <;>
      split <;> simp_all [quiet_iff, Stranded, mqttDisconnectImpl_eq_self]
  · rename_i disconnected
    exact invariant.destroyFinal (not_not.mp disconnected)

theorem Invariant.releaseReference (invariant : connection.Invariant) :
    Kept connection connection.releaseReference.1 := by
  unfold Connection.releaseReference
  split
  · exact invariant.startDestroy ‹_›
  · exact .refl invariant

/-! ## Channel shutdown -/

theorem Invariant.shutdownClose (invariant : connection.Invariant)
    (live : connection.channel ≠ .absent) :
    connection.shutdownClose.1.Quiet ∧ connection.shutdownClose.1.lifecycleReferences = 1 ∧
      connection.shutdownClose.1.finalDisconnect = false := by
  have settled := invariant.settled_of_live live
  exact ⟨⟨rfl, rfl, rfl, by simpa using mt invariant.coherent.reconnect_absent live,
      by simp [Connection.shutdownClose],
      RequestTracker.shutdownRequests_consistent invariant.coherent.consistent _⟩,
    settled.lifecycle_one (invariant.coherent.channel_state live), settled.2⟩

theorem Quiet.shutdownFinish (quiet : connection.Quiet)
    (held : connection.lifecycleReferences = 1)
    (userDisconnect : connection.finalDisconnect = false) (report : Event) :
    (connection.shutdownFinish report).1.Coherent ∧
      (connection.shutdownFinish report).1.Settled := by
  let released : Connection :=
    { connection with state := .disconnected, lifecycleReferences := 0 }
  have settled : released.Settled := by simp [released, Settled, HoldsLifecycle, userDisconnect]
  have invariant : released.Invariant :=
    ⟨Quiet.coherent (by simp_all [released, quiet_iff]) (by simp [released]), .inl settled⟩
  have equal : (connection.shutdownFinish report).1 = released.releaseReference.1 := by
    simp [Connection.shutdownFinish, releaseLifecycle, userDisconnect, held, released]
  rw [equal]
  exact ⟨invariant.releaseReference.invariant.coherent, invariant.releaseReference.settled settled⟩

theorem Quiet.scheduleReconnect (quiet : connection.Quiet)
    (reconnecting : connection.state = .reconnecting)
    (held : connection.lifecycleReferences = 1)
    (userDisconnect : connection.finalDisconnect = false) :
    ({ connection with reconnectScheduled := true } : Connection).Coherent ∧
      ({ connection with reconnectScheduled := true } : Connection).Settled := by
  rw [quiet_iff] at quiet
  refine ⟨⟨?_, ?_, ?_, ?_, ?_, ?_, ?_, ?_⟩, ?_⟩ <;> simp_all [Settled, HoldsLifecycle]

theorem Invariant.mqttClientShutdown (invariant : connection.Invariant)
    (live : connection.channel ≠ .absent) (errorCode : ErrorCode)
    (disconnectOnInterrupt : Bool) :
    Kept connection (connection.mqttClientShutdown errorCode disconnectOnInterrupt).1 := by
  have settled := invariant.settled_of_live live
  obtain ⟨quiet, held, userDisconnect⟩ := invariant.shutdownClose live
  have finish (report : Event) := quiet.shutdownFinish held userDisconnect report
  simp only [Connection.mqttClientShutdown, andThen_fst]
  cases state : connection.state with
  | disconnected => exact absurd state (invariant.coherent.channel_state live)
  | connecting => exact .of_settled settled (finish _).1 (finish _).2
  | disconnecting => exact .of_settled settled (finish _).1 (finish _).2
  | reconnecting =>
      have scheduled := quiet.scheduleReconnect
        (by simp [Connection.shutdownClose, state]) held userDisconnect
      exact .of_settled settled scheduled.1 scheduled.2
  | connected =>
      have reconnecting : connection.shutdownClose.1.state = .reconnecting := by
        simp [Connection.shutdownClose, state]
      cases disconnectOnInterrupt with
      | false =>
          have scheduled := quiet.scheduleReconnect reconnecting held userDisconnect
          simpa [shutdownBranch, onInterrupted, reconnecting] using
            Kept.of_settled settled scheduled.1 scheduled.2
      | true =>
          have accepted : connection.shutdownClose.1.disconnect.1 =
              { connection.shutdownClose.1 with
                state := .disconnecting, finalDisconnect := false } := by
            simp [Connection.disconnect, reconnecting, mqttDisconnectImpl_eq_self, quiet.slot]
          have quietAccepted :
              ({ connection.shutdownClose.1 with
                state := .disconnecting, finalDisconnect := false } : Connection).Quiet := by
            simp_all [quiet_iff]
          have finished := quietAccepted.shutdownFinish held rfl .disconnect
          simp only [shutdownBranch, onInterrupted, andThen_fst, if_true, accepted]
          exact .of_settled settled finished.1 finished.2

/-! ## Connect -/

theorem Quiet.connectError (quiet : connection.Quiet)
    (released : connection.lifecycleReferences = 0)
    (userDisconnect : connection.finalDisconnect = false) (events : List Event) :
    (connection.connectError events).1.Coherent ∧ (connection.connectError events).1.Settled := by
  rw [quiet_iff] at quiet
  exact ⟨Quiet.coherent (by simp_all [quiet_iff, Connection.connectError])
    (by simp [Connection.connectError]),
    by simp [Settled, HoldsLifecycle, Connection.connectError, released, userDisconnect]⟩

theorem Quiet.connectFromClientId (quiet : connection.Quiet)
    (connecting : connection.state = .connecting)
    (released : connection.lifecycleReferences = 0)
    (userDisconnect : connection.finalDisconnect = false)
    (holding : connection.userReferences ≠ 0) (failure : Option ConnectFailure) :
    (connection.connectFromClientId failure).1.Coherent ∧
      (connection.connectFromClientId failure).1.Settled := by
  have cancelled : ∀ pair : RequestTracker × List Completion,
      pair = (if connection.cleanSession then connection.requests.cancelPendingRequests
        else (connection.requests, [])) →
      pair.1.Consistent ∧ pair.1.ongoingRequestsList = [] := by
    rintro pair rfl
    split
    · exact ⟨RequestTracker.cancelPendingRequests_consistent quiet.consistent,
        by simp [quiet.ongoing]⟩
    · exact ⟨quiet.consistent, quiet.ongoing⟩
  rw [quiet_iff] at quiet
  unfold Connection.connectFromClientId
  split
  · exact Quiet.connectError (by simp_all [quiet_iff]) released userDisconnect _
  · generalize equal : (if connection.cleanSession then connection.requests.cancelPendingRequests
        else (connection.requests, [])) = pair
    obtain ⟨consistent, idle⟩ := cancelled pair equal.symm
    split
    · refine Quiet.connectError ?_
        (by simp [releaseLifecycle, releaseReference, holding, released]) ?_ _ <;>
        simp_all [quiet_iff, releaseLifecycle, releaseReference]
    · refine ⟨⟨?_, ?_, ?_, ?_, ?_, ?_, ?_, ?_⟩, ?_⟩ <;> simp_all [Settled, HoldsLifecycle]

theorem Invariant.connect (invariant : connection.Invariant)
    (holding : connection.userReferences ≠ 0) (options : ConnectionOptions)
    (failure : Option ConnectFailure) :
    (connection.connect options failure).1.Invariant ∧
      (connection.Settled → (connection.connect options failure).1.Settled ∨
        failure = some .tlsConnectionOptionsCopy) ∧
      (connection.Stranded → (connection.connect options failure).1.Stranded) := by
  unfold Connection.connect
  split
  · exact ⟨invariant, .inl, id⟩
  rename_i disconnected
  have settled := invariant.settled_of_disconnected (not_not.mp disconnected)
  have quiet := invariant.coherent.quiet_of_disconnected (not_not.mp disconnected)
  obtain ⟨released, userDisconnect⟩ := id settled
  simp only [HoldsLifecycle, not_not.mp disconnected, if_true] at released
  have connecting : ({ connection with
      state := .connecting, cleanSession := options.cleanSession } : Connection).Quiet := by
    simp_all [quiet_iff]
  have kept {next : Connection} (result : next.Coherent ∧ next.Settled) :
      next.Invariant ∧
        (connection.Settled → next.Settled ∨ failure = some .tlsConnectionOptionsCopy) ∧
        (connection.Stranded → next.Stranded) :=
    have kept := Kept.of_settled settled result.1 result.2
    ⟨kept.invariant, .inl ∘ kept.settled, kept.stranded⟩
  split
  · split
    · rename_i copyFailed
      exact ⟨⟨connecting.coherent (by simp),
        .inr ⟨released, quiet.channel, quiet.reconnect, .inl ⟨rfl, userDisconnect⟩⟩⟩,
        fun _ => .inr copyFailed, fun stranded => absurd settled stranded.not_settled⟩
    · split
      · exact kept (connecting.connectError released userDisconnect [])
      · exact kept (connecting.connectFromClientId rfl released userDisconnect holding failure)
  · exact kept (connecting.connectFromClientId rfl released userDisconnect holding failure)

/-! ## Channel setup, CONNACK and reconnect -/

theorem Invariant.installed (invariant : connection.Invariant)
    (settingUp : connection.channel = .settingUp) {slot connack : Bool} {phase : ChannelPhase}
    (up : phase.Up) :
    Kept connection { connection with slot := slot, connackTaskScheduled := connack, channel := phase } := by
  have notScheduled := mt invariant.coherent.reconnect_absent (by simp [settingUp])
  have settled := invariant.settled_of_live (by simp [settingUp])
  exact .of_settled settled
    { slot_up := fun _ => up
      connack_up := fun _ => up
      reconnect_absent := fun scheduled => absurd scheduled notScheduled
      reconnect_state := fun scheduled => absurd scheduled notScheduled
      channel_state := fun _ => invariant.coherent.channel_state (by simp [settingUp])
      connected_up := fun _ => up
      ongoing_up := fun _ => up
      consistent := invariant.coherent.consistent } settled

theorem Invariant.channelSetup (invariant : connection.Invariant)
    (settingUp : connection.channel = .settingUp) (setup : ChannelSetup) :
    Kept connection (connection.channelSetup setup).1 := by
  have shutdown : connection.channel.shutdown.Up := by simp [settingUp]
  cases setup with
  | websocketRejected => exact invariant.installed settingUp shutdown
  | init errorCode failure =>
      simp only [Connection.channelSetup, mqttClientInit]
      split
      · exact invariant.mqttClientShutdown (by simp [settingUp]) errorCode false
      split
      · exact invariant.installed settingUp shutdown
      split <;> first
        | exact invariant.installed settingUp shutdown
        | exact invariant.installed settingUp ChannelPhase.up_established

theorem Invariant.connackReceived (invariant : connection.Invariant)
    (established : connection.channel = .established) :
    Kept connection connection.connackReceived.1 := by
  have notScheduled := mt invariant.coherent.reconnect_absent (by simp [established])
  have notDisconnected := invariant.coherent.channel_state (by simp [established])
  have consistent := invariant.coherent.consistent
  have settled := invariant.settled_of_live (by simp [established])
  obtain ⟨held, userDisconnect⟩ := id settled
  simp only [HoldsLifecycle, notDisconnected, if_false] at held
  unfold Connection.connackReceived
  split
  rotate_left 2
  · exact .refl invariant
  all_goals
    refine .of_settled settled ⟨?_, ?_, ?_, ?_, ?_, ?_, ?_, ?_⟩ ?_ <;>
      simp_all [Settled, HoldsLifecycle]

theorem Invariant.connackReceivedTimeout (invariant : connection.Invariant)
    (scheduled : connection.connackTaskScheduled = true) :
    Kept connection connection.connackReceivedTimeout := by
  have up := invariant.coherent.connack_up scheduled
  have notScheduled := mt invariant.coherent.reconnect_absent up.ne_absent
  have notDisconnected := invariant.coherent.channel_state up.ne_absent
  have consistent := invariant.coherent.consistent
  have settled := invariant.settled_of_live up.ne_absent
  obtain ⟨held, userDisconnect⟩ := id settled
  simp only [HoldsLifecycle, notDisconnected, if_false] at held
  unfold Connection.connackReceivedTimeout
  split <;>
    refine .of_settled settled ⟨?_, ?_, ?_, ?_, ?_, ?_, ?_, ?_⟩ ?_ <;>
    simp_all [Settled, HoldsLifecycle]

theorem Invariant.attemptReconnect (invariant : connection.Invariant)
    (scheduled : connection.reconnectScheduled = true) (connectFails : Bool) :
    Kept connection (connection.attemptReconnect connectFails) := by
  cases connectFails with
  | true => exact .refl invariant
  | false =>
      have absent := invariant.coherent.reconnect_absent scheduled
      obtain ⟨slot, connack, idle, -⟩ := invariant.coherent.idle (by simp [absent])
      have consistent := invariant.coherent.consistent
      have settled := invariant.lifecycle.resolve_right fun stranded => by
        simp [stranded.2.2.1] at scheduled
      obtain ⟨held, userDisconnect⟩ := id settled
      rcases invariant.coherent.reconnect_state scheduled with state | state <;>
        refine .of_settled settled ⟨?_, ?_, ?_, ?_, ?_, ?_, ?_, ?_⟩ ?_ <;>
        simp_all [Connection.attemptReconnect, Settled, HoldsLifecycle]

/-! ## User calls and the request engine -/

theorem Invariant.disconnect (invariant : connection.Invariant) :
    Kept connection connection.disconnect.1 := by
  unfold Connection.disconnect
  split
  · exact .refl invariant
  rename_i accepted
  have notDisconnected : connection.state ≠ .disconnected := by
    rintro disconnected
    simp [disconnected] at accepted
  have settled : connection.Settled := invariant.lifecycle.resolve_right
    fun ⟨_, _, _, stranded⟩ => by rcases stranded with ⟨state, -⟩ | ⟨state, -⟩ <;> simp_all
  obtain ⟨held, -⟩ := id settled
  simp only [HoldsLifecycle, notDisconnected, if_false] at held
  have coherent := invariant.coherent
  have upKept {phase : ChannelPhase} (up : phase.Up) :
      (if connection.slot then phase.shutdown else phase).Up := by
    split <;> simp [up]
  refine .of_settled settled
    { slot_up := fun slot => upKept (coherent.slot_up slot)
      connack_up := fun scheduled => upKept (coherent.connack_up scheduled)
      reconnect_absent := fun scheduled => by
        show (if connection.slot then connection.channel.shutdown else connection.channel) = _
        split <;> simp [coherent.reconnect_absent scheduled]
      reconnect_state := fun _ => .inr rfl
      channel_state := fun _ => nofun
      connected_up := nofun
      ongoing_up := fun ongoing => upKept (coherent.ongoing_up ongoing)
      consistent := coherent.consistent }
    ⟨show connection.lifecycleReferences = if ConnectionState.disconnecting = .disconnected then 0 else 1
      by simp [held], rfl⟩

theorem Invariant.withRequests (invariant : connection.Invariant) {requests : RequestTracker}
    (consistent : requests.Consistent)
    (ongoing : requests.ongoingRequestsList ≠ [] → connection.channel.Up) :
    Kept connection { connection with requests := requests } :=
  ⟨⟨{ invariant.coherent with ongoing_up := ongoing, consistent := consistent },
    invariant.lifecycle⟩, id, id⟩

theorem Invariant.withUserReferences (invariant : connection.Invariant) (references : Nat) :
    Kept connection { connection with userReferences := references } :=
  ⟨⟨{ invariant.coherent with }, invariant.lifecycle⟩, id, id⟩

/-! ## Every step and every run -/

/-- A connect whose `aws_tls_connection_options_copy` fails. -/
def Action.failsTlsCopy : Action → Bool
  | .connect _ (some .tlsConnectionOptionsCopy) => true
  | _ => false

/-- What one step does to the invariant: it keeps it, it keeps a settled
connection settled unless it is a connect failing at its TLS-options copy, and it
keeps a stranded connection stranded. -/
theorem Invariant.perform (invariant : connection.Invariant) {action : Action}
    (enabled : connection.enabled action = true) :
    (connection.perform action).1.Invariant ∧
      (connection.Settled → (connection.perform action).1.Settled ∨ action.failsTlsCopy) ∧
      (connection.Stranded → (connection.perform action).1.Stranded) := by
  have kept {next : Connection} (kept : Kept connection next) :
      next.Invariant ∧ (connection.Settled → next.Settled ∨ action.failsTlsCopy) ∧
        (connection.Stranded → next.Stranded) :=
    ⟨kept.invariant, .inl ∘ kept.settled, kept.stranded⟩
  cases action
  all_goals simp only [Connection.enabled, decide_eq_true_eq] at enabled
  case connect options failure =>
    obtain ⟨next, settled, stranded⟩ := invariant.connect enabled options failure
    exact ⟨next, fun before => (settled before).imp id
      fun failed => by simp [failed, Action.failsTlsCopy], stranded⟩
  case disconnect => exact kept invariant.disconnect
  case acquire => exact kept (invariant.withUserReferences _)
  case release =>
    exact kept ((invariant.withUserReferences _).trans
      (invariant.withUserReferences _).invariant.releaseReference)
  case submitRequest request =>
    exact kept (invariant.withRequests
      (RequestTracker.mqttCreateRequest_getD_consistent invariant.coherent.consistent request)
      (by simpa using invariant.coherent.ongoing_up))
  case channelSetup setup => exact kept (invariant.channelSetup enabled setup)
  case channelShutdown errorCode disconnectOnInterrupt =>
    exact kept (invariant.mqttClientShutdown (by rcases enabled with live | live <;> simp [live])
      errorCode disconnectOnInterrupt)
  case connackReceived => exact kept (invariant.connackReceived enabled)
  case connackTimeout => exact kept (invariant.connackReceivedTimeout enabled)
  case attemptReconnect connectFails => exact kept (invariant.attemptReconnect enabled connectFails)
  case sendRequest result =>
    exact kept (invariant.withRequests
      (RequestTracker.sendRequest_getD_consistent invariant.coherent.consistent result)
      fun _ => by simp [enabled.2.1])
  case requestComplete packetId errorCode =>
    exact kept (invariant.withRequests
      (RequestTracker.mqttRequestComplete_consistent invariant.coherent.consistent _ _)
      fun busy => invariant.coherent.ongoing_up fun idle => busy (List.sublist_nil.mp
        (idle ▸ RequestTracker.mqttRequestComplete_ongoing_sublist _ packetId errorCode)))

theorem Invariant.step (invariant : connection.Invariant) {next : Connection}
    {action : Action} {events : List Event}
    (stepped : connection.step action = some (next, events)) :
    next.Invariant ∧ (connection.Settled → next.Settled ∨ action.failsTlsCopy) ∧
      (connection.Stranded → next.Stranded) := by
  obtain ⟨-, enabled, performed⟩ := step_eq_some.mp stepped
  simpa only [performed] using invariant.perform enabled

theorem new_invariant : Connection.new.Invariant :=
  ⟨⟨by simp [new], by simp [new], by simp [new], by simp [new], by simp [new], by simp [new],
    by simp [new, RequestTracker.empty], RequestTracker.empty_consistent⟩, .inl ⟨rfl, rfl⟩⟩

theorem run_new_invariant {actions : List Action} {final : Connection} {log : List Event}
    (ran : Connection.new.run actions = some (final, log)) : final.Invariant :=
  run_invariant (fun invariant stepped => (invariant.step stepped).1) new_invariant ran

theorem Invariant.run_stranded (invariant : connection.Invariant)
    (stranded : connection.Stranded) {actions : List Action} {final : Connection}
    {log : List Event} (ran : connection.run actions = some (final, log)) : final.Stranded :=
  (@run_invariant (fun connection => connection.Invariant ∧ connection.Stranded)
    (fun ⟨invariant, stranded⟩ stepped =>
      ⟨(invariant.step stepped).1, (invariant.step stepped).2.2 stranded⟩)
    actions connection final log ⟨invariant, stranded⟩ ran).2

/-! ## What the runs keep -/

/-- In every state reachable from `aws_mqtt_client_connection_new`, whatever connect
returned, a DISCONNECTED connection has no slot, no ongoing request and no
reconnect scheduled. -/
theorem disconnected_connection_is_idle {actions : List Action} {final : Connection}
    {log : List Event} (ran : Connection.new.run actions = some (final, log))
    (disconnected : final.state = .disconnected) :
    final.slot = false ∧ final.requests.ongoingRequestsList = [] ∧
      final.reconnectScheduled = false :=
  have quiet := (run_new_invariant ran).coherent.quiet_of_disconnected disconnected
  ⟨quiet.slot, quiet.ongoing, quiet.reconnect⟩

theorem disconnected_connection_is_idle_after_session :
    Connection.new.run [.connect ⟨none, false⟩ none, .channelSetup (.init .success none),
        .connackReceived, .disconnect, .channelShutdown .success false] =
      some (Connection.new, [.connectionComplete .success, .disconnectAccepted, .disconnect]) ∧
    Connection.new.state = .disconnected ∧
    (Connection.new.slot = false ∧ Connection.new.requests.ongoingRequestsList = [] ∧
      Connection.new.reconnectScheduled = false) :=
  by
  refine ⟨?ran, rfl, disconnected_connection_is_idle ?ran rfl⟩
  rfl

/-- In every run in which no connect fails at its TLS-options copy, the lifecycle
reference is held exactly while the state is not DISCONNECTED, and `on_disconnect`
is still the user's. -/
theorem lifecycle_reference_held_iff_not_disconnected {actions : List Action}
    {final : Connection} {log : List Event}
    (ran : Connection.new.run actions = some (final, log))
    (noCopyFailure : ∀ action ∈ actions, action.failsTlsCopy = false) :
    final.HoldsLifecycle ∧ final.finalDisconnect = false :=
  (@run_invariant_of_allowed (fun connection => connection.Invariant ∧ connection.Settled)
    (fun action => action.failsTlsCopy = false)
    (fun allowed ⟨invariant, settled⟩ stepped =>
      ⟨(invariant.step stepped).1,
        ((invariant.step stepped).2.1 settled).resolve_right (by simp [allowed])⟩)
    actions Connection.new final log noCopyFailure ⟨new_invariant, rfl, rfl⟩ ran).2

theorem lifecycle_reference_held_after_session :
    Connection.new.run [.connect ⟨none, false⟩ none, .channelSetup (.init .success none),
        .connackReceived, .disconnect, .channelShutdown .success false] =
      some (Connection.new, [.connectionComplete .success, .disconnectAccepted, .disconnect]) ∧
    (∀ action ∈ [Action.connect ⟨none, false⟩ none, .channelSetup (.init .success none),
        .connackReceived, .disconnect, .channelShutdown .success false],
      action.failsTlsCopy = false) ∧
    (Connection.new.HoldsLifecycle ∧ Connection.new.finalDisconnect = false) :=
  by
  refine ⟨?ran, ?allowed, lifecycle_reference_held_iff_not_disconnected ?ran ?allowed⟩
  · rfl
  · decide

/-! ## The TLS-options copy failure -/

/-- From a new connection, a connect whose TLS-options copy fails reaches a state
that is CONNECTING and holds no lifecycle reference. -/
theorem tls_copy_failure_strands_new_connection :
    Connection.new.run [.connect ⟨some ⟨true⟩, false⟩ (some .tlsConnectionOptionsCopy)] =
        some ({ Connection.new with state := .connecting }, []) ∧
      ({ Connection.new with state := .connecting } : Connection).Stranded ∧
      ¬({ Connection.new with state := .connecting } : Connection).HoldsLifecycle :=
  ⟨rfl, ⟨rfl, rfl, rfl, .inl ⟨rfl, rfl⟩⟩, by simp [HoldsLifecycle, new]⟩

/-- For every DISCONNECTED connection, a connect failing at its TLS-options copy
returns an error but leaves the state CONNECTING, so that a later connect is refused
with ALREADY_CONNECTED and a disconnect with NOT_CONNECTED. -/
theorem connect_tls_copy_failure_leaves_connecting (connection : Connection)
    (disconnected : connection.state = .disconnected) (tls : TlsConnectionOptions)
    (cleanSession : Bool) :
    (connection.connect ⟨some tls, cleanSession⟩ (some .tlsConnectionOptionsCopy)).2.2 =
        .error .other ∧
      (connection.connect ⟨some tls, cleanSession⟩ (some .tlsConnectionOptionsCopy)).1.state =
        .connecting ∧
      (connection.connect ⟨some tls, cleanSession⟩ (some .tlsConnectionOptionsCopy)).1.lifecycleReferences =
        connection.lifecycleReferences ∧
      (∀ options failure,
        ((connection.connect ⟨some tls, cleanSession⟩
          (some .tlsConnectionOptionsCopy)).1.connect options failure).2.2 =
          .error .alreadyConnected) ∧
      (connection.connect ⟨some tls, cleanSession⟩
        (some .tlsConnectionOptionsCopy)).1.disconnect.2.2 = .error .notConnected := by
  simp [Connection.connect, Connection.disconnect, disconnected]

theorem connect_tls_copy_failure_leaves_new_connecting :
    Connection.new.state = .disconnected ∧
      (Connection.new.connect ⟨some ⟨true⟩, false⟩ (some .tlsConnectionOptionsCopy)).2.2 =
        .error .other ∧
      (Connection.new.connect ⟨some ⟨true⟩, false⟩ (some .tlsConnectionOptionsCopy)).1.state =
        .connecting ∧
      (Connection.new.connect ⟨some ⟨true⟩, false⟩
        (some .tlsConnectionOptionsCopy)).1.lifecycleReferences =
        Connection.new.lifecycleReferences ∧
      (∀ options failure,
        ((Connection.new.connect ⟨some ⟨true⟩, false⟩
          (some .tlsConnectionOptionsCopy)).1.connect options failure).2.2 =
          .error .alreadyConnected) ∧
      (Connection.new.connect ⟨some ⟨true⟩, false⟩
        (some .tlsConnectionOptionsCopy)).1.disconnect.2.2 = .error .notConnected :=
  ⟨rfl, connect_tls_copy_failure_leaves_connecting _ rfl _ _⟩

theorem releaseReference_lifecycleReferences (connection : Connection) :
    connection.releaseReference.1.lifecycleReferences = connection.lifecycleReferences := by
  unfold Connection.releaseReference Connection.startDestroy
  split
  · split
    · split <;> simp [mqttDisconnectImpl]
    · simp [Connection.destroyFinal]
  · rfl

theorem connectFromClientId_error {connection : Connection} {failure : Option ConnectFailure}
    {code : ErrorCode} (failed : (connection.connectFromClientId failure).2.2 = .error code) :
    (connection.connectFromClientId failure).1.state = .disconnected ∧
      (connection.connectFromClientId failure).1.lifecycleReferences =
        connection.lifecycleReferences := by
  unfold Connection.connectFromClientId at failed ⊢
  by_cases clientId : failure = some .clientIdCopy
  · simp [clientId, Connection.connectError]
  by_cases refused : failure = some .mqttClientConnect
  · simp [refused, Connection.connectError, releaseLifecycle,
      releaseReference_lifecycleReferences]
  · simp [clientId, refused] at failed

/-- Every other error return of connect restores the state it found and holds no
additional lifecycle reference. -/
theorem connect_error_restores_state (connection : Connection) (options : ConnectionOptions)
    (failure : Option ConnectFailure) (notCopy : failure ≠ some .tlsConnectionOptionsCopy)
    {code : ErrorCode} (failed : (connection.connect options failure).2.2 = .error code) :
    (connection.connect options failure).1.state = connection.state ∧
      (connection.connect options failure).1.lifecycleReferences =
        connection.lifecycleReferences := by
  by_cases disconnected : connection.state = .disconnected
  swap
  · simp [Connection.connect, disconnected]
  simp only [Connection.connect, disconnected, ne_eq, not_true_eq_false, if_false,
    notCopy] at failed ⊢
  cases tls : options.tlsOptions with
  | none =>
      simp only [tls] at failed ⊢
      exact connectFromClientId_error failed
  | some tlsOptions =>
      simp only [tls, notCopy, if_false] at failed ⊢
      split
      · simp [Connection.connectError]
      · rw [if_neg ‹_›] at failed
        exact connectFromClientId_error failed

theorem connect_error_restores_new :
    Connection.new.connect ⟨none, false⟩ (some .clientIdCopy) =
        (Connection.new, [], .error .other) ∧
      some ConnectFailure.clientIdCopy ≠ some .tlsConnectionOptionsCopy ∧
      ((Connection.new.connect ⟨none, false⟩ (some .clientIdCopy)).1.state =
          Connection.new.state ∧
        (Connection.new.connect ⟨none, false⟩ (some .clientIdCopy)).1.lifecycleReferences =
          Connection.new.lifecycleReferences) := by
  refine ⟨?failed, by decide, connect_error_restores_state _ _ _ (by decide)
    (congrArg (fun result => result.2.2) ?failed)⟩
  rfl

/-- A stranded connection stays stranded in every run: it never again holds a
lifecycle reference or returns to DISCONNECTED, and every connect is refused. -/
theorem stranded_connection_never_recovers (invariant : connection.Invariant)
    (stranded : connection.Stranded) {actions : List Action} {final : Connection}
    {log : List Event} (ran : connection.run actions = some (final, log)) :
    final.Stranded ∧ ∀ options failure,
      (final.connect options failure).2.2 = .error .alreadyConnected := by
  have strandedFinal := invariant.run_stranded stranded ran
  refine ⟨strandedFinal, fun options failure => ?_⟩
  obtain ⟨-, -, -, ⟨state, -⟩ | ⟨state, -⟩⟩ := strandedFinal <;>
    simp [Connection.connect, state]

theorem stranded_connection_never_recovers_after_release :
    ({ Connection.new with state := .connecting } : Connection).Invariant ∧
      ({ Connection.new with state := .connecting } : Connection).Stranded ∧
      ({ Connection.new with state := .connecting } : Connection).run [.release] =
        some ({ Connection.new with
          state := .disconnecting, userReferences := 0, finalDisconnect := true },
          [.disconnectAccepted]) ∧
      (({ Connection.new with
          state := .disconnecting, userReferences := 0, finalDisconnect := true } :
            Connection).Stranded ∧
        ∀ options failure, (({ Connection.new with
          state := .disconnecting, userReferences := 0, finalDisconnect := true } :
            Connection).connect options failure).2.2 = .error .alreadyConnected) := by
  have invariant := run_new_invariant (show Connection.new.run
    [.connect ⟨some ⟨true⟩, false⟩ (some .tlsConnectionOptionsCopy)] =
      some ({ Connection.new with state := .connecting }, []) from rfl)
  have stranded : ({ Connection.new with state := .connecting } : Connection).Stranded :=
    ⟨rfl, rfl, rfl, .inl ⟨rfl, rfl⟩⟩
  refine ⟨invariant, stranded, ?ran, stranded_connection_never_recovers invariant stranded ?ran⟩
  rfl

end Connection

end MqttClient
