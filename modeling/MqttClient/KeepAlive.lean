import MqttClient.Reconnect

/-! # Keep-alive

The intervals `aws_mqtt_client_connection_connect` stores, and the ping exchange of
`s_pingreq_send`, PINGRESP and `s_pingresp_received_timeout` on the channel's clock, one
step at a time. Whole runs are in `MqttClient.PingRuns`. -/

namespace MqttClient

/-! ## Timeouts from connect -/

/-- `s_default_keep_alive_sec`. -/
def defaultKeepAliveSec : UInt16 := 1200

/-- `s_default_ping_timeout_ns`. -/
def defaultPingTimeoutNs : UInt64 := 3000000000

/-- aws-c-common's `aws_timestamp_convert` from `AWS_TIMESTAMP_MILLIS` to
`AWS_TIMESTAMP_NANOS`: a saturating multiplication by the ratio of the units. -/
def timestampConvertMillis (millis : UInt64) : UInt64 :=
  mulU64Saturating millis 1000000

/-- The timeouts that a connect keeps, once its check passed: the keep-alive interval
exceeds the ping timeout. -/
structure Timings where
  keepAliveTimeSecs : UInt16
  operationTimeoutNs : UInt64
  pingTimeoutNs : UInt64
  keepAliveExceedsPingTimeout : pingTimeoutNs.toNat < keepAliveTimeSecs.toNat * 1000000000

theorem keepAliveNs_toNat (keepAliveTimeSecs : UInt16) :
    (keepAliveTimeSecs.toUInt64 * 1000000000).toNat = keepAliveTimeSecs.toNat * 1000000000 := by
  have bounded := keepAliveTimeSecs.toNat_lt_size
  show keepAliveTimeSecs.toNat * 1000000000 % 2 ^ 64 = _
  exact Nat.mod_eq_of_lt (by simp only [UInt16.size] at bounded; omega)

/-- The end of connect's timeouts: `AWS_FATAL_ASSERT` aborts the process (`none`) unless
the keep-alive interval exceeds the ping timeout. -/
def checkTimings (keepAliveTimeSecs : UInt16) (operationTimeoutNs pingTimeoutNs : UInt64) :
    Option Timings :=
  if exceeded : keepAliveTimeSecs.toUInt64 * 1000000000 ≤ pingTimeoutNs then none
  else some ⟨keepAliveTimeSecs, operationTimeoutNs, pingTimeoutNs, by
    rw [← keepAliveNs_toNat]
    exact Nat.lt_of_not_le exceeded⟩

/-- The keep-alive and timeout lines of `aws_mqtt_client_connection_connect`: the values
it stores, or `none` where it aborts the process. -/
def connectTimings (keepAliveTimeSecs : UInt16)
    (protocolOperationTimeoutMs pingTimeoutMs : UInt32) : Option Timings :=
  checkTimings (if keepAliveTimeSecs = 0 then defaultKeepAliveSec else keepAliveTimeSecs)
    (if protocolOperationTimeoutMs = 0 then 18446744073709551615
      else timestampConvertMillis protocolOperationTimeoutMs.toUInt64)
    (if pingTimeoutMs = 0 then defaultPingTimeoutNs
      else timestampConvertMillis pingTimeoutMs.toUInt64)

theorem checkTimings_isNone (keepAliveTimeSecs : UInt16)
    (operationTimeoutNs pingTimeoutNs : UInt64) :
    (checkTimings keepAliveTimeSecs operationTimeoutNs pingTimeoutNs).isNone ↔
      keepAliveTimeSecs.toNat * 1000000000 ≤ pingTimeoutNs.toNat := by
  rw [← keepAliveNs_toNat]
  unfold checkTimings
  split
  · exact iff_of_true rfl ‹_›
  · exact iff_of_false nofun ‹_›

theorem mem_checkTimings {keepAliveTimeSecs : UInt16} {operationTimeoutNs pingTimeoutNs : UInt64}
    {timings : Timings}
    (kept : timings ∈ checkTimings keepAliveTimeSecs operationTimeoutNs pingTimeoutNs) :
    timings.keepAliveTimeSecs = keepAliveTimeSecs ∧
      timings.operationTimeoutNs = operationTimeoutNs ∧
      timings.pingTimeoutNs = pingTimeoutNs := by
  unfold checkTimings at kept
  split at kept
  · cases kept
  · cases kept
    exact ⟨rfl, rfl, rfl⟩

theorem timestampConvertMillis_toNat (millis : UInt32) :
    (timestampConvertMillis millis.toUInt64).toNat = millis.toNat * 1000000 := by
  have bounded := millis.toNat_lt_size
  simp only [UInt32.size] at bounded
  have unsaturated : ¬(0 < millis.toUInt64 ∧ (0 : UInt64) < 1000000 ∧
      18446744073709551615 / (1000000 : UInt64) < millis.toUInt64) := by
    rintro ⟨-, -, above⟩
    have above : 18446744073709 < millis.toNat := above
    omega
  rw [timestampConvertMillis, mulU64Saturating, if_neg unsaturated]
  show millis.toNat * 1000000 % 2 ^ 64 = _
  exact Nat.mod_eq_of_lt (by omega)

/-- Connect's timeouts are the exact nanosecond values of what the user gave, and its
check compares them exactly: neither the 64-bit keep-alive product nor the conversion
of milliseconds wraps or saturates. Connect aborts exactly when the keep-alive
interval, 1200 s when 0 was given, is not above the ping timeout, 3 s when 0 was given;
and the operation timeout is left disabled (`UINT64_MAX`) exactly when 0 was given. -/
theorem connect_timings_are_exact (keepAliveTimeSecs : UInt16)
    (protocolOperationTimeoutMs pingTimeoutMs : UInt32) :
    ((connectTimings keepAliveTimeSecs protocolOperationTimeoutMs pingTimeoutMs).isNone ↔
        (if keepAliveTimeSecs = 0 then 1200 else keepAliveTimeSecs.toNat) * 1000000000 ≤
          if pingTimeoutMs = 0 then 3000000000 else pingTimeoutMs.toNat * 1000000) ∧
      ∀ timings ∈ connectTimings keepAliveTimeSecs protocolOperationTimeoutMs pingTimeoutMs,
        timings.keepAliveTimeSecs.toNat =
            (if keepAliveTimeSecs = 0 then 1200 else keepAliveTimeSecs.toNat) ∧
          timings.pingTimeoutNs.toNat =
            (if pingTimeoutMs = 0 then 3000000000 else pingTimeoutMs.toNat * 1000000) ∧
          timings.operationTimeoutNs.toNat =
            (if protocolOperationTimeoutMs = 0 then 18446744073709551615
              else protocolOperationTimeoutMs.toNat * 1000000) ∧
          (timings.operationTimeoutNs = 18446744073709551615 ↔
            protocolOperationTimeoutMs = 0) := by
  have keepAlive :
      (if keepAliveTimeSecs = 0 then defaultKeepAliveSec else keepAliveTimeSecs).toNat =
        if keepAliveTimeSecs = 0 then 1200 else keepAliveTimeSecs.toNat := by
    split <;> rfl
  have pingTimeout : (if pingTimeoutMs = 0 then defaultPingTimeoutNs
      else timestampConvertMillis pingTimeoutMs.toUInt64).toNat =
      if pingTimeoutMs = 0 then 3000000000 else pingTimeoutMs.toNat * 1000000 := by
    split
    · rfl
    · exact timestampConvertMillis_toNat pingTimeoutMs
  have operationTimeout : (if protocolOperationTimeoutMs = 0 then (18446744073709551615 : UInt64)
      else timestampConvertMillis protocolOperationTimeoutMs.toUInt64).toNat =
      if protocolOperationTimeoutMs = 0 then 18446744073709551615
      else protocolOperationTimeoutMs.toNat * 1000000 := by
    split
    · rfl
    · exact timestampConvertMillis_toNat protocolOperationTimeoutMs
  refine ⟨by rw [connectTimings, checkTimings_isNone, keepAlive, pingTimeout], ?_⟩
  intro timings kept
  obtain ⟨kept, operation, ping⟩ := mem_checkTimings kept
  refine ⟨by rw [kept, keepAlive], by rw [ping, pingTimeout], by rw [operation, operationTimeout],
    ?_⟩
  have bounded := protocolOperationTimeoutMs.toNat_lt_size
  simp only [UInt32.size] at bounded
  have disabled : timings.operationTimeoutNs = 18446744073709551615 ↔
      timings.operationTimeoutNs.toNat = 18446744073709551615 :=
    ⟨congrArg UInt64.toNat, fun same => UInt64.toNat.inj (same.trans rfl)⟩
  have zero : protocolOperationTimeoutMs = 0 ↔ protocolOperationTimeoutMs.toNat = 0 :=
    ⟨congrArg UInt32.toNat, fun same => UInt32.toNat.inj (same.trans rfl)⟩
  rw [disabled, zero, operation, operationTimeout]
  split
  · simp_all
  · simp_all
    omega

/-- The timings connect picks when every option is 0: the default keep-alive interval and
ping timeout, and no operation timeout. -/
def Timings.defaults : Timings :=
  ⟨defaultKeepAliveSec, 18446744073709551615, defaultPingTimeoutNs, by decide⟩

example : connectTimings 0 0 0 = some Timings.defaults := rfl

/-! ## The ping exchange -/

/-- The calls in `s_pingreq_send` that can fail, in the order it makes them. -/
inductive PingreqFailure
  | messageForPacket
  | connectionEncode
  | slotSendMessage
  /-- `aws_mem_calloc` of the timeout task. -/
  | timeoutTaskAlloc
  | currentClockTime
  deriving DecidableEq, Repr

/-- What the keep-alive reads and writes, on a connection and its channel. -/
structure PingState where
  /-- The channel's clock at the last event. -/
  now : UInt64
  /-- `thread_data.waiting_on_ping_response`. -/
  waitingOnPingResponse : Bool
  /-- The run times of the `s_pingresp_received_timeout` tasks scheduled on the channel. -/
  pingTimeouts : List UInt64
  deriving DecidableEq, Repr

/-- What a user, or the broker, can tell of the keep-alive. -/
inductive PingObservation
  /-- A PINGREQ handed to the channel. -/
  | pingreq
  /-- A PINGRESP read off the channel. -/
  | pingresp
  /-- `aws_channel_shutdown` with `AWS_ERROR_MQTT_TIMEOUT`. -/
  | timeout
  deriving DecidableEq, Repr

namespace PingState

/-- The keep-alive of a channel that `s_mqtt_client_init` has just set up: no timeout
task is scheduled on it, and the flag is as the connection's last channel left it. -/
def installed (now : UInt64) (waitingOnPingResponse : Bool) : PingState :=
  ⟨now, waitingOnPingResponse, []⟩

/-- `s_pingreq_send`, run by the request engine when the channel's clock reads
`state.now`. -/
def pingreqSend (state : PingState) (pingTimeoutNs : UInt64) (failure : Option PingreqFailure) :
    PingState × List PingObservation × RequestState :=
  if failure = some .messageForPacket ∨ failure = some .connectionEncode ∨
      failure = some .slotSendMessage then (state, [], .error)
  else
    let waiting := { state with waitingOnPingResponse := true }
    if failure = some .timeoutTaskAlloc ∨ failure = some .currentClockTime then
      (waiting, [.pingreq], .error)
    else
      ({ waiting with pingTimeouts := state.pingTimeouts ++ [state.now + pingTimeoutNs] },
        [.pingreq], .complete)

/-- `s_pingresp_received_timeout` run with `AWS_TASK_STATUS_RUN_READY`. -/
def pingrespReceivedTimeout (state : PingState) : PingState × List PingObservation :=
  if state.waitingOnPingResponse then
    ({ state with waitingOnPingResponse := false }, [.timeout])
  else (state, [])

/-- Modelled from the spec: a PINGRESP (read in `client_channel_handler.c`) clears the
flag. -/
def pingrespReceived (state : PingState) : PingState × List PingObservation :=
  ({ state with waitingOnPingResponse := false }, [.pingresp])

end PingState

/-- What the channel's event loop can run for the keep-alive. -/
inductive PingAction
  /-- The request engine runs `s_pingreq_send`: for the keep-alive, or for
  `aws_mqtt_client_connection_ping`. -/
  | pingreq (failure : Option PingreqFailure)
  | pingresp
  /-- The scheduler runs the timeout task scheduled for `deadline`. -/
  | pingTimeout (deadline : UInt64)
  deriving DecidableEq, Repr

namespace PingState

/-- When the channel's scheduler runs a task scheduled for `deadline`: then, or at once
when that time has passed (a run time that wrapped around has). -/
def runTime (state : PingState) (deadline : UInt64) : UInt64 :=
  if deadline < state.now then state.now else deadline

/-- Whether the channel's event loop can make `action` happen at `time`. The clock never
goes back; a timeout task runs at its run time, before any task due later; and no other
event happens after the run time of a task still scheduled. -/
def enabled (state : PingState) (time : UInt64) : PingAction → Bool
  | .pingTimeout deadline =>
      state.pingTimeouts.contains deadline && state.pingTimeouts.all (deadline ≤ ·) &&
        time == state.runTime deadline
  | _ =>
      state.now ≤ time && state.pingTimeouts.all fun deadline => time ≤ state.runTime deadline

def perform (state : PingState) (pingTimeoutNs time : UInt64) :
    PingAction → PingState × List PingObservation
  | .pingreq failure =>
      let sent := pingreqSend { state with now := time } pingTimeoutNs failure
      (sent.1, sent.2.1)
  | .pingresp => pingrespReceived { state with now := time }
  | .pingTimeout deadline =>
      pingrespReceivedTimeout
        { state with now := time, pingTimeouts := state.pingTimeouts.erase deadline }

/-- One event at its time, or `none` when the event loop cannot run it then. -/
def step (state : PingState) (pingTimeoutNs : UInt64) (event : UInt64 × PingAction) :
    Option (PingState × List (UInt64 × PingObservation)) :=
  if state.enabled event.1 event.2 then
    some ((state.perform pingTimeoutNs event.1 event.2).1,
      (state.perform pingTimeoutNs event.1 event.2).2.map fun observation => (event.1, observation))
  else none

/-- A run of timed events: the final state and every observation, with its time. -/
def run (state : PingState) (pingTimeoutNs : UInt64) :
    List (UInt64 × PingAction) → Option (PingState × List (UInt64 × PingObservation))
  | [] => some (state, [])
  | event :: events =>
      (state.step pingTimeoutNs event).bind fun (next, observed) =>
        (next.run pingTimeoutNs events).map fun (final, later) => (final, observed ++ later)

end PingState

/-! ## Steps -/

namespace PingState

variable {pingTimeoutNs : UInt64}

theorem step_eq_some {state next : PingState} {event : UInt64 × PingAction}
    {observed : List (UInt64 × PingObservation)} :
    state.step pingTimeoutNs event = some (next, observed) ↔
      state.enabled event.1 event.2 = true ∧
        (state.perform pingTimeoutNs event.1 event.2).1 = next ∧
        (state.perform pingTimeoutNs event.1 event.2).2.map
          (fun observation => (event.1, observation)) = observed := by
  unfold step
  split <;> simp_all

/-- What a PINGREQ send does: nothing when the PINGREQ never reaches the channel;
otherwise it is observed and sets the flag, and its timeout task is scheduled when
nothing fails. -/
theorem perform_pingreq (state : PingState) (time : UInt64) (failure : Option PingreqFailure) :
    state.perform pingTimeoutNs time (.pingreq failure) = ({ state with now := time }, []) ∨
      state.perform pingTimeoutNs time (.pingreq failure) =
        ({ state with now := time, waitingOnPingResponse := true }, [.pingreq]) ∨
      failure = none ∧ state.perform pingTimeoutNs time (.pingreq failure) =
        ({ state with
            now := time, waitingOnPingResponse := true,
            pingTimeouts := state.pingTimeouts ++ [time + pingTimeoutNs] }, [.pingreq]) := by
  unfold perform pingreqSend
  dsimp only
  split
  · exact .inl rfl
  split
  · exact .inr (.inl rfl)
  refine .inr (.inr ⟨?_, rfl⟩)
  cases failure with
  | none => rfl
  | some failure => cases failure <;> simp_all

theorem perform_pingresp (state : PingState) (time : UInt64) :
    state.perform pingTimeoutNs time .pingresp =
      ({ state with now := time, waitingOnPingResponse := false }, [.pingresp]) := rfl

theorem perform_pingTimeout (state : PingState) (time deadline : UInt64) :
    state.perform pingTimeoutNs time (.pingTimeout deadline) =
      if state.waitingOnPingResponse then
        ({ state with
            now := time, waitingOnPingResponse := false,
            pingTimeouts := state.pingTimeouts.erase deadline }, [.timeout])
      else ({ state with now := time, pingTimeouts := state.pingTimeouts.erase deadline }, []) := by
  cases state with
  | mk now waitingOnPingResponse pingTimeouts => cases waitingOnPingResponse <;> rfl

theorem enabled_of_exchange {state : PingState} {time : UInt64} {action : PingAction}
    (allowed : state.enabled time action = true)
    (exchange : ∀ deadline, action ≠ .pingTimeout deadline) :
    state.now.toNat ≤ time.toNat ∧
      ∀ deadline ∈ state.pingTimeouts, time.toNat ≤ (state.runTime deadline).toNat := by
  cases action with
  | pingTimeout deadline => exact absurd rfl (exchange deadline)
  | _ =>
    simp only [PingState.enabled, Bool.and_eq_true, decide_eq_true_eq, List.all_eq_true] at allowed
    exact allowed

theorem enabled_pingTimeout {state : PingState} {time deadline : UInt64}
    (allowed : state.enabled time (.pingTimeout deadline) = true) :
    deadline ∈ state.pingTimeouts ∧
      (∀ later ∈ state.pingTimeouts, deadline.toNat ≤ later.toNat) ∧
      time = state.runTime deadline := by
  simp only [PingState.enabled, Bool.and_eq_true, List.contains, List.elem_eq_mem, List.all_eq_true,
    decide_eq_true_eq, beq_iff_eq] at allowed
  exact ⟨allowed.1.1, allowed.1.2, allowed.2⟩

theorem runTime_of_le {state : PingState} {deadline : UInt64}
    (due : state.now.toNat ≤ deadline.toNat) : state.runTime deadline = deadline :=
  if_neg fun past : deadline.toNat < state.now.toNat => absurd due (Nat.not_le.mpr past)

theorem le_runTime (state : PingState) (deadline : UInt64) :
    state.now.toNat ≤ (state.runTime deadline).toNat := by
  unfold runTime
  split
  · exact Nat.le_refl _
  · exact Nat.le_of_not_lt ‹_›

/-! ## Runs -/

theorem run_cons_eq {state final : PingState} {event : UInt64 × PingAction}
    {events : List (UInt64 × PingAction)} {log : List (UInt64 × PingObservation)}
    (ran : state.run pingTimeoutNs (event :: events) = some (final, log)) :
    ∃ next observed later, state.step pingTimeoutNs event = some (next, observed) ∧
      next.run pingTimeoutNs events = some (final, later) ∧ log = observed ++ later := by
  simp only [run, Option.bind_eq_some, Option.map_eq_some'] at ran
  obtain ⟨⟨next, observed⟩, stepped, ⟨final', later⟩, rest, equal⟩ := ran
  cases equal
  exact ⟨next, observed, later, stepped, rest, rfl⟩

theorem run_append_eq {state final : PingState} :
    ∀ {earlier later : List (UInt64 × PingAction)} {log : List (UInt64 × PingObservation)},
      state.run pingTimeoutNs (earlier ++ later) = some (final, log) →
      ∃ middle first second, state.run pingTimeoutNs earlier = some (middle, first) ∧
        middle.run pingTimeoutNs later = some (final, second) ∧ log = first ++ second
  | [], _, log, ran => ⟨state, [], log, rfl, ran, rfl⟩
  | event :: earlier, later, _, ran => by
      obtain ⟨next, observed, rest, stepped, continued, rfl⟩ := run_cons_eq ran
      obtain ⟨middle, first, second, before, after, rfl⟩ := run_append_eq continued
      exact ⟨middle, observed ++ first, second, by simp [run, stepped, before], after,
        (List.append_assoc _ _ _).symm⟩

theorem run_invariant (Allowed : UInt64 × PingAction → Prop)
    (Invariant : PingState → List (UInt64 × PingObservation) → Prop)
    (kept : ∀ {state next : PingState} {history observed : List (UInt64 × PingObservation)}
      {event : UInt64 × PingAction}, Allowed event → Invariant state history →
        state.step pingTimeoutNs event = some (next, observed) →
          Invariant next (history ++ observed)) :
    ∀ {events : List (UInt64 × PingAction)} {state final : PingState}
      {history log : List (UInt64 × PingObservation)},
      (∀ event ∈ events, Allowed event) → Invariant state history →
        state.run pingTimeoutNs events = some (final, log) → Invariant final (history ++ log)
  | [], _, _, history, _, _, holds, ran => by
      simp only [run, Option.some.injEq, Prod.mk.injEq] at ran
      obtain ⟨rfl, rfl⟩ := ran
      simpa using holds
  | _ :: _, _, _, history, _, allowed, holds, ran => by
      obtain ⟨next, observed, later, stepped, rest, rfl⟩ := run_cons_eq ran
      have after := run_invariant Allowed Invariant kept
        (fun event member => allowed event (.tail _ member))
        (kept (allowed _ (.head _)) holds stepped) rest
      rwa [List.append_assoc] at after

end PingState

end MqttClient
