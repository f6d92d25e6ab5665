import MqttClient.Basic
import Mathlib.Data.List.Basic

/-! # Publish

`s_publish_send` and its `write_payload_chunk` loop. The header encoding (`packets.c`)
and the message pool are not part of `src/`: the encoding is a parameter, and the pool
is the sequence of capacities it hands out. -/

namespace MqttClient

/-- `struct aws_mqtt_packet_publish`, as `aws_mqtt_packet_publish_init` fills it. -/
structure PublishPacket where
  retain : Bool
  qos : Qos
  dup : Bool
  topic : String
  packetId : UInt16
  payload : List UInt8
  deriving DecidableEq, Repr

/-- The packet `aws_mem_calloc` leaves in a new task argument. -/
def PublishPacket.zeroed : PublishPacket := ⟨false, .atMostOnce, false, "", 0, []⟩

/-- `struct publish_task_arg`, by the fields `s_publish_send` reads and writes. -/
structure PublishTaskArg where
  topic : String
  qos : Qos
  retain : Bool
  payload : List UInt8
  publish : PublishPacket
  deriving DecidableEq, Repr

/-- An `aws_io_message` of the pool: the capacity of its buffer and what has been
written into it. -/
structure Message where
  capacity : Nat
  data : List UInt8
  deriving DecidableEq, Repr

/-- What the collaborators of one `s_publish_send` call do. -/
structure PublishEnvironment where
  /-- `aws_mqtt_packet_publish_init` fails. -/
  initFails : Bool
  /-- The capacity of the message that the `n`-th `mqtt_get_message_for_packet` of the
  call returns, or `none` when the pool supplies none. -/
  messageFor : Nat → Option Nat
  /-- Whether the `n`-th `aws_channel_slot_send_message` of the call fails. -/
  sendFails : Nat → Bool
  /-- `s_schedule_timeout_task` fails. -/
  scheduleFails : Bool

/-- How a call of `s_publish_send` ends. -/
inductive PublishEnd
  | returned (state : RequestState)
  /-- The loop reads the capacity of a message that `mqtt_get_message_for_packet` did
  not supply: a null dereference. -/
  | absentMessage
  deriving DecidableEq, Repr

namespace PublishTaskArg

/-- `aws_mqtt_client_connection_publish`: the task argument of a new request. -/
def connectionPublish (topic : String) (qos : Qos) (retain : Bool) (payload : List UInt8) :
    PublishTaskArg :=
  ⟨topic, qos, retain, payload, .zeroed⟩

/-- The task argument as an attempt encodes it: the first attempt builds the packet,
with the DUP flag `!is_first_attempt` and packet id 0 at QoS 0; a resend keeps the
packet it finds. -/
def prepare (arg : PublishTaskArg) (packetId : UInt16) (isFirstAttempt : Bool) :
    PublishTaskArg :=
  if isFirstAttempt then
    { arg with
      publish := ⟨arg.retain, arg.qos, !isFirstAttempt, arg.topic,
        if arg.qos == .atMostOnce then 0 else packetId, arg.payload⟩ }
  else arg

end PublishTaskArg

/-- The `write_payload_chunk` loop, from the message `message` (the `acquired`-th
fetched from the pool is next), with `payload` still to write and `sent` handed to the
channel so far. A round writes as much of the payload as the message has room for and
sends the message; while payload is left it takes the next message from the pool
without looking at it. It returns what was sent and, when it ends the call, how.
`fuel` bounds the rounds: a pool of empty messages keeps the loop going for ever. -/
def writePayloadChunk (environment : PublishEnvironment) (isQos0 : Bool) :
    Nat → Nat → Option Message → List UInt8 → List Message →
      Option (List Message × Option PublishEnd)
  | 0, _, _, _, _ => none
  | _ + 1, _, none, _, sent => some (sent, some .absentMessage)
  | fuel + 1, acquired, some message, payload, sent =>
      let leftInMessage := message.capacity - message.data.length
      let toWrite := if payload.length < leftInMessage then payload.length else leftInMessage
      if toWrite ≠ 0 ∧ message.capacity - message.data.length < toWrite then
        some (sent, some (.returned .error))
      else
        let message := { message with data := message.data ++ payload.take toWrite }
        let payload := payload.drop toWrite
        if environment.sendFails sent.length then
          some (sent, some (.returned (if isQos0 then .error else .ongoing)))
        else if payload.length ≠ 0 then
          writePayloadChunk environment isQos0 fuel (acquired + 1)
            ((environment.messageFor acquired).map fun capacity => ⟨capacity, []⟩) payload
            (sent ++ [message])
        else some (sent ++ [message], none)

/-- What `s_publish_send` returns once the whole payload is on the channel: a QoS 0
publish is complete; any other arms a timeout, when the connection has one, and waits
for its PUBACK. -/
def publishSent (isQos0 : Bool) (operationTimeoutNs : UInt64) (scheduleFails : Bool) :
    PublishEnd :=
  if !isQos0 && operationTimeoutNs != 18446744073709551615 && scheduleFails then .returned .error
  else .returned (if isQos0 then .complete else .ongoing)

/-- `s_publish_send`, for the PUBLISH header encoding `encodeHeaders` and the
connection's `operation_timeout_ns`, with at most `fuel` rounds of its loop. It
returns the task argument it leaves, the messages it handed to the channel and how it
ended. -/
def publishSend (encodeHeaders : PublishPacket → List UInt8) (operationTimeoutNs : UInt64)
    (fuel : Nat) (packetId : UInt16) (isFirstAttempt : Bool) (arg : PublishTaskArg)
    (environment : PublishEnvironment) : Option (PublishTaskArg × List Message × PublishEnd) :=
  let isQos0 := arg.qos == .atMostOnce
  if isFirstAttempt && environment.initFails then some (arg, [], .returned .error)
  else
    let arg := arg.prepare packetId isFirstAttempt
    match environment.messageFor 0 with
    | none => some (arg, [], .returned .error)
    | some capacity =>
        let headers := encodeHeaders arg.publish
        if capacity < headers.length then some (arg, [], .returned .error)
        else
          (writePayloadChunk environment isQos0 fuel 1 (some ⟨capacity, headers⟩) arg.payload
              []).map fun (sent, loopEnd) =>
            (arg, sent, loopEnd.getD (publishSent isQos0 operationTimeoutNs environment.scheduleFails))

/-- Modelled from the spec: the attempts the request engine makes of one publish
request, all with its packet id: the first, then a resend after each reconnection for
as long as an attempt leaves the request ONGOING. -/
def publishAttempts (encodeHeaders : PublishPacket → List UInt8) (operationTimeoutNs : UInt64)
    (fuel : Nat) (packetId : UInt16) :
    Bool → PublishTaskArg → List PublishEnvironment →
      List (PublishTaskArg × List Message × PublishEnd)
  | _, _, [] => []
  | isFirstAttempt, arg, environment :: rest =>
      match publishSend encodeHeaders operationTimeoutNs fuel packetId isFirstAttempt arg
          environment with
      | some (arg, sent, .returned .ongoing) =>
          (arg, sent, .returned .ongoing) ::
            publishAttempts encodeHeaders operationTimeoutNs fuel packetId false arg rest
      | some attempt => [attempt]
      | none => []

namespace PublishTaskArg

@[simp] theorem prepare_resend (arg : PublishTaskArg) (packetId : UInt16) :
    arg.prepare packetId false = arg := rfl

@[simp] theorem prepare_payload (arg : PublishTaskArg) (packetId : UInt16) (isFirstAttempt : Bool) :
    (arg.prepare packetId isFirstAttempt).payload = arg.payload := by
  cases isFirstAttempt <;> rfl

@[simp] theorem prepare_qos (arg : PublishTaskArg) (packetId : UInt16) (isFirstAttempt : Bool) :
    (arg.prepare packetId isFirstAttempt).qos = arg.qos := by
  cases isFirstAttempt <;> rfl

end PublishTaskArg

/-! ## The chunk loop -/

section Loop

variable (environment : PublishEnvironment) (isQos0 : Bool)

/-- A round never takes the write's error branch: it writes no more than the message
has room for. -/
theorem writePayloadChunk_succ (fuel acquired : Nat) (message : Message)
    (payload : List UInt8) (sent : List Message) :
    writePayloadChunk environment isQos0 (fuel + 1) acquired (some message) payload sent =
      let leftInMessage := message.capacity - message.data.length
      let toWrite := if payload.length < leftInMessage then payload.length else leftInMessage
      let filled : Message := ⟨message.capacity, message.data ++ payload.take toWrite⟩
      if environment.sendFails sent.length then
        some (sent, some (.returned (if isQos0 then .error else .ongoing)))
      else if (payload.drop toWrite).length ≠ 0 then
        writePayloadChunk environment isQos0 fuel (acquired + 1)
          ((environment.messageFor acquired).map fun capacity => ⟨capacity, []⟩)
          (payload.drop toWrite) (sent ++ [filled])
      else some (sent ++ [filled], none) := by
  have fits : ¬((if payload.length < message.capacity - message.data.length then payload.length
      else message.capacity - message.data.length) ≠ 0 ∧
      message.capacity - message.data.length <
        if payload.length < message.capacity - message.data.length then payload.length
        else message.capacity - message.data.length) := by
    split <;> omega
  rw [writePayloadChunk, if_neg fits]

theorem writePayloadChunk_round (fuel acquired : Nat) (message : Message)
    (payload : List UInt8) (sent : List Message)
    (delivered : environment.sendFails sent.length = false) :
    writePayloadChunk environment isQos0 (fuel + 1) acquired (some message) payload sent =
      let leftInMessage := message.capacity - message.data.length
      let toWrite := if payload.length < leftInMessage then payload.length else leftInMessage
      let filled : Message := ⟨message.capacity, message.data ++ payload.take toWrite⟩
      if (payload.drop toWrite).length ≠ 0 then
        writePayloadChunk environment isQos0 fuel (acquired + 1)
          ((environment.messageFor acquired).map fun capacity => ⟨capacity, []⟩)
          (payload.drop toWrite) (sent ++ [filled])
      else some (sent ++ [filled], none) := by
  rw [writePayloadChunk_succ, delivered]
  rfl

/-- With a message of at least one byte on every fetch, the loop ends whatever the
channel does: each round past the first writes a byte or more, or stops. -/
theorem writePayloadChunk_ends
    (supplied :
      ∀ n, 0 < n → ∃ capacity, environment.messageFor n = some capacity ∧ 0 < capacity) :
    ∀ (fuel acquired : Nat) (message : Message) (payload : List UInt8) (sent : List Message),
      0 < acquired → 0 < fuel →
      payload.length < fuel + min 1 (message.capacity - message.data.length) →
      ∃ result, writePayloadChunk environment isQos0 fuel acquired (some message) payload sent =
          some result ∧ result.2 ≠ some .absentMessage := by
  intro fuel
  induction fuel with
  | zero => exact fun _ _ _ _ _ started => absurd started (Nat.lt_irrefl 0)
  | succ fuel induction =>
    intro acquired message payload sent fetched _ enough
    rw [writePayloadChunk_succ]
    dsimp only
    generalize written : (if payload.length < message.capacity - message.data.length then
      payload.length else message.capacity - message.data.length) = toWrite
    have chosen : toWrite = min payload.length (message.capacity - message.data.length) := by
      subst written
      split <;> omega
    split
    · exact ⟨_, rfl, by simp⟩
    split
    · rename_i more
      rw [List.length_drop] at more
      obtain ⟨capacity, next, roomy⟩ := supplied acquired fetched
      rw [next, Option.map_some']
      exact induction (acquired + 1) ⟨capacity, []⟩ _ _ (Nat.succ_pos acquired) (by omega)
        (by simp only [List.length_drop, List.length_nil, Nat.sub_zero]; omega)
    · exact ⟨_, rfl, by simp⟩

/-- With a message on every fetch and a channel that takes every message, the loop
ends once the payload is written: the messages it sends hold, in order, what the
first already held and then the payload, none past its capacity and all but the last
full. `fuel` counts one round for each byte of the payload, and one more when the
first message has no room left. -/
theorem writePayloadChunk_delivers
    (supplied :
      ∀ n, 0 < n → ∃ capacity, environment.messageFor n = some capacity ∧ 0 < capacity)
    (delivered : ∀ n, environment.sendFails n = false) :
    ∀ (fuel acquired : Nat) (message : Message) (payload : List UInt8) (sent : List Message),
      0 < acquired → message.data.length ≤ message.capacity → 0 < fuel →
      payload.length < fuel + min 1 (message.capacity - message.data.length) →
      ∃ rest : List Message, rest ≠ [] ∧
        writePayloadChunk environment isQos0 fuel acquired (some message) payload sent =
          some (sent ++ rest, none) ∧
        (rest.map Message.data).flatten = message.data ++ payload ∧
        (∀ filled ∈ rest, filled.data.length ≤ filled.capacity) ∧
        (∀ filled ∈ rest.dropLast, filled.data.length = filled.capacity) := by
  intro fuel
  induction fuel with
  | zero => exact fun _ _ _ _ _ _ started => absurd started (Nat.lt_irrefl 0)
  | succ fuel induction =>
    intro acquired message payload sent fetched fits _ enough
    rw [writePayloadChunk_round environment isQos0 fuel acquired message payload sent
      (delivered _)]
    dsimp only
    generalize written : (if payload.length < message.capacity - message.data.length then
      payload.length else message.capacity - message.data.length) = toWrite
    have chosen : toWrite = min payload.length (message.capacity - message.data.length) := by
      subst written
      split <;> omega
    by_cases more : (payload.drop toWrite).length ≠ 0
    · rw [if_pos more]
      rw [List.length_drop] at more
      obtain ⟨capacity, next, roomy⟩ := supplied acquired fetched
      obtain ⟨later, nonempty, ran, joined, bounds, fulls⟩ :=
        induction (acquired + 1) ⟨capacity, []⟩ (payload.drop toWrite)
          (sent ++ [⟨message.capacity, message.data ++ payload.take toWrite⟩])
          (Nat.succ_pos acquired) (Nat.zero_le _) (by omega)
          (by simp only [List.length_drop, List.length_nil, Nat.sub_zero]; omega)
      refine ⟨⟨message.capacity, message.data ++ payload.take toWrite⟩ :: later,
        List.cons_ne_nil _ _, ?_, ?_, ?_, ?_⟩
      · rw [next, Option.map_some', ran, List.append_assoc, List.singleton_append]
      · rw [List.map_cons, List.flatten_cons, joined, List.nil_append, List.append_assoc,
          List.take_append_drop]
      · rintro filled (_ | ⟨_, member⟩)
        · simp only [List.length_append, List.length_take]
          omega
        · exact bounds filled member
      · rw [List.dropLast_cons_of_ne_nil nonempty]
        rintro filled (_ | ⟨_, member⟩)
        · simp only [List.length_append, List.length_take]
          omega
        · exact fulls filled member
    · rw [if_neg more]
      have taken : payload.take toWrite = payload := by
        rw [List.length_drop] at more
        exact List.take_of_length_le (by omega)
      refine ⟨[⟨message.capacity, message.data ++ payload.take toWrite⟩],
        List.cons_ne_nil _ _, rfl, by simp [taken], ?_, by simp⟩
      intro filled member
      rw [List.mem_singleton.mp member]
      simp only [List.length_append, List.length_take]
      omega

end Loop

/-! ## One attempt -/

section Attempt

variable (encodeHeaders : PublishPacket → List UInt8) (operationTimeoutNs : UInt64) (fuel : Nat)
  (packetId : UInt16)

theorem publishSend_of_fits {isFirstAttempt : Bool} {arg : PublishTaskArg}
    {environment : PublishEnvironment} {capacity : Nat}
    (initialised : (isFirstAttempt && environment.initFails) = false)
    (first : environment.messageFor 0 = some capacity)
    (fits : (encodeHeaders (arg.prepare packetId isFirstAttempt).publish).length ≤ capacity) :
    publishSend encodeHeaders operationTimeoutNs fuel packetId isFirstAttempt arg environment =
      (writePayloadChunk environment (arg.qos == .atMostOnce) fuel 1
          (some ⟨capacity, encodeHeaders (arg.prepare packetId isFirstAttempt).publish⟩)
          arg.payload []).map fun (sent, loopEnd) =>
        (arg.prepare packetId isFirstAttempt, sent,
          loopEnd.getD (publishSent (arg.qos == .atMostOnce) operationTimeoutNs
            environment.scheduleFails)) := by
  simp only [publishSend, initialised, Bool.false_eq_true, if_false, first,
    PublishTaskArg.prepare_payload, PublishTaskArg.prepare_qos, if_neg (Nat.not_lt.mpr fits)]

theorem publishSend_arg {isFirstAttempt : Bool} {arg : PublishTaskArg}
    {environment : PublishEnvironment} {attempt : PublishTaskArg × List Message × PublishEnd}
    (sending : publishSend encodeHeaders operationTimeoutNs fuel packetId isFirstAttempt arg
      environment = some attempt)
    (wrote : attempt.2.1 ≠ [] ∨ attempt.2.2 = .returned .ongoing) :
    attempt.1 = arg.prepare packetId isFirstAttempt := by
  unfold publishSend at sending
  split at sending
  · cases sending
    simp at wrote
  split at sending
  · cases sending; rfl
  dsimp only at sending
  split at sending
  · cases sending; rfl
  obtain ⟨⟨sent, loopEnd⟩, -, rfl⟩ := Option.map_eq_some'.mp sending
  rfl

/-- When every fetch supplies a message of at least one byte, the first with room for
the headers of the packet the attempt encodes, the `write_payload_chunk` loop ends,
whatever the channel does. When the channel takes every message, the messages sent hold,
in order, the encoded headers and then the whole payload, none is filled past its
capacity and all but the last are full. -/
theorem publish_send_writes_headers_then_payload {isFirstAttempt : Bool} {arg : PublishTaskArg}
    {environment : PublishEnvironment} {capacity : Nat}
    (initialised : (isFirstAttempt && environment.initFails) = false)
    (first : environment.messageFor 0 = some capacity)
    (fits : (encodeHeaders (arg.prepare packetId isFirstAttempt).publish).length ≤ capacity)
    (supplied :
      ∀ n, 0 < n → ∃ capacity, environment.messageFor n = some capacity ∧ 0 < capacity)
    (enoughFuel : arg.payload.length < fuel) :
    ∃ sent publishEnd,
      publishSend encodeHeaders operationTimeoutNs fuel packetId isFirstAttempt arg environment =
        some (arg.prepare packetId isFirstAttempt, sent, publishEnd) ∧
      publishEnd ≠ .absentMessage ∧
      ((∀ n, environment.sendFails n = false) →
        (sent.map Message.data).flatten =
          encodeHeaders (arg.prepare packetId isFirstAttempt).publish ++ arg.payload ∧
        (∀ message ∈ sent, message.data.length ≤ message.capacity) ∧
        (∀ message ∈ sent.dropLast, message.data.length = message.capacity)) := by
  obtain ⟨⟨sent, loopEnd⟩, ran, present⟩ :=
    writePayloadChunk_ends environment (arg.qos == .atMostOnce) supplied fuel 1
      ⟨capacity, encodeHeaders (arg.prepare packetId isFirstAttempt).publish⟩ arg.payload []
      Nat.one_pos (by omega) (by omega)
  refine ⟨sent, loopEnd.getD (publishSent (arg.qos == .atMostOnce) operationTimeoutNs
    environment.scheduleFails), ?_, ?_, fun delivered => ?_⟩
  · rw [publishSend_of_fits encodeHeaders operationTimeoutNs fuel packetId initialised first fits,
      ran]
    rfl
  · cases loopEnd with
    | none =>
      unfold publishSent
      split <;> nofun
    | some loopEnd => exact fun absent => present (congrArg some absent)
  · obtain ⟨rest, -, delivers, joined, bounds, fulls⟩ :=
      writePayloadChunk_delivers environment (arg.qos == .atMostOnce) supplied delivered fuel 1
        ⟨capacity, encodeHeaders (arg.prepare packetId isFirstAttempt).publish⟩ arg.payload []
        Nat.one_pos fits (by omega) (by omega)
    obtain ⟨rfl, -⟩ := Prod.mk.inj (Option.some.inj (ran.symm.trans delivers))
    exact ⟨joined, bounds, fulls⟩

theorem publish_send_writes_headers_then_payload_in_two_messages :
    (true && false) = false ∧ (fun _ => some 4 : Nat → Option Nat) 0 = some 4 ∧
      (([48, 0] : List UInt8)).length ≤ 4 ∧
      (∃ sent publishEnd,
        publishSend (fun _ => [48, 0]) 0 6 1 true
            (PublishTaskArg.connectionPublish "a" .atLeastOnce false [1, 2, 3, 4, 5])
            ⟨false, fun _ => some 4, fun _ => false, false⟩ =
          some ((PublishTaskArg.connectionPublish "a" .atLeastOnce false [1, 2, 3, 4, 5]).prepare
            1 true, sent, publishEnd) ∧
        publishEnd ≠ .absentMessage ∧
        ((∀ n, (fun _ => false : Nat → Bool) n = false) →
          (sent.map Message.data).flatten = [48, 0] ++ [1, 2, 3, 4, 5] ∧
          (∀ message ∈ sent, message.data.length ≤ message.capacity) ∧
          (∀ message ∈ sent.dropLast, message.data.length = message.capacity))) :=
  ⟨rfl, rfl, by decide,
    publish_send_writes_headers_then_payload (fun _ => [48, 0]) 0 6 1 rfl rfl (by decide)
      (fun _ _ => ⟨4, rfl, by decide⟩) (by decide)⟩

/-- The loop fetches the message for the second chunk without checking it: when the
payload does not fit beside the headers in the first message and the pool has no second
one, the attempt goes on to read the capacity of the absent message instead of
returning ERROR, as it does when the first fetch fails. -/
theorem publish_send_reads_absent_message {isFirstAttempt : Bool} {arg : PublishTaskArg}
    {environment : PublishEnvironment} {capacity : Nat}
    (initialised : (isFirstAttempt && environment.initFails) = false)
    (first : environment.messageFor 0 = some capacity)
    (fits : (encodeHeaders (arg.prepare packetId isFirstAttempt).publish).length ≤ capacity)
    (overflows : capacity <
      (encodeHeaders (arg.prepare packetId isFirstAttempt).publish).length + arg.payload.length)
    (delivered : environment.sendFails 0 = false) (exhausted : environment.messageFor 1 = none) :
    publishSend encodeHeaders operationTimeoutNs (fuel + 2) packetId isFirstAttempt arg
        environment =
      some (arg.prepare packetId isFirstAttempt,
        [⟨capacity, encodeHeaders (arg.prepare packetId isFirstAttempt).publish ++
          arg.payload.take
            (capacity - (encodeHeaders (arg.prepare packetId isFirstAttempt).publish).length)⟩],
        .absentMessage) := by
  rw [publishSend_of_fits encodeHeaders operationTimeoutNs (fuel + 2) packetId initialised first
    fits, writePayloadChunk_round _ _ _ _ _ _ _ delivered]
  have spills : ¬arg.payload.length <
      capacity - (encodeHeaders (arg.prepare packetId isFirstAttempt).publish).length := by omega
  have left : (arg.payload.drop (capacity -
      (encodeHeaders (arg.prepare packetId isFirstAttempt).publish).length)).length ≠ 0 := by
    rw [List.length_drop]
    omega
  dsimp only
  simp only [if_neg spills, if_pos left, exhausted, Option.map_none']
  rfl

theorem publish_send_reads_absent_message_for_second_chunk :
    (true && false) = false ∧ (fun n => if n = 0 then some 3 else none : Nat → Option Nat) 0 = some 3 ∧
      ([48, 0] : List UInt8).length ≤ 3 ∧ 3 < ([48, 0] : List UInt8).length + [1, 2].length ∧
      publishSend (fun _ => [48, 0]) 0 (0 + 2) 1 true
          (PublishTaskArg.connectionPublish "a" .atLeastOnce false [1, 2])
          ⟨false, fun n => if n = 0 then some 3 else none, fun _ => false, false⟩ =
        some ((PublishTaskArg.connectionPublish "a" .atLeastOnce false [1, 2]).prepare 1 true,
          [⟨3, [48, 0] ++ [1, 2].take (3 - 2)⟩], .absentMessage) :=
  ⟨rfl, rfl, by decide, by decide,
    publish_send_reads_absent_message (fun _ => [48, 0]) 0 0 1 rfl rfl (by decide) (by decide)
      rfl rfl⟩

end Attempt

/-! ## Resends -/

section Resends

variable (encodeHeaders : PublishPacket → List UInt8) (operationTimeoutNs : UInt64) (fuel : Nat)
  (packetId : UInt16)

theorem publishAttempts_arg :
    ∀ (environments : List PublishEnvironment) (isFirstAttempt : Bool) (arg : PublishTaskArg),
      ∀ attempt ∈ publishAttempts encodeHeaders operationTimeoutNs fuel packetId isFirstAttempt
          arg environments,
        attempt.2.1 ≠ [] → attempt.1 = arg.prepare packetId isFirstAttempt := by
  intro environments
  induction environments with
  | nil => simp [publishAttempts]
  | cons environment rest induction =>
      intro isFirstAttempt arg attempt member wrote
      rw [publishAttempts] at member
      generalize sending : publishSend encodeHeaders operationTimeoutNs fuel packetId isFirstAttempt
        arg environment = result at member
      have prepared := fun attempt (sent : result = some attempt) =>
        publishSend_arg encodeHeaders operationTimeoutNs fuel packetId (sending.trans sent)
      rcases result with _ | ⟨after, sent, (_ | _ | _) | _⟩
      case some.mk.mk.returned.ongoing =>
        have first := prepared _ rfl (.inr rfl)
        rcases List.mem_cons.mp member with rfl | later
        · exact first
        · rw [induction false after attempt later wrote, PublishTaskArg.prepare_resend]
          exact first
      case none => cases member
      all_goals
        rw [List.mem_singleton.mp member] at wrote ⊢
        exact prepared _ rfl (.inl wrote)

/-- Over any run of attempts of a publish request, every attempt that sends anything
encodes the packet the first attempt built: the user's topic, QoS, retain flag and
payload, the request's packet id (0 at QoS 0) and a DUP flag that is clear, on a
resend as on the first send. -/
theorem publish_resends_first_packet_without_dup (arg : PublishTaskArg)
    (environments : List PublishEnvironment) :
    ∀ attempt ∈ publishAttempts encodeHeaders operationTimeoutNs fuel packetId true arg
        environments,
      attempt.2.1 ≠ [] →
        attempt.1.publish = ⟨arg.retain, arg.qos, false, arg.topic,
          if arg.qos == .atMostOnce then 0 else packetId, arg.payload⟩ :=
  fun attempt member wrote => by
    rw [publishAttempts_arg encodeHeaders operationTimeoutNs fuel packetId environments true arg
      attempt member wrote]
    rfl

/-- The first byte of a PUBLISH fixed header: `0x30`, the DUP bit `0x08` and the QoS
bits. -/
def publishFirstByte (packet : PublishPacket) : List UInt8 :=
  [0x30 + (if packet.dup then 8 else 0) + (if packet.qos = .atLeastOnce then 2 else 0)]

theorem publish_resend_of_qos_one_without_dup :
    ((PublishTaskArg.connectionPublish "a" .atLeastOnce false [1]).prepare 1 true,
        [⟨3, [0x32, 1]⟩], PublishEnd.returned .ongoing) ∈
      publishAttempts publishFirstByte 0 4 1 true
        (PublishTaskArg.connectionPublish "a" .atLeastOnce false [1])
        [⟨false, fun _ => some 3, fun _ => false, false⟩,
          ⟨false, fun _ => some 3, fun _ => false, false⟩] ∧
      [(⟨3, [0x32, 1]⟩ : Message)] ≠ [] ∧
      ((PublishTaskArg.connectionPublish "a" .atLeastOnce false [1]).prepare 1 true).publish =
        ⟨false, .atLeastOnce, false, "a", 1, [1]⟩ :=
  ⟨by decide, by decide,
    publish_resends_first_packet_without_dup publishFirstByte 0 4 1
      (PublishTaskArg.connectionPublish "a" .atLeastOnce false [1])
      [⟨false, fun _ => some 3, fun _ => false, false⟩,
        ⟨false, fun _ => some 3, fun _ => false, false⟩]
      ((PublishTaskArg.connectionPublish "a" .atLeastOnce false [1]).prepare 1 true,
        [⟨3, [0x32, 1]⟩], PublishEnd.returned .ongoing) (by decide) (by decide)⟩

/-- The resend of a QoS 1 publish starts with `0x32`, as the first send does, where a
DUP flag would make it `0x3A`. -/
example : (publishAttempts publishFirstByte 0 4 1 true
      (PublishTaskArg.connectionPublish "a" .atLeastOnce false [1])
      [⟨false, fun _ => some 3, fun _ => false, false⟩,
        ⟨false, fun _ => some 3, fun _ => false, false⟩]).map
        (fun attempt => attempt.2.1.map Message.data) = [[[0x32, 1]], [[0x32, 1]]] := by
  decide

end Resends

end MqttClient
