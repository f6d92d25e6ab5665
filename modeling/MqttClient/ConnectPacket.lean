import MqttClient.Configuration
import MqttClient.KeepAlive
import MqttClient.Lifecycle

/-! # The CONNECT packet

The CONNECT that `s_mqtt_client_init` builds from what the setter calls left in the
connection, and which setter calls can change it. -/

namespace MqttClient

/-- `struct aws_mqtt_packet_connect` as `s_mqtt_client_init` fills it in: the arguments of
`aws_mqtt_packet_connect_init`, of `aws_mqtt_packet_connect_add_will` and of
`aws_mqtt_packet_connect_add_credentials`, a null password cursor being `none`. How
`packets.c` encodes them is not part of this model. -/
structure ConnectPacket where
  clientIdentifier : String
  cleanSession : Bool
  keepAliveTimeout : UInt16
  will : Option Will
  username : Option String
  password : Option String
  deriving DecidableEq, Repr

/-- The CONNECT packet of `s_mqtt_client_init`. An empty will topic stands for a null
`will.topic.buffer`: a will topic that `set_will` accepts is never empty. -/
def connectPacket (clientId : String) (cleanSession : Bool) (timings : Timings)
    (configuration : Configuration) : ConnectPacket :=
  let connect : ConnectPacket :=
    ⟨clientId, cleanSession, timings.keepAliveTimeSecs, none, none, none⟩
  let connect :=
    if configuration.will.topic.isEmpty then connect
    else { connect with will := some configuration.will }
  match configuration.username with
  | some username => { connect with username := some username, password := configuration.password }
  | none => connect

namespace Configuration

/-- The configuration `aws_mqtt_client_connection_new` leaves in its zeroed connection:
no will, no login, reconnect bounds of 1 s and 128 s, and no handlers. -/
def new : Configuration :=
  ⟨⟨"", [], .atMostOnce, false⟩, none, none, ⟨0, 1, 128, 0, 0⟩, 0, 0, 0, 0, 0, 0⟩

end Configuration

/-- A setter call as a user makes it: the connection's state then, the allocation that
fails in it if one does, and the setter with its arguments. -/
abbrev SetterCall := ConnectionState × Option ConfigurationFailure × Setter

namespace Setter

/-- The configuration after setter calls made one after the other. -/
def callAll (configuration : Configuration) (calls : List SetterCall) : Configuration :=
  calls.foldl (fun configuration call => (call.2.2.call call.1 configuration call.2.1).1)
    configuration

@[simp] theorem callAll_nil (configuration : Configuration) :
    callAll configuration [] = configuration := rfl

@[simp] theorem callAll_cons (configuration : Configuration) (state : ConnectionState)
    (failure : Option ConfigurationFailure) (setter : Setter) (calls : List SetterCall) :
    callAll configuration ((state, failure, setter) :: calls) =
      callAll (setter.call state configuration failure).1 calls := rfl

theorem callAll_append (configuration : Configuration) (earlier later : List SetterCall) :
    callAll configuration (earlier ++ later) = callAll (callAll configuration earlier) later :=
  List.foldl_append _ _ _ _

/-- Whether a call writes the will: a `set_will` call that gets past its state check, its
topic check and its topic copy, and so writes at least the QoS and the retain flag. -/
def writesWill : SetterCall → Bool
  | (state, failure, .setWill topic _ _ _) =>
      Configuration.checkConnectionStateForConfiguration state && isValidTopic topic &&
        failure != some .willTopicCopy
  | _ => false

/-- Whether a call writes the login: a `set_login` call that succeeds. -/
def writesLogin : SetterCall → Bool
  | (state, failure, .setLogin _ password) =>
      Configuration.checkConnectionStateForConfiguration state && failure != some .usernameCopy &&
        !(password.isSome && failure == some .passwordCopy)
  | _ => false

/-! ## Frames: calls that do not write the will or the login leave it -/

theorem call_will_of_not_writesWill {configuration : Configuration} {state : ConnectionState}
    {failure : Option ConfigurationFailure} {setter : Setter}
    (untouched : writesWill (state, failure, setter) = false) :
    (setter.call state configuration failure).1.will = configuration.will := by
  cases setter with
  | setWill topic qos retain payload =>
    simp only [writesWill, Bool.and_eq_false_iff, bne_eq_false_iff_eq] at untouched
    simp only [call, Configuration.setWill]
    split
    · rfl
    split
    · rfl
    rw [if_pos (by simp_all)]
  | setLogin =>
    simp only [call, Configuration.setLogin]
    split_ifs <;> rfl
  | setOnAnyPublishHandler =>
    simp only [call, Configuration.setOnAnyPublishHandler]
    split_ifs <;> rfl
  | _ =>
    simp only [call, Configuration.setReconnectTimeout,
      Configuration.setConnectionInterruptionHandlers, Configuration.configure]
    split_ifs <;> rfl

theorem call_login_of_not_writesLogin {configuration : Configuration} {state : ConnectionState}
    {failure : Option ConfigurationFailure} {setter : Setter}
    (untouched : writesLogin (state, failure, setter) = false) :
    (setter.call state configuration failure).1.username = configuration.username ∧
      (setter.call state configuration failure).1.password = configuration.password := by
  cases setter with
  | setWill =>
    simp only [call, Configuration.setWill]
    split_ifs <;> exact ⟨rfl, rfl⟩
  | setLogin username password =>
    simp only [writesLogin, Bool.and_eq_false_iff, bne_eq_false_iff_eq, Bool.not_eq_false']
      at untouched
    simp only [call, Configuration.setLogin]
    split_ifs <;> simp_all
  | setOnAnyPublishHandler =>
    simp only [call, Configuration.setOnAnyPublishHandler]
    split_ifs <;> exact ⟨rfl, rfl⟩
  | _ =>
    simp only [call, Configuration.setReconnectTimeout,
      Configuration.setConnectionInterruptionHandlers, Configuration.configure]
    split_ifs <;> exact ⟨rfl, rfl⟩

theorem callAll_will_of_not_writesWill {configuration : Configuration} {calls : List SetterCall}
    (untouched : ∀ call ∈ calls, writesWill call = false) :
    (callAll configuration calls).will = configuration.will := by
  induction calls generalizing configuration with
  | nil => rfl
  | cons call calls ih =>
    obtain ⟨state, failure, setter⟩ := call
    rw [callAll_cons, ih fun later member => untouched later (.tail _ member),
      call_will_of_not_writesWill (untouched _ (.head _))]

theorem callAll_login_of_not_writesLogin {configuration : Configuration} {calls : List SetterCall}
    (untouched : ∀ call ∈ calls, writesLogin call = false) :
    (callAll configuration calls).username = configuration.username ∧
      (callAll configuration calls).password = configuration.password := by
  induction calls generalizing configuration with
  | nil => exact ⟨rfl, rfl⟩
  | cons call calls ih =>
    obtain ⟨state, failure, setter⟩ := call
    rw [callAll_cons, (ih fun later member => untouched later (.tail _ member)).1,
      (ih fun later member => untouched later (.tail _ member)).2]
    exact call_login_of_not_writesLogin (untouched _ (.head _))

/-! ## Calls that write -/

theorem setWill_will {configuration : Configuration} {state : ConnectionState}
    {failure : Option ConfigurationFailure} {topic : String} {qos : Qos} {retain : Bool}
    {payload : List UInt8}
    (writes : writesWill (state, failure, .setWill topic qos retain payload) = true) :
    ((Setter.setWill topic qos retain payload).call state configuration failure).1.will =
      if failure = some .willPayloadCopy then { configuration.will with qos, retain }
      else ⟨topic, payload, qos, retain⟩ := by
  simp only [writesWill, Bool.and_eq_true, bne_iff_ne, ne_eq] at writes
  obtain ⟨⟨configurable, valid⟩, copied⟩ := writes
  simp only [call, Configuration.setWill, configurable, valid, Bool.not_true, beq_iff_eq, copied,
    Bool.false_eq_true, ↓reduceIte]
  split <;> rfl

theorem setLogin_login {configuration : Configuration} {state : ConnectionState}
    {failure : Option ConfigurationFailure} {username : String} {password : Option String}
    (writes : writesLogin (state, failure, .setLogin username password) = true) :
    ((Setter.setLogin username password).call state configuration failure).1.username =
        some username ∧
      ((Setter.setLogin username password).call state configuration failure).1.password =
        password := by
  simp only [writesLogin, Bool.and_eq_true, bne_iff_ne, ne_eq, Bool.not_eq_true'] at writes
  obtain ⟨⟨configurable, copied⟩, passwordCopied⟩ := writes
  simp [call, Configuration.setLogin, configurable, copied, passwordCopied]

end Setter

theorem isEmpty_of_isValidTopic {topic : String} (valid : isValidTopic topic = true) :
    topic.isEmpty = false := by
  simp only [isValidTopic, Bool.and_eq_true, Bool.not_eq_true'] at valid
  exact valid.1.1

theorem connectPacket_will (clientId : String) (cleanSession : Bool) (timings : Timings)
    (configuration : Configuration) :
    (connectPacket clientId cleanSession timings configuration).will =
      if configuration.will.topic.isEmpty then none else some configuration.will := by
  unfold connectPacket
  split <;> split <;> rfl

theorem connectPacket_login (clientId : String) (cleanSession : Bool) (timings : Timings)
    (configuration : Configuration) :
    (connectPacket clientId cleanSession timings configuration).username =
        configuration.username ∧
      (connectPacket clientId cleanSession timings configuration).password =
        configuration.username.bind fun _ => configuration.password := by
  unfold connectPacket
  cases configuration.username <;> split <;> exact ⟨rfl, rfl⟩

open Setter

/-! ## What a CONNECT carries -/

/-- The will of a CONNECT is the one the last successful `set_will` call before it set,
whatever other setters were called, with whatever failures, after it: provided no later
`set_will` call gets past its topic copy. -/
theorem connect_packet_carries_last_will (clientId : String) (cleanSession : Bool)
    (timings : Timings) (configuration : Configuration) (earlier later : List SetterCall)
    {state : ConnectionState} {failure : Option ConfigurationFailure} {topic : String} {qos : Qos}
    {retain : Bool} {payload : List UInt8}
    (writes : writesWill (state, failure, .setWill topic qos retain payload) = true)
    (copied : failure ≠ some .willPayloadCopy)
    (untouched : ∀ call ∈ later, writesWill call = false) :
    (connectPacket clientId cleanSession timings (callAll configuration
        (earlier ++ (state, failure, .setWill topic qos retain payload) :: later))).will =
      some ⟨topic, payload, qos, retain⟩ := by
  have valid : isValidTopic topic = true := by
    simp only [writesWill, Bool.and_eq_true] at writes
    exact writes.1.2
  rw [connectPacket_will, callAll_append, callAll_cons, callAll_will_of_not_writesWill untouched,
    setWill_will writes, if_neg copied, if_neg (by simp [isEmpty_of_isValidTopic valid])]

theorem connect_packet_carries_will_set_before_login :
    writesWill (.disconnected, none, .setWill "a" .atLeastOnce true [1]) = true ∧
      none ≠ some ConfigurationFailure.willPayloadCopy ∧
      (∀ call ∈ [((ConnectionState.connected, none, Setter.setLogin "u" none) : SetterCall)],
        writesWill call = false) ∧
      (connectPacket "c" true Timings.defaults
          (callAll Configuration.new
            ([] ++ (.disconnected, none, .setWill "a" .atLeastOnce true [1]) ::
              [(.connected, none, .setLogin "u" none)]))).will =
        some ⟨"a", [1], .atLeastOnce, true⟩ :=
  have writes : writesWill (.disconnected, none, .setWill "a" .atLeastOnce true [1]) = true := by
    decide
  have untouched :
      ∀ call ∈ [((ConnectionState.connected, none, Setter.setLogin "u" none) : SetterCall)],
        writesWill call = false := by
    decide
  ⟨writes, nofun, untouched,
    connect_packet_carries_last_will "c" true _ Configuration.new [] _ writes nofun untouched⟩

/-- A `set_will` call that fails at its payload copy changes the next CONNECT all the same:
it carries the will set before, if any, with that call's QoS and retain flag. -/
theorem connect_packet_mixes_will_after_payload_copy_failure (clientId : String)
    (cleanSession : Bool) (timings : Timings) (configuration : Configuration)
    (earlier later : List SetterCall) {state : ConnectionState} {topic : String} {qos : Qos}
    {retain : Bool} {payload : List UInt8}
    (writes : writesWill (state, some .willPayloadCopy, .setWill topic qos retain payload) = true)
    (untouched : ∀ call ∈ later, writesWill call = false) :
    (connectPacket clientId cleanSession timings (callAll configuration
        (earlier ++ (state, some .willPayloadCopy, .setWill topic qos retain payload) ::
          later))).will =
      if (callAll configuration earlier).will.topic.isEmpty then none
      else some { (callAll configuration earlier).will with qos, retain } := by
  rw [connectPacket_will, callAll_append, callAll_cons, callAll_will_of_not_writesWill untouched,
    setWill_will writes, if_pos rfl]

theorem connect_packet_mixes_will_of_failed_set_will :
    writesWill (.connected, some .willPayloadCopy, .setWill "b" .atLeastOnce true [2]) = true ∧
      (connectPacket "c" true Timings.defaults
          (callAll Configuration.new
            ([(.disconnected, none, .setWill "a" .atMostOnce false [1])] ++
              (.connected, some .willPayloadCopy, .setWill "b" .atLeastOnce true [2]) ::
                []))).will =
        some ⟨"a", [1], .atLeastOnce, true⟩ :=
  have writes :
      writesWill (.connected, some .willPayloadCopy, .setWill "b" .atLeastOnce true [2]) =
        true := by
    decide
  ⟨writes, (connect_packet_mixes_will_after_payload_copy_failure "c" true _ Configuration.new
    [(.disconnected, none, .setWill "a" .atMostOnce false [1])] [] writes
    fun _ absent => absurd absent (List.not_mem_nil _)).trans (by decide)⟩

/-- The login of a CONNECT is the one the last successful `set_login` call before it set,
whatever other setters were called after it: its user name, and its password or none. -/
theorem connect_packet_carries_last_login (clientId : String) (cleanSession : Bool)
    (timings : Timings) (configuration : Configuration) (earlier later : List SetterCall)
    {state : ConnectionState} {failure : Option ConfigurationFailure} {username : String}
    {password : Option String}
    (writes : writesLogin (state, failure, .setLogin username password) = true)
    (untouched : ∀ call ∈ later, writesLogin call = false) :
    let connect := connectPacket clientId cleanSession timings
      (callAll configuration (earlier ++ (state, failure, .setLogin username password) :: later))
    connect.username = some username ∧ connect.password = password := by
  intro connect
  let written := ((Setter.setLogin username password).call state
    (callAll configuration earlier) failure).1
  obtain ⟨usernameIs, passwordIs⟩ :=
    @setLogin_login (callAll configuration earlier) _ _ _ _ writes
  obtain ⟨sameUsername, samePassword⟩ := @callAll_login_of_not_writesLogin written _ untouched
  obtain ⟨packetUsername, packetPassword⟩ :=
    connectPacket_login clientId cleanSession timings (callAll written later)
  simp only [connect, callAll_append, callAll_cons, packetUsername, packetPassword, sameUsername,
    samePassword, written, usernameIs, passwordIs, Option.some_bind, and_self]

theorem connect_packet_keeps_login_over_failed_password_copy :
    writesLogin (.disconnected, none, .setLogin "u" (some "p")) = true ∧
      (∀ call ∈ [((ConnectionState.connected, some .passwordCopy,
        Setter.setLogin "v" (some "q")) : SetterCall)], writesLogin call = false) ∧
      (connectPacket "c" true Timings.defaults
          (callAll Configuration.new ([] ++ (.disconnected, none, .setLogin "u" (some "p")) ::
            [(.connected, some .passwordCopy, .setLogin "v" (some "q"))]))).username = some "u" ∧
      (connectPacket "c" true Timings.defaults
          (callAll Configuration.new ([] ++ (.disconnected, none, .setLogin "u" (some "p")) ::
            [(.connected, some .passwordCopy, .setLogin "v" (some "q"))]))).password = some "p" :=
  have writes : writesLogin (.disconnected, none, .setLogin "u" (some "p")) = true := by decide
  have untouched : ∀ call ∈ [((ConnectionState.connected, some .passwordCopy,
      Setter.setLogin "v" (some "q")) : SetterCall)], writesLogin call = false := by decide
  ⟨writes, untouched,
    connect_packet_carries_last_login "c" true _ Configuration.new [] _ writes untouched⟩

theorem connectPacket_congr (clientId : String) (cleanSession : Bool) (timings : Timings)
    {configuration other : Configuration} (will : configuration.will = other.will)
    (username : configuration.username = other.username)
    (password : configuration.password = other.password) :
    connectPacket clientId cleanSession timings configuration =
      connectPacket clientId cleanSession timings other := by
  simp only [connectPacket, will, username, password]

theorem writes_of_not_configurable {call : SetterCall}
    (busy : Configuration.checkConnectionStateForConfiguration call.1 = false) :
    writesWill call = false ∧ writesLogin call = false := by
  obtain ⟨state, failure, setter⟩ := call
  cases setter <;> simp_all [writesWill, writesLogin]

theorem callAll_connect_fields_of_busy {configuration : Configuration} {calls : List SetterCall}
    (busy : ∀ call ∈ calls, Configuration.checkConnectionStateForConfiguration call.1 = false) :
    (callAll configuration calls).will = configuration.will ∧
      (callAll configuration calls).username = configuration.username ∧
      (callAll configuration calls).password = configuration.password :=
  ⟨callAll_will_of_not_writesWill fun call member =>
      (writes_of_not_configurable (busy call member)).1,
    callAll_login_of_not_writesLogin fun call member =>
      (writes_of_not_configurable (busy call member)).2⟩

/-- Setter calls made while the connection is connecting, reconnecting or disconnecting
leave the next CONNECT as it would have been without them, whatever they are and whatever
fails in them: the CONNECT a (re)connection sends is the one the configuration had when the
connection last left DISCONNECTED or CONNECTED. -/
theorem connect_packet_ignores_calls_while_busy (clientId : String) (cleanSession : Bool)
    (timings : Timings) (configuration : Configuration) {calls : List SetterCall}
    (busy : ∀ call ∈ calls, Configuration.checkConnectionStateForConfiguration call.1 = false) :
    connectPacket clientId cleanSession timings (callAll configuration calls) =
      connectPacket clientId cleanSession timings configuration :=
  have kept := @callAll_connect_fields_of_busy configuration _ busy
  connectPacket_congr clientId cleanSession timings kept.1 kept.2.1 kept.2.2

theorem connect_packet_ignores_set_will_while_connecting :
    (∀ call ∈ [((ConnectionState.connecting, none,
      Setter.setWill "a" .atLeastOnce true [1]) : SetterCall)],
      Configuration.checkConnectionStateForConfiguration call.1 = false) ∧
      connectPacket "c" true Timings.defaults
          (callAll Configuration.new [(.connecting, none, .setWill "a" .atLeastOnce true [1])]) =
        connectPacket "c" true Timings.defaults
          Configuration.new :=
  have busy : ∀ call ∈ [((ConnectionState.connecting, none,
      Setter.setWill "a" .atLeastOnce true [1]) : SetterCall)],
      Configuration.checkConnectionStateForConfiguration call.1 = false := by
    decide
  ⟨busy, connect_packet_ignores_calls_while_busy "c" true _ Configuration.new busy⟩

theorem not_configurable_of_settingUp {actions : List Connection.Action} {connection : Connection}
    {log : List Event} (ran : Connection.new.run actions = some (connection, log))
    (settingUp : connection.channel = .settingUp) :
    Configuration.checkConnectionStateForConfiguration connection.state = false := by
  have coherent := (Connection.run_new_invariant ran).coherent
  have notDisconnected := coherent.channel_state (by simp [settingUp])
  have notConnected : connection.state ≠ .connected := fun connected =>
    ChannelPhase.not_up_settingUp (settingUp ▸ coherent.connected_up connected)
  cases state : connection.state <;>
    simp_all [Configuration.checkConnectionStateForConfiguration]

/-- In every state reachable from a new connection in which a channel is being set up,
between a connect or a reconnect attempt and the CONNECT that `s_mqtt_client_init` sends on
the channel, whatever setters the user calls, with whatever failures, that CONNECT stays the
one the configuration gave before: the lifecycle only sets a channel up in states whose
configuration gate refuses every write the CONNECT reads. -/
theorem connect_packet_fixed_while_channel_sets_up {actions : List Connection.Action}
    {connection : Connection} {log : List Event}
    (ran : Connection.new.run actions = some (connection, log))
    (settingUp : connection.channel = .settingUp) (clientId : String) (cleanSession : Bool)
    (timings : Timings) (configuration : Configuration)
    (calls : List (Option ConfigurationFailure × Setter)) :
    connectPacket clientId cleanSession timings
        (callAll configuration (calls.map fun call => (connection.state, call))) =
      connectPacket clientId cleanSession timings configuration :=
  have kept := @callAll_connect_fields_of_busy configuration _ fun call member => by
    obtain ⟨_, _, rfl⟩ := List.mem_map.mp member
    exact not_configurable_of_settingUp ran settingUp
  connectPacket_congr clientId cleanSession timings kept.1 kept.2.1 kept.2.2

theorem connect_packet_fixed_after_connect :
    Connection.new.run [.connect ⟨none, false⟩ none] =
        some (⟨.connecting, false, .settingUp, false, 1, 1, false, false, false, false, .empty⟩,
          []) ∧
      (⟨.connecting, false, .settingUp, false, 1, 1, false, false, false, false, .empty⟩ :
        Connection).channel = .settingUp ∧
      connectPacket "c" true Timings.defaults (callAll Configuration.new
          ([(none, .setWill "a" .atLeastOnce true [1]), (none, .setLogin "u" none)].map
            fun call => (ConnectionState.connecting, call))) =
        connectPacket "c" true Timings.defaults Configuration.new :=
  have ran : Connection.new.run [.connect ⟨none, false⟩ none] =
      some (⟨.connecting, false, .settingUp, false, 1, 1, false, false, false, false, .empty⟩,
        []) := by
    decide
  ⟨ran, rfl, connect_packet_fixed_while_channel_sets_up ran rfl "c" true Timings.defaults
    Configuration.new [(none, .setWill "a" .atLeastOnce true [1]), (none, .setLogin "u" none)]⟩

/-! ## Every CONNECT is well formed -/

/-- What MQTT 3.1.1 asks of the optional parts of a CONNECT that the client chooses: a will
topic is a topic name, not empty and without wildcards, and a password comes only with a user
name. -/
def ConnectPacket.WellFormed (packet : ConnectPacket) : Prop :=
  (∀ will ∈ packet.will, isValidTopic will.topic = true) ∧
    (packet.password.isSome = true → packet.username.isSome = true)

/-- No will is set, or its topic is a topic name. -/
def Configuration.WillTopicValid (configuration : Configuration) : Prop :=
  configuration.will.topic.isEmpty = true ∨ isValidTopic configuration.will.topic = true

theorem call_willTopicValid {configuration : Configuration} {state : ConnectionState}
    {failure : Option ConfigurationFailure} {setter : Setter}
    (valid : configuration.WillTopicValid) :
    (setter.call state configuration failure).1.WillTopicValid := by
  cases writing : writesWill (state, failure, setter) with
  | false =>
    unfold Configuration.WillTopicValid
    rw [call_will_of_not_writesWill writing]
    exact valid
  | true =>
    cases setter with
    | setWill topic qos retain payload =>
      have validTopic : isValidTopic topic = true := by
        simp only [writesWill, Bool.and_eq_true] at writing
        exact writing.1.2
      unfold Configuration.WillTopicValid
      rw [setWill_will writing]
      split
      · exact valid
      · exact .inr validTopic
    | _ => simp [writesWill] at writing

theorem callAll_willTopicValid {configuration : Configuration}
    (valid : configuration.WillTopicValid) :
    ∀ calls : List SetterCall, (callAll configuration calls).WillTopicValid
  | [] => valid
  | (_, _, _) :: calls => callAll_willTopicValid (call_willTopicValid valid) calls

/-- From a new connection, whatever setters are called in whatever states, with whatever
failures, every CONNECT the connection sends is well formed. -/
theorem connect_packets_are_well_formed (clientId : String) (cleanSession : Bool)
    (timings : Timings) (calls : List SetterCall) :
    (connectPacket clientId cleanSession timings (callAll Configuration.new calls)).WellFormed := by
  have valid := callAll_willTopicValid (.inl rfl : Configuration.new.WillTopicValid) calls
  obtain ⟨username, password⟩ := connectPacket_login clientId cleanSession timings
    (callAll Configuration.new calls)
  refine ⟨fun will carried => ?_, fun hasPassword => ?_⟩
  · rw [connectPacket_will] at carried
    split at carried
    · cases carried
    · cases carried
      exact valid.resolve_left ‹_›
  · rw [password] at hasPassword
    rw [username]
    cases named : (callAll Configuration.new calls).username
    · simp [named] at hasPassword
    · rfl

end MqttClient
