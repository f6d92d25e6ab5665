import MqttClient.Basic

/-! # Connection configuration

The setters a user calls between connections, each behind
`s_check_connection_state_for_configuration` (the publish handler behind its own check),
and what a failure part-way through a setter leaves behind. -/

namespace MqttClient

/-- `connection->will`: an empty topic means that no will is set. -/
structure Will where
  topic : String
  payload : List UInt8
  qos : Qos
  retain : Bool
  deriving DecidableEq, Repr

/-- `struct aws_mqtt_reconnect_timeouts`, whose fields are all `uint64_t`. -/
structure ReconnectTimeouts where
  currentSec : UInt64
  minSec : UInt64
  maxSec : UInt64
  nextAttemptMs : UInt64
  nextAttemptResetTimerNs : UInt64
  deriving DecidableEq, Repr

/-- The configuration fields of `struct aws_mqtt_client_connection`. A callback or a
user-data pointer is named by its address. -/
structure Configuration where
  will : Will
  username : Option String
  password : Option String
  reconnectTimeouts : ReconnectTimeouts
  onInterrupted : Nat
  onInterruptedUd : Nat
  onResumed : Nat
  onResumedUd : Nat
  onAnyPublish : Nat
  onAnyPublishUd : Nat
  deriving DecidableEq, Repr

/-- Modelled from the spec: `aws_mqtt_is_valid_topic`. A topic name is not empty and
holds no wildcard. -/
def isValidTopic (topic : String) : Bool :=
  !topic.isEmpty && !topic.toList.contains '+' && !topic.toList.contains '#'

/-- The allocation that fails in a setter call, if one does. -/
inductive ConfigurationFailure
  /-- `aws_byte_buf_init_copy` of the will topic. -/
  | willTopicCopy
  /-- `aws_byte_buf_init_copy` of the will payload. -/
  | willPayloadCopy
  /-- `aws_string_new_from_array` of the username. -/
  | usernameCopy
  /-- `aws_string_new_from_array` of the password. -/
  | passwordCopy
  deriving DecidableEq, Repr

namespace Configuration

/-- `s_check_connection_state_for_configuration`. -/
def checkConnectionStateForConfiguration (state : ConnectionState) : Bool :=
  state == .disconnected || state == .connected

/-- The setters that only assign: refused with INVALID_STATE unless the state check
passes. -/
def configure (state : ConnectionState) (configuration : Configuration)
    (assign : Configuration → Configuration) : Configuration × Except ErrorCode Unit :=
  if checkConnectionStateForConfiguration state then (assign configuration, .ok ())
  else (configuration, .error .invalidState)

/-- `aws_mqtt_client_connection_set_will`. -/
def setWill (state : ConnectionState) (configuration : Configuration) (topic : String)
    (qos : Qos) (retain : Bool) (payload : List UInt8) (failure : Option ConfigurationFailure) :
    Configuration × Except ErrorCode Unit :=
  if !checkConnectionStateForConfiguration state then (configuration, .error .invalidState)
  else if !isValidTopic topic then (configuration, .error .invalidTopic)
  else if failure == some .willTopicCopy then (configuration, .error .other)
  else
    let configuration := { configuration with will := { configuration.will with qos, retain } }
    if failure == some .willPayloadCopy then (configuration, .error .other)
    else ({ configuration with will := { configuration.will with topic, payload } }, .ok ())

/-- `aws_mqtt_client_connection_set_login`: a null password clears the old one. -/
def setLogin (state : ConnectionState) (configuration : Configuration) (username : String)
    (password : Option String) (failure : Option ConfigurationFailure) :
    Configuration × Except ErrorCode Unit :=
  if !checkConnectionStateForConfiguration state then (configuration, .error .invalidState)
  else if failure == some .usernameCopy then (configuration, .error .other)
  else if password.isSome && failure == some .passwordCopy then (configuration, .error .other)
  else ({ configuration with username := some username, password }, .ok ())

/-- `aws_mqtt_client_connection_set_reconnect_timeout`: any two bounds are taken. -/
def setReconnectTimeout (state : ConnectionState) (configuration : Configuration)
    (minTimeout maxTimeout : UInt64) : Configuration × Except ErrorCode Unit :=
  configure state configuration fun configuration =>
    { configuration with
      reconnectTimeouts :=
        { configuration.reconnectTimeouts with minSec := minTimeout, maxSec := maxTimeout } }

/-- `aws_mqtt_client_connection_set_connection_interruption_handlers`. -/
def setConnectionInterruptionHandlers (state : ConnectionState) (configuration : Configuration)
    (onInterrupted onInterruptedUd onResumed onResumedUd : Nat) :
    Configuration × Except ErrorCode Unit :=
  configure state configuration fun configuration =>
    { configuration with onInterrupted, onInterruptedUd, onResumed, onResumedUd }

/-- `aws_mqtt_client_connection_set_on_any_publish_handler`: refused only while
CONNECTED, when a publish may arrive at any time. -/
def setOnAnyPublishHandler (state : ConnectionState) (configuration : Configuration)
    (onAnyPublish onAnyPublishUd : Nat) : Configuration × Except ErrorCode Unit :=
  if state = .connected then (configuration, .error .invalidState)
  else ({ configuration with onAnyPublish, onAnyPublishUd }, .ok ())

end Configuration

/-- A call of one of the setters, with its arguments. -/
inductive Setter
  | setWill (topic : String) (qos : Qos) (retain : Bool) (payload : List UInt8)
  | setLogin (username : String) (password : Option String)
  | setReconnectTimeout (minTimeout maxTimeout : UInt64)
  | setConnectionInterruptionHandlers (onInterrupted onInterruptedUd onResumed onResumedUd : Nat)
  | setOnAnyPublishHandler (onAnyPublish onAnyPublishUd : Nat)
  deriving DecidableEq, Repr

namespace Setter

def call (state : ConnectionState) (configuration : Configuration)
    (failure : Option ConfigurationFailure) : Setter → Configuration × Except ErrorCode Unit
  | .setWill topic qos retain payload =>
      configuration.setWill state topic qos retain payload failure
  | .setLogin username password => configuration.setLogin state username password failure
  | .setReconnectTimeout minTimeout maxTimeout =>
      configuration.setReconnectTimeout state minTimeout maxTimeout
  | .setConnectionInterruptionHandlers onInterrupted onInterruptedUd onResumed onResumedUd =>
      configuration.setConnectionInterruptionHandlers state onInterrupted onInterruptedUd
        onResumed onResumedUd
  | .setOnAnyPublishHandler onAnyPublish onAnyPublishUd =>
      configuration.setOnAnyPublishHandler state onAnyPublish onAnyPublishUd

/-- What a setter is for: every field it sets, replaced by its argument. -/
def assign (configuration : Configuration) : Setter → Configuration
  | .setWill topic qos retain payload => { configuration with will := ⟨topic, payload, qos, retain⟩ }
  | .setLogin username password => { configuration with username := some username, password }
  | .setReconnectTimeout minTimeout maxTimeout =>
      { configuration with
        reconnectTimeouts :=
          { configuration.reconnectTimeouts with minSec := minTimeout, maxSec := maxTimeout } }
  | .setConnectionInterruptionHandlers onInterrupted onInterruptedUd onResumed onResumedUd =>
      { configuration with onInterrupted, onInterruptedUd, onResumed, onResumedUd }
  | .setOnAnyPublishHandler onAnyPublish onAnyPublishUd =>
      { configuration with onAnyPublish, onAnyPublishUd }

/-- The errors a setter may raise: INVALID_STATE, INVALID_TOPIC, or a failed
allocation. -/
def Refusal (errorCode : ErrorCode) : Prop :=
  errorCode = .invalidState ∨ errorCode = .invalidTopic ∨ errorCode = .other

/-- A call is atomic when it succeeds having replaced every field it sets, or fails
with one of its errors and leaves the configuration as it was. -/
def Atomic (configuration : Configuration) (setter : Setter) :
    Configuration × Except ErrorCode Unit → Prop
  | (after, .ok ()) => after = setter.assign configuration
  | (after, .error errorCode) => Refusal errorCode ∧ after = configuration

/-! ## Atomicity -/

section Atomicity

variable (state : ConnectionState) (configuration : Configuration)

theorem configure_atomic {setter : Setter} {assign : Configuration → Configuration}
    (assigned : ∀ configuration, setter.assign configuration = assign configuration) :
    Atomic configuration setter (Configuration.configure state configuration assign) := by
  unfold Configuration.configure
  split <;> simp [Atomic, Refusal, assigned]

theorem setLogin_atomic (failure : Option ConfigurationFailure) (username : String)
    (password : Option String) :
    Atomic configuration (.setLogin username password)
      (configuration.setLogin state username password failure) := by
  unfold Configuration.setLogin
  split_ifs <;> simp [Atomic, Refusal, assign]

theorem setOnAnyPublishHandler_atomic (onAnyPublish onAnyPublishUd : Nat) :
    Atomic configuration (.setOnAnyPublishHandler onAnyPublish onAnyPublishUd)
      (configuration.setOnAnyPublishHandler state onAnyPublish onAnyPublishUd) := by
  unfold Configuration.setOnAnyPublishHandler
  split_ifs <;> simp [Atomic, Refusal, assign]

theorem setWill_atomic {failure : Option ConfigurationFailure}
    (payloadCopied : failure ≠ some .willPayloadCopy) (topic : String) (qos : Qos) (retain : Bool)
    (payload : List UInt8) :
    Atomic configuration (.setWill topic qos retain payload)
      (configuration.setWill state topic qos retain payload failure) := by
  unfold Configuration.setWill
  split_ifs with _ _ _ payloadFailed
  all_goals simp_all [Atomic, Refusal, assign]

/-- Every setter call succeeds having replaced every field it sets, or fails with one of
its errors and leaves the configuration as it was, except a `set_will` whose payload copy
fails after the state and topic checks: that one has already written the new QoS and
retain flag. -/
theorem atomic_unless_will_payload_copy_fails (failure : Option ConfigurationFailure)
    (setter : Setter) :
    Atomic configuration setter (setter.call state configuration failure) ∨
      ∃ topic qos retain payload, setter = .setWill topic qos retain payload ∧
        failure = some .willPayloadCopy ∧
        setter.call state configuration failure =
          ({ configuration with will := { configuration.will with qos, retain } }, .error .other) := by
  cases setter with
  | setWill topic qos retain payload =>
      by_cases payloadFailed : failure = some .willPayloadCopy
      · subst payloadFailed
        by_cases configurable : Configuration.checkConnectionStateForConfiguration state
        · by_cases valid : isValidTopic topic
          · exact .inr ⟨topic, qos, retain, payload, rfl, rfl,
              by simp [call, Configuration.setWill, configurable, valid]⟩
          · exact .inl
              (by simp [call, Configuration.setWill, configurable, valid, Atomic, Refusal])
        · exact .inl (by simp [call, Configuration.setWill, configurable, Atomic, Refusal])
      · exact .inl (setWill_atomic state configuration payloadFailed topic qos retain payload)
  | setLogin username password => exact .inl (setLogin_atomic state configuration failure _ _)
  | setReconnectTimeout | setConnectionInterruptionHandlers =>
      exact .inl (configure_atomic state configuration (fun _ => rfl))
  | setOnAnyPublishHandler => exact .inl (setOnAnyPublishHandler_atomic state configuration _ _)

/-- A `set_will` whose payload copy fails returns the error with the new QoS and retain
flag already written over the old will's, so that the call is not atomic as soon as
either differs. -/
theorem set_will_payload_copy_failure_writes_qos_and_retain {topic : String} {qos : Qos}
    {retain : Bool} (payload : List UInt8)
    (configurable : Configuration.checkConnectionStateForConfiguration state)
    (valid : isValidTopic topic)
    (changes : qos ≠ configuration.will.qos ∨ retain ≠ configuration.will.retain) :
    configuration.setWill state topic qos retain payload (some .willPayloadCopy) =
        ({ configuration with will := { configuration.will with qos, retain } }, .error .other) ∧
      ¬ Atomic configuration (.setWill topic qos retain payload)
        ((Setter.setWill topic qos retain payload).call state configuration
          (some .willPayloadCopy)) := by
  have failed : configuration.setWill state topic qos retain payload (some .willPayloadCopy) =
      ({ configuration with will := { configuration.will with qos, retain } }, .error .other) := by
    simp [Configuration.setWill, configurable, valid]
  refine ⟨failed, fun atomic => ?_⟩
  rw [call, failed] at atomic
  obtain ⟨-, kept⟩ := atomic
  rcases changes with changed | changed <;> exact changed (by rw [← kept])

theorem set_will_payload_copy_failure_over_unset_will :
    Configuration.setWill .disconnected
        ⟨⟨"", [], .atMostOnce, false⟩, none, none, ⟨1, 1, 128, 0, 0⟩, 0, 0, 0, 0, 0, 0⟩
        "last/will" .atLeastOnce true [1] (some .willPayloadCopy) =
        (⟨⟨"", [], .atLeastOnce, true⟩, none, none, ⟨1, 1, 128, 0, 0⟩, 0, 0, 0, 0, 0, 0⟩,
          .error .other) ∧
      ¬ Atomic ⟨⟨"", [], .atMostOnce, false⟩, none, none, ⟨1, 1, 128, 0, 0⟩, 0, 0, 0, 0, 0, 0⟩
        (.setWill "last/will" .atLeastOnce true [1])
        ((Setter.setWill "last/will" .atLeastOnce true [1]).call .disconnected
          ⟨⟨"", [], .atMostOnce, false⟩, none, none, ⟨1, 1, 128, 0, 0⟩, 0, 0, 0, 0, 0, 0⟩
          (some .willPayloadCopy)) :=
  set_will_payload_copy_failure_writes_qos_and_retain _ _ [1] rfl rfl (.inl nofun)

end Atomicity

end Setter

end MqttClient
