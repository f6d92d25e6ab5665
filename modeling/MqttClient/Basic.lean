import Mathlib.Data.List.Nodup
import Mathlib.Data.List.Perm.Basic

/-! # Shared vocabulary of the MQTT client

The enumerations of `client.c` that more than one component reads. -/

namespace MqttClient

/-- `enum aws_mqtt_client_connection_state`. -/
inductive ConnectionState
  | connecting
  | connected
  | reconnecting
  | disconnecting
  | disconnected
  deriving DecidableEq, Repr

/-- `enum aws_mqtt_client_request_state`: what a send function reports. -/
inductive RequestState
  | ongoing
  | complete
  | error
  deriving DecidableEq, Repr

/-- `enum aws_mqtt_qos`. -/
inductive Qos
  | atMostOnce
  | atLeastOnce
  | exactlyOnce
  deriving DecidableEq, Repr

/-- The error codes the client passes to its callbacks or returns. `other`
stands for whatever a collaborator (allocator, channel, TLS, encoder) raised:
the client only forwards it through `aws_last_error()`. -/
inductive ErrorCode
  | success
  | alreadyConnected
  | notConnected
  | invalidState
  | invalidTopic
  | timeout
  | unexpectedHangup
  | cancelledForCleanSession
  | connectionDestroyed
  | other
  deriving DecidableEq, Repr

end MqttClient
