import MqttClient.Basic
import MqttClient.Requests
import MqttClient.Connection
import MqttClient.Callbacks
import MqttClient.Lifecycle
import MqttClient.RequestRuns
import MqttClient.Timeouts
import MqttClient.Subscriptions
import MqttClient.SubscriptionCounts
import MqttClient.Resubscribe
import MqttClient.Unsubscribe
import MqttClient.Configuration
import MqttClient.Reconnect
import MqttClient.Publish
import MqttClient.Transactions
import MqttClient.KeepAlive
import MqttClient.ConnectPacket
import MqttClient.PingRuns
