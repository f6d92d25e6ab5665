import MqttClient.Basic
import Mathlib.Logic.Function.Basic

/-! # Subscriptions

The task topics, the subscription operations with their send and complete functions,
and the topic tree they change. The tree, the filter check and the request engine are
not part of `src/` and are modelled from the spec. -/

namespace MqttClient

/-- `struct aws_mqtt_topic_subscription`, by the fields the client reads back: the
topic filter and its QoS. -/
structure TopicSubscription where
  topic : String
  qos : Qos
  deriving DecidableEq, Repr

/-- `struct subscribe_task_topic`. `createdBy` is not in the code: it records the
request whose call allocated the topic. -/
structure SubscribeTaskTopic where
  /-- The topic's own copy of its filter; the topics of a resubscribe borrow the
  tree's filter and own none. -/
  filter : Option String
  request : TopicSubscription
  isLocal : Bool
  refCount : Nat
  createdBy : Nat
  deriving DecidableEq, Repr

/-- A subscription of the topic tree: its filter, its QoS and its userdata, the task
topic it was inserted with. -/
structure TreeEntry where
  filter : String
  qos : Qos
  userdata : Nat
  deriving DecidableEq, Repr

/-- A change staged in a topic tree transaction. -/
inductive TreeAction
  | insert (entry : TreeEntry)
  | remove (filter : String)
  deriving DecidableEq, Repr

/-- Whether the action is a staged insert holding task topic `taskTopic`. -/
def TreeAction.holds (taskTopic : Nat) : TreeAction → Bool
  | .insert entry => entry.userdata == taskTopic
  | .remove _ => false

/-- The task topic a staged insert holds. -/
def TreeAction.inserted : TreeAction → Option Nat
  | .insert entry => some entry.userdata
  | .remove _ => none

/-- `struct subscribe_task_arg`, shared by subscribe, subscribe_multiple and
resubscribe: its task topics, its SUBSCRIBE packet once initialised (by the topics
added to it), whether its transaction has been committed, and which of the two
`on_suback` callbacks is set. -/
structure SubscribeTaskArg where
  topics : List Nat
  subscribe : Option (List TopicSubscription)
  treeUpdated : Bool
  multi : Bool
  single : Bool
  deriving DecidableEq, Repr

/-- `struct subscribe_local_task_arg`. -/
structure SubscribeLocalTaskArg where
  taskTopic : Nat
  onSuback : Bool
  deriving DecidableEq, Repr

/-- `struct unsubscribe_task_arg`; `unsubscribe` is its UNSUBSCRIBE packet once
initialised, by the filter added to it. -/
structure UnsubscribeTaskArg where
  filter : String
  isLocal : Bool
  unsubscribe : Option String
  treeUpdated : Bool
  onUnsuback : Bool
  deriving DecidableEq, Repr

/-- A request's task argument, tagged by the pair of send and complete functions the
operation registers with `mqtt_create_request`. -/
inductive TaskArg
  /-- `s_subscribe_send` and `s_subscribe_single_complete`. -/
  | subscribe (arg : SubscribeTaskArg)
  /-- `s_subscribe_send` and `s_subscribe_complete`. -/
  | subscribeMultiple (arg : SubscribeTaskArg)
  /-- `s_subscribe_local_send` and `s_subscribe_local_complete`. -/
  | subscribeLocal (arg : SubscribeLocalTaskArg)
  /-- `s_resubscribe_send` and `s_resubscribe_complete`. -/
  | resubscribe (arg : SubscribeTaskArg)
  /-- `s_unsubscribe_send` and `s_unsubscribe_complete`. -/
  | unsubscribe (arg : UnsubscribeTaskArg)
  deriving DecidableEq, Repr

/-- The task topics a task argument lists. -/
def TaskArg.taskTopics : TaskArg → List Nat
  | .subscribe arg | .subscribeMultiple arg | .resubscribe arg => arg.topics
  | .subscribeLocal arg => [arg.taskTopic]
  | .unsubscribe _ => []

def TaskArg.isResubscribe : TaskArg → Bool
  | .resubscribe _ => true
  | _ => false

/-- Modelled from the spec: a request of the engine, by its task argument and whether
it has been written and awaits its acknowledgement (ongoing) or waits to be sent
(pending). -/
structure TrackedRequest where
  taskArg : TaskArg
  ongoing : Bool
  deriving DecidableEq, Repr

/-- The call that fails in a send attempt, if one does. -/
inductive SendFailure
  /-- `aws_array_list_init_dynamic` of resubscribe's topic list. -/
  | topicListInit
  | packetInit
  /-- `aws_mqtt_packet_subscribe_add_topic` or `..._unsubscribe_add_topic`, at the
  topic of that position. -/
  | addTopic (index : Nat)
  /-- `aws_mqtt_topic_tree_transaction_insert` at the topic of that position, or
  `aws_mqtt_topic_tree_insert`. -/
  | treeInsert (index : Nat)
  | treeRemove
  /-- `mqtt_get_message_for_packet`. -/
  | message
  | encode
  /-- `aws_channel_slot_send_message`. -/
  | sendMessage
  /-- `s_schedule_timeout_task`. -/
  | scheduleTimeout
  deriving DecidableEq, Repr

namespace Subscriptions

/-- What the subscribing side lets the peer and the user observe. -/
inductive Event
  /-- A SUBSCRIBE packet handed to the channel. -/
  | subscribePacket (request : Nat) (topics : List TopicSubscription)
  /-- An UNSUBSCRIBE packet handed to the channel. -/
  | unsubscribePacket (request : Nat) (filter : String)
  /-- A call of the request's `on_suback`, single or multi. -/
  | onSuback (request : Nat) (errorCode : ErrorCode)
  | onUnsuback (request : Nat) (errorCode : ErrorCode)
  /-- `s_task_topic_clean_up`, which calls the user's `on_cleanup` and frees the
  topic. -/
  | taskTopicCleanUp (taskTopic : Nat)
  deriving DecidableEq, Repr

end Subscriptions

/-- The task topics, the topic tree with the transaction of the send call in
progress (empty between calls), the requests of the engine, and what has been
observed so far. -/
structure Subscriptions where
  taskTopics : Nat → Option SubscribeTaskTopic
  nextTaskTopic : Nat
  subscriptions : List TreeEntry
  transaction : List TreeAction
  requests : Nat → Option TrackedRequest
  nextRequest : Nat
  log : List Subscriptions.Event

/-- Modelled from the spec: `aws_mqtt_is_valid_topic_filter`. A filter is valid when
it is not empty, a `+` fills a whole level and a `#` fills the last one. -/
def isValidTopicFilter (filter : String) : Bool :=
  let levels := splitLevels filter.toList
  !filter.isEmpty &&
    levels.all (fun level => !level.contains '+' || level == ['+']) &&
    levels.dropLast.all (fun level => !level.contains '#') &&
    (levels.getLast?.all fun level => !level.contains '#' || level == ['#'])
where
  /-- The levels of a filter, split at each `/`. -/
  splitLevels : List Char → List (List Char)
    | [] => [[]]
    | character :: rest =>
        if character = '/' then [] :: splitLevels rest
        else match splitLevels rest with
          | level :: levels => (character :: level) :: levels
          | [] => [[character]]

namespace Subscriptions

def initial : Subscriptions := ⟨fun _ => none, 0, [], [], fun _ => none, 0, []⟩

/-- The task topic at `taskTopic`; the invariant shows that no freed one is read. -/
def topicOf (subscriptions : Subscriptions) (taskTopic : Nat) : SubscribeTaskTopic :=
  (subscriptions.taskTopics taskTopic).getD ⟨none, ⟨"", .atMostOnce⟩, false, 0, 0⟩

def emit (subscriptions : Subscriptions) (event : Event) : Subscriptions :=
  { subscriptions with log := subscriptions.log ++ [event] }

/-! ## Reference counts -/

/-- `aws_ref_count_acquire` of a task topic. -/
def acquire (subscriptions : Subscriptions) (taskTopic : Nat) : Subscriptions :=
  { subscriptions with
    taskTopics := Function.update subscriptions.taskTopics taskTopic
      ((subscriptions.taskTopics taskTopic).map fun topic =>
        { topic with refCount := topic.refCount + 1 }) }

/-- `s_task_topic_release`: `aws_ref_count_release`, whose last reference runs
`s_task_topic_clean_up`, freeing the topic. A freed topic is not touched: the
invariant shows that none is released. -/
def taskTopicRelease (subscriptions : Subscriptions) (taskTopic : Nat) : Subscriptions :=
  match subscriptions.taskTopics taskTopic with
  | none => subscriptions
  | some topic =>
      if topic.refCount = 1 then
        { subscriptions with
          taskTopics := Function.update subscriptions.taskTopics taskTopic none
          log := subscriptions.log ++ [.taskTopicCleanUp taskTopic] }
      else
        { subscriptions with
          taskTopics := Function.update subscriptions.taskTopics taskTopic
            (some { topic with refCount := topic.refCount - 1 }) }

/-- Releases each task topic of the list, in order. -/
def releaseAll (subscriptions : Subscriptions) (taskTopics : List Nat) : Subscriptions :=
  taskTopics.foldl taskTopicRelease subscriptions

/-! ## The topic tree -/

/-- Modelled from the spec: puts `added` in the place of the subscriptions on
`filter`, releasing the task topic of each subscription it drops. -/
def replaceSubscriptions (subscriptions : Subscriptions) (filter : String)
    (added : List TreeEntry) : Subscriptions :=
  ({ subscriptions with
      subscriptions :=
        subscriptions.subscriptions.filter (fun entry : TreeEntry => entry.filter != filter) ++ added }).releaseAll
    ((subscriptions.subscriptions.filter fun entry : TreeEntry => entry.filter == filter).map
      TreeEntry.userdata)

/-- Modelled from the spec: one committed action; an insert replaces the
subscription on its filter, a remove deletes it. -/
def applyAction (subscriptions : Subscriptions) : TreeAction → Subscriptions
  | .insert entry => subscriptions.replaceSubscriptions entry.filter [entry]
  | .remove filter => subscriptions.replaceSubscriptions filter []

/-- Modelled from the spec: commits the given staged actions, in order, each leaving
the transaction as it is read. -/
def commitActions : List TreeAction → Subscriptions → Subscriptions
  | [], subscriptions => subscriptions
  | action :: rest, subscriptions =>
      commitActions rest (({ subscriptions with transaction := rest }).applyAction action)

/-- Modelled from the spec: `aws_mqtt_topic_tree_transaction_commit`. -/
def transactionCommit (subscriptions : Subscriptions) : Subscriptions :=
  commitActions subscriptions.transaction subscriptions

/-- Modelled from the spec: `aws_mqtt_topic_tree_transaction_roll_back` drops the
staged actions and releases the task topic of each staged insert. -/
def transactionRollBack (subscriptions : Subscriptions) : Subscriptions :=
  ({ subscriptions with transaction := [] }).releaseAll
    (subscriptions.transaction.filterMap TreeAction.inserted)

/-- Modelled from the spec: `aws_mqtt_topic_tree_transaction_insert`. -/
def transactionInsert (subscriptions : Subscriptions) (entry : TreeEntry) : Subscriptions :=
  { subscriptions with transaction := subscriptions.transaction ++ [.insert entry] }

/-- Modelled from the spec: `aws_mqtt_topic_tree_transaction_remove` stages the
removal and returns the userdata of the subscription on the filter, if any. -/
def transactionRemove (subscriptions : Subscriptions) (filter : String) :
    Subscriptions × Option Nat :=
  ({ subscriptions with transaction := subscriptions.transaction ++ [.remove filter] },
    (subscriptions.subscriptions.find? fun entry : TreeEntry => entry.filter == filter).map
      TreeEntry.userdata)

/-- Modelled from the spec: `aws_mqtt_topic_tree_insert`, a transaction of one
insert, committed at once. -/
def topicTreeInsert (subscriptions : Subscriptions) (entry : TreeEntry) : Subscriptions :=
  subscriptions.applyAction (.insert entry)

/-- Modelled from the spec: `aws_mqtt_topic_tree_clean_up` releases every
subscription. -/
def topicTreeCleanUp (subscriptions : Subscriptions) : Subscriptions :=
  ({ subscriptions with subscriptions := [] }).releaseAll
    (subscriptions.subscriptions.map TreeEntry.userdata)

/-- Modelled from the spec: `aws_mqtt_topic_tree_get_sub_count`. -/
def getSubCount (subscriptions : Subscriptions) : Nat := subscriptions.subscriptions.length

/-! ## Requests -/

/-- Allocates a task topic, returning its name. -/
def allocateTaskTopic (subscriptions : Subscriptions) (topic : SubscribeTaskTopic) :
    Subscriptions × Nat :=
  ({ subscriptions with
      taskTopics := Function.update subscriptions.taskTopics subscriptions.nextTaskTopic
        (some topic)
      nextTaskTopic := subscriptions.nextTaskTopic + 1 },
    subscriptions.nextTaskTopic)

/-- Modelled from the spec: `mqtt_create_request` files a pending request. -/
def mqttCreateRequest (subscriptions : Subscriptions) (taskArg : TaskArg) : Subscriptions :=
  { subscriptions with
    requests := Function.update subscriptions.requests subscriptions.nextRequest
      (some ⟨taskArg, false⟩)
    nextRequest := subscriptions.nextRequest + 1 }

/-- `aws_mqtt_client_connection_subscribe` on a valid filter, past its allocations:
a task topic with one reference that owns its filter, in a task argument whose
`on_suback.single` is the user's. -/
def connectionSubscribe (subscriptions : Subscriptions) (filter : String) (qos : Qos)
    (onSuback : Bool) : Subscriptions :=
  if isValidTopicFilter filter then
    let (subscriptions, taskTopic) := subscriptions.allocateTaskTopic
      ⟨some filter, ⟨filter, qos⟩, false, 1, subscriptions.nextRequest⟩
    subscriptions.mqttCreateRequest (.subscribe ⟨[taskTopic], none, false, false, onSuback⟩)
  else subscriptions

/-- The loop of `aws_mqtt_client_connection_subscribe_multiple` that allocates a task
topic per requested subscription. -/
def allocateTaskTopics (request : Nat) :
    List TopicSubscription → Subscriptions × List Nat → Subscriptions × List Nat
  | [], done => done
  | topic :: rest, (subscriptions, taskTopics) =>
      let (subscriptions, taskTopic) := subscriptions.allocateTaskTopic
        ⟨some topic.topic, topic, false, 1, request⟩
      allocateTaskTopics request rest (subscriptions, taskTopics ++ [taskTopic])

/-- `aws_mqtt_client_connection_subscribe_multiple`: every filter valid, a task topic
per subscription in a task argument whose `on_suback.multi` is the user's; one
invalid filter, and what was allocated is freed. -/
def connectionSubscribeMultiple (subscriptions : Subscriptions)
    (topics : List TopicSubscription) (onSuback : Bool) : Subscriptions :=
  if topics.all fun topic => isValidTopicFilter topic.topic then
    let (subscriptions, taskTopics) :=
      allocateTaskTopics subscriptions.nextRequest topics (subscriptions, [])
    subscriptions.mqttCreateRequest
      (.subscribeMultiple ⟨taskTopics, none, false, onSuback, false⟩)
  else subscriptions

/-- `aws_mqtt_client_connection_subscribe_local` on a valid filter: a local task topic
(its QoS left at zero by `aws_mem_calloc`) with one reference. -/
def connectionSubscribeLocal (subscriptions : Subscriptions) (filter : String)
    (onSuback : Bool) : Subscriptions :=
  if isValidTopicFilter filter then
    let (subscriptions, taskTopic) := subscriptions.allocateTaskTopic
      ⟨some filter, ⟨filter, .atMostOnce⟩, true, 1, subscriptions.nextRequest⟩
    subscriptions.mqttCreateRequest (.subscribeLocal ⟨taskTopic, onSuback⟩)
  else subscriptions

/-- `aws_mqtt_client_connection_unsubscribe` on a valid filter. -/
def connectionUnsubscribe (subscriptions : Subscriptions) (filter : String)
    (onUnsuback : Bool) : Subscriptions :=
  if isValidTopicFilter filter then
    subscriptions.mqttCreateRequest (.unsubscribe ⟨filter, false, none, false, onUnsuback⟩)
  else subscriptions

/-- `aws_mqtt_resubscribe_existing_topics`: a zeroed task argument whose
`on_suback.multi` is the user's. -/
def resubscribeExistingTopics (subscriptions : Subscriptions) (onSuback : Bool) :
    Subscriptions :=
  subscriptions.mqttCreateRequest (.resubscribe ⟨[], none, false, onSuback, false⟩)

/-! ## Send functions -/

/-- The `handle_error` label of `s_subscribe_send` and `s_unsubscribe_send`: until the
tree has been updated, the staged actions are rolled back. -/
def handleError (subscriptions : Subscriptions) (treeUpdated : Bool) : Subscriptions :=
  if treeUpdated then { subscriptions with transaction := [] }
  else subscriptions.transactionRollBack

/-- The loop of `s_subscribe_send` from the topic at `index`: on a fresh packet each
topic is added to it, and until the tree is updated each is staged for insertion and
acquired. The first call that fails ends it, with the state to roll back. -/
def subscribeTopics (failure : Option SendFailure) (initingPacket treeUpdated : Bool) :
    Nat → List Nat → Subscriptions × List TopicSubscription →
      Except Subscriptions (Subscriptions × List TopicSubscription)
  | _, [], done => .ok done
  | index, taskTopic :: rest, (subscriptions, packet) =>
      let topic := subscriptions.topicOf taskTopic
      if initingPacket && failure == some (.addTopic index) then .error subscriptions
      else
        let packet := if initingPacket then packet ++ [topic.request] else packet
        if treeUpdated then
          subscribeTopics failure initingPacket treeUpdated (index + 1) rest
            (subscriptions, packet)
        else if failure == some (.treeInsert index) then .error subscriptions
        else
          subscribeTopics failure initingPacket treeUpdated (index + 1) rest
            (((subscriptions.transactionInsert
                ⟨topic.filter.getD "", topic.request.qos, taskTopic⟩).acquire taskTopic),
              packet)

/-- `s_subscribe_send`. -/
def subscribeSend (subscriptions : Subscriptions) (request : Nat) (arg : SubscribeTaskArg)
    (failure : Option SendFailure) : Subscriptions × SubscribeTaskArg × RequestState :=
  let initingPacket := arg.subscribe.isNone
  if initingPacket && failure == some .packetInit then (subscriptions, arg, .error)
  else
    let arg := if initingPacket then { arg with subscribe := some [] } else arg
    if arg.topics.isEmpty then (subscriptions, arg, .error)
    else
      match subscribeTopics failure initingPacket arg.treeUpdated 0 arg.topics
          (subscriptions, arg.subscribe.getD []) with
      | .error subscriptions => (subscriptions.handleError arg.treeUpdated, arg, .error)
      | .ok (subscriptions, packet) =>
          let arg := { arg with subscribe := some packet }
          if failure == some .message || failure == some .encode then
            (subscriptions.handleError arg.treeUpdated, arg, .error)
          else
            let subscriptions := if failure == some .sendMessage then subscriptions
              else subscriptions.emit (.subscribePacket request packet)
            if arg.treeUpdated then ({ subscriptions with transaction := [] }, arg, .ongoing)
            else (subscriptions.transactionCommit, { arg with treeUpdated := true }, .ongoing)

/-- `s_subscribe_local_send`: a direct insert, then a reference for the tree. -/
def subscribeLocalSend (subscriptions : Subscriptions) (arg : SubscribeLocalTaskArg)
    (failure : Option SendFailure) : Subscriptions × RequestState :=
  let topic := subscriptions.topicOf arg.taskTopic
  if failure == some (.treeInsert 0) then (subscriptions, .error)
  else
    ((subscriptions.topicTreeInsert
        ⟨topic.filter.getD "", topic.request.qos, arg.taskTopic⟩).acquire arg.taskTopic,
      .complete)

/-- `s_reconnect_resub_iterator` over the subscriptions of the tree: per
subscription a task topic with one reference that borrows the subscription's filter,
pushed on the list. -/
def reconnectResubIterator (request : Nat) :
    List TreeEntry → Subscriptions × List Nat → Subscriptions × List Nat
  | [], done => done
  | entry :: rest, (subscriptions, topics) =>
      let (subscriptions, taskTopic) := subscriptions.allocateTaskTopic
        ⟨none, ⟨entry.filter, entry.qos⟩, false, 1, request⟩
      reconnectResubIterator request rest (subscriptions, topics ++ [taskTopic])

/-- Whether an `add_topic` call fails among the first `count`. -/
def SendFailure.addsTopicBelow (count : Nat) : Option SendFailure → Bool
  | some (.addTopic index) => index < count
  | _ => false

/-- `s_resubscribe_send`. Each call starts a new topic list, and a resend keeps the
packet of the first attempt. -/
def resubscribeSend (subscriptions : Subscriptions) (request : Nat) (arg : SubscribeTaskArg)
    (failure : Option SendFailure) : Subscriptions × SubscribeTaskArg × RequestState :=
  let initingPacket := arg.subscribe.isNone
  let arg := { arg with topics := [] }
  if failure == some .topicListInit then (subscriptions, arg, .error)
  else if subscriptions.getSubCount = 0 then (subscriptions, arg, .complete)
  else
    let (subscriptions, topics) :=
      reconnectResubIterator request subscriptions.subscriptions (subscriptions, [])
    let arg := { arg with topics := topics }
    if initingPacket && failure == some .packetInit then (subscriptions, arg, .error)
    else if initingPacket && topics.isEmpty then (subscriptions, arg, .error)
    else if initingPacket && SendFailure.addsTopicBelow topics.length failure then
      (subscriptions, { arg with subscribe := some [] }, .error)
    else
      let packet := if initingPacket then topics.map fun taskTopic =>
          (subscriptions.topicOf taskTopic).request
        else arg.subscribe.getD []
      let arg := { arg with subscribe := some packet }
      if failure == some .message || failure == some .encode then (subscriptions, arg, .error)
      else if failure == some .sendMessage then (subscriptions, arg, .ongoing)
      else (subscriptions.emit (.subscribePacket request packet), arg, .ongoing)

/-- `s_unsubscribe_send`. A filter whose subscription was local needs no packet; a
timeout that cannot be scheduled ends the call with the transaction neither committed
nor rolled back. -/
def unsubscribeSend (subscriptions : Subscriptions) (request : Nat) (arg : UnsubscribeTaskArg)
    (failure : Option SendFailure) : Subscriptions × UnsubscribeTaskArg × RequestState :=
  let staged : Option (Subscriptions × UnsubscribeTaskArg) :=
    if arg.treeUpdated then some (subscriptions, arg)
    else if failure == some .treeRemove then none
    else
      let (subscriptions, topic) := subscriptions.transactionRemove arg.filter
      some (subscriptions,
        { arg with isLocal := (topic.bind subscriptions.taskTopics).any (·.isLocal) })
  match staged with
  | none => (subscriptions.handleError arg.treeUpdated, arg, .error)
  | some (subscriptions, arg) =>
      let finish (subscriptions : Subscriptions) (arg : UnsubscribeTaskArg) :
          Subscriptions × UnsubscribeTaskArg × RequestState :=
        let result := if arg.isLocal then RequestState.complete else .ongoing
        if arg.treeUpdated then ({ subscriptions with transaction := [] }, arg, result)
        else (subscriptions.transactionCommit, { arg with treeUpdated := true }, result)
      if arg.isLocal then finish subscriptions arg
      else
        let initingPacket := arg.unsubscribe.isNone
        if initingPacket && (failure == some .packetInit || failure == some (.addTopic 0)) then
          (subscriptions.handleError arg.treeUpdated, arg, .error)
        else
          let arg := { arg with unsubscribe := some (arg.unsubscribe.getD arg.filter) }
          if failure == some .message || failure == some .encode ||
              failure == some .sendMessage then
            (subscriptions.handleError arg.treeUpdated, arg, .error)
          else
            let subscriptions := subscriptions.emit (.unsubscribePacket request arg.filter)
            if failure == some .scheduleTimeout then
              ({ subscriptions with transaction := [] }, arg, .error)
            else finish subscriptions arg

/-! ## Complete functions -/

/-- `s_subscribe_complete`: the multi callback if set, else the single one, then a
release of every task topic. -/
def subscribeComplete (subscriptions : Subscriptions) (request : Nat) (arg : SubscribeTaskArg)
    (errorCode : ErrorCode) : Subscriptions :=
  let subscriptions := if arg.multi || arg.single then
      subscriptions.emit (.onSuback request errorCode)
    else subscriptions
  subscriptions.releaseAll arg.topics

/-- `s_subscribe_single_complete`: the single callback if set, then a release of the
first task topic. -/
def subscribeSingleComplete (subscriptions : Subscriptions) (request : Nat)
    (arg : SubscribeTaskArg) (errorCode : ErrorCode) : Subscriptions :=
  let subscriptions := if arg.single then subscriptions.emit (.onSuback request errorCode)
    else subscriptions
  subscriptions.releaseAll (arg.topics.take 1)

/-- `s_subscribe_local_complete`. -/
def subscribeLocalComplete (subscriptions : Subscriptions) (request : Nat)
    (arg : SubscribeLocalTaskArg) (errorCode : ErrorCode) : Subscriptions :=
  let subscriptions := if arg.onSuback then subscriptions.emit (.onSuback request errorCode)
    else subscriptions
  subscriptions.taskTopicRelease arg.taskTopic

/-- `s_resubscribe_complete`: an empty topic list jumps over both callbacks to the
clean up. -/
def resubscribeComplete (subscriptions : Subscriptions) (request : Nat)
    (arg : SubscribeTaskArg) (errorCode : ErrorCode) : Subscriptions :=
  let subscriptions := if arg.topics.isEmpty then subscriptions
    else if arg.multi || arg.single then subscriptions.emit (.onSuback request errorCode)
    else subscriptions
  subscriptions.releaseAll arg.topics

/-- The list `s_resubscribe_complete` builds for `on_suback.multi`, whose head it gives
`on_suback.single`: the subscription that each task topic of the argument asks for. -/
def resubscribeCompleteTopics (subscriptions : Subscriptions) (arg : SubscribeTaskArg) :
    List TopicSubscription :=
  arg.topics.map fun taskTopic => (subscriptions.topicOf taskTopic).request

/-- `s_unsubscribe_complete`, apart from the timeout link (see `Timeouts`). -/
def unsubscribeComplete (subscriptions : Subscriptions) (request : Nat)
    (arg : UnsubscribeTaskArg) (errorCode : ErrorCode) : Subscriptions :=
  if arg.onUnsuback then subscriptions.emit (.onUnsuback request errorCode) else subscriptions

/-! ## The engine -/

/-- The send function a task argument was registered with. -/
def send (subscriptions : Subscriptions) (request : Nat) (failure : Option SendFailure) :
    TaskArg → Subscriptions × TaskArg × RequestState
  | .subscribe arg =>
      let sent := subscriptions.subscribeSend request arg failure
      (sent.1, .subscribe sent.2.1, sent.2.2)
  | .subscribeMultiple arg =>
      let sent := subscriptions.subscribeSend request arg failure
      (sent.1, .subscribeMultiple sent.2.1, sent.2.2)
  | .subscribeLocal arg =>
      let sent := subscriptions.subscribeLocalSend arg failure
      (sent.1, .subscribeLocal arg, sent.2)
  | .resubscribe arg =>
      let sent := subscriptions.resubscribeSend request arg failure
      (sent.1, .resubscribe sent.2.1, sent.2.2)
  | .unsubscribe arg =>
      let sent := subscriptions.unsubscribeSend request arg failure
      (sent.1, .unsubscribe sent.2.1, sent.2.2)

/-- The complete function a task argument was registered with. -/
def complete (subscriptions : Subscriptions) (request : Nat) (errorCode : ErrorCode) :
    TaskArg → Subscriptions
  | .subscribe arg => subscriptions.subscribeSingleComplete request arg errorCode
  | .subscribeMultiple arg => subscriptions.subscribeComplete request arg errorCode
  | .subscribeLocal arg => subscriptions.subscribeLocalComplete request arg errorCode
  | .resubscribe arg => subscriptions.resubscribeComplete request arg errorCode
  | .unsubscribe arg => subscriptions.unsubscribeComplete request arg errorCode

/-- Modelled from the spec: the engine removes a request before it completes it. -/
def finishRequest (subscriptions : Subscriptions) (request : Nat) (taskArg : TaskArg)
    (errorCode : ErrorCode) : Subscriptions :=
  ({ subscriptions with
      requests := Function.update subscriptions.requests request none }).complete
    request errorCode taskArg

/-- Modelled from the spec: one send attempt. An ongoing request waits for its
acknowledgement; one that reports COMPLETE completes with success, one that reports
ERROR with the error raised. -/
def sendRequest (subscriptions : Subscriptions) (request : Nat) (taskArg : TaskArg)
    (failure : Option SendFailure) : Subscriptions :=
  let sent := subscriptions.send request failure taskArg
  match sent.2.2 with
  | .ongoing => { sent.1 with
      requests := Function.update sent.1.requests request (some ⟨sent.2.1, true⟩) }
  | .complete => sent.1.finishRequest request sent.2.1 .success
  | .error => sent.1.finishRequest request sent.2.1 .other

/-- What can happen to the subscribing side. -/
inductive Action
  | subscribe (filter : String) (qos : Qos) (onSuback : Bool)
  | subscribeMultiple (topics : List TopicSubscription) (onSuback : Bool)
  | subscribeLocal (filter : String) (onSuback : Bool)
  | unsubscribe (filter : String) (onUnsuback : Bool)
  | resubscribeExistingTopics (onSuback : Bool)
  /-- A send attempt of a pending request, first or after a reconnection. -/
  | send (request : Nat) (failure : Option SendFailure)
  /-- The end of a request by any other route: an acknowledgement, a timeout, a
  clean-session cancellation, destruction. -/
  | complete (request : Nat) (errorCode : ErrorCode)
  /-- A lost channel whose session survives puts an ongoing request back to pending. -/
  | requeue (request : Nat)
  /-- `s_mqtt_client_connection_destroy_final` cleans up the topic tree. -/
  | destroy
  deriving DecidableEq, Repr

def step (subscriptions : Subscriptions) : Action → Option Subscriptions
  | .subscribe filter qos onSuback =>
      some (subscriptions.connectionSubscribe filter qos onSuback)
  | .subscribeMultiple topics onSuback =>
      some (subscriptions.connectionSubscribeMultiple topics onSuback)
  | .subscribeLocal filter onSuback =>
      some (subscriptions.connectionSubscribeLocal filter onSuback)
  | .unsubscribe filter onUnsuback =>
      some (subscriptions.connectionUnsubscribe filter onUnsuback)
  | .resubscribeExistingTopics onSuback =>
      some (subscriptions.resubscribeExistingTopics onSuback)
  | .send request failure => (subscriptions.requests request).bind fun tracked =>
      if tracked.ongoing then none
      else some (subscriptions.sendRequest request tracked.taskArg failure)
  | .complete request errorCode => (subscriptions.requests request).map fun tracked =>
      subscriptions.finishRequest request tracked.taskArg errorCode
  | .requeue request => (subscriptions.requests request).bind fun tracked =>
      if tracked.ongoing then
        some { subscriptions with
          requests := Function.update subscriptions.requests request
            (some { tracked with ongoing := false }) }
      else none
  | .destroy => some subscriptions.topicTreeCleanUp

def run (subscriptions : Subscriptions) : List Action → Option Subscriptions
  | [] => some subscriptions
  | action :: actions => (subscriptions.step action).bind fun next => next.run actions

end Subscriptions

end MqttClient
