import MqttClient.SubscriptionCounts

/-! # Unsubscribe

What a request of `s_unsubscribe_send` does from any state, a local filter included,
and what becomes of the removal when the timeout cannot be scheduled. -/

namespace MqttClient

namespace Subscriptions

/-! ## Releasing and committing -/

theorem releaseAll_log : ∀ (taskTopics : List Nat) (subscriptions : Subscriptions),
    ∃ cleanUps : List Event, (∀ event ∈ cleanUps, ∃ taskTopic, event = .taskTopicCleanUp taskTopic) ∧
      (subscriptions.releaseAll taskTopics).log = subscriptions.log ++ cleanUps
  | [], _ => ⟨[], nofun, by simp⟩
  | released :: rest, subscriptions => by
      obtain ⟨later, cleaned, logged⟩ := releaseAll_log rest (subscriptions.taskTopicRelease released)
      rw [releaseAll_cons, logged]
      rcases Option.eq_none_or_eq_some (subscriptions.taskTopics released) with gone | ⟨topic, live⟩
      · rw [taskTopicRelease_of_none gone]
        exact ⟨later, cleaned, rfl⟩
      by_cases last : topic.refCount = 1
      · rw [taskTopicRelease_of_last live last]
        refine ⟨.taskTopicCleanUp released :: later, ?_, by simp⟩
        rintro event (_ | ⟨_, member⟩)
        · exact ⟨released, rfl⟩
        · exact cleaned event member
      · rw [taskTopicRelease_of_shared live last]
        exact ⟨later, cleaned, rfl⟩

theorem transactionCommit_remove (subscriptions : Subscriptions) (filter : String)
    (staged : subscriptions.transaction = [.remove filter]) :
    ∃ cleanUps : List Event, (∀ event ∈ cleanUps, ∃ taskTopic, event = .taskTopicCleanUp taskTopic) ∧
      subscriptions.transactionCommit.log = subscriptions.log ++ cleanUps ∧
      subscriptions.transactionCommit.subscriptions =
        subscriptions.subscriptions.filter (fun entry : TreeEntry => entry.filter != filter) := by
  obtain ⟨cleanUps, cleaned, logged⟩ := releaseAll_log
    ((subscriptions.subscriptions.filter fun entry : TreeEntry => entry.filter == filter).map
      TreeEntry.userdata)
    { subscriptions with
      subscriptions :=
        subscriptions.subscriptions.filter (fun entry : TreeEntry => entry.filter != filter) ++ []
      transaction := [] }
  refine ⟨cleanUps, cleaned, ?_⟩
  simp only [transactionCommit, staged, commitActions, Subscriptions.applyAction,
    replaceSubscriptions]
  exact ⟨logged, by simp⟩

/-! ## A local filter -/

theorem unsubscribeSend_of_local (subscriptions : Subscriptions) (request : Nat)
    (arg : UnsubscribeTaskArg) {failure : Option SendFailure} {entry : TreeEntry}
    {topic : SubscribeTaskTopic} (fresh : arg.treeUpdated = false)
    (removable : failure ≠ some .treeRemove)
    (found : subscriptions.subscriptions.find? (fun entry : TreeEntry => entry.filter == arg.filter) =
      some entry)
    (live : subscriptions.taskTopics entry.userdata = some topic) (isLocal : topic.isLocal) :
    subscriptions.unsubscribeSend request arg failure =
      (({ subscriptions with
          transaction := subscriptions.transaction ++ [TreeAction.remove arg.filter] }).transactionCommit,
        { arg with isLocal := true, treeUpdated := true }, .complete) := by
  have removed : (failure == some .treeRemove) = false := by simpa using removable
  simp [unsubscribeSend, transactionRemove, fresh, removed, found, live, isLocal]

/-- Unsubscribing a filter that a local subscription put in the tree hands no UNSUBSCRIBE
to the channel: the request is done after its first send, the filter has left the tree,
and all that happens besides the clean ups of the released topics is a successful
`on_unsuback`. -/
theorem unsubscribe_of_local_filter_sends_no_packet (subscriptions : Subscriptions)
    {filter : String} {entry : TreeEntry} {topic : SubscribeTaskTopic}
    (closed : subscriptions.transaction = []) (valid : isValidTopicFilter filter)
    (found : subscriptions.subscriptions.find? (fun entry : TreeEntry => entry.filter == filter) =
      some entry)
    (live : subscriptions.taskTopics entry.userdata = some topic) (isLocal : topic.isLocal)
    (onUnsuback : Bool) {failure : Option SendFailure} (removable : failure ≠ some .treeRemove) :
    ∃ final, subscriptions.run [.unsubscribe filter onUnsuback,
        .send subscriptions.nextRequest failure] = some final ∧
      final.requests subscriptions.nextRequest = none ∧
      (∀ entry ∈ final.subscriptions, entry.filter ≠ filter) ∧
      ∃ cleanUps : List Event, (∀ event ∈ cleanUps, ∃ taskTopic, event = .taskTopicCleanUp taskTopic) ∧
        final.log = subscriptions.log ++ cleanUps ++
          if onUnsuback then [.onUnsuback subscriptions.nextRequest .success] else [] := by
  set created := subscriptions.mqttCreateRequest
    (.unsubscribe ⟨filter, false, none, false, onUnsuback⟩)
  have unsubscribed : subscriptions.connectionUnsubscribe filter onUnsuback = created := by
    simp [connectionUnsubscribe, valid, created]
  have filed : created.requests subscriptions.nextRequest =
      some ⟨.unsubscribe ⟨filter, false, none, false, onUnsuback⟩, false⟩ := by
    simp [created, mqttCreateRequest]
  have sent := unsubscribeSend_of_local created subscriptions.nextRequest
    ⟨filter, false, none, false, onUnsuback⟩ rfl removable found live isLocal
  obtain ⟨cleanUps, cleaned, logged, dropped⟩ := transactionCommit_remove
    { created with transaction := created.transaction ++ [TreeAction.remove filter] } filter
    (by simp [created, mqttCreateRequest, closed])
  simp only [Subscriptions.run, Subscriptions.step, unsubscribed, filed, Option.some_bind,
    Bool.false_eq_true, if_false, Option.some.injEq, exists_eq_left', sendRequest,
    Subscriptions.send, sent]
  generalize ({ created with
    transaction := created.transaction ++ [TreeAction.remove filter] }).transactionCommit = after
    at logged dropped ⊢
  refine ⟨?requestDone, ?filterGone, cleanUps, cleaned, ?logged⟩
  all_goals cases onUnsuback <;>
    simp [finishRequest, Subscriptions.complete, unsubscribeComplete, emit, dropped, logged,
      created, mqttCreateRequest]

theorem unsubscribe_of_local_filter_after_subscribe_local :
    ∃ final, Subscriptions.run
        { initial with
          taskTopics := fun taskTopic =>
            if taskTopic = 0 then some ⟨some "a", ⟨"a", .atMostOnce⟩, true, 1, 0⟩ else none
          nextTaskTopic := 1
          subscriptions := [⟨"a", .atMostOnce, 0⟩]
          nextRequest := 1 }
        [.unsubscribe "a" true, .send 1 none] = some final ∧
      final.requests 1 = none ∧ (∀ entry ∈ final.subscriptions, entry.filter ≠ "a") ∧
      ∃ cleanUps : List Event, (∀ event ∈ cleanUps, ∃ taskTopic, event = .taskTopicCleanUp taskTopic) ∧
        final.log = [] ++ cleanUps ++ if true then [.onUnsuback 1 .success] else [] :=
  unsubscribe_of_local_filter_sends_no_packet _ (by rfl) (by rfl) (by rfl) (by rfl) (by rfl) true
    nofun

/-! ## A timeout that cannot be scheduled -/

/-- A first send of an UNSUBSCRIBE for a filter that no local subscription holds,
when only `s_schedule_timeout_task` fails: the packet is handed to the channel, then
the call returns ERROR straight away. Its removal is neither committed nor rolled
back: the transaction is dropped with the tree as it was, and `tree_updated` stays
false. -/
theorem unsubscribe_timeout_failure_returns_error_after_packet (subscriptions : Subscriptions)
    (request : Nat) {arg : UnsubscribeTaskArg} (fresh : arg.treeUpdated = false)
    (remote : ((((subscriptions.subscriptions.find? fun entry : TreeEntry =>
        entry.filter == arg.filter).map TreeEntry.userdata).bind subscriptions.taskTopics).any
          (·.isLocal)) = false) :
    subscriptions.unsubscribeSend request arg (some .scheduleTimeout) =
      ({ subscriptions.emit (.unsubscribePacket request arg.filter) with transaction := [] },
        { arg with isLocal := false, unsubscribe := some (arg.unsubscribe.getD arg.filter) },
        .error) := by
  simp [unsubscribeSend, transactionRemove, fresh, remote, emit]

theorem unsubscribe_timeout_failure_after_subscribe :
    (⟨"a", false, none, false, true⟩ : UnsubscribeTaskArg).treeUpdated = false ∧
      (((([⟨"a", .atLeastOnce, 0⟩] : List TreeEntry).find? fun entry : TreeEntry =>
          entry.filter == "a").map TreeEntry.userdata).bind
            (fun taskTopic => if taskTopic = 0 then
              some (⟨some "a", ⟨"a", .atLeastOnce⟩, false, 1, 0⟩ : SubscribeTaskTopic) else none)).any
        (·.isLocal) = false ∧
      ({ initial with
          taskTopics := fun taskTopic => if taskTopic = 0 then
            some ⟨some "a", ⟨"a", .atLeastOnce⟩, false, 1, 0⟩ else none
          nextTaskTopic := 1
          subscriptions := [⟨"a", .atLeastOnce, 0⟩]
          nextRequest := 2 } : Subscriptions).unsubscribeSend 1 ⟨"a", false, none, false, true⟩
          (some .scheduleTimeout) =
        ({ ({ initial with
              taskTopics := fun taskTopic => if taskTopic = 0 then
                some ⟨some "a", ⟨"a", .atLeastOnce⟩, false, 1, 0⟩ else none
              nextTaskTopic := 1
              subscriptions := [⟨"a", .atLeastOnce, 0⟩]
              nextRequest := 2 } : Subscriptions).emit (.unsubscribePacket 1 "a") with
            transaction := [] },
          { (⟨"a", false, none, false, true⟩ : UnsubscribeTaskArg) with
            isLocal := false, unsubscribe := some ((none : Option String).getD "a") },
          .error) :=
  ⟨rfl, rfl, unsubscribe_timeout_failure_returns_error_after_packet _ 1 rfl rfl⟩

end Subscriptions

end MqttClient
