import MqttClient.SubscriptionCounts

/-! # Resubscribe

What one request of `aws_mqtt_resubscribe_existing_topics` does from any state: which
filters reach the broker, and when `on_suback` runs. -/

namespace MqttClient

namespace Subscriptions

/-! ## The iterator -/

theorem reconnectResubIterator_eq (request : Nat) :
    ∀ (entries : List TreeEntry) (subscriptions : Subscriptions) (topics : List Nat),
      (reconnectResubIterator request entries (subscriptions, topics)).1 =
        { subscriptions with
          taskTopics := (reconnectResubIterator request entries (subscriptions, topics)).1.taskTopics
          nextTaskTopic :=
            (reconnectResubIterator request entries (subscriptions, topics)).1.nextTaskTopic }
  | [], _, _ => rfl
  | _ :: rest, _, _ => by
      rw [Subscriptions.reconnectResubIterator, reconnectResubIterator_eq request rest]
      rfl

theorem reconnectResubIterator_requests (request : Nat) :
    ∀ (entries : List TreeEntry) (subscriptions : Subscriptions) (topics : List Nat),
      (∀ taskTopic ∈ topics, taskTopic < subscriptions.nextTaskTopic) →
      let resubscribed := reconnectResubIterator request entries (subscriptions, topics)
      resubscribed.2.map (fun taskTopic => (resubscribed.1.topicOf taskTopic).request) =
        topics.map (fun taskTopic => (subscriptions.topicOf taskTopic).request) ++
          entries.map fun entry => ⟨entry.filter, entry.qos⟩
  | [], _, _, _ => by simp [Subscriptions.reconnectResubIterator]
  | entry :: rest, subscriptions, topics, below => by
      have pushed : ∀ taskTopic ∈ topics ++ [subscriptions.nextTaskTopic],
          taskTopic < subscriptions.nextTaskTopic + 1 := by
        intro taskTopic member
        rcases List.mem_append.mp member with old | new
        · exact Nat.lt_succ_of_lt (below taskTopic old)
        · simp at new
          omega
      dsimp only
      rw [Subscriptions.reconnectResubIterator]
      refine (reconnectResubIterator_requests request rest _ _ pushed).trans ?_
      simp only [allocateTaskTopic, topicOf, List.map_append, List.map_cons, List.map_nil,
        Function.update_same, Option.getD_some, List.append_assoc, List.singleton_append]
      congr 1
      refine List.map_congr_left fun taskTopic member => ?_
      rw [Function.update_noteq (below taskTopic member).ne]

/-! ## What reaches the broker -/

theorem resubscribeSend_of_first (subscriptions : Subscriptions) (request : Nat)
    {arg : SubscribeTaskArg} (first : arg.subscribe = none)
    (nonempty : subscriptions.subscriptions ≠ []) :
    subscriptions.resubscribeSend request arg none =
      ((reconnectResubIterator request subscriptions.subscriptions (subscriptions, [])).1.emit
          (.subscribePacket request
            (subscriptions.subscriptions.map fun entry => ⟨entry.filter, entry.qos⟩)),
        { arg with
          topics := (reconnectResubIterator request subscriptions.subscriptions (subscriptions, [])).2
          subscribe := some (subscriptions.subscriptions.map fun entry => ⟨entry.filter, entry.qos⟩) },
        .ongoing) := by
  have packet := reconnectResubIterator_requests request subscriptions.subscriptions
    subscriptions [] nofun
  rcases found : reconnectResubIterator request subscriptions.subscriptions (subscriptions, [])
    with ⟨after, topics⟩
  rw [found] at packet
  dsimp only at packet
  rw [Subscriptions.resubscribeSend, found]
  have listed : topics ≠ [] := by
    rintro rfl
    simp only [List.map_nil, List.nil_append] at packet
    exact nonempty (List.map_eq_nil_iff.mp packet.symm)
  simp [first, getSubCount, nonempty, SendFailure.addsTopicBelow, listed, packet]

/-- A resubscribe's first send, when nothing fails, puts every subscription of the tree
into its SUBSCRIBE packet, in the tree's order, whoever inserted it: the local ones of
`subscribe_local` included. -/
theorem resubscribe_sends_every_subscription (subscriptions : Subscriptions)
    (nonempty : subscriptions.subscriptions ≠ []) (onSuback : Bool) :
    ∃ final, subscriptions.run [.resubscribeExistingTopics onSuback,
        .send subscriptions.nextRequest none] = some final ∧
      final.log = subscriptions.log ++ [.subscribePacket subscriptions.nextRequest
        (subscriptions.subscriptions.map fun entry => ⟨entry.filter, entry.qos⟩)] := by
  have filed : (subscriptions.resubscribeExistingTopics onSuback).requests
      subscriptions.nextRequest = some ⟨.resubscribe ⟨[], none, false, onSuback, false⟩, false⟩ := by
    simp [resubscribeExistingTopics, mqttCreateRequest]
  have sent := @resubscribeSend_of_first (subscriptions.resubscribeExistingTopics onSuback)
    subscriptions.nextRequest ⟨[], none, false, onSuback, false⟩ rfl nonempty
  simp only [Subscriptions.run, Subscriptions.step, filed, Option.some_bind, Bool.false_eq_true,
    if_false, Option.some.injEq, exists_eq_left', sendRequest, Subscriptions.send, sent]
  rw [reconnectResubIterator_eq]
  rfl

theorem resubscribe_sends_every_subscription_of_one :
    [(⟨"a/b", .atLeastOnce, 0⟩ : TreeEntry)] ≠ [] ∧
      ∃ final, ({ initial with subscriptions := [⟨"a/b", .atLeastOnce, 0⟩] } : Subscriptions).run
          [.resubscribeExistingTopics true, .send 0 none] = some final ∧
        final.log = [] ++ [.subscribePacket 0 ([(⟨"a/b", .atLeastOnce, 0⟩ : TreeEntry)].map
          fun entry => ⟨entry.filter, entry.qos⟩)] :=
  ⟨by decide, resubscribe_sends_every_subscription
    { initial with subscriptions := [⟨"a/b", .atLeastOnce, 0⟩] } (by decide) true⟩

/-- `subscribe_local` of "a", then a resubscribe: its SUBSCRIBE carries "a", which the
tree holds only through the local subscription. -/
theorem resubscribe_sends_local_filter :
    (initial.run [.subscribeLocal "a" true, .send 0 none, .resubscribeExistingTopics true,
        .send 1 none]).map (fun final =>
          (final.subscriptions, (final.taskTopics 0).map SubscribeTaskTopic.isLocal, final.log)) =
      some ([⟨"a", .atMostOnce, 0⟩], some true,
        [.onSuback 0 .success, .subscribePacket 1 [⟨"a", .atMostOnce⟩]]) := by
  rfl

/-! ## When `on_suback` runs -/

theorem resubscribeSend_of_no_topics (subscriptions : Subscriptions) (request : Nat)
    (arg : SubscribeTaskArg) {failure : Option SendFailure}
    (noTopics : failure = some .topicListInit ∨ subscriptions.subscriptions = []) :
    ∃ result, result ≠ .ongoing ∧ subscriptions.resubscribeSend request arg failure =
      (subscriptions, { arg with topics := [] }, result) := by
  by_cases listInit : failure = some .topicListInit
  · subst listInit
    exact ⟨.error, nofun, by simp [resubscribeSend]⟩
  · have empty := noTopics.resolve_left listInit
    exact ⟨.complete, nofun, by simp [resubscribeSend, listInit, getSubCount, empty]⟩

/-- A resubscribe that finds the tree empty, or cannot start its topic list, completes
at its first send without calling `on_suback`: the request is gone and the log is as
it was. -/
theorem resubscribe_without_topics_skips_on_suback (subscriptions : Subscriptions)
    {failure : Option SendFailure}
    (noTopics : failure = some .topicListInit ∨ subscriptions.subscriptions = [])
    (onSuback : Bool) :
    ∃ final, subscriptions.run [.resubscribeExistingTopics onSuback,
        .send subscriptions.nextRequest failure] = some final ∧
      final.requests subscriptions.nextRequest = none ∧ final.log = subscriptions.log := by
  have filed : (subscriptions.resubscribeExistingTopics onSuback).requests
      subscriptions.nextRequest = some ⟨.resubscribe ⟨[], none, false, onSuback, false⟩, false⟩ := by
    simp [resubscribeExistingTopics, mqttCreateRequest]
  obtain ⟨result, notOngoing, sent⟩ := resubscribeSend_of_no_topics
    (subscriptions.resubscribeExistingTopics onSuback) subscriptions.nextRequest
    ⟨[], none, false, onSuback, false⟩ noTopics
  simp only [Subscriptions.run, Subscriptions.step, filed, Option.some_bind, Bool.false_eq_true,
    if_false, Option.some.injEq, exists_eq_left', sendRequest, Subscriptions.send, sent]
  cases result
  · exact absurd rfl notOngoing
  all_goals exact ⟨by simp [finishRequest, Subscriptions.complete, resubscribeComplete],
    rfl⟩

theorem resubscribe_without_topics_skips_on_suback_initially :
    (none = some SendFailure.topicListInit ∨ initial.subscriptions = []) ∧
      ∃ final, initial.run [.resubscribeExistingTopics true, .send initial.nextRequest none] =
          some final ∧
        final.requests initial.nextRequest = none ∧ final.log = initial.log :=
  ⟨.inr rfl, resubscribe_without_topics_skips_on_suback initial (.inr rfl) true⟩

/-- A resubscribe on a connection whose tree is empty: the request completes and the log
holds no `on_suback`. -/
theorem resubscribe_on_empty_tree_never_calls_on_suback :
    (initial.run [.resubscribeExistingTopics true, .send 0 none]).map (fun final =>
      (final.requests 0, final.log)) = some (none, []) := by
  rfl

/-! ## Resends -/

/-- A resend of a resubscribe, when nothing fails and the tree is not empty: a new topic
list from the tree as it is now, and the SUBSCRIBE of the first attempt again. The
topics of the previous list are dropped from the argument as they are, unreleased. -/
theorem resubscribeSend_of_resend (subscriptions : Subscriptions) (request : Nat)
    {arg : SubscribeTaskArg} {packet : List TopicSubscription}
    (resent : arg.subscribe = some packet) (nonempty : subscriptions.subscriptions ≠ []) :
    subscriptions.resubscribeSend request arg none =
      ((reconnectResubIterator request subscriptions.subscriptions (subscriptions, [])).1.emit
          (.subscribePacket request packet),
        { arg with topics :=
            (reconnectResubIterator request subscriptions.subscriptions (subscriptions, [])).2 },
        .ongoing) := by
  rcases found : reconnectResubIterator request subscriptions.subscriptions (subscriptions, [])
    with ⟨after, topics⟩
  rw [Subscriptions.resubscribeSend, found]
  simp [resent, getSubCount, nonempty]

/-- Whatever became of the tree since the first attempt, a resend that goes through puts
the first attempt's SUBSCRIBE on the wire again, while the topic list it leaves for
`s_resubscribe_complete`, and so for `on_suback`, asks for the subscriptions of the tree
as it is now. -/
theorem resubscribe_resend_keeps_packet_and_rebuilds_topics (subscriptions : Subscriptions)
    (request : Nat) {arg : SubscribeTaskArg} {packet : List TopicSubscription}
    (resent : arg.subscribe = some packet) (nonempty : subscriptions.subscriptions ≠ []) :
    (subscriptions.resubscribeSend request arg none).1.log =
        subscriptions.log ++ [.subscribePacket request packet] ∧
      (subscriptions.resubscribeSend request arg none).1.resubscribeCompleteTopics
          (subscriptions.resubscribeSend request arg none).2.1 =
        subscriptions.subscriptions.map fun entry => ⟨entry.filter, entry.qos⟩ := by
  have listed := reconnectResubIterator_requests request subscriptions.subscriptions
    subscriptions [] nofun
  rw [resubscribeSend_of_resend subscriptions request resent nonempty]
  rcases found : reconnectResubIterator request subscriptions.subscriptions (subscriptions, [])
    with ⟨after, topics⟩
  rw [found] at listed
  have logged : after.log = subscriptions.log := by
    have kept := reconnectResubIterator_eq request subscriptions.subscriptions subscriptions []
    rw [found] at kept
    exact (congrArg Subscriptions.log kept).trans rfl
  exact ⟨by simp [emit, logged],
    by simpa [resubscribeCompleteTopics, topicOf, emit] using listed⟩

theorem resubscribe_resend_keeps_packet_after_b_subscribed :
    (⟨[], some [⟨"a", .atLeastOnce⟩], false, true, false⟩ : SubscribeTaskArg).subscribe =
        some [⟨"a", .atLeastOnce⟩] ∧
      [(⟨"a", .atLeastOnce, 0⟩ : TreeEntry), ⟨"b", .atLeastOnce, 2⟩] ≠ [] ∧
      (({ initial with subscriptions := [⟨"a", .atLeastOnce, 0⟩, ⟨"b", .atLeastOnce, 2⟩] } :
          Subscriptions).resubscribeSend 1 ⟨[], some [⟨"a", .atLeastOnce⟩], false, true, false⟩
          none).1.log = [] ++ [.subscribePacket 1 [⟨"a", .atLeastOnce⟩]] ∧
      (({ initial with subscriptions := [⟨"a", .atLeastOnce, 0⟩, ⟨"b", .atLeastOnce, 2⟩] } :
          Subscriptions).resubscribeSend 1 ⟨[], some [⟨"a", .atLeastOnce⟩], false, true, false⟩
          none).1.resubscribeCompleteTopics
        (({ initial with subscriptions := [⟨"a", .atLeastOnce, 0⟩, ⟨"b", .atLeastOnce, 2⟩] } :
          Subscriptions).resubscribeSend 1 ⟨[], some [⟨"a", .atLeastOnce⟩], false, true, false⟩
          none).2.1 =
        [(⟨"a", .atLeastOnce, 0⟩ : TreeEntry), ⟨"b", .atLeastOnce, 2⟩].map
          fun entry => ⟨entry.filter, entry.qos⟩ :=
  ⟨rfl, by decide, resubscribe_resend_keeps_packet_and_rebuilds_topics
    { initial with subscriptions := [⟨"a", .atLeastOnce, 0⟩, ⟨"b", .atLeastOnce, 2⟩] } 1 rfl
    (by decide)⟩

/-- A resubscribe is sent on "a", the connection drops with its session kept, "b" is
subscribed, and the resubscribe is resent: the resend puts the SUBSCRIBE of the first
attempt, for "a" alone, on the wire again, while the topic list that
`s_resubscribe_complete` will hand `on_suback` asks for "a" and "b". When the SUBACK
comes, the two topics of the resend are released, and the topic of the first attempt
(task topic 1) never is. -/
theorem resubscribe_resend_reports_unsent_topic :
    ∃ resent final,
      initial.run [.subscribe "a" .atLeastOnce false, .send 0 none, .complete 0 .success,
          .resubscribeExistingTopics true, .send 1 none, .requeue 1,
          .subscribe "b" .atLeastOnce false, .send 2 none, .complete 2 .success,
          .send 1 none] = some resent ∧
      resent.run [.complete 1 .success] = some final ∧
      (resent.requests 1).map TrackedRequest.taskArg =
        some (.resubscribe ⟨[3, 4], some [⟨"a", .atLeastOnce⟩], false, true, false⟩) ∧
      resent.resubscribeCompleteTopics ⟨[3, 4], some [⟨"a", .atLeastOnce⟩], false, true, false⟩ =
        [⟨"a", .atLeastOnce⟩, ⟨"b", .atLeastOnce⟩] ∧
      resent.log = [.subscribePacket 0 [⟨"a", .atLeastOnce⟩], .subscribePacket 1 [⟨"a", .atLeastOnce⟩],
        .subscribePacket 2 [⟨"b", .atLeastOnce⟩], .subscribePacket 1 [⟨"a", .atLeastOnce⟩]] ∧
      final.log = resent.log ++ [.onSuback 1 .success, .taskTopicCleanUp 3, .taskTopicCleanUp 4] ∧
      (final.taskTopics 1).map SubscribeTaskTopic.refCount = some 1 :=
  ⟨_, _, rfl, rfl, by decide, by decide, by decide, by decide, by decide⟩

end Subscriptions

end MqttClient
