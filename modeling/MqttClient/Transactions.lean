import MqttClient.Unsubscribe

/-! # The topic tree transaction of a SUBSCRIBE

What one attempt of `s_subscribe_send` does with its transaction, and what the attempts
of one request do to the tree. -/

namespace MqttClient

namespace Subscriptions

theorem subscribeTopics_frame (failure : Option SendFailure) (initingPacket treeUpdated : Bool) :
    ∀ (index : Nat) (taskTopics : List Nat) (subscriptions : Subscriptions)
      (packet : List TopicSubscription),
      ∃ staged : Subscriptions, staged.subscriptions = subscriptions.subscriptions ∧
        staged.log = subscriptions.log ∧
        (subscribeTopics failure initingPacket treeUpdated index taskTopics
            (subscriptions, packet) = .error staged ∨
          ∃ packet', subscribeTopics failure initingPacket treeUpdated index taskTopics
            (subscriptions, packet) = .ok (staged, packet'))
  | _, [], subscriptions, packet => ⟨subscriptions, rfl, rfl, .inr ⟨packet, rfl⟩⟩
  | index, taskTopic :: rest, subscriptions, packet => by
      rw [subscribeTopics]
      dsimp only
      by_cases unadded : (initingPacket && failure == some (.addTopic index)) = true
      · rw [if_pos unadded]
        exact ⟨subscriptions, rfl, rfl, .inl rfl⟩
      by_cases updated : treeUpdated = true
      · rw [if_neg unadded, if_pos updated]
        exact subscribeTopics_frame failure initingPacket treeUpdated (index + 1) rest
          subscriptions _
      by_cases uninserted : (failure == some (.treeInsert index)) = true
      · rw [if_neg unadded, if_neg updated, if_pos uninserted]
        exact ⟨subscriptions, rfl, rfl, .inl rfl⟩
      · rw [if_neg unadded, if_neg updated, if_neg uninserted]
        exact subscribeTopics_frame failure initingPacket treeUpdated (index + 1) rest
          ((subscriptions.transactionInsert _).acquire taskTopic) _

/-- Everything `s_subscribe_send` can do. It fails before its transaction exists and
leaves the state as it is; or it fails after the loop and hands what the loop staged
to `handle_error:`; or it hands the packet to the channel, which may refuse it, and
closes the transaction, by a commit unless the tree is already updated. What the loop
staged has the tree and the log of the state the attempt started from. -/
theorem subscribeSend_cases (subscriptions : Subscriptions) (request : Nat)
    (arg : SubscribeTaskArg) (failure : Option SendFailure) :
    ∃ (staged : Subscriptions) (sending : SubscribeTaskArg),
      staged.subscriptions = subscriptions.subscriptions ∧ staged.log = subscriptions.log ∧
      sending.treeUpdated = arg.treeUpdated ∧
      (subscriptions.subscribeSend request arg failure = (subscriptions, sending, .error) ∨
        subscriptions.subscribeSend request arg failure =
          (staged.handleError arg.treeUpdated, sending, .error) ∨
        ∃ packet, sending.subscribe = some packet ∧
          subscriptions.subscribeSend request arg failure =
            if arg.treeUpdated then
              ({ (if failure = some .sendMessage then staged
                  else staged.emit (.subscribePacket request packet)) with transaction := [] },
                sending, .ongoing)
            else
              ((if failure = some .sendMessage then staged
                  else staged.emit (.subscribePacket request packet)).transactionCommit,
                { sending with treeUpdated := true }, .ongoing)) := by
  unfold subscribeSend
  dsimp only
  by_cases packetInit : (arg.subscribe.isNone && failure == some .packetInit) = true
  · rw [if_pos packetInit]
    exact ⟨subscriptions, arg, rfl, rfl, rfl, .inl rfl⟩
  rw [if_neg packetInit]
  have flag : (if arg.subscribe.isNone = true then { arg with subscribe := some [] }
      else arg).treeUpdated = arg.treeUpdated := by split <;> rfl
  generalize (if arg.subscribe.isNone = true then { arg with subscribe := some [] }
      else arg) = sending at flag ⊢
  generalize arg.subscribe.isNone = initingPacket
  by_cases empty : sending.topics.isEmpty = true
  · rw [if_pos empty]
    exact ⟨subscriptions, sending, rfl, rfl, flag, .inl rfl⟩
  rw [if_neg empty]
  obtain ⟨staged, tree, logged, ended⟩ := subscribeTopics_frame failure initingPacket
    sending.treeUpdated 0 sending.topics subscriptions (sending.subscribe.getD [])
  rcases ended with ended | ⟨packet, ended⟩ <;> rw [ended] <;> dsimp only
  · exact ⟨staged, sending, tree, logged, flag, .inr (.inl (by rw [flag]))⟩
  by_cases unsent : (failure == some .message || failure == some .encode) = true
  · rw [if_pos unsent]
    exact ⟨staged, { sending with subscribe := some packet }, tree, logged, flag,
      .inr (.inl (by rw [flag]))⟩
  rw [if_neg unsent]
  refine ⟨staged, { sending with subscribe := some packet }, tree, logged, flag,
    .inr (.inr ⟨packet, rfl, ?_⟩)⟩
  simp only [flag, beq_iff_eq]

/-- What the loop of `s_subscribe_send` stages on a first send for `taskTopics`: an
insert of each into the transaction, and a reference acquired for it. -/
def stageInserts : Subscriptions → List Nat → Subscriptions
  | subscriptions, [] => subscriptions
  | subscriptions, taskTopic :: rest =>
      let topic := subscriptions.topicOf taskTopic
      stageInserts ((subscriptions.transactionInsert
        ⟨topic.filter.getD "", topic.request.qos, taskTopic⟩).acquire taskTopic) rest

/-- On a first send the loop stages the inserts of the topics before the one that fails,
or, when none fails, of them all. -/
theorem subscribeTopics_stages (failure : Option SendFailure) (initingPacket : Bool) :
    ∀ (index : Nat) (taskTopics : List Nat) (subscriptions : Subscriptions)
      (packet : List TopicSubscription),
      (∃ count ≤ taskTopics.length, subscribeTopics failure initingPacket false index taskTopics
          (subscriptions, packet) = .error (subscriptions.stageInserts (taskTopics.take count))) ∨
        ∃ packet', subscribeTopics failure initingPacket false index taskTopics
          (subscriptions, packet) = .ok (subscriptions.stageInserts taskTopics, packet')
  | _, [], _, packet => .inr ⟨packet, rfl⟩
  | index, _ :: rest, _, _ => by
      rw [subscribeTopics]
      dsimp only
      by_cases unadded : (initingPacket && failure == some (.addTopic index)) = true
      · rw [if_pos unadded]
        exact .inl ⟨0, Nat.zero_le _, rfl⟩
      rw [if_neg unadded, if_neg Bool.false_ne_true]
      by_cases uninserted : (failure == some (.treeInsert index)) = true
      · rw [if_pos uninserted]
        exact .inl ⟨0, Nat.zero_le _, rfl⟩
      rw [if_neg uninserted]
      rcases subscribeTopics_stages failure initingPacket (index + 1) rest _ _ with
        ⟨count, within, failed⟩ | ⟨packet', done⟩
      · exact .inl ⟨count + 1, Nat.succ_le_succ within, failed⟩
      · exact .inr ⟨packet', done⟩

@[simp] theorem handleError_subscriptions (subscriptions : Subscriptions) (treeUpdated : Bool) :
    (subscriptions.handleError treeUpdated).subscriptions = subscriptions.subscriptions := by
  cases treeUpdated <;> simp [handleError, transactionRollBack]

theorem transactionRollBack_of_closed {subscriptions : Subscriptions}
    (closed : subscriptions.transaction = []) :
    subscriptions.transactionRollBack = subscriptions := by
  cases subscriptions
  simp_all [transactionRollBack]

/-! ## One attempt -/

/-- A first attempt of `s_subscribe_send`, called as the engine calls it with no
transaction open, applies exactly one of the two ends to what its loop staged. Either it
reports ERROR, leaves the tree not updated and ends where the roll back of the inserts
staged before the failure ends, with no SUBSCRIBE logged before the roll back; or it
reports ONGOING, marks the tree updated and ends where the commit of the inserts of all
its topics ends, after handing its packet to the channel unless the channel refused it. -/
theorem subscribe_send_commits_or_rolls_back (subscriptions : Subscriptions) (request : Nat)
    (arg : SubscribeTaskArg) (failure : Option SendFailure)
    (closed : subscriptions.transaction = []) (fresh : arg.treeUpdated = false) :
    (∃ count ≤ arg.topics.length,
        (subscriptions.subscribeSend request arg failure).2.2 = .error ∧
        (subscriptions.subscribeSend request arg failure).2.1.treeUpdated = false ∧
        (subscriptions.subscribeSend request arg failure).1 =
          (subscriptions.stageInserts (arg.topics.take count)).transactionRollBack) ∨
      (subscriptions.subscribeSend request arg failure).2.2 = .ongoing ∧
        (subscriptions.subscribeSend request arg failure).2.1.treeUpdated = true ∧
        ∃ packet,
          (subscriptions.subscribeSend request arg failure).2.1.subscribe = some packet ∧
          (subscriptions.subscribeSend request arg failure).1 =
            (if failure = some .sendMessage then subscriptions.stageInserts arg.topics
              else (subscriptions.stageInserts arg.topics).emit
                (.subscribePacket request packet)).transactionCommit := by
  have unstaged :
      subscriptions = (subscriptions.stageInserts (arg.topics.take 0)).transactionRollBack :=
    (transactionRollBack_of_closed closed).symm
  unfold subscribeSend
  dsimp only
  by_cases packetInit : (arg.subscribe.isNone && failure == some .packetInit) = true
  · rw [if_pos packetInit]
    exact .inl ⟨0, Nat.zero_le _, rfl, fresh, unstaged⟩
  rw [if_neg packetInit]
  have kept : (if arg.subscribe.isNone = true then { arg with subscribe := some [] }
      else arg).topics = arg.topics ∧ (if arg.subscribe.isNone = true then
        { arg with subscribe := some [] } else arg).treeUpdated = false := by
    split <;> exact ⟨rfl, fresh⟩
  generalize (if arg.subscribe.isNone = true then { arg with subscribe := some [] }
      else arg) = sending at kept ⊢
  obtain ⟨topics, flag⟩ := kept
  by_cases empty : sending.topics.isEmpty = true
  · rw [if_pos empty]
    exact .inl ⟨0, Nat.zero_le _, rfl, flag, unstaged⟩
  rw [if_neg empty, flag, topics]
  rcases subscribeTopics_stages failure arg.subscribe.isNone 0 arg.topics subscriptions
    (sending.subscribe.getD []) with ⟨count, within, failed⟩ | ⟨packet, staged⟩
  · rw [failed]
    exact .inl ⟨count, within, rfl, flag, rfl⟩
  rw [staged]
  dsimp only
  by_cases unsent : (failure == some .message || failure == some .encode) = true
  · rw [if_pos unsent]
    exact .inl ⟨arg.topics.length, le_refl _, rfl, rfl, by rw [List.take_length]; rfl⟩
  rw [if_neg unsent]
  exact .inr ⟨rfl, rfl, packet, rfl, by simp only [beq_iff_eq]; rfl⟩

theorem subscribe_send_commits_first_subscribe :
    (initial.connectionSubscribe "a" .atLeastOnce false).transaction = [] ∧
      (⟨[0], none, false, false, false⟩ : SubscribeTaskArg).treeUpdated = false ∧
      ((∃ count ≤ (⟨[0], none, false, false, false⟩ : SubscribeTaskArg).topics.length,
          ((initial.connectionSubscribe "a" .atLeastOnce false).subscribeSend 0
            ⟨[0], none, false, false, false⟩ none).2.2 = .error ∧
          ((initial.connectionSubscribe "a" .atLeastOnce false).subscribeSend 0
            ⟨[0], none, false, false, false⟩ none).2.1.treeUpdated = false ∧
          ((initial.connectionSubscribe "a" .atLeastOnce false).subscribeSend 0
              ⟨[0], none, false, false, false⟩ none).1 =
            ((initial.connectionSubscribe "a" .atLeastOnce false).stageInserts
              ((⟨[0], none, false, false, false⟩ : SubscribeTaskArg).topics.take
                count)).transactionRollBack) ∨
        ((initial.connectionSubscribe "a" .atLeastOnce false).subscribeSend 0
            ⟨[0], none, false, false, false⟩ none).2.2 = .ongoing ∧
          ((initial.connectionSubscribe "a" .atLeastOnce false).subscribeSend 0
            ⟨[0], none, false, false, false⟩ none).2.1.treeUpdated = true ∧
          ∃ packet, ((initial.connectionSubscribe "a" .atLeastOnce false).subscribeSend 0
              ⟨[0], none, false, false, false⟩ none).2.1.subscribe = some packet ∧
            ((initial.connectionSubscribe "a" .atLeastOnce false).subscribeSend 0
                ⟨[0], none, false, false, false⟩ none).1 =
              (if (none : Option SendFailure) = some .sendMessage then
                  (initial.connectionSubscribe "a" .atLeastOnce false).stageInserts
                    (⟨[0], none, false, false, false⟩ : SubscribeTaskArg).topics
                else ((initial.connectionSubscribe "a" .atLeastOnce false).stageInserts
                    (⟨[0], none, false, false, false⟩ : SubscribeTaskArg).topics).emit
                  (.subscribePacket 0 packet)).transactionCommit) :=
  ⟨by decide, rfl,
    subscribe_send_commits_or_rolls_back (initial.connectionSubscribe "a" .atLeastOnce false) 0
      ⟨[0], none, false, false, false⟩ none (by decide) rfl⟩

theorem subscribeSend_of_treeUpdated (subscriptions : Subscriptions) (request : Nat)
    {arg : SubscribeTaskArg} (failure : Option SendFailure) (updated : arg.treeUpdated = true) :
    (subscriptions.subscribeSend request arg failure).1.subscriptions =
        subscriptions.subscriptions ∧
      (subscriptions.subscribeSend request arg failure).2.1.treeUpdated = true := by
  obtain ⟨staged, sending, tree, -, flag, early | failed | ⟨packet, -, sent⟩⟩ :=
    subscribeSend_cases subscriptions request arg failure
  · rw [early]
    exact ⟨rfl, flag.trans updated⟩
  · rw [failed]
    exact ⟨(handleError_subscriptions _ _).trans tree, flag.trans updated⟩
  · rw [sent, if_pos updated]
    exact ⟨by split <;> exact tree, flag.trans updated⟩

theorem subscribeSend_subscriptions_of_not_updated (subscriptions : Subscriptions)
    (request : Nat) (arg : SubscribeTaskArg) (failure : Option SendFailure)
    (kept : (subscriptions.subscribeSend request arg failure).2.1.treeUpdated = false) :
    (subscriptions.subscribeSend request arg failure).1.subscriptions =
      subscriptions.subscriptions := by
  obtain ⟨staged, sending, tree, -, flag, early | failed | ⟨packet, -, sent⟩⟩ :=
    subscribeSend_cases subscriptions request arg failure
  · rw [early]
  · rw [failed]
    exact (handleError_subscriptions _ _).trans tree
  · rw [sent] at kept
    cases updated : arg.treeUpdated <;> simp [updated, flag] at kept

/-! ## The attempts of one request -/

/-- Modelled from the spec: the attempts the engine makes of one SUBSCRIBE request, each
from the state it finds (other requests may have run since the attempt before) and with
the task argument the attempt before left, for as long as an attempt leaves the request
ONGOING. Each is paired with the state it started from. -/
def subscribeAttempts (request : Nat) :
    SubscribeTaskArg → List (Subscriptions × Option SendFailure) →
      List (Subscriptions × Subscriptions)
  | _, [] => []
  | arg, (subscriptions, failure) :: rest =>
      let sent := subscriptions.subscribeSend request arg failure
      (subscriptions, sent.1) ::
        if sent.2.2 = .ongoing then subscribeAttempts request sent.2.1 rest else []

/-- Whether an attempt changed the topic tree. -/
def ChangesTree (attempt : Subscriptions × Subscriptions) : Bool :=
  attempt.2.subscriptions != attempt.1.subscriptions

theorem countP_subscribeAttempts_of_treeUpdated (request : Nat) :
    ∀ (attempts : List (Subscriptions × Option SendFailure)) {arg : SubscribeTaskArg},
      arg.treeUpdated = true → (subscribeAttempts request arg attempts).countP ChangesTree = 0
  | [], _, _ => rfl
  | (subscriptions, failure) :: rest, arg, updated => by
      obtain ⟨tree, flag⟩ := subscribeSend_of_treeUpdated subscriptions request failure updated
      have unchanged : ChangesTree
          (subscriptions, (subscriptions.subscribeSend request arg failure).1) = false := by
        simp [ChangesTree, tree]
      simp only [subscribeAttempts, List.countP_cons, unchanged, Bool.false_eq_true, if_false,
        Nat.add_zero]
      split
      · exact countP_subscribeAttempts_of_treeUpdated request rest flag
      · rfl

/-- However the engine interleaves other requests with its attempts, and whatever fails
in each, a SUBSCRIBE request changes the topic tree at most once. -/
theorem subscribe_request_changes_tree_at_most_once (request : Nat) (arg : SubscribeTaskArg)
    (attempts : List (Subscriptions × Option SendFailure)) :
    (subscribeAttempts request arg attempts).countP ChangesTree ≤ 1 := by
  induction attempts generalizing arg with
  | nil => exact Nat.zero_le 1
  | cons attempt rest induction =>
      obtain ⟨subscriptions, failure⟩ := attempt
      rw [subscribeAttempts, List.countP_cons]
      split
      · by_cases changed :
            ChangesTree (subscriptions, (subscriptions.subscribeSend request arg failure).1)
        · have updated : (subscriptions.subscribeSend request arg failure).2.1.treeUpdated =
              true := by
            by_contra kept
            simp [ChangesTree, subscribeSend_subscriptions_of_not_updated subscriptions request
              arg failure (Bool.eq_false_iff.mpr kept)] at changed
          rw [if_pos changed, countP_subscribeAttempts_of_treeUpdated request rest updated]
        · rw [if_neg changed]
          exact induction _
      · rw [List.countP_nil, Nat.zero_add]
        split <;> decide

end Subscriptions

end MqttClient
