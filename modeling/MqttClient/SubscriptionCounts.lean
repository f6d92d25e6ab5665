import MqttClient.Subscriptions
import Mathlib.Data.List.Nodup

/-! # Reference counts of the task topics

The count of a task topic is always its request's reference plus the tree's, so
`s_task_topic_clean_up` runs once, when both are done with it. Inside a call the
releases still owed are kept in a list. -/

namespace MqttClient

namespace Subscriptions

/-- The references the topic tree holds to a task topic: the committed subscriptions
and the staged inserts whose userdata it is. -/
def held (subscriptions : Subscriptions) (taskTopic : Nat) : Nat :=
  subscriptions.subscriptions.countP (fun entry => entry.userdata == taskTopic) +
    subscriptions.transaction.countP (TreeAction.holds taskTopic)

/-- The reference a topic's creating request holds while the request is live. -/
def creatorReference (subscriptions : Subscriptions) (topic : SubscribeTaskTopic) : Nat :=
  if (subscriptions.requests topic.createdBy).isSome then 1 else 0

/-! ## What a release does -/

section Release

variable {subscriptions : Subscriptions} {taskTopic : Nat} {topic : SubscribeTaskTopic}

theorem taskTopicRelease_of_none (gone : subscriptions.taskTopics taskTopic = none) :
    subscriptions.taskTopicRelease taskTopic = subscriptions := by
  simp [taskTopicRelease, gone]

theorem taskTopicRelease_of_last (live : subscriptions.taskTopics taskTopic = some topic)
    (last : topic.refCount = 1) :
    subscriptions.taskTopicRelease taskTopic =
      { subscriptions with
        taskTopics := Function.update subscriptions.taskTopics taskTopic none
        log := subscriptions.log ++ [.taskTopicCleanUp taskTopic] } := by
  simp [taskTopicRelease, live, last]

theorem taskTopicRelease_of_shared (live : subscriptions.taskTopics taskTopic = some topic)
    (shared : topic.refCount ≠ 1) :
    subscriptions.taskTopicRelease taskTopic =
      { subscriptions with
        taskTopics := Function.update subscriptions.taskTopics taskTopic
          (some { topic with refCount := topic.refCount - 1 }) } := by
  simp [taskTopicRelease, live, shared]

theorem taskTopicRelease_eq (subscriptions : Subscriptions) (taskTopic : Nat) :
    subscriptions.taskTopicRelease taskTopic =
      { subscriptions with
        taskTopics := (subscriptions.taskTopicRelease taskTopic).taskTopics
        log := (subscriptions.taskTopicRelease taskTopic).log } := by
  rcases Option.eq_none_or_eq_some (subscriptions.taskTopics taskTopic) with gone | ⟨topic, live⟩
  · rw [taskTopicRelease_of_none gone]
  · by_cases last : topic.refCount = 1
    · rw [taskTopicRelease_of_last live last]
    · rw [taskTopicRelease_of_shared live last]

@[simp] theorem releaseAll_nil (subscriptions : Subscriptions) :
    subscriptions.releaseAll [] = subscriptions := rfl

@[simp] theorem releaseAll_cons (subscriptions : Subscriptions) (taskTopic : Nat)
    (rest : List Nat) :
    subscriptions.releaseAll (taskTopic :: rest) =
      (subscriptions.taskTopicRelease taskTopic).releaseAll rest := rfl

theorem releaseAll_append (subscriptions : Subscriptions) (first second : List Nat) :
    subscriptions.releaseAll (first ++ second) =
      (subscriptions.releaseAll first).releaseAll second :=
  List.foldl_append _ _ _ _

theorem releaseAll_eq : ∀ (taskTopics : List Nat) (subscriptions : Subscriptions),
    subscriptions.releaseAll taskTopics =
      { subscriptions with
        taskTopics := (subscriptions.releaseAll taskTopics).taskTopics
        log := (subscriptions.releaseAll taskTopics).log }
  | [], _ => rfl
  | taskTopic :: rest, subscriptions => by
      rw [releaseAll_cons, releaseAll_eq rest, taskTopicRelease_eq]

end Release

section Frame

variable (subscriptions : Subscriptions) (taskTopics : List Nat)

@[simp] theorem releaseAll_subscriptions :
    (subscriptions.releaseAll taskTopics).subscriptions = subscriptions.subscriptions := by
  rw [releaseAll_eq]

@[simp] theorem releaseAll_transaction :
    (subscriptions.releaseAll taskTopics).transaction = subscriptions.transaction := by
  rw [releaseAll_eq]

@[simp] theorem releaseAll_requests :
    (subscriptions.releaseAll taskTopics).requests = subscriptions.requests := by
  rw [releaseAll_eq]

@[simp] theorem releaseAll_nextTaskTopic :
    (subscriptions.releaseAll taskTopics).nextTaskTopic = subscriptions.nextTaskTopic := by
  rw [releaseAll_eq]

@[simp] theorem releaseAll_nextRequest :
    (subscriptions.releaseAll taskTopics).nextRequest = subscriptions.nextRequest := by
  rw [releaseAll_eq]

@[simp] theorem held_releaseAll :
    (subscriptions.releaseAll taskTopics).held = subscriptions.held := by
  funext taskTopic
  simp [held]

end Frame

/-! ## The books -/

/-- The books of the reference counts, with the releases still owed. A topic that owns
its filter has a count of one for its creating request while that is live, one for
each reference of the tree and one for each release owed; every live topic has a
positive count; no freed topic and no topic of a resubscribe is held by the tree; a
request lists only live topics it created, each once, and its creator lists every
topic that owns its filter; nothing is named before it is allocated; and the log holds
one clean up for each freed topic. -/
structure Accounted (subscriptions : Subscriptions) (owed : List Nat) : Prop where
  balanced : ∀ {taskTopic topic}, subscriptions.taskTopics taskTopic = some topic →
    topic.filter.isSome →
      topic.refCount = subscriptions.creatorReference topic + subscriptions.held taskTopic +
        owed.count taskTopic
  positive : ∀ {taskTopic topic}, subscriptions.taskTopics taskTopic = some topic →
    0 < topic.refCount
  borrowed : ∀ {taskTopic topic}, subscriptions.taskTopics taskTopic = some topic →
    topic.filter = none → subscriptions.held taskTopic = 0
  freed : ∀ {taskTopic}, subscriptions.taskTopics taskTopic = none →
    subscriptions.held taskTopic = 0
  listed : ∀ {request tracked taskTopic}, subscriptions.requests request = some tracked →
    taskTopic ∈ tracked.taskArg.taskTopics → ∃ topic,
      subscriptions.taskTopics taskTopic = some topic ∧ topic.createdBy = request ∧
        topic.filter.isSome = !tracked.taskArg.isResubscribe
  nodup : ∀ {request tracked}, subscriptions.requests request = some tracked →
    tracked.taskArg.taskTopics.Nodup
  creator_lists : ∀ {taskTopic topic tracked}, subscriptions.taskTopics taskTopic = some topic →
    topic.filter.isSome → subscriptions.requests topic.createdBy = some tracked →
      taskTopic ∈ tracked.taskArg.taskTopics
  owed_unlisted : ∀ {taskTopic topic request tracked}, taskTopic ∈ owed →
    subscriptions.taskTopics taskTopic = some topic → topic.filter = none →
      subscriptions.requests request = some tracked → taskTopic ∉ tracked.taskArg.taskTopics
  fresh_topic : ∀ {taskTopic}, subscriptions.nextTaskTopic ≤ taskTopic →
    subscriptions.taskTopics taskTopic = none
  fresh_request : ∀ {request}, subscriptions.nextRequest ≤ request →
    subscriptions.requests request = none
  created_past : ∀ {taskTopic topic}, subscriptions.taskTopics taskTopic = some topic →
    topic.createdBy < subscriptions.nextRequest
  logged : ∀ taskTopic, subscriptions.log.count (.taskTopicCleanUp taskTopic) =
    if taskTopic < subscriptions.nextTaskTopic ∧ subscriptions.taskTopics taskTopic = none
    then 1 else 0

variable {subscriptions : Subscriptions} {owed : List Nat}

theorem Accounted.live_below (accounted : subscriptions.Accounted owed) {taskTopic : Nat}
    {topic : SubscribeTaskTopic} (live : subscriptions.taskTopics taskTopic = some topic) :
    taskTopic < subscriptions.nextTaskTopic := by
  by_contra beyond
  simp [accounted.fresh_topic (not_lt.mp beyond)] at live

theorem Accounted.listed_reference (accounted : subscriptions.Accounted owed)
    {request : Nat} {tracked : TrackedRequest} {taskTopic : Nat}
    (filed : subscriptions.requests request = some tracked)
    (member : taskTopic ∈ tracked.taskArg.taskTopics) {topic : SubscribeTaskTopic}
    (live : subscriptions.taskTopics taskTopic = some topic) :
    subscriptions.creatorReference topic = 1 := by
  obtain ⟨same, live', created, -⟩ := accounted.listed filed member
  rw [live, Option.some.injEq] at live'
  subst live'
  simp [creatorReference, created, filed]

theorem Accounted.forget {released : Nat} (accounted : subscriptions.Accounted (released :: owed))
    (gone : subscriptions.taskTopics released = none) : subscriptions.Accounted owed where
  balanced {taskTopic topic} live owns := by
    have apart : released ≠ taskTopic := by
      rintro rfl
      simp [gone] at live
    simpa [List.count_cons, apart] using accounted.balanced live owns
  positive := accounted.positive
  borrowed := accounted.borrowed
  freed := accounted.freed
  listed := accounted.listed
  nodup := accounted.nodup
  creator_lists := accounted.creator_lists
  owed_unlisted member := accounted.owed_unlisted (List.mem_cons_of_mem _ member)
  fresh_topic := accounted.fresh_topic
  fresh_request := accounted.fresh_request
  created_past := accounted.created_past
  logged := accounted.logged

theorem Accounted.recount (accounted : subscriptions.Accounted owed) {next : Subscriptions}
    {owed' : List Nat} {taskTopic : Nat} {topic : SubscribeTaskTopic} {count : Nat}
    (live : subscriptions.taskTopics taskTopic = some topic)
    (recounted : next.taskTopics =
      Function.update subscriptions.taskTopics taskTopic (some { topic with refCount := count }))
    (requests : next.requests = subscriptions.requests)
    (nextTaskTopic : next.nextTaskTopic = subscriptions.nextTaskTopic)
    (nextRequest : next.nextRequest = subscriptions.nextRequest)
    (log : next.log = subscriptions.log)
    (held : ∀ {other}, other ≠ taskTopic → next.held other = subscriptions.held other)
    (counted : ∀ {other}, other ≠ taskTopic → owed'.count other = owed.count other)
    (positive : 0 < count)
    (balanced : topic.filter.isSome →
      count = subscriptions.creatorReference topic + next.held taskTopic + owed'.count taskTopic)
    (borrowed : topic.filter = none → next.held taskTopic = 0)
    (owedUnlisted : topic.filter = none → taskTopic ∈ owed' → ∀ {request tracked},
      subscriptions.requests request = some tracked → taskTopic ∉ tracked.taskArg.taskTopics) :
    next.Accounted owed' := by
  have other {other : Nat} (apart : other ≠ taskTopic) :
      next.taskTopics other = subscriptions.taskTopics other := by
    rw [recounted, Function.update_noteq apart]
  have same {found : SubscribeTaskTopic} (found_live : next.taskTopics taskTopic = some found) :
      found = { topic with refCount := count } := by
    simpa [recounted] using found_live.symm
  have reference (found : SubscribeTaskTopic) :
      next.creatorReference found = subscriptions.creatorReference found := by
    simp [creatorReference, requests]
  refine
    { balanced := fun {other'} {found} found_live owns => ?_
      positive := fun {other'} {found} found_live => ?_
      borrowed := fun {other'} {found} found_live owns => ?_
      freed := fun {other'} gone => ?_
      listed := fun {request tracked other'} filed member => ?_
      nodup := fun filed => accounted.nodup (requests ▸ filed)
      creator_lists := fun {other'} {found} {tracked} found_live owns filed => ?_
      owed_unlisted := fun {other'} {found} {request} {tracked} member found_live owns filed => ?_
      fresh_topic := fun {other'} beyond => ?_
      fresh_request := fun beyond => requests ▸ accounted.fresh_request (nextRequest ▸ beyond)
      created_past := fun {other'} {found} found_live => ?_
      logged := fun other' => ?_ }
  all_goals rw [requests] at *
  · by_cases here : other' = taskTopic
    · subst here
      cases same found_live
      rw [reference]
      exact balanced owns
    · rw [other here] at found_live
      rw [reference, held here, counted here]
      exact accounted.balanced found_live owns
  · by_cases here : other' = taskTopic
    · subst here
      cases same found_live
      exact positive
    · exact accounted.positive ((other here).symm.trans found_live)
  · by_cases here : other' = taskTopic
    · subst here
      cases same found_live
      exact borrowed owns
    · rw [held here]
      exact accounted.borrowed ((other here).symm.trans found_live) owns
  · by_cases here : other' = taskTopic
    · subst here
      simp [recounted] at gone
    · rw [held here]
      exact accounted.freed ((other here).symm.trans gone)
  · obtain ⟨found, found_live, facts⟩ := accounted.listed filed member
    by_cases here : other' = taskTopic
    · subst here
      rw [live, Option.some.injEq] at found_live
      subst found_live
      exact ⟨{ topic with refCount := count }, by rw [recounted, Function.update_same], facts⟩
    · exact ⟨found, (other here).trans found_live, facts⟩
  · by_cases here : other' = taskTopic
    · subst here
      cases same found_live
      exact accounted.creator_lists live owns filed
    · exact accounted.creator_lists ((other here).symm.trans found_live) owns filed
  · by_cases here : other' = taskTopic
    · subst here
      cases same found_live
      exact owedUnlisted owns member filed
    · have member : other' ∈ owed := List.count_pos_iff.mp
        (counted here ▸ List.count_pos_iff.mpr member)
      exact accounted.owed_unlisted member ((other here).symm.trans found_live) owns filed
  · have below := accounted.live_below live
    rw [other (by omega)]
    exact accounted.fresh_topic (nextTaskTopic ▸ beyond)
  · rw [nextRequest]
    by_cases here : other' = taskTopic
    · subst here
      cases same found_live
      exact (accounted.created_past live : topic.createdBy < _)
    · exact accounted.created_past ((other here).symm.trans found_live)
  · rw [log, nextTaskTopic, accounted.logged]
    by_cases here : other' = taskTopic
    · subst here
      simp [recounted, live]
    · rw [other here]

theorem Accounted.taskTopicRelease {released : Nat}
    (accounted : subscriptions.Accounted (released :: owed)) :
    (subscriptions.taskTopicRelease released).Accounted owed := by
  rcases Option.eq_none_or_eq_some (subscriptions.taskTopics released) with gone | ⟨topic, live⟩
  · rw [taskTopicRelease_of_none gone]
    exact accounted.forget gone
  have below := accounted.live_below live
  have counted {taskTopic : Nat} (apart : taskTopic ≠ released) :
      (released :: owed).count taskTopic = owed.count taskTopic := by
    simp [List.count_cons, Ne.symm apart]
  have balance {filter : String} (owns : topic.filter = some filter) :=
    accounted.balanced live (by simp [owns])
  by_cases last : topic.refCount = 1
  · have unheld : subscriptions.held released = 0 := by
      cases owns : topic.filter with
      | none => exact accounted.borrowed live owns
      | some filter =>
          have := balance owns
          simp only [List.count_cons_self] at this
          omega
    have unlisted {request : Nat} {tracked : TrackedRequest}
        (filed : subscriptions.requests request = some tracked) :
        released ∉ tracked.taskArg.taskTopics := fun member => by
      cases owns : topic.filter with
      | none => exact accounted.owed_unlisted (List.mem_cons_self _ _) live owns filed member
      | some filter =>
          have := balance owns
          rw [accounted.listed_reference filed member live, List.count_cons_self] at this
          omega
    have other {taskTopic : Nat} {topic' : SubscribeTaskTopic}
        (live' : Function.update subscriptions.taskTopics released none taskTopic = some topic') :
        taskTopic ≠ released ∧ subscriptions.taskTopics taskTopic = some topic' := by
      by_cases same : taskTopic = released
      · subst same
        simp at live'
      · rw [Function.update_noteq same] at live'
        exact ⟨same, live'⟩
    rw [taskTopicRelease_of_last live last]
    exact
      { balanced := fun live' owns => by
          obtain ⟨apart, live'⟩ := other live'
          rw [← counted apart]
          exact accounted.balanced live' owns
        positive := fun live' => accounted.positive (other live').2
        borrowed := fun live' => accounted.borrowed (other live').2
        freed := fun {taskTopic} gone => by
          by_cases same : taskTopic = released
          · subst same
            exact unheld
          · exact accounted.freed ((Function.update_noteq same _ _).symm.trans gone)
        listed := fun filed member => by
          obtain ⟨topic', live', facts⟩ := accounted.listed filed member
          have apart : _ ≠ released := fun same => unlisted filed (same ▸ member)
          exact ⟨topic', (Function.update_noteq apart _ _).trans live', facts⟩
        nodup := accounted.nodup
        creator_lists := fun live' => accounted.creator_lists (other live').2
        owed_unlisted := fun member live' =>
          accounted.owed_unlisted (List.mem_cons_of_mem _ member) (other live').2
        fresh_topic := fun {taskTopic} beyond => by
          simp [Function.update_apply, accounted.fresh_topic beyond]
        fresh_request := accounted.fresh_request
        created_past := fun live' => accounted.created_past (other live').2
        logged := fun taskTopic => by
          by_cases same : taskTopic = released
          · subst same
            simp [accounted.logged, live, below]
          · simp [accounted.logged, Function.update_noteq same, same] }
  · have positive := accounted.positive live
    rw [taskTopicRelease_of_shared live last]
    refine accounted.recount live rfl rfl rfl rfl rfl (fun _ => rfl) (fun apart => (counted apart).symm)
      (by omega) (fun owns => ?_) (accounted.borrowed live)
      (fun owns _ {_ _} filed => accounted.owed_unlisted (List.mem_cons_self _ _) live owns filed)
    obtain ⟨filter, owns⟩ := Option.isSome_iff_exists.mp owns
    have := balance owns
    simp only [List.count_cons_self] at this
    change topic.refCount - 1 = subscriptions.creatorReference topic +
      subscriptions.held _ + owed.count _
    omega

theorem Accounted.releaseAll : ∀ {released : List Nat} {subscriptions : Subscriptions},
    subscriptions.Accounted (released ++ owed) →
      (subscriptions.releaseAll released).Accounted owed
  | [], _, accounted => accounted
  | _ :: _, _, accounted => by
      rw [releaseAll_cons]
      exact Accounted.releaseAll accounted.taskTopicRelease

/-! ## The tree takes references -/

@[simp] theorem held_acquire (subscriptions : Subscriptions) (taskTopic : Nat) :
    (subscriptions.acquire taskTopic).held = subscriptions.held := rfl

theorem held_transactionInsert (subscriptions : Subscriptions) (entry : TreeEntry)
    (taskTopic : Nat) :
    (subscriptions.transactionInsert entry).held taskTopic =
      subscriptions.held taskTopic + if entry.userdata = taskTopic then 1 else 0 := by
  simp [held, transactionInsert, TreeAction.holds, List.countP_cons, Nat.add_assoc]

theorem Accounted.stage (accounted : subscriptions.Accounted owed) {entry : TreeEntry}
    {topic : SubscribeTaskTopic} (live : subscriptions.taskTopics entry.userdata = some topic)
    (owns : topic.filter.isSome) :
    ((subscriptions.transactionInsert entry).acquire entry.userdata).Accounted owed := by
  have balance := accounted.balanced live owns
  refine accounted.recount live
    (show _ = Function.update subscriptions.taskTopics entry.userdata
      (some { topic with refCount := topic.refCount + 1 }) by simp [acquire, transactionInsert, live])
    rfl rfl rfl rfl
    (fun apart => by simp [held_transactionInsert, Ne.symm apart]) (fun _ => rfl) (by omega)
    (fun _ => by rw [held_acquire, held_transactionInsert, if_pos rfl]; omega)
    (fun none => by simp [none] at owns) (fun none => by simp [none] at owns)

/-! ## The tree gives references back -/

theorem Accounted.unhold (accounted : subscriptions.Accounted owed) {entries : List TreeEntry}
    {actions : List TreeAction} {released : List Nat}
    (held : ∀ taskTopic, subscriptions.held taskTopic =
      ({ subscriptions with subscriptions := entries, transaction := actions } :
        Subscriptions).held taskTopic + released.count taskTopic) :
    ({ subscriptions with subscriptions := entries, transaction := actions } :
      Subscriptions).Accounted (released ++ owed) where
  balanced {taskTopic topic} live owns := by
    have := accounted.balanced live owns
    rw [held taskTopic] at this
    rw [List.count_append]
    change topic.refCount = subscriptions.creatorReference topic + _ + _
    omega
  positive := accounted.positive
  borrowed {taskTopic topic} live owns := by
    have := accounted.borrowed live owns
    rw [held taskTopic] at this
    omega
  freed {taskTopic} gone := by
    have := accounted.freed gone
    rw [held taskTopic] at this
    omega
  listed := accounted.listed
  nodup := accounted.nodup
  creator_lists := accounted.creator_lists
  owed_unlisted {taskTopic topic request tracked} member live owns filed := by
    rcases List.mem_append.mp member with given | old
    · have := accounted.borrowed live owns
      rw [held taskTopic] at this
      have := List.count_pos_iff.mpr given
      omega
    · exact accounted.owed_unlisted old live owns filed
  fresh_topic := accounted.fresh_topic
  fresh_request := accounted.fresh_request
  created_past := accounted.created_past
  logged := accounted.logged

theorem countP_userdata_split (entries : List TreeEntry) (filter : String) (taskTopic : Nat) :
    entries.countP (fun entry => entry.userdata == taskTopic) =
      (entries.filter fun entry => entry.filter != filter).countP
          (fun entry => entry.userdata == taskTopic) +
        ((entries.filter fun entry => entry.filter == filter).map TreeEntry.userdata).count
          taskTopic := by
  rw [List.countP_eq_countP_filter_add entries _ fun entry => entry.filter != filter]
  simp [List.count_eq_countP, List.countP_map, Function.comp_def, bne]

@[simp] theorem applyAction_transaction (subscriptions : Subscriptions) (action : TreeAction) :
    (subscriptions.applyAction action).transaction = subscriptions.transaction := by
  cases action <;> simp [Subscriptions.applyAction, replaceSubscriptions]

@[simp] theorem applyAction_requests (subscriptions : Subscriptions) (action : TreeAction) :
    (subscriptions.applyAction action).requests = subscriptions.requests := by
  cases action <;> simp [Subscriptions.applyAction, replaceSubscriptions]

@[simp] theorem applyAction_nextRequest (subscriptions : Subscriptions) (action : TreeAction) :
    (subscriptions.applyAction action).nextRequest = subscriptions.nextRequest := by
  cases action <;> simp [Subscriptions.applyAction, replaceSubscriptions]

@[simp] theorem commitActions_requests : ∀ (actions : List TreeAction) (subscriptions : Subscriptions),
    (commitActions actions subscriptions).requests = subscriptions.requests
  | [], _ => rfl
  | _ :: rest, _ => by rw [Subscriptions.commitActions, commitActions_requests rest]; simp

@[simp] theorem commitActions_nextRequest : ∀ (actions : List TreeAction)
    (subscriptions : Subscriptions),
    (commitActions actions subscriptions).nextRequest = subscriptions.nextRequest
  | [], _ => rfl
  | _ :: rest, _ => by rw [Subscriptions.commitActions, commitActions_nextRequest rest]; simp

theorem Accounted.applyAction (accounted : subscriptions.Accounted owed) {action : TreeAction}
    {rest : List TreeAction} (staged : subscriptions.transaction = action :: rest) :
    (({ subscriptions with transaction := rest } : Subscriptions).applyAction action).Accounted
      owed := by
  cases action with
  | insert entry =>
      refine (accounted.unhold fun taskTopic => ?_).releaseAll
      simp only [held, staged, List.countP_cons, List.countP_nil, List.countP_append,
        countP_userdata_split subscriptions.subscriptions entry.filter taskTopic,
        TreeAction.holds]
      omega
  | remove filter =>
      refine (accounted.unhold fun taskTopic => ?_).releaseAll
      simp only [held, staged, List.countP_cons, List.append_nil,
        countP_userdata_split subscriptions.subscriptions filter taskTopic, TreeAction.holds]
      simp only [Bool.false_eq_true, if_false]
      omega

theorem Accounted.commitActions : ∀ {actions : List TreeAction} {subscriptions : Subscriptions},
    subscriptions.Accounted owed → subscriptions.transaction = actions →
      (Subscriptions.commitActions actions subscriptions).Accounted owed ∧
        (Subscriptions.commitActions actions subscriptions).transaction = []
  | [], _, accounted, staged => ⟨accounted, staged⟩
  | _ :: _, _, accounted, staged => by
      rw [Subscriptions.commitActions]
      exact Accounted.commitActions (accounted.applyAction staged) (applyAction_transaction _ _)

theorem Accounted.transactionRollBack (accounted : subscriptions.Accounted owed) :
    subscriptions.transactionRollBack.Accounted owed := by
  refine (accounted.unhold fun taskTopic => ?_).releaseAll
  simp only [held, List.countP_nil, Nat.add_zero, List.count_filterMap]
  congr 1
  congr 1
  funext action
  cases action <;> simp [TreeAction.holds, TreeAction.inserted]

theorem Accounted.topicTreeCleanUp (accounted : subscriptions.Accounted owed) :
    subscriptions.topicTreeCleanUp.Accounted owed := by
  refine (accounted.unhold fun taskTopic => ?_).releaseAll
  simp [held, List.count_eq_countP, List.countP_map, Function.comp_def, Nat.add_comm]

theorem Accounted.transactionRemove (accounted : subscriptions.Accounted owed) (filter : String) :
    (subscriptions.transactionRemove filter).1.Accounted owed :=
  @Accounted.unhold _ _ accounted _ _ [] fun taskTopic => by
    simp [held, transactionRemove, TreeAction.holds]

/-! ## Inserting outside a transaction -/

theorem taskTopicRelease_taskTopics_of_ne (subscriptions : Subscriptions) {released taskTopic : Nat}
    (apart : released ≠ taskTopic) :
    (subscriptions.taskTopicRelease released).taskTopics taskTopic =
      subscriptions.taskTopics taskTopic := by
  rcases Option.eq_none_or_eq_some (subscriptions.taskTopics released) with gone | ⟨topic, live⟩
  · rw [taskTopicRelease_of_none gone]
  · by_cases last : topic.refCount = 1
    · rw [taskTopicRelease_of_last live last]
      exact Function.update_noteq (Ne.symm apart) _ _
    · rw [taskTopicRelease_of_shared live last]
      exact Function.update_noteq (Ne.symm apart) _ _

theorem acquire_taskTopicRelease {subscriptions : Subscriptions} {released taskTopic : Nat}
    (spare : ∀ topic, subscriptions.taskTopics taskTopic = some topic → released = taskTopic →
      1 < topic.refCount) :
    (subscriptions.taskTopicRelease released).acquire taskTopic =
      (subscriptions.acquire taskTopic).taskTopicRelease released := by
  rcases Option.eq_none_or_eq_some (subscriptions.taskTopics released) with gone | ⟨topic, live⟩
  · have gone' : (subscriptions.acquire taskTopic).taskTopics released = none := by
      by_cases same : released = taskTopic
      · subst same
        simp [acquire, gone]
      · simp [acquire, Function.update_noteq same, gone]
    rw [taskTopicRelease_of_none gone, taskTopicRelease_of_none gone']
  by_cases same : released = taskTopic
  · subst same
    have spare := spare topic live rfl
    have live' : (subscriptions.acquire released).taskTopics released =
        some { topic with refCount := topic.refCount + 1 } := by simp [acquire, live]
    rw [taskTopicRelease_of_shared live (by omega),
      taskTopicRelease_of_shared live' (by simp; omega)]
    simp only [acquire, Function.update_same, Function.update_idem, Option.map_some']
    rw [Nat.sub_add_cancel (by omega : 1 ≤ topic.refCount), Nat.add_sub_cancel]
  · have live' : (subscriptions.acquire taskTopic).taskTopics released = some topic := by
      simp [acquire, Function.update_noteq same, live]
    by_cases last : topic.refCount = 1
    · rw [taskTopicRelease_of_last live last, taskTopicRelease_of_last live' last]
      simp only [acquire, Function.update_noteq (Ne.symm same)]
      rw [Function.update_comm (Ne.symm same)]
    · rw [taskTopicRelease_of_shared live last, taskTopicRelease_of_shared live' last]
      simp only [acquire, Function.update_noteq (Ne.symm same)]
      rw [Function.update_comm (Ne.symm same)]

theorem acquire_releaseAll {taskTopic : Nat} :
    ∀ {released : List Nat} {subscriptions : Subscriptions},
      (∀ topic, subscriptions.taskTopics taskTopic = some topic →
        released.count taskTopic < topic.refCount) →
      (subscriptions.releaseAll released).acquire taskTopic =
        (subscriptions.acquire taskTopic).releaseAll released
  | [], _, _ => rfl
  | first :: rest, subscriptions, spare => by
      rw [releaseAll_cons, releaseAll_cons, ← acquire_taskTopicRelease fun topic live same => by
        have := spare topic live
        simp [same, List.count_cons] at this
        omega]
      refine acquire_releaseAll fun topic live => ?_
      by_cases same : first = taskTopic
      · subst same
        rcases Option.eq_none_or_eq_some (subscriptions.taskTopics first) with gone | ⟨old, alive⟩
        · rw [taskTopicRelease_of_none gone, gone] at live
          cases live
        have := spare old alive
        simp only [List.count_cons_self] at this
        rw [taskTopicRelease_of_shared alive (by omega)] at live
        cases (Function.update_same _ _ _).symm.trans live
        dsimp only
        omega
      · rw [taskTopicRelease_taskTopics_of_ne _ same] at live
        simpa [List.count_cons, same] using spare topic live

theorem Accounted.topicTreeInsert_acquire (accounted : subscriptions.Accounted owed)
    {entry : TreeEntry} {topic : SubscribeTaskTopic}
    (live : subscriptions.taskTopics entry.userdata = some topic) (owns : topic.filter.isSome)
    (creator : subscriptions.creatorReference topic = 1) :
    ((subscriptions.topicTreeInsert entry).acquire entry.userdata).Accounted owed := by
  have balance := accounted.balanced live owns
  have split := countP_userdata_split subscriptions.subscriptions entry.filter entry.userdata
  have replaced := @Accounted.unhold _ _ (accounted.stage live owns)
    (subscriptions.subscriptions.filter (fun entry' : TreeEntry =>
      entry'.filter != entry.filter) ++ [entry])
    subscriptions.transaction
    ((subscriptions.subscriptions.filter fun entry' : TreeEntry =>
      entry'.filter == entry.filter).map TreeEntry.userdata)
    fun taskTopic => by
      rw [held_acquire, held_transactionInsert]
      simp only [held, List.countP_append,
        countP_userdata_split subscriptions.subscriptions entry.filter taskTopic,
        List.countP_cons, List.countP_nil, beq_iff_eq]
      omega
  rw [topicTreeInsert, Subscriptions.applyAction, replaceSubscriptions,
    acquire_releaseAll fun found found_live => by
      simp only [live, Option.some.injEq] at found_live
      subst found_live
      simp only [held] at balance
      omega]
  exact replaced.releaseAll

/-! ## Requests -/

theorem Accounted.emit (accounted : subscriptions.Accounted owed) {event : Event}
    (notCleanUp : ∀ taskTopic, event ≠ .taskTopicCleanUp taskTopic) :
    (subscriptions.emit event).Accounted owed where
  balanced := accounted.balanced
  positive := accounted.positive
  borrowed := accounted.borrowed
  freed := accounted.freed
  listed := accounted.listed
  nodup := accounted.nodup
  creator_lists := accounted.creator_lists
  owed_unlisted := accounted.owed_unlisted
  fresh_topic := accounted.fresh_topic
  fresh_request := accounted.fresh_request
  created_past := accounted.created_past
  logged taskTopic := by
    show List.count _ (subscriptions.log ++ [event]) = _
    rw [List.count_append, accounted.logged, List.count_singleton]
    simp [notCleanUp taskTopic]
    rfl

theorem Accounted.removeRequest (accounted : subscriptions.Accounted owed) {request : Nat}
    {tracked : TrackedRequest} (filed : subscriptions.requests request = some tracked) :
    ({ subscriptions with requests := Function.update subscriptions.requests request none } :
      Subscriptions).Accounted (tracked.taskArg.taskTopics ++ owed) := by
  have listedHere {taskTopic : Nat} {topic : SubscribeTaskTopic}
      (live : subscriptions.taskTopics taskTopic = some topic) (owns : topic.filter.isSome) :
      taskTopic ∈ tracked.taskArg.taskTopics ↔ topic.createdBy = request := by
    constructor
    · intro member
      obtain ⟨found, found_live, created, -⟩ := accounted.listed filed member
      rw [live, Option.some.injEq] at found_live
      exact found_live ▸ created
    · intro created
      exact accounted.creator_lists live owns (created ▸ filed)
  have still {other : Nat} {found : TrackedRequest}
      (filed' : Function.update subscriptions.requests request none other = some found) :
      other ≠ request ∧ subscriptions.requests other = some found := by
    by_cases same : other = request
    · subst same
      simp at filed'
    · exact ⟨same, (Function.update_noteq same _ _).symm.trans filed'⟩
  exact
    { balanced := fun {taskTopic topic} live owns => by
        have := accounted.balanced live owns
        show topic.refCount = (if (Function.update subscriptions.requests request none
          topic.createdBy).isSome then 1 else 0) + subscriptions.held taskTopic +
            (tracked.taskArg.taskTopics ++ owed).count taskTopic
        rw [List.count_append]
        by_cases created : topic.createdBy = request
        · rw [created, Function.update_same, List.count_eq_one_of_mem (accounted.nodup filed)
            ((listedHere live owns).mpr created)]
          simp [creatorReference, created, filed] at this ⊢
          omega
        · rw [Function.update_noteq created, List.count_eq_zero_of_not_mem
            (mt (listedHere live owns).mp created)]
          simp only [creatorReference] at this
          omega
      positive := accounted.positive
      borrowed := accounted.borrowed
      freed := accounted.freed
      listed := fun filed' member => accounted.listed (still filed').2 member
      nodup := fun filed' => accounted.nodup (still filed').2
      creator_lists := fun live owns filed' => accounted.creator_lists live owns (still filed').2
      owed_unlisted := fun {taskTopic topic other found} member live owns filed' listedThere => by
        obtain ⟨apart, filed'⟩ := still filed'
        rcases List.mem_append.mp member with given | old
        · obtain ⟨_, live₁, created₁, -⟩ := accounted.listed filed given
          obtain ⟨_, live₂, created₂, -⟩ := accounted.listed filed' listedThere
          rw [live₁, Option.some.injEq] at live₂
          exact apart (created₂ ▸ live₂ ▸ created₁)
        · exact accounted.owed_unlisted old live owns filed' listedThere
      fresh_topic := accounted.fresh_topic
      fresh_request := fun {other} beyond => by
        have beyond : subscriptions.nextRequest ≤ other := beyond
        have apart : other ≠ request := fun same => by
          simp [← same, accounted.fresh_request beyond] at filed
        exact (Function.update_noteq apart _ _).trans (accounted.fresh_request beyond)
      created_past := accounted.created_past
      logged := accounted.logged }

/-- Storing a request's task argument after a send keeps the books when the argument
lists live topics the request created, each once, among them every topic it created
that owns its filter. -/
theorem Accounted.storeRequest (accounted : subscriptions.Accounted owed) {request : Nat}
    {tracked : TrackedRequest} {taskArg : TaskArg} {ongoing : Bool}
    (filed : subscriptions.requests request = some tracked)
    (listed : ∀ {taskTopic}, taskTopic ∈ taskArg.taskTopics → ∃ topic,
      subscriptions.taskTopics taskTopic = some topic ∧ topic.createdBy = request ∧
        topic.filter.isSome = !taskArg.isResubscribe)
    (nodup : taskArg.taskTopics.Nodup)
    (keeps : ∀ {taskTopic topic}, subscriptions.taskTopics taskTopic = some topic →
      topic.filter.isSome → topic.createdBy = request → taskTopic ∈ taskArg.taskTopics)
    (unowed : ∀ {taskTopic topic}, taskTopic ∈ owed → subscriptions.taskTopics taskTopic = some topic →
      topic.filter = none → taskTopic ∉ taskArg.taskTopics) :
    ({ subscriptions with
        requests := Function.update subscriptions.requests request (some ⟨taskArg, ongoing⟩) } :
      Subscriptions).Accounted owed := by
  have stored {other : Nat} {found : TrackedRequest}
      (filed' : Function.update subscriptions.requests request (some ⟨taskArg, ongoing⟩) other =
        some found) :
      (other = request ∧ found = ⟨taskArg, ongoing⟩) ∨
        (other ≠ request ∧ subscriptions.requests other = some found) := by
    by_cases same : other = request
    · subst same
      simp only [Function.update_same, Option.some.injEq] at filed'
      exact .inl ⟨rfl, filed'.symm⟩
    · exact .inr ⟨same, (Function.update_noteq same _ _).symm.trans filed'⟩
  have reference (topic : SubscribeTaskTopic) :
      (if (Function.update subscriptions.requests request (some ⟨taskArg, ongoing⟩)
        topic.createdBy).isSome then 1 else 0) = subscriptions.creatorReference topic := by
    by_cases same : topic.createdBy = request
    · rw [same]
      simp [creatorReference, same, filed]
    · simp [creatorReference, Function.update_noteq same]
  exact
    { balanced := fun {taskTopic topic} live owns => by
        show topic.refCount = (if (Function.update subscriptions.requests request
          (some ⟨taskArg, ongoing⟩) topic.createdBy).isSome then 1 else 0) +
            subscriptions.held taskTopic + owed.count taskTopic
        rw [reference]
        exact accounted.balanced live owns
      positive := accounted.positive
      borrowed := accounted.borrowed
      freed := accounted.freed
      listed := fun filed' member => by
        rcases stored filed' with ⟨rfl, rfl⟩ | ⟨-, filed'⟩
        · exact listed member
        · exact accounted.listed filed' member
      nodup := fun filed' => by
        rcases stored filed' with ⟨rfl, rfl⟩ | ⟨-, filed'⟩
        · exact nodup
        · exact accounted.nodup filed'
      creator_lists := fun {taskTopic topic found} live owns filed' => by
        rcases stored filed' with ⟨created, rfl⟩ | ⟨-, filed'⟩
        · exact keeps live owns created
        · exact accounted.creator_lists live owns filed'
      owed_unlisted := fun member live owns filed' => by
        rcases stored filed' with ⟨rfl, rfl⟩ | ⟨-, filed'⟩
        · exact unowed member live owns
        · exact accounted.owed_unlisted member live owns filed'
      fresh_topic := accounted.fresh_topic
      fresh_request := fun {other} beyond => by
        have beyond : subscriptions.nextRequest ≤ other := beyond
        have apart : other ≠ request := fun same => by
          simp [← same, accounted.fresh_request beyond] at filed
        exact (Function.update_noteq apart _ _).trans (accounted.fresh_request beyond)
      created_past := accounted.created_past
      logged := accounted.logged }

/-! ## Allocations -/

/-- `after` is `before` with task topics allocated from `before.nextTaskTopic` on, each
with one reference, created by `request` and owning its filter exactly when `owns`. -/
structure Allocation (before after : Subscriptions) (request : Nat) (owns : Bool) : Prop where
  subscriptions : after.subscriptions = before.subscriptions
  transaction : after.transaction = before.transaction
  requests : after.requests = before.requests
  nextRequest : after.nextRequest = before.nextRequest
  log : after.log = before.log
  grows : before.nextTaskTopic ≤ after.nextTaskTopic
  old : ∀ {taskTopic}, taskTopic < before.nextTaskTopic →
    after.taskTopics taskTopic = before.taskTopics taskTopic
  new : ∀ {taskTopic}, before.nextTaskTopic ≤ taskTopic → taskTopic < after.nextTaskTopic →
    ∃ topic, after.taskTopics taskTopic = some topic ∧ topic.refCount = 1 ∧
      topic.createdBy = request ∧ topic.filter.isSome = owns
  fresh : ∀ {taskTopic}, after.nextTaskTopic ≤ taskTopic → after.taskTopics taskTopic = none

theorem Allocation.refl (fresh : ∀ {taskTopic}, subscriptions.nextTaskTopic ≤ taskTopic →
    subscriptions.taskTopics taskTopic = none) (request : Nat) (owns : Bool) :
    Allocation subscriptions subscriptions request owns :=
  ⟨rfl, rfl, rfl, rfl, rfl, le_refl _, fun _ => rfl, fun below above => by omega, fresh⟩

theorem Allocation.allocate {before after : Subscriptions} {request : Nat} {owns : Bool}
    (allocation : Allocation before after request owns) {topic : SubscribeTaskTopic}
    (single : topic.refCount = 1) (created : topic.createdBy = request)
    (owned : topic.filter.isSome = owns) :
    Allocation before (after.allocateTaskTopic topic).1 request owns where
  subscriptions := allocation.subscriptions
  transaction := allocation.transaction
  requests := allocation.requests
  nextRequest := allocation.nextRequest
  log := allocation.log
  grows := by
    have := allocation.grows
    simp only [allocateTaskTopic]
    omega
  old {taskTopic} below := by
    have := allocation.grows
    simp only [allocateTaskTopic]
    rw [Function.update_noteq (by omega)]
    exact allocation.old below
  new {taskTopic} above below := by
    simp only [allocateTaskTopic] at below ⊢
    by_cases same : taskTopic = after.nextTaskTopic
    · subst same
      exact ⟨topic, Function.update_same _ _ _, single, created, owned⟩
    · rw [Function.update_noteq same]
      exact allocation.new above (by omega)
  fresh {taskTopic} beyond := by
    simp only [allocateTaskTopic] at beyond ⊢
    rw [Function.update_noteq (by omega)]
    exact allocation.fresh (by omega)

theorem allocateTaskTopics_nextTaskTopic (request : Nat) :
    ∀ (topics : List TopicSubscription) (subscriptions : Subscriptions) (allocated : List Nat),
      (allocateTaskTopics request topics (subscriptions, allocated)).1.nextTaskTopic =
        subscriptions.nextTaskTopic + topics.length
  | [], _, _ => rfl
  | _ :: rest, subscriptions, _ => by
      rw [Subscriptions.allocateTaskTopics, allocateTaskTopics_nextTaskTopic request rest]
      simp only [allocateTaskTopic, List.length_cons]
      omega

theorem Allocation.allocateTaskTopics {before : Subscriptions} {request : Nat} :
    ∀ {topics : List TopicSubscription} {after : Subscriptions} {allocated : List Nat},
      Allocation before after request true →
        Allocation before (allocateTaskTopics request topics (after, allocated)).1 request true ∧
          (allocateTaskTopics request topics (after, allocated)).2 =
            allocated ++ List.range' after.nextTaskTopic topics.length
  | [], _, _, allocation => ⟨allocation, by simp [Subscriptions.allocateTaskTopics]⟩
  | topic :: rest, after, allocated, allocation => by
      have later := @Allocation.allocateTaskTopics before request rest _
        (allocated ++ [after.nextTaskTopic])
        (@Allocation.allocate _ _ _ _ allocation ⟨some topic.topic, topic, false, 1, request⟩
          rfl rfl rfl)
      refine ⟨later.1, later.2.trans ?_⟩
      simp [allocateTaskTopic, List.range'_succ]

theorem reconnectResubIterator_nextTaskTopic (request : Nat) :
    ∀ (entries : List TreeEntry) (subscriptions : Subscriptions) (allocated : List Nat),
      (reconnectResubIterator request entries (subscriptions, allocated)).1.nextTaskTopic =
        subscriptions.nextTaskTopic + entries.length
  | [], _, _ => rfl
  | _ :: rest, subscriptions, _ => by
      rw [Subscriptions.reconnectResubIterator, reconnectResubIterator_nextTaskTopic request rest]
      simp only [allocateTaskTopic, List.length_cons]
      omega

theorem Allocation.reconnectResubIterator {before : Subscriptions} {request : Nat} :
    ∀ {entries : List TreeEntry} {after : Subscriptions} {allocated : List Nat},
      Allocation before after request false →
        Allocation before (reconnectResubIterator request entries (after, allocated)).1 request
            false ∧
          (reconnectResubIterator request entries (after, allocated)).2 =
            allocated ++ List.range' after.nextTaskTopic entries.length
  | [], _, _, allocation => ⟨allocation, by simp [Subscriptions.reconnectResubIterator]⟩
  | entry :: rest, after, allocated, allocation => by
      have later := @Allocation.reconnectResubIterator before request rest _
        (allocated ++ [after.nextTaskTopic])
        (@Allocation.allocate _ _ _ _ allocation ⟨none, ⟨entry.filter, entry.qos⟩, false, 1, request⟩
          rfl rfl rfl)
      refine ⟨later.1, later.2.trans ?_⟩
      simp [allocateTaskTopic, List.range'_succ]

section Allocated

variable {before after : Subscriptions} {request : Nat} {owns : Bool}
  (allocation : Allocation before after request owns)
  (freshBefore : ∀ {taskTopic}, before.nextTaskTopic ≤ taskTopic → before.taskTopics taskTopic = none)
include allocation

theorem Allocation.held : after.held = before.held := by
  funext taskTopic
  simp [Subscriptions.held, allocation.subscriptions, allocation.transaction]

include freshBefore in
theorem Allocation.old_or_new {taskTopic : Nat} {topic : SubscribeTaskTopic}
    (live : after.taskTopics taskTopic = some topic) :
    (taskTopic < before.nextTaskTopic ∧ before.taskTopics taskTopic = some topic) ∨
      (before.nextTaskTopic ≤ taskTopic ∧ before.taskTopics taskTopic = none ∧
        topic.refCount = 1 ∧ topic.createdBy = request ∧ topic.filter.isSome = owns) := by
  by_cases below : taskTopic < before.nextTaskTopic
  · exact .inl ⟨below, (allocation.old below).symm.trans live⟩
  · have above := not_lt.mp below
    by_cases allocated : taskTopic < after.nextTaskTopic
    · obtain ⟨found, found_live, facts⟩ := allocation.new above allocated
      rw [live, Option.some.injEq] at found_live
      subst found_live
      exact .inr ⟨above, freshBefore above, facts⟩
    · simp [allocation.fresh (not_lt.mp allocated)] at live

include freshBefore in
theorem Allocation.none_of {taskTopic : Nat} (gone : after.taskTopics taskTopic = none) :
    before.taskTopics taskTopic = none := by
  by_cases below : taskTopic < before.nextTaskTopic
  · exact (allocation.old below).symm.trans gone
  · exact freshBefore (not_lt.mp below)

theorem Allocation.logged (logged : ∀ taskTopic, before.log.count (.taskTopicCleanUp taskTopic) =
      if taskTopic < before.nextTaskTopic ∧ before.taskTopics taskTopic = none then 1 else 0)
    (taskTopic : Nat) :
    after.log.count (.taskTopicCleanUp taskTopic) =
      if taskTopic < after.nextTaskTopic ∧ after.taskTopics taskTopic = none then 1 else 0 := by
  rw [allocation.log, logged]
  have grows := allocation.grows
  by_cases below : taskTopic < before.nextTaskTopic
  · simp [below, allocation.old below, show taskTopic < after.nextTaskTopic by omega]
  · have above := not_lt.mp below
    by_cases allocated : taskTopic < after.nextTaskTopic
    · obtain ⟨_, found_live, -⟩ := allocation.new above allocated
      simp [below, found_live]
    · simp [below, allocated]

end Allocated

theorem Accounted.allocateBorrowed {after : Subscriptions} {request : Nat}
    (accounted : subscriptions.Accounted owed)
    (allocation : Allocation subscriptions after request false)
    (live : (subscriptions.requests request).isSome) : after.Accounted owed := by
  have old_or_new {taskTopic : Nat} {topic : SubscribeTaskTopic}
      (found : after.taskTopics taskTopic = some topic) :=
    allocation.old_or_new accounted.fresh_topic found
  have reference (topic : SubscribeTaskTopic) :
      after.creatorReference topic = subscriptions.creatorReference topic := by
    simp [creatorReference, allocation.requests]
  have requestBelow : request < subscriptions.nextRequest := by
    by_contra beyond
    simp [accounted.fresh_request (not_lt.mp beyond)] at live
  exact
    { balanced := fun {taskTopic topic} found owns => by
        rcases old_or_new found with ⟨-, found⟩ | ⟨-, -, -, -, borrowed⟩
        · rw [reference, allocation.held]
          exact accounted.balanced found owns
        · simp [borrowed] at owns
      positive := fun found => by
        rcases old_or_new found with ⟨-, found⟩ | ⟨-, -, single, -⟩
        · exact accounted.positive found
        · omega
      borrowed := fun {taskTopic topic} found owns => by
        rw [allocation.held]
        rcases old_or_new found with ⟨-, found⟩ | ⟨-, gone, -⟩
        · exact accounted.borrowed found owns
        · exact accounted.freed gone
      freed := fun gone => by
        rw [allocation.held]
        exact accounted.freed (allocation.none_of accounted.fresh_topic gone)
      listed := fun filed member => by
        rw [allocation.requests] at filed
        obtain ⟨topic, found, facts⟩ := accounted.listed filed member
        exact ⟨topic, (allocation.old (accounted.live_below found)).trans found, facts⟩
      nodup := fun filed => accounted.nodup (allocation.requests ▸ filed)
      creator_lists := fun found owns filed => by
        rw [allocation.requests] at filed
        rcases old_or_new found with ⟨-, found⟩ | ⟨-, -, -, -, borrowed⟩
        · exact accounted.creator_lists found owns filed
        · simp [borrowed] at owns
      owed_unlisted := fun {taskTopic topic other tracked} member found owns filed listedThere => by
        rw [allocation.requests] at filed
        rcases old_or_new found with ⟨-, found⟩ | ⟨above, gone, -⟩
        · exact accounted.owed_unlisted member found owns filed listedThere
        · obtain ⟨_, alive, -⟩ := accounted.listed filed listedThere
          simp [gone] at alive
      fresh_topic := allocation.fresh
      fresh_request := fun beyond => by
        rw [allocation.requests]
        exact accounted.fresh_request (allocation.nextRequest ▸ beyond)
      created_past := fun found => by
        rw [allocation.nextRequest]
        rcases old_or_new found with ⟨-, found⟩ | ⟨-, -, -, created, -⟩
        · exact accounted.created_past found
        · exact created ▸ requestBelow
      logged := allocation.logged accounted.logged }

theorem Accounted.create {after : Subscriptions} {taskArg : TaskArg}
    (accounted : subscriptions.Accounted [])
    (allocation : Allocation subscriptions after subscriptions.nextRequest true)
    (topics : taskArg.taskTopics =
      List.range' subscriptions.nextTaskTopic (after.nextTaskTopic - subscriptions.nextTaskTopic))
    (kind : taskArg.taskTopics ≠ [] → taskArg.isResubscribe = false) :
    (after.mqttCreateRequest taskArg).Accounted [] := by
  have old_or_new {taskTopic : Nat} {topic : SubscribeTaskTopic}
      (found : after.taskTopics taskTopic = some topic) :=
    allocation.old_or_new accounted.fresh_topic found
  have grows := allocation.grows
  have member {taskTopic : Nat} : taskTopic ∈ taskArg.taskTopics ↔
      subscriptions.nextTaskTopic ≤ taskTopic ∧ taskTopic < after.nextTaskTopic := by
    rw [topics, List.mem_range'_1]
    omega
  have stored {other : Nat} {found : TrackedRequest}
      (filed : (after.mqttCreateRequest taskArg).requests other = some found) :
      (other = subscriptions.nextRequest ∧ found = ⟨taskArg, false⟩) ∨
        (other < subscriptions.nextRequest ∧ subscriptions.requests other = some found) := by
    have filed : Function.update after.requests after.nextRequest (some ⟨taskArg, false⟩) other =
      some found := filed
    rw [allocation.requests, allocation.nextRequest] at filed
    by_cases same : other = subscriptions.nextRequest
    · subst same
      simp only [Function.update_same, Option.some.injEq] at filed
      exact .inl ⟨rfl, filed.symm⟩
    · rw [Function.update_noteq same] at filed
      refine .inr ⟨lt_of_not_le fun beyond => ?_, filed⟩
      simp [accounted.fresh_request beyond] at filed
  have reference {topic : SubscribeTaskTopic} (past : topic.createdBy < subscriptions.nextRequest) :
      (after.mqttCreateRequest taskArg).creatorReference topic =
        subscriptions.creatorReference topic := by
    simp [creatorReference, mqttCreateRequest, allocation.requests, allocation.nextRequest,
      Function.update_noteq past.ne]
  have held : (after.mqttCreateRequest taskArg).held = subscriptions.held := allocation.held
  exact
    { balanced := fun {taskTopic topic} found owns => by
        rw [held]
        rcases old_or_new found with ⟨-, found⟩ | ⟨-, gone, single, created, -⟩
        · rw [reference (accounted.created_past found)]
          exact accounted.balanced found owns
        · simp [creatorReference, mqttCreateRequest, created, allocation.nextRequest, single,
            accounted.freed gone]
      positive := fun found => by
        rcases old_or_new found with ⟨-, found⟩ | ⟨-, -, single, -⟩
        · exact accounted.positive found
        · omega
      borrowed := fun {taskTopic topic} found borrowed => by
        rw [held]
        rcases old_or_new found with ⟨-, found⟩ | ⟨-, gone, -⟩
        · exact accounted.borrowed found borrowed
        · exact accounted.freed gone
      freed := fun gone => by
        rw [held]
        exact accounted.freed (allocation.none_of accounted.fresh_topic gone)
      listed := fun filed listedHere => by
        rcases stored filed with ⟨rfl, rfl⟩ | ⟨-, filed⟩
        · obtain ⟨above, below⟩ := member.mp listedHere
          obtain ⟨topic, found, -, created, owns⟩ := allocation.new above below
          exact ⟨topic, found, created, by
            rw [owns, kind (List.ne_nil_of_mem listedHere)]; rfl⟩
        · obtain ⟨topic, found, facts⟩ := accounted.listed filed listedHere
          exact ⟨topic, (allocation.old (accounted.live_below found)).trans found, facts⟩
      nodup := fun filed => by
        rcases stored filed with ⟨rfl, rfl⟩ | ⟨-, filed⟩
        · exact topics ▸ List.nodup_range' _ _
        · exact accounted.nodup filed
      creator_lists := fun {taskTopic topic found} live owns filed => by
        rcases old_or_new live with ⟨-, live⟩ | ⟨above, -, -, created, -⟩ <;>
          rcases stored filed with ⟨same, rfl⟩ | ⟨past, filed⟩
        · exact absurd same (accounted.created_past live).ne
        · exact accounted.creator_lists live owns filed
        · exact member.mpr ⟨above, lt_of_not_le fun beyond =>
            Option.noConfusion ((allocation.fresh beyond).symm.trans live)⟩
        · exact absurd created past.ne
      owed_unlisted := fun member => absurd member (List.not_mem_nil _)
      fresh_topic := allocation.fresh
      fresh_request := fun {other} beyond => by
        have beyond : subscriptions.nextRequest + 1 ≤ other := allocation.nextRequest ▸ beyond
        show Function.update after.requests after.nextRequest _ other = none
        rw [Function.update_noteq (by rw [allocation.nextRequest]; omega), allocation.requests]
        exact accounted.fresh_request (by omega)
      created_past := fun found => by
        show _ < after.nextRequest + 1
        rw [allocation.nextRequest]
        rcases old_or_new found with ⟨-, found⟩ | ⟨-, -, -, created, -⟩
        · exact Nat.lt_succ_of_lt (accounted.created_past found)
        · exact created ▸ Nat.lt_succ_self _
      logged := allocation.logged accounted.logged }

/-! ## Between steps -/

/-- What holds between two steps: the books balance with no release owed, no
transaction is open, and a request of `subscribe` lists its one topic. -/
structure Invariant (subscriptions : Subscriptions) : Prop where
  accounted : subscriptions.Accounted []
  closed : subscriptions.transaction = []
  single : ∀ {request tracked arg}, subscriptions.requests request = some tracked →
    tracked.taskArg = .subscribe arg → arg.topics.length = 1

theorem Invariant.create {after : Subscriptions} {taskArg : TaskArg}
    (invariant : subscriptions.Invariant)
    (allocation : Allocation subscriptions after subscriptions.nextRequest true)
    (topics : taskArg.taskTopics =
      List.range' subscriptions.nextTaskTopic (after.nextTaskTopic - subscriptions.nextTaskTopic))
    (kind : taskArg.taskTopics ≠ [] → taskArg.isResubscribe = false)
    (single : ∀ {arg}, taskArg = .subscribe arg → arg.topics.length = 1) :
    (after.mqttCreateRequest taskArg).Invariant where
  accounted := invariant.accounted.create allocation topics kind
  closed := allocation.transaction.trans invariant.closed
  single {request tracked _} filed isSubscribe := by
    have filed : Function.update after.requests after.nextRequest (some ⟨taskArg, false⟩)
      request = some tracked := filed
    by_cases same : request = after.nextRequest
    · subst same
      simp only [Function.update_same, Option.some.injEq] at filed
      subst filed
      exact single isSubscribe
    · rw [Function.update_noteq same, allocation.requests] at filed
      exact invariant.single filed isSubscribe

theorem initial_invariant : initial.Invariant where
  accounted :=
    { balanced := nofun, positive := nofun, borrowed := nofun, freed := fun _ => rfl
      listed := nofun, nodup := nofun, creator_lists := nofun, owed_unlisted := nofun
      fresh_topic := fun _ => rfl, fresh_request := fun _ => rfl, created_past := nofun
      logged := fun _ => rfl }
  closed := rfl
  single := nofun

section Creation

variable (invariant : subscriptions.Invariant)
include invariant

theorem Invariant.connectionSubscribe (filter : String) (qos : Qos) (onSuback : Bool) :
    (subscriptions.connectionSubscribe filter qos onSuback).Invariant := by
  unfold Subscriptions.connectionSubscribe
  split
  · exact invariant.create
      ((Allocation.refl invariant.accounted.fresh_topic _ true).allocate rfl rfl rfl)
      (by simp [allocateTaskTopic, TaskArg.taskTopics]) (fun _ => rfl) (by rintro _ ⟨⟩; rfl)
  · exact invariant

theorem Invariant.connectionSubscribeLocal (filter : String) (onSuback : Bool) :
    (subscriptions.connectionSubscribeLocal filter onSuback).Invariant := by
  unfold Subscriptions.connectionSubscribeLocal
  split
  · exact invariant.create
      ((Allocation.refl invariant.accounted.fresh_topic _ true).allocate rfl rfl rfl)
      (by simp [allocateTaskTopic, TaskArg.taskTopics]) (fun _ => rfl) nofun
  · exact invariant

theorem Invariant.connectionSubscribeMultiple (topics : List TopicSubscription)
    (onSuback : Bool) : (subscriptions.connectionSubscribeMultiple topics onSuback).Invariant := by
  unfold Subscriptions.connectionSubscribeMultiple
  split
  · obtain ⟨allocation, allocated⟩ := @Allocation.allocateTaskTopics _ _ topics _ []
      (Allocation.refl invariant.accounted.fresh_topic subscriptions.nextRequest true)
    have grown := allocateTaskTopics_nextTaskTopic subscriptions.nextRequest topics subscriptions []
    rcases found : allocateTaskTopics subscriptions.nextRequest topics (subscriptions, [])
      with ⟨after, taskTopics⟩
    rw [found] at allocation allocated grown
    dsimp only at allocation allocated grown
    exact invariant.create allocation
      (by simp [TaskArg.taskTopics, allocated, grown]) (fun _ => rfl) nofun
  · exact invariant

theorem Invariant.connectionUnsubscribe (filter : String) (onUnsuback : Bool) :
    (subscriptions.connectionUnsubscribe filter onUnsuback).Invariant := by
  unfold Subscriptions.connectionUnsubscribe
  split
  · exact invariant.create (Allocation.refl invariant.accounted.fresh_topic _ true)
      (by simp [TaskArg.taskTopics]) (fun _ => rfl) nofun
  · exact invariant

theorem Invariant.resubscribeExistingTopics (onSuback : Bool) :
    (subscriptions.resubscribeExistingTopics onSuback).Invariant :=
  invariant.create (Allocation.refl invariant.accounted.fresh_topic _ true)
    (by simp [TaskArg.taskTopics]) (fun nonempty => absurd rfl nonempty) nofun

end Creation

/-! ## Send attempts -/

theorem Accounted.dropTransaction (accounted : subscriptions.Accounted owed)
    (free : ∀ taskTopic, subscriptions.transaction.countP (TreeAction.holds taskTopic) = 0) :
    ({ subscriptions with transaction := [] } : Subscriptions).Accounted owed :=
  @Accounted.unhold _ _ accounted subscriptions.subscriptions [] [] fun taskTopic => by
    simp [held, free]

/-- `after` is what a send attempt has made of `before` while its transaction may be
open: the books balance and the requests are as they were. -/
structure Staged (before after : Subscriptions) : Prop where
  accounted : after.Accounted []
  requests : after.requests = before.requests
  nextRequest : after.nextRequest = before.nextRequest

/-- `after` is what a send attempt has made of `before` once it returns: staged, with
the transaction closed. -/
structure Sent (before after : Subscriptions) extends Staged before after : Prop where
  closed : after.transaction = []

section Staged

variable {before after : Subscriptions} (staged : Staged before after)
include staged

theorem Staged.emit {event : Event} (notCleanUp : ∀ taskTopic, event ≠ .taskTopicCleanUp taskTopic) :
    Staged before (after.emit event) :=
  ⟨staged.accounted.emit notCleanUp, staged.requests, staged.nextRequest⟩

theorem Staged.drop
    (free : ∀ taskTopic, after.transaction.countP (TreeAction.holds taskTopic) = 0) :
    Sent before { after with transaction := [] } :=
  ⟨⟨staged.accounted.dropTransaction free, staged.requests, staged.nextRequest⟩, rfl⟩

theorem Staged.transactionCommit : Sent before after.transactionCommit :=
  have committed := staged.accounted.commitActions rfl
  ⟨⟨committed.1, by simp [Subscriptions.transactionCommit, staged.requests],
    by simp [Subscriptions.transactionCommit, staged.nextRequest]⟩, committed.2⟩

theorem Staged.transactionRollBack : Sent before after.transactionRollBack :=
  ⟨⟨staged.accounted.transactionRollBack, by simp [Subscriptions.transactionRollBack, staged.requests],
    by simp [Subscriptions.transactionRollBack, staged.nextRequest]⟩,
    by simp [Subscriptions.transactionRollBack]⟩

theorem Staged.handleError {treeUpdated : Bool}
    (free : treeUpdated = true →
      ∀ taskTopic, after.transaction.countP (TreeAction.holds taskTopic) = 0) :
    Sent before (after.handleError treeUpdated) := by
  cases treeUpdated
  · exact staged.transactionRollBack
  · exact staged.drop (free rfl)

end Staged

theorem Invariant.staged (invariant : subscriptions.Invariant) : Staged subscriptions subscriptions :=
  ⟨invariant.accounted, rfl, rfl⟩

theorem Invariant.sent (invariant : subscriptions.Invariant) : Sent subscriptions subscriptions :=
  ⟨invariant.staged, invariant.closed⟩

theorem acquire_taskTopics {taskTopic : Nat} {topic : SubscribeTaskTopic}
    (live : subscriptions.taskTopics taskTopic = some topic) (acquired : Nat) :
    ∃ topic', (subscriptions.acquire acquired).taskTopics taskTopic = some topic' ∧
      topic'.filter = topic.filter := by
  by_cases same : taskTopic = acquired
  · subst same
    simp [acquire, live]
  · simp [acquire, Function.update_noteq same, live]

theorem subscribeTopics_of_treeUpdated (failure : Option SendFailure) (initingPacket : Bool)
    (subscriptions : Subscriptions) :
    ∀ (index : Nat) (taskTopics : List Nat) (packet : List TopicSubscription),
      subscribeTopics failure initingPacket true index taskTopics (subscriptions, packet) =
          .error subscriptions ∨
        ∃ packet', subscribeTopics failure initingPacket true index taskTopics
          (subscriptions, packet) = .ok (subscriptions, packet')
  | _, [], packet => .inr ⟨packet, rfl⟩
  | index, _ :: rest, _ => by
      rw [Subscriptions.subscribeTopics]
      split
      · exact .inl rfl
      · exact subscribeTopics_of_treeUpdated failure initingPacket subscriptions (index + 1) rest _

theorem Staged.subscribeTopics {failure : Option SendFailure} {initingPacket : Bool}
    {before : Subscriptions} :
    ∀ {index : Nat} {taskTopics : List Nat} {after : Subscriptions}
      {packet : List TopicSubscription}, Staged before after →
      (∀ {taskTopic}, taskTopic ∈ taskTopics → ∃ topic,
        after.taskTopics taskTopic = some topic ∧ topic.filter.isSome) →
      ∃ result : Subscriptions, Staged before result ∧
        (subscribeTopics failure initingPacket false index taskTopics (after, packet) =
            .error result ∨
          ∃ packet', subscribeTopics failure initingPacket false index taskTopics
            (after, packet) = .ok (result, packet'))
  | _, [], after, packet, staged, _ => ⟨after, staged, .inr ⟨packet, rfl⟩⟩
  | index, taskTopic :: rest, after, _, staged, live => by
      obtain ⟨topic, found, owns⟩ := live (List.mem_cons_self _ _)
      rw [Subscriptions.subscribeTopics]
      split
      · exact ⟨after, staged, .inl rfl⟩
      simp only [Bool.false_eq_true, if_false]
      split
      · exact ⟨after, staged, .inl rfl⟩
      refine Staged.subscribeTopics
        ⟨@Accounted.stage _ _ staged.accounted ⟨_, _, taskTopic⟩ _ found owns, staged.requests,
          staged.nextRequest⟩ fun member => ?_
      obtain ⟨topic, found, owns⟩ := live (List.mem_cons_of_mem _ member)
      obtain ⟨topic', found', same⟩ := acquire_taskTopics found taskTopic
      exact ⟨topic', found', same ▸ owns⟩

theorem Sent.emit {before after : Subscriptions} (sent : Sent before after) {event : Event}
    (notCleanUp : ∀ taskTopic, event ≠ .taskTopicCleanUp taskTopic) :
    Sent before (after.emit event) :=
  ⟨sent.toStaged.emit notCleanUp, sent.closed⟩

theorem Sent.ite_fst {before : Subscriptions} {α : Type} {condition : Prop} [Decidable condition]
    {first second : Subscriptions × α} (sentFirst : Sent before first.1)
    (sentSecond : Sent before second.1) : Sent before (if condition then first else second).1 := by
  split
  exacts [sentFirst, sentSecond]

section Send

variable (invariant : subscriptions.Invariant)
include invariant

theorem Invariant.subscribeSend (request : Nat) {arg : SubscribeTaskArg}
    (failure : Option SendFailure)
    (live : ∀ {taskTopic}, taskTopic ∈ arg.topics → ∃ topic,
      subscriptions.taskTopics taskTopic = some topic ∧ topic.filter.isSome) :
    Sent subscriptions (subscriptions.subscribeSend request arg failure).1 ∧
      (subscriptions.subscribeSend request arg failure).2.1.topics = arg.topics := by
  have notCleanUp (packet : List TopicSubscription) (taskTopic : Nat) :
      Event.subscribePacket request packet ≠ .taskTopicCleanUp taskTopic := nofun
  unfold Subscriptions.subscribeSend
  dsimp only
  by_cases packetInit : (arg.subscribe.isNone && failure == some .packetInit) = true
  · rw [if_pos packetInit]
    exact ⟨invariant.sent, rfl⟩
  rw [if_neg packetInit]
  have topics : (if arg.subscribe.isNone = true then { arg with subscribe := some [] }
      else arg).topics = arg.topics := by split <;> rfl
  generalize (if arg.subscribe.isNone = true then { arg with subscribe := some [] }
      else arg) = sending at topics ⊢
  generalize arg.subscribe.isNone = initingPacket
  split
  · exact ⟨invariant.sent, topics⟩
  cases updated : sending.treeUpdated
  · obtain ⟨result, staged, fate⟩ := invariant.staged.subscribeTopics fun member =>
      live (topics ▸ member)
    rcases fate with ended | ⟨packet, ended⟩ <;> rw [ended]
    · exact ⟨staged.transactionRollBack, topics⟩
    dsimp only
    split
    · exact ⟨staged.transactionRollBack, topics⟩
    rw [if_neg Bool.false_ne_true]
    split
    · exact ⟨staged.transactionCommit, topics⟩
    · exact ⟨(staged.emit (notCleanUp packet)).transactionCommit, topics⟩
  · have free (taskTopic : Nat) :
        subscriptions.transaction.countP (TreeAction.holds taskTopic) = 0 := by
      simp [invariant.closed]
    rcases subscribeTopics_of_treeUpdated failure initingPacket subscriptions 0 sending.topics
      (sending.subscribe.getD []) with ended | ⟨packet, ended⟩ <;> rw [ended]
    · exact ⟨invariant.staged.drop free, topics⟩
    dsimp only
    split
    · exact ⟨invariant.staged.drop free, topics⟩
    rw [if_pos rfl]
    split
    · exact ⟨invariant.staged.drop free, topics⟩
    · exact ⟨(invariant.staged.emit (notCleanUp packet)).drop free, topics⟩

theorem Invariant.subscribeLocalSend {arg : SubscribeLocalTaskArg} (failure : Option SendFailure)
    {topic : SubscribeTaskTopic} (live : subscriptions.taskTopics arg.taskTopic = some topic)
    (owns : topic.filter.isSome) (creator : subscriptions.creatorReference topic = 1) :
    Sent subscriptions (subscriptions.subscribeLocalSend arg failure).1 := by
  unfold Subscriptions.subscribeLocalSend
  split
  · exact invariant.sent
  · exact ⟨⟨@Accounted.topicTreeInsert_acquire _ _ invariant.accounted ⟨_, _, arg.taskTopic⟩ _
        live owns creator, by simp [acquire, topicTreeInsert], by simp [acquire, topicTreeInsert]⟩,
      by simp [acquire, topicTreeInsert, invariant.closed]⟩

theorem Invariant.resubscribeSend {request : Nat} {tracked : TrackedRequest}
    (filed : subscriptions.requests request = some tracked)
    (arg : SubscribeTaskArg) (failure : Option SendFailure) :
    Sent subscriptions (subscriptions.resubscribeSend request arg failure).1 ∧
      (∀ {taskTopic}, taskTopic ∈ (subscriptions.resubscribeSend request arg failure).2.1.topics →
        ∃ topic, (subscriptions.resubscribeSend request arg failure).1.taskTopics taskTopic =
          some topic ∧ topic.createdBy = request ∧ topic.filter.isSome = false) ∧
      (subscriptions.resubscribeSend request arg failure).2.1.topics.Nodup := by
  obtain ⟨allocation, allocated⟩ := @Allocation.reconnectResubIterator _ request
    subscriptions.subscriptions _ []
    (Allocation.refl invariant.accounted.fresh_topic request false)
  have grown := reconnectResubIterator_nextTaskTopic request subscriptions.subscriptions
    subscriptions []
  rcases found : reconnectResubIterator request subscriptions.subscriptions (subscriptions, [])
    with ⟨after, topics⟩
  rw [found] at allocation allocated grown
  dsimp only at allocation allocated grown
  have sent : Sent subscriptions after :=
    ⟨⟨invariant.accounted.allocateBorrowed allocation (by simp [filed]), allocation.requests,
      allocation.nextRequest⟩, allocation.transaction.trans invariant.closed⟩
  have listed {taskTopic : Nat} (member : taskTopic ∈ topics) : ∃ topic,
      after.taskTopics taskTopic = some topic ∧ topic.createdBy = request ∧
        topic.filter.isSome = false := by
    rw [allocated, List.nil_append, List.mem_range'_1] at member
    obtain ⟨topic, live, -, created, borrows⟩ := allocation.new member.1 (by omega)
    exact ⟨topic, live, created, borrows⟩
  have nodup : topics.Nodup := allocated ▸ List.nodup_range' _ _
  have notCleanUp (packet : List TopicSubscription) (taskTopic : Nat) :
      Event.subscribePacket request packet ≠ .taskTopicCleanUp taskTopic := nofun
  generalize sending : subscriptions.resubscribeSend request arg failure = sent
  rw [Subscriptions.resubscribeSend, found] at sending
  dsimp only at sending
  repeat' obtain ⟨-, sending⟩ | ⟨-, sending⟩ := ite_eq_iff.mp sending
  all_goals subst sending
  all_goals first
    | exact ⟨invariant.sent, nofun, List.nodup_nil⟩
    | exact ⟨sent, listed, nodup⟩
    | exact ⟨sent.emit (notCleanUp _), listed, nodup⟩

theorem Invariant.unsubscribeSend (request : Nat) (arg : UnsubscribeTaskArg)
    (failure : Option SendFailure) :
    Sent subscriptions (subscriptions.unsubscribeSend request arg failure).1 := by
  have free (taskTopic : Nat) :
      subscriptions.transaction.countP (TreeAction.holds taskTopic) = 0 := by
    simp [invariant.closed]
  unfold Subscriptions.unsubscribeSend
  dsimp only
  split
  · exact invariant.staged.handleError fun _ => free
  rename_i staging _ result
  obtain ⟨staged, removes⟩ : Staged subscriptions staging ∧
      ∀ taskTopic, staging.transaction.countP (TreeAction.holds taskTopic) = 0 := by
    split at result
    · cases result
      exact ⟨invariant.staged, free⟩
    split at result
    · cases result
    cases result
    exact ⟨⟨invariant.accounted.transactionRemove _, rfl, rfl⟩, by
      simp [transactionRemove, invariant.closed, TreeAction.holds]⟩
  have notCleanUp (filter : String) (taskTopic : Nat) :
      Event.unsubscribePacket request filter ≠ .taskTopicCleanUp taskTopic := nofun
  repeat' apply Sent.ite_fst
  all_goals first
    | exact staged.handleError fun _ => removes
    | exact staged.drop removes
    | exact staged.transactionCommit
    | exact (staged.emit (notCleanUp _)).drop removes
    | exact (staged.emit (notCleanUp _)).transactionCommit

end Send

/-! ## Storing a task argument back -/

theorem Accounted.restore (accounted : subscriptions.Accounted owed) {request : Nat}
    {tracked : TrackedRequest} {taskArg : TaskArg} {ongoing : Bool}
    (filed : subscriptions.requests request = some tracked)
    (topics : taskArg.taskTopics = tracked.taskArg.taskTopics)
    (kind : taskArg.isResubscribe = tracked.taskArg.isResubscribe) :
    ({ subscriptions with
        requests := Function.update subscriptions.requests request (some ⟨taskArg, ongoing⟩) } :
      Subscriptions).Accounted owed :=
  accounted.storeRequest filed (fun member => kind ▸ accounted.listed filed (topics ▸ member))
    (topics ▸ accounted.nodup filed)
    (fun live owns created => topics ▸ accounted.creator_lists live owns (created ▸ filed))
    (fun member live owns => topics ▸ accounted.owed_unlisted member live owns filed)

theorem Accounted.resubscribe_borrows (accounted : subscriptions.Accounted owed) {request : Nat}
    {tracked : TrackedRequest} (filed : subscriptions.requests request = some tracked)
    (resubscribe : tracked.taskArg.isResubscribe) {taskTopic : Nat} {topic : SubscribeTaskTopic}
    (live : subscriptions.taskTopics taskTopic = some topic) (created : topic.createdBy = request) :
    topic.filter = none := by
  by_contra owned
  have owns : topic.filter.isSome := Option.isSome_iff_ne_none.mpr owned
  obtain ⟨found, live', -, borrows⟩ :=
    accounted.listed filed (accounted.creator_lists live owns (created ▸ filed))
  rw [live, Option.some.injEq] at live'
  subst live'
  simp [resubscribe, owns] at borrows

theorem Accounted.storeResubscribe (accounted : subscriptions.Accounted []) {request : Nat}
    {tracked : TrackedRequest} (filed : subscriptions.requests request = some tracked)
    (resubscribe : tracked.taskArg.isResubscribe) {arg : SubscribeTaskArg} {ongoing : Bool}
    (listed : ∀ {taskTopic}, taskTopic ∈ arg.topics → ∃ topic,
      subscriptions.taskTopics taskTopic = some topic ∧ topic.createdBy = request ∧
        topic.filter.isSome = false)
    (nodup : arg.topics.Nodup) :
    ({ subscriptions with
        requests := Function.update subscriptions.requests request
          (some ⟨.resubscribe arg, ongoing⟩) } : Subscriptions).Accounted [] :=
  accounted.storeRequest filed listed nodup
    (fun live owns created => absurd (accounted.resubscribe_borrows filed resubscribe live created)
      (Option.isSome_iff_ne_none.mp owns))
    nofun

theorem Invariant.single_update (invariant : subscriptions.Invariant) {request : Nat}
    {taskArg : TaskArg} {ongoing : Bool}
    (single : ∀ {arg}, taskArg = .subscribe arg → arg.topics.length = 1) {other : Nat}
    {tracked : TrackedRequest} {arg : SubscribeTaskArg}
    (filed : Function.update subscriptions.requests request (some ⟨taskArg, ongoing⟩) other =
      some tracked) (isSubscribe : tracked.taskArg = .subscribe arg) : arg.topics.length = 1 := by
  by_cases same : other = request
  · subst same
    simp only [Function.update_same, Option.some.injEq] at filed
    subst filed
    exact single isSubscribe
  · rw [Function.update_noteq same] at filed
    exact invariant.single filed isSubscribe

theorem Invariant.restore (invariant : subscriptions.Invariant) {request : Nat}
    {tracked : TrackedRequest} (filed : subscriptions.requests request = some tracked)
    (ongoing : Bool) :
    ({ subscriptions with
        requests := Function.update subscriptions.requests request
          (some ⟨tracked.taskArg, ongoing⟩) } : Subscriptions).Invariant where
  accounted := invariant.accounted.restore filed rfl rfl
  closed := invariant.closed
  single := invariant.single_update (invariant.single filed)

/-- A send attempt of `request` from `before`, leaving `after` and the task argument
`taskArg`, as the engine needs it: the state is sent, the argument can be stored
back, and a `subscribe` argument still lists one topic. -/
structure Attempt (before after : Subscriptions) (request : Nat) (taskArg : TaskArg)
    extends Sent before after : Prop where
  stored : ∀ ongoing, ({ after with
    requests := Function.update after.requests request (some ⟨taskArg, ongoing⟩) } :
      Subscriptions).Accounted []
  single : ∀ {arg}, taskArg = .subscribe arg → arg.topics.length = 1

theorem Attempt.store {before after : Subscriptions} {request : Nat} {taskArg : TaskArg}
    (attempt : Attempt before after request taskArg) (invariant : before.Invariant)
    (ongoing : Bool) :
    ({ after with
        requests := Function.update after.requests request (some ⟨taskArg, ongoing⟩) } :
      Subscriptions).Invariant where
  accounted := attempt.stored ongoing
  closed := attempt.closed
  single := by
    rw [attempt.requests]
    exact invariant.single_update attempt.single

theorem Invariant.send (invariant : subscriptions.Invariant) {request : Nat}
    {tracked : TrackedRequest} (filed : subscriptions.requests request = some tracked)
    (failure : Option SendFailure) :
    Attempt subscriptions (subscriptions.send request failure tracked.taskArg).1 request
      (subscriptions.send request failure tracked.taskArg).2.1 := by
  obtain ⟨taskArg, ongoing⟩ := tracked
  have owning {taskTopic : Nat} (member : taskTopic ∈ taskArg.taskTopics)
      (kind : taskArg.isResubscribe = false) :
      ∃ topic, subscriptions.taskTopics taskTopic = some topic ∧ topic.filter.isSome := by
    obtain ⟨topic, live, -, owns⟩ := invariant.accounted.listed filed member
    exact ⟨topic, live, by rw [owns, kind]; rfl⟩
  cases taskArg with
  | subscribe arg =>
      obtain ⟨sent, topics⟩ := invariant.subscribeSend request failure fun member =>
        owning member rfl
      refine ⟨sent, fun _ => sent.accounted.restore ((congrFun sent.requests _).trans filed)
        topics rfl, fun same => ?_⟩
      cases same
      rw [topics]
      exact invariant.single filed rfl
  | subscribeMultiple arg =>
      obtain ⟨sent, topics⟩ := invariant.subscribeSend request failure fun member =>
        owning member rfl
      exact ⟨sent, fun _ => sent.accounted.restore ((congrFun sent.requests _).trans filed)
        topics rfl, nofun⟩
  | subscribeLocal arg =>
      obtain ⟨topic, live, -, owns⟩ := invariant.accounted.listed filed (List.mem_singleton_self _)
      have sent := invariant.subscribeLocalSend failure live (by rw [owns]; rfl)
        (invariant.accounted.listed_reference filed (List.mem_singleton_self _) live)
      exact ⟨sent, fun _ => sent.accounted.restore ((congrFun sent.requests _).trans filed)
        rfl rfl, nofun⟩
  | resubscribe arg =>
      obtain ⟨sent, listed, nodup⟩ := invariant.resubscribeSend filed arg failure
      exact ⟨sent, fun _ => sent.accounted.storeResubscribe
        ((congrFun sent.requests _).trans filed) rfl listed nodup, nofun⟩
  | unsubscribe arg =>
      have sent := invariant.unsubscribeSend request arg failure
      exact ⟨sent, fun _ => sent.accounted.restore ((congrFun sent.requests _).trans filed)
        rfl rfl, nofun⟩

/-! ## Completions -/

theorem complete_eq (subscriptions : Subscriptions) (request : Nat) (errorCode : ErrorCode)
    {taskArg : TaskArg} (single : ∀ {arg}, taskArg = .subscribe arg → arg.topics.length = 1) :
    ∃ callback : Option Event, (∀ taskTopic, callback ≠ some (.taskTopicCleanUp taskTopic)) ∧
      subscriptions.complete request errorCode taskArg =
        (callback.elim subscriptions subscriptions.emit).releaseAll taskArg.taskTopics := by
  cases taskArg with
  | subscribe arg =>
      refine ⟨if arg.single then some (.onSuback request errorCode) else none,
        by split <;> simp, ?_⟩
      rw [Subscriptions.complete, subscribeSingleComplete,
        List.take_of_length_le (single rfl).le]
      split <;> rfl
  | subscribeMultiple arg =>
      refine ⟨if arg.multi || arg.single then some (.onSuback request errorCode) else none,
        by split <;> simp, ?_⟩
      rw [Subscriptions.complete, subscribeComplete]
      split <;> rfl
  | subscribeLocal arg =>
      refine ⟨if arg.onSuback then some (.onSuback request errorCode) else none,
        by split <;> simp, ?_⟩
      rw [Subscriptions.complete, subscribeLocalComplete]
      split <;> rfl
  | resubscribe arg =>
      refine ⟨if arg.topics.isEmpty then none
        else if arg.multi || arg.single then some (.onSuback request errorCode) else none,
        by split_ifs <;> simp, ?_⟩
      rw [Subscriptions.complete, resubscribeComplete]
      split_ifs <;> rfl
  | unsubscribe arg =>
      refine ⟨if arg.onUnsuback then some (.onUnsuback request errorCode) else none,
        by split <;> simp, ?_⟩
      rw [Subscriptions.complete, unsubscribeComplete]
      split <;> rfl

section Complete

variable {taskArg : TaskArg} (single : ∀ {arg}, taskArg = .subscribe arg → arg.topics.length = 1)
  (request : Nat) (errorCode : ErrorCode)
include single

theorem Accounted.complete (accounted : subscriptions.Accounted (taskArg.taskTopics ++ owed)) :
    (subscriptions.complete request errorCode taskArg).Accounted owed := by
  obtain ⟨callback, notCleanUp, completed⟩ := complete_eq subscriptions request errorCode single
  rw [completed]
  refine Accounted.releaseAll ?_
  cases callback with
  | none => exact accounted
  | some event => exact accounted.emit fun taskTopic same => notCleanUp taskTopic (congrArg some same)

theorem complete_requests :
    (subscriptions.complete request errorCode taskArg).requests = subscriptions.requests := by
  obtain ⟨callback, -, completed⟩ := complete_eq subscriptions request errorCode single
  cases callback <;> simp [completed, emit]

theorem complete_transaction :
    (subscriptions.complete request errorCode taskArg).transaction = subscriptions.transaction := by
  obtain ⟨callback, -, completed⟩ := complete_eq subscriptions request errorCode single
  cases callback <;> simp [completed, emit]

end Complete

theorem Invariant.finishRequest (invariant : subscriptions.Invariant) {request : Nat}
    {tracked : TrackedRequest} (filed : subscriptions.requests request = some tracked)
    (errorCode : ErrorCode) : (subscriptions.finishRequest request tracked.taskArg errorCode).Invariant where
  accounted := (invariant.accounted.removeRequest filed).complete (invariant.single filed) _ _
  closed := by
    rw [Subscriptions.finishRequest, complete_transaction (invariant.single filed)]
    exact invariant.closed
  single {other} := by
    rw [Subscriptions.finishRequest, complete_requests (invariant.single filed)]
    intro _ _ filed' isSubscribe
    by_cases same : other = request
    · subst same
      simp at filed'
    · exact invariant.single ((Function.update_noteq same _ _).symm.trans filed') isSubscribe

theorem finishRequest_store (subscriptions : Subscriptions) (request : Nat) (taskArg : TaskArg)
    (errorCode : ErrorCode) (ongoing : Bool) :
    ({ subscriptions with
        requests := Function.update subscriptions.requests request (some ⟨taskArg, ongoing⟩) } :
      Subscriptions).finishRequest request taskArg errorCode =
      subscriptions.finishRequest request taskArg errorCode := by
  simp only [Subscriptions.finishRequest, Function.update_idem]

theorem Invariant.sendRequest (invariant : subscriptions.Invariant) {request : Nat}
    {tracked : TrackedRequest} (filed : subscriptions.requests request = some tracked)
    (failure : Option SendFailure) :
    (subscriptions.sendRequest request tracked.taskArg failure).Invariant := by
  have attempt := invariant.send filed failure
  have stored := attempt.store invariant true
  have finished (errorCode : ErrorCode) := stored.finishRequest (Function.update_same _ _ _) errorCode
  unfold Subscriptions.sendRequest
  dsimp only
  split
  · exact stored
  · exact finishRequest_store _ _ _ _ true ▸ finished .success
  · exact finishRequest_store _ _ _ _ true ▸ finished .other

theorem Invariant.topicTreeCleanUp (invariant : subscriptions.Invariant) :
    subscriptions.topicTreeCleanUp.Invariant where
  accounted := invariant.accounted.topicTreeCleanUp
  closed := by simp [Subscriptions.topicTreeCleanUp, invariant.closed]
  single := by
    simp only [Subscriptions.topicTreeCleanUp, releaseAll_requests]
    exact invariant.single

/-! ## Runs -/

theorem Invariant.step (invariant : subscriptions.Invariant) {action : Action}
    {next : Subscriptions} (stepped : subscriptions.step action = some next) : next.Invariant := by
  cases action with
  | subscribe filter qos onSuback =>
      cases stepped
      exact invariant.connectionSubscribe filter qos onSuback
  | subscribeMultiple topics onSuback =>
      cases stepped
      exact invariant.connectionSubscribeMultiple topics onSuback
  | subscribeLocal filter onSuback =>
      cases stepped
      exact invariant.connectionSubscribeLocal filter onSuback
  | unsubscribe filter onUnsuback =>
      cases stepped
      exact invariant.connectionUnsubscribe filter onUnsuback
  | resubscribeExistingTopics onSuback =>
      cases stepped
      exact invariant.resubscribeExistingTopics onSuback
  | send request failure =>
      rcases filed : subscriptions.requests request with _ | tracked
      · simp [Subscriptions.step, filed] at stepped
      simp only [Subscriptions.step, filed, Option.some_bind] at stepped
      split at stepped
      · cases stepped
      · cases stepped
        exact invariant.sendRequest filed failure
  | complete request errorCode =>
      rcases filed : subscriptions.requests request with _ | tracked
      · simp [Subscriptions.step, filed] at stepped
      simp only [Subscriptions.step, filed, Option.map_some', Option.some.injEq] at stepped
      subst stepped
      exact invariant.finishRequest filed errorCode
  | requeue request =>
      rcases filed : subscriptions.requests request with _ | tracked
      · simp [Subscriptions.step, filed] at stepped
      simp only [Subscriptions.step, filed, Option.some_bind] at stepped
      split at stepped
      · cases stepped
        exact invariant.restore filed false
      · cases stepped
  | destroy =>
      cases stepped
      exact invariant.topicTreeCleanUp

theorem run_invariant : ∀ {actions : List Action} {subscriptions final : Subscriptions},
    subscriptions.Invariant → subscriptions.run actions = some final → final.Invariant
  | [], _, _, invariant, ran => by
      cases ran
      exact invariant
  | action :: _, subscriptions, _, invariant, ran => by
      rcases stepped : subscriptions.step action with _ | next
      · simp [Subscriptions.run, stepped] at ran
      · simp only [Subscriptions.run, stepped, Option.some_bind] at ran
        exact run_invariant (invariant.step stepped) ran

/-- Over every run, every live task topic has a positive count, and one that owns its
filter counts one reference for its request until that request completes and one for
each insert of the tree, staged or committed: it is freed once both are done with it. A
freed topic is held by neither the tree nor a live request; and the clean up has run
once for each freed topic and never for a live one. -/
theorem task_topic_reference_count {actions : List Action} {final : Subscriptions}
    (ran : initial.run actions = some final) :
    (∀ {taskTopic topic}, final.taskTopics taskTopic = some topic → 0 < topic.refCount ∧
      (topic.filter.isSome →
        topic.refCount = final.creatorReference topic + final.held taskTopic)) ∧
    (∀ {taskTopic}, final.taskTopics taskTopic = none →
      final.held taskTopic = 0 ∧ ∀ {request tracked}, final.requests request = some tracked →
        taskTopic ∉ tracked.taskArg.taskTopics) ∧
    ∀ taskTopic, final.log.count (.taskTopicCleanUp taskTopic) =
      if taskTopic < final.nextTaskTopic ∧ final.taskTopics taskTopic = none then 1 else 0 := by
  have accounted := (run_invariant initial_invariant ran).accounted
  refine ⟨fun live => ⟨accounted.positive live, fun owns => by
      simpa using accounted.balanced live owns⟩,
    fun gone => ⟨accounted.freed gone, fun filed member => ?_⟩, accounted.logged⟩
  obtain ⟨_, live, -⟩ := accounted.listed filed member
  simp [gone] at live

theorem task_topic_reference_count_after_unsubscribe :
    ∃ final, initial.run [.subscribe "a/+" .atLeastOnce true, .send 0 none,
        .complete 0 .success, .unsubscribe "a/+" true, .send 1 none] = some final ∧
      (∀ {taskTopic topic}, final.taskTopics taskTopic = some topic → 0 < topic.refCount ∧
        (topic.filter.isSome →
          topic.refCount = final.creatorReference topic + final.held taskTopic)) ∧
      (∀ {taskTopic}, final.taskTopics taskTopic = none →
        final.held taskTopic = 0 ∧ ∀ {request tracked}, final.requests request = some tracked →
          taskTopic ∉ tracked.taskArg.taskTopics) ∧
      ∀ taskTopic, final.log.count (.taskTopicCleanUp taskTopic) =
        if taskTopic < final.nextTaskTopic ∧ final.taskTopics taskTopic = none then 1 else 0 := by
  refine ⟨?final, ?ran, task_topic_reference_count ?ran⟩
  case ran => exact rfl

end Subscriptions

end MqttClient
