import MqttClient.Basic
import Mathlib.Logic.Function.Basic

/-! # The link between an operation and its timeout

The two-way link between an operation and its timeout task, which each side breaks
when it runs first. Task arguments are named by allocation, so a freed one is never
named again. -/

namespace MqttClient

/-- `enum aws_task_status`. -/
inductive TaskStatus
  | runReady
  | canceled
  deriving DecidableEq, Repr

/-- A publish or unsubscribe task argument, by its packet id and its
`timeout_wrapper.timeout_task_arg`. -/
structure Operation where
  packetId : UInt16
  timeoutTaskArg : Option Nat
  deriving DecidableEq, Repr

/-- `struct request_timeout_task_arg`. `armedBy` is not in the code: it records
the operation whose send scheduled the timeout. -/
structure TimeoutTaskArg where
  packetId : UInt16
  taskArgWrapper : Option Nat
  armedBy : Nat
  deriving DecidableEq, Repr

/-- The live operations and timeouts, the request table, the allocation counters,
and (not in the code) the operations completed so far, in order. -/
structure Links where
  operations : Nat → Option Operation
  timeouts : Nat → Option TimeoutTaskArg
  outstandingRequestsTable : UInt16 → Option Nat
  nextOperation : Nat
  nextTimeout : Nat
  completed : List Nat

namespace Links

def initial : Links := ⟨fun _ => none, fun _ => none, fun _ => none, 0, 0, []⟩

/-- Modelled from the spec: `mqtt_create_request` (in `client_channel_handler.c`)
files a new operation under a packet id that is neither 0 nor outstanding, and
fails otherwise. -/
def mqttCreateRequest (links : Links) (packetId : UInt16) : Option Links :=
  if packetId ≠ 0 ∧ links.outstandingRequestsTable packetId = none then
    some { links with
      operations := Function.update links.operations links.nextOperation (some ⟨packetId, none⟩)
      outstandingRequestsTable :=
        Function.update links.outstandingRequestsTable packetId (some links.nextOperation)
      nextOperation := links.nextOperation + 1 }
  else none

/-- `s_schedule_timeout_task` and the links set up after it by `s_publish_send` and
`s_unsubscribe_send`: a timeout for the operation's packet id, pointing back at the
operation, which now points at it. -/
def scheduleTimeoutTask (links : Links) (operation : Nat) : Option Links :=
  (links.operations operation).map fun task => { links with
    operations := Function.update links.operations operation
      (some { task with timeoutTaskArg := some links.nextTimeout })
    timeouts := Function.update links.timeouts links.nextTimeout
      (some ⟨task.packetId, some operation, operation⟩)
    nextTimeout := links.nextTimeout + 1 }

/-- `s_publish_complete` and `s_unsubscribe_complete`: a forward link still set
means the timeout has not run, so its back link is cleared; the task argument is
freed. -/
def operationComplete (links : Links) (operation : Nat) : Links :=
  { links with
    operations := Function.update links.operations operation none
    timeouts := match (links.operations operation).bind Operation.timeoutTaskArg with
      | some timeout => Function.update links.timeouts timeout
          ((links.timeouts timeout).map fun arg => { arg with taskArgWrapper := none })
      | none => links.timeouts
    completed := links.completed ++ [operation] }

/-- Modelled from the spec: `mqtt_request_complete` (in `client_channel_handler.c`)
removes the packet id from the table and completes the operation filed under it,
if there is one. -/
def mqttRequestComplete (links : Links) (packetId : UInt16) : Links :=
  match links.outstandingRequestsTable packetId with
  | none => links
  | some operation => operationComplete { links with
      outstandingRequestsTable := Function.update links.outstandingRequestsTable packetId none }
      operation

/-- The tail of `s_request_timeout`: a back link still set is cleared on the
operation's side, and the timeout is freed. -/
def releaseTimeout (links : Links) (timeout : Nat) : Links :=
  { links with
    operations := match (links.timeouts timeout).bind TimeoutTaskArg.taskArgWrapper with
      | some operation => Function.update links.operations operation
          ((links.operations operation).map fun task => { task with timeoutTaskArg := none })
      | none => links.operations
    timeouts := Function.update links.timeouts timeout none }

/-- `s_request_timeout`: a run that finds its back link set completes the packet
id, then the links are released, whether it ran or was cancelled. -/
def requestTimeout (links : Links) (timeout : Nat) (status : TaskStatus) : Links :=
  match links.timeouts timeout with
  | none => links
  | some arg =>
      releaseTimeout
        (if status = .runReady ∧ arg.taskArgWrapper.isSome then
          links.mqttRequestComplete arg.packetId
        else links) timeout

/-- Every timeout the operation armed earlier has run or been cancelled: the
premise under which a request is re-sent on a later channel. -/
def disarmed (links : Links) (operation : Nat) : Bool :=
  (List.range links.nextTimeout).all fun timeout =>
    (links.timeouts timeout).all fun arg => arg.armedBy != operation

/-- What can happen to the operations and timeouts of a connection. -/
inductive Action
  | createRequest (packetId : UInt16)
  /-- A send that arms a timeout. -/
  | scheduleTimeout (operation : Nat)
  | requestTimeout (timeout : Nat) (status : TaskStatus)
  /-- A completion by any other route: an acknowledgement, a send result of
  COMPLETE or ERROR, a clean-session cancellation, destruction. -/
  | requestComplete (packetId : UInt16)
  deriving DecidableEq, Repr

def step (links : Links) : Action → Option Links
  | .createRequest packetId => links.mqttCreateRequest packetId
  | .scheduleTimeout operation =>
      if links.disarmed operation then links.scheduleTimeoutTask operation else none
  | .requestTimeout timeout status =>
      (links.timeouts timeout).map fun _ => links.requestTimeout timeout status
  | .requestComplete packetId => some (links.mqttRequestComplete packetId)

def run (links : Links) : List Action → Option Links
  | [] => some links
  | action :: actions => (links.step action).bind fun next => next.run actions

/-- The forward links, operation to timeout. -/
def forwardLinks (links : Links) : Nat → Option Nat :=
  (·.bind Operation.timeoutTaskArg) ∘ links.operations

/-- The back links, timeout to operation. -/
def backLinks (links : Links) : Nat → Option Nat :=
  (·.bind TimeoutTaskArg.taskArgWrapper) ∘ links.timeouts

/-- The packet id of each live operation. -/
def packetIds (links : Links) : Nat → Option UInt16 :=
  (·.map Operation.packetId) ∘ links.operations

/-- The packet id and the arming operation of each live timeout. -/
def armings (links : Links) : Nat → Option (UInt16 × Nat) :=
  (·.map fun arg => (arg.packetId, arg.armedBy)) ∘ links.timeouts

end Links

/-! ## Pointer pairs -/

/-- Two maps of nullable pointers that are each other's inverse. -/
def Inverse {α β : Type} (forward : α → Option β) (back : β → Option α) : Prop :=
  ∀ source target, forward source = some target ↔ back target = some source

namespace Inverse

variable {α β : Type} {forward : α → Option β} {back : β → Option α}

theorem symm (inverse : Inverse forward back) : Inverse back forward :=
  fun source target => (inverse target source).symm

theorem clear [DecidableEq α] (inverse : Inverse forward back) {source : α}
    (unlinked : ∀ target, back target ≠ some source) :
    Inverse (Function.update forward source none) back := by
  intro other target
  by_cases same : other = source
  · subst same
    simpa [eq_comm] using unlinked target
  · simpa [Function.update_noteq same] using inverse other target

theorem link [DecidableEq α] [DecidableEq β] (inverse : Inverse forward back) {source : α} {target : β}
    (free : forward source = none) (fresh : back target = none) :
    Inverse (Function.update forward source (some target))
      (Function.update back target (some source)) := by
  intro other destination
  by_cases sameSource : other = source <;> by_cases sameTarget : destination = target
  · subst sameSource sameTarget
    simp
  · subst sameSource
    have unlinked : back destination ≠ some other := fun back =>
      by simp [(inverse other destination).mpr back] at free
    simp [Function.update_noteq sameTarget, unlinked, Ne.symm sameTarget]
  · subst sameTarget
    have unlinked : forward other ≠ some destination := fun forward =>
      by simp [(inverse other destination).mp forward] at fresh
    simp [Function.update_noteq sameSource, unlinked, Ne.symm sameSource]
  · simpa [Function.update_noteq sameSource, Function.update_noteq sameTarget] using
      inverse other destination

theorem unlink [DecidableEq α] [DecidableEq β] (inverse : Inverse forward back) (source : α) :
    Inverse (Function.update forward source none)
      ((forward source).elim back fun target => Function.update back target none) := by
  cases linked : forward source with
  | none =>
      exact inverse.clear fun target back => by simp [(inverse source target).mpr back] at linked
  | some target =>
      have backLinked := (inverse source target).mp linked
      intro other destination
      by_cases sameSource : other = source <;> by_cases sameTarget : destination = target
      · subst sameSource sameTarget
        simp
      · subst sameSource
        have unlinked : back destination ≠ some other := fun back => by
          simp [(inverse other destination).mpr back] at linked
          exact sameTarget linked
        simp [Function.update_noteq sameTarget, unlinked]
      · subst sameTarget
        have unlinked : forward other ≠ some destination := fun forward => by
          simp [(inverse other destination).mp forward] at backLinked
          exact sameSource backLinked
        simp [Function.update_noteq sameSource, unlinked]
      · simpa [Function.update_noteq sameSource, Function.update_noteq sameTarget] using
          inverse other destination

theorem unlink_of_linked [DecidableEq α] [DecidableEq β] (inverse : Inverse forward back) {source : α} {target : β}
    (linked : forward source = some target) :
    Inverse (Function.update forward source none) (Function.update back target none) := by
  simpa [linked] using inverse.unlink source

end Inverse

namespace Links

/-! ## What each operation changes -/

variable (links : Links)

@[simp] theorem operationComplete_operations (operation : Nat) :
    (links.operationComplete operation).operations =
      Function.update links.operations operation none := rfl

@[simp] theorem operationComplete_outstandingRequestsTable (operation : Nat) :
    (links.operationComplete operation).outstandingRequestsTable =
      links.outstandingRequestsTable := rfl

@[simp] theorem operationComplete_nextOperation (operation : Nat) :
    (links.operationComplete operation).nextOperation = links.nextOperation := rfl

@[simp] theorem operationComplete_nextTimeout (operation : Nat) :
    (links.operationComplete operation).nextTimeout = links.nextTimeout := rfl

@[simp] theorem operationComplete_completed (operation : Nat) :
    (links.operationComplete operation).completed = links.completed ++ [operation] := rfl

theorem operationComplete_timeouts (operation timeout : Nat) :
    (links.operationComplete operation).timeouts timeout =
      (links.timeouts timeout).map fun arg =>
        if links.forwardLinks operation = some timeout then { arg with taskArgWrapper := none }
        else arg := by
  simp only [operationComplete, forwardLinks, Function.comp_apply]
  rcases ((links.operations operation).bind Operation.timeoutTaskArg).eq_none_or_eq_some with
    linked | ⟨target, linked⟩
  · simp [linked]
  · by_cases same : timeout = target
    · subst same
      simp [linked]
    · simp [linked, Function.update_noteq same, Ne.symm same]

theorem operationComplete_forwardLinks (operation : Nat) :
    (links.operationComplete operation).forwardLinks =
      Function.update links.forwardLinks operation none := by
  simp only [forwardLinks, operationComplete_operations, Function.comp_update]
  rfl

theorem operationComplete_backLinks (operation : Nat) :
    (links.operationComplete operation).backLinks =
      (links.forwardLinks operation).elim links.backLinks fun timeout =>
        Function.update links.backLinks timeout none := by
  simp only [operationComplete, backLinks, forwardLinks, Function.comp_apply]
  rcases ((links.operations operation).bind Operation.timeoutTaskArg).eq_none_or_eq_some with
    linked | ⟨timeout, linked⟩
  · simp [linked]
  · simp only [linked, Option.elim_some, Function.comp_update]
    cases links.timeouts timeout <;> rfl

theorem operationComplete_packetIds (operation : Nat) :
    (links.operationComplete operation).packetIds =
      Function.update links.packetIds operation none := by
  simp only [packetIds, operationComplete_operations, Function.comp_update]
  rfl

theorem operationComplete_armings (operation : Nat) :
    (links.operationComplete operation).armings = links.armings := by
  funext timeout
  simp only [armings, Function.comp_apply, operationComplete_timeouts, Option.map_map]
  congr 1
  funext arg
  split <;> rfl

@[simp] theorem releaseTimeout_timeouts (timeout : Nat) :
    (links.releaseTimeout timeout).timeouts = Function.update links.timeouts timeout none := rfl

@[simp] theorem releaseTimeout_outstandingRequestsTable (timeout : Nat) :
    (links.releaseTimeout timeout).outstandingRequestsTable = links.outstandingRequestsTable :=
  rfl

@[simp] theorem releaseTimeout_nextOperation (timeout : Nat) :
    (links.releaseTimeout timeout).nextOperation = links.nextOperation := rfl

@[simp] theorem releaseTimeout_nextTimeout (timeout : Nat) :
    (links.releaseTimeout timeout).nextTimeout = links.nextTimeout := rfl

@[simp] theorem releaseTimeout_completed (timeout : Nat) :
    (links.releaseTimeout timeout).completed = links.completed := rfl

theorem releaseTimeout_operations (timeout operation : Nat) :
    (links.releaseTimeout timeout).operations operation =
      (links.operations operation).map fun task =>
        if links.backLinks timeout = some operation then { task with timeoutTaskArg := none }
        else task := by
  simp only [releaseTimeout, backLinks, Function.comp_apply]
  rcases ((links.timeouts timeout).bind TimeoutTaskArg.taskArgWrapper).eq_none_or_eq_some with
    linked | ⟨target, linked⟩
  · simp [linked]
  · by_cases same : operation = target
    · subst same
      simp [linked]
    · simp [linked, Function.update_noteq same, Ne.symm same]

theorem releaseTimeout_backLinks (timeout : Nat) :
    (links.releaseTimeout timeout).backLinks = Function.update links.backLinks timeout none := by
  simp only [backLinks, releaseTimeout_timeouts, Function.comp_update]
  rfl

theorem releaseTimeout_forwardLinks (timeout : Nat) :
    (links.releaseTimeout timeout).forwardLinks =
      (links.backLinks timeout).elim links.forwardLinks fun operation =>
        Function.update links.forwardLinks operation none := by
  simp only [releaseTimeout, backLinks, forwardLinks, Function.comp_apply]
  rcases ((links.timeouts timeout).bind TimeoutTaskArg.taskArgWrapper).eq_none_or_eq_some with
    linked | ⟨operation, linked⟩
  · simp [linked]
  · simp only [linked, Option.elim_some, Function.comp_update]
    cases links.operations operation <;> rfl

theorem releaseTimeout_packetIds (timeout : Nat) :
    (links.releaseTimeout timeout).packetIds = links.packetIds := by
  funext operation
  simp only [packetIds, Function.comp_apply, releaseTimeout_operations, Option.map_map]
  congr 1
  funext task
  split <;> rfl

theorem releaseTimeout_armings (timeout : Nat) :
    (links.releaseTimeout timeout).armings = Function.update links.armings timeout none := by
  simp only [armings, releaseTimeout_timeouts, Function.comp_update]
  rfl

end Links

namespace Links

/-! ## The link invariant -/

/-- What every reachable state satisfies: the two sides of every link agree, the
table indexes exactly the live operations, a back link names the operation that
armed the timeout and is still filed under the timeout's packet id, nothing is named
before it is allocated, and each operation is completed at most once, after which
it is gone. -/
structure Consistent (links : Links) : Prop where
  linked : Inverse links.forwardLinks links.backLinks
  filed : Inverse links.packetIds links.outstandingRequestsTable
  back_armed : ∀ {timeout operation}, links.backLinks timeout = some operation →
    ∃ packetId, links.armings timeout = some (packetId, operation) ∧
      links.outstandingRequestsTable packetId = some operation
  fresh_operation : ∀ {operation}, links.nextOperation ≤ operation →
    links.operations operation = none
  fresh_timeout : ∀ {timeout}, links.nextTimeout ≤ timeout → links.timeouts timeout = none
  armed_past : ∀ {timeout packetId operation},
    links.armings timeout = some (packetId, operation) → operation < links.nextOperation
  completed_nodup : links.completed.Nodup
  completed_past : ∀ {operation}, operation ∈ links.completed →
    operation < links.nextOperation ∧ links.operations operation = none

variable {links next : Links}

theorem initial_consistent : initial.Consistent where
  linked := by simp [Inverse, forwardLinks, backLinks, initial]
  filed := by simp [Inverse, packetIds, initial]
  back_armed := by simp [backLinks, initial]
  fresh_operation := by simp [initial]
  fresh_timeout := by simp [initial]
  armed_past := by simp [armings, initial]
  completed_nodup := .nil
  completed_past := by simp [initial]

theorem Consistent.live_below (consistent : links.Consistent) {operation : Nat}
    {task : Operation} (live : links.operations operation = some task) :
    operation < links.nextOperation := by
  by_contra beyond
  simp [consistent.fresh_operation (not_lt.mp beyond)] at live

theorem Consistent.back_live (consistent : links.Consistent) {timeout operation : Nat}
    (back : links.backLinks timeout = some operation) :
    (links.operations operation).isSome ∧ operation ∉ links.completed := by
  obtain ⟨packetId, -, filed⟩ := consistent.back_armed back
  have live := (consistent.filed operation packetId).mpr filed
  simp only [packetIds, Function.comp_apply, Option.map_eq_some'] at live
  obtain ⟨task, alive, -⟩ := live
  exact ⟨by simp [alive], fun done => by simp [(consistent.completed_past done).2] at alive⟩

/-! ## Each operation keeps the invariant -/

theorem mqttCreateRequest_consistent (consistent : links.Consistent) {packetId : UInt16}
    (created : links.mqttCreateRequest packetId = some next) : next.Consistent := by
  unfold mqttCreateRequest at created
  split at created
  swap
  · cases created
  obtain ⟨-, free⟩ := ‹packetId ≠ 0 ∧ links.outstandingRequestsTable packetId = none›
  cases created
  have fresh := consistent.fresh_operation (le_refl links.nextOperation)
  have unarmed : ∀ timeout, links.backLinks timeout ≠ some links.nextOperation := by
    intro timeout back
    obtain ⟨_, armed, -⟩ := consistent.back_armed back
    exact lt_irrefl _ (consistent.armed_past armed)
  refine ⟨?_, ?_, ?_, ?_, ?_, ?_, ?_, ?_⟩ <;> dsimp only
  · simp only [forwardLinks, Function.comp_update]
    exact consistent.linked.clear unarmed
  · simp only [packetIds, Function.comp_update]
    exact consistent.filed.link (by simp [packetIds, fresh]) free
  · intro timeout operation back
    obtain ⟨key, armed, filed⟩ := consistent.back_armed back
    exact ⟨key, armed,
      by rwa [Function.update_noteq fun same => by simp [same, free] at filed]⟩
  · intro operation beyond
    simpa [Function.update_noteq (by omega : operation ≠ links.nextOperation)] using
      consistent.fresh_operation (by omega : links.nextOperation ≤ operation)
  · exact consistent.fresh_timeout
  · intro timeout key operation armed
    have := consistent.armed_past armed
    omega
  · exact consistent.completed_nodup
  · intro operation done
    obtain ⟨older, freed⟩ := consistent.completed_past done
    exact ⟨by omega, by simpa [Function.update_noteq older.ne] using freed⟩

theorem scheduleTimeoutTask_consistent (consistent : links.Consistent) {operation : Nat}
    (disarmed : links.disarmed operation = true)
    (scheduled : links.scheduleTimeoutTask operation = some next) : next.Consistent := by
  obtain ⟨task, live, rfl⟩ := Option.map_eq_some'.mp scheduled
  have idle : task.timeoutTaskArg = none := by
    cases linked : task.timeoutTaskArg with
    | none => rfl
    | some timeout =>
        obtain ⟨_, armed, -⟩ := consistent.back_armed
          ((consistent.linked operation timeout).mp (by simp [forwardLinks, live, linked]))
        simp only [armings, Function.comp_apply, Option.map_eq_some', Prod.mk.injEq] at armed
        obtain ⟨arg, alive, -, rfl⟩ := armed
        have below : timeout < links.nextTimeout := by
          by_contra beyond
          simp [consistent.fresh_timeout (not_lt.mp beyond)] at alive
        have := List.all_eq_true.mp disarmed timeout (List.mem_range.mpr below)
        simp [alive] at this
  have fresh := consistent.fresh_timeout (le_refl links.nextTimeout)
  have older := consistent.live_below live
  refine ⟨?_, ?_, ?_, ?_, ?_, ?_, ?_, ?_⟩ <;> dsimp only
  · simp only [forwardLinks, backLinks, Function.comp_update]
    exact consistent.linked.link (by simp [forwardLinks, live, idle])
      (by simp [backLinks, fresh])
  · convert consistent.filed using 1
    funext other
    by_cases same : other = operation
    · subst same
      simp [packetIds, live]
    · simp [packetIds, Function.update_noteq same]
  · intro timeout other back
    by_cases new : timeout = links.nextTimeout
    · subst new
      simp only [backLinks, Function.comp_apply, Function.update_same, Option.some_bind,
        Option.some.injEq] at back
      subst back
      exact ⟨task.packetId, by simp [armings],
        (consistent.filed _ _).mp (by simp [packetIds, live])⟩
    · obtain ⟨packetId, armed, filed⟩ := consistent.back_armed
        (by simpa [backLinks, Function.update_noteq new] using back)
      exact ⟨packetId, by simpa [armings, Function.update_noteq new] using armed, filed⟩
  · intro other beyond
    simpa [Function.update_noteq (by omega : other ≠ operation)] using
      consistent.fresh_operation beyond
  · intro timeout beyond
    simpa [Function.update_noteq (by omega : timeout ≠ links.nextTimeout)] using
      consistent.fresh_timeout (by omega : links.nextTimeout ≤ timeout)
  · intro timeout packetId other armed
    by_cases new : timeout = links.nextTimeout
    · subst new
      simp only [armings, Function.comp_apply, Function.update_same, Option.map_some',
        Option.some.injEq, Prod.mk.injEq] at armed
      exact armed.2 ▸ older
    · exact consistent.armed_past (by simpa [armings, Function.update_noteq new] using armed)
  · exact consistent.completed_nodup
  · intro other done
    obtain ⟨below, freed⟩ := consistent.completed_past done
    exact ⟨below, by simpa [Function.update_noteq (fun same : other = operation => by
      simp [same, live] at freed)] using freed⟩

/-- Completing the operation filed under a packet id, once the id has left the table:
both links of the operation go, and the timeout that still pointed back at it no
longer does. -/
theorem mqttRequestComplete_consistent (consistent : links.Consistent) (packetId : UInt16) :
    (links.mqttRequestComplete packetId).Consistent := by
  unfold mqttRequestComplete
  split
  · exact consistent
  rename_i operation filed
  obtain ⟨task, live, -⟩ : ∃ task, links.operations operation = some task ∧
      task.packetId = packetId := by
    simpa [packetIds] using (consistent.filed operation packetId).mpr filed
  have notDone : operation ∉ links.completed := fun done => by
    simp [(consistent.completed_past done).2] at live
  have unfiled : Inverse (Function.update links.packetIds operation none)
      (Function.update links.outstandingRequestsTable packetId none) :=
    (consistent.filed.symm.unlink_of_linked filed).symm
  have linked := consistent.linked.unlink operation
  refine ⟨?_, ?_, ?_, ?_, ?_, ?_, ?_, ?_⟩
  · rw [operationComplete_forwardLinks, operationComplete_backLinks]
    exact linked
  · rw [operationComplete_packetIds]
    exact unfiled
  · intro timeout other back
    rw [operationComplete_backLinks] at back
    have forward := (linked other timeout).mpr back
    have apart : other ≠ operation := by
      rintro rfl
      simp at forward
    rw [Function.update_noteq apart] at forward
    obtain ⟨key, armed, filedKey⟩ :=
      consistent.back_armed ((consistent.linked other timeout).mp forward)
    refine ⟨key, by rwa [operationComplete_armings], (unfiled other key).mp ?_⟩
    rw [Function.update_noteq apart]
    exact (consistent.filed other key).mpr filedKey
  · intro other beyond
    simp [Function.update_apply, consistent.fresh_operation beyond]
  · intro timeout beyond
    simp [operationComplete_timeouts, consistent.fresh_timeout beyond]
  · intro timeout key other armed
    rw [operationComplete_armings] at armed
    exact consistent.armed_past armed
  · exact List.nodup_append.mpr ⟨consistent.completed_nodup, List.nodup_singleton _,
      fun other done single => notDone (List.mem_singleton.mp single ▸ done)⟩
  · intro other done
    rcases List.mem_append.mp done with old | new
    · obtain ⟨below, freed⟩ := consistent.completed_past old
      exact ⟨below, by simp [Function.update_apply, freed]⟩
    · rw [List.mem_singleton.mp new]
      exact ⟨consistent.live_below live, by simp⟩

theorem releaseTimeout_consistent (consistent : links.Consistent) (timeout : Nat) :
    (links.releaseTimeout timeout).Consistent where
  linked := by
    rw [releaseTimeout_forwardLinks, releaseTimeout_backLinks]
    exact (consistent.linked.symm.unlink timeout).symm
  filed := by
    rw [releaseTimeout_packetIds]
    exact consistent.filed
  back_armed := by
    intro other operation back
    rw [releaseTimeout_backLinks] at back
    have apart : other ≠ timeout := by
      rintro rfl
      simp at back
    rw [Function.update_noteq apart] at back
    obtain ⟨key, armed, filed⟩ := consistent.back_armed back
    exact ⟨key, by rwa [releaseTimeout_armings, Function.update_noteq apart], filed⟩
  fresh_operation := by
    intro operation beyond
    simp [releaseTimeout_operations, consistent.fresh_operation beyond]
  fresh_timeout := by
    intro other beyond
    simp [Function.update_apply, consistent.fresh_timeout beyond]
  armed_past := by
    intro other key operation armed
    rw [releaseTimeout_armings] at armed
    have apart : other ≠ timeout := by
      rintro rfl
      simp at armed
    exact consistent.armed_past (by rwa [Function.update_noteq apart] at armed)
  completed_nodup := consistent.completed_nodup
  completed_past := by
    intro operation done
    obtain ⟨below, freed⟩ := consistent.completed_past done
    exact ⟨below, by simp [releaseTimeout_operations, freed]⟩

theorem requestTimeout_consistent (consistent : links.Consistent) (timeout : Nat)
    (status : TaskStatus) : (links.requestTimeout timeout status).Consistent := by
  unfold requestTimeout
  split
  · exact consistent
  · apply releaseTimeout_consistent
    split
    · exact mqttRequestComplete_consistent consistent _
    · exact consistent

theorem step_consistent (consistent : links.Consistent) {action : Action}
    (stepped : links.step action = some next) : next.Consistent := by
  cases action with
  | createRequest packetId => exact mqttCreateRequest_consistent consistent stepped
  | scheduleTimeout operation =>
      simp only [step] at stepped
      split at stepped
      · exact scheduleTimeoutTask_consistent consistent ‹_› stepped
      · cases stepped
  | requestTimeout timeout status =>
      obtain ⟨-, -, rfl⟩ := Option.map_eq_some'.mp stepped
      exact requestTimeout_consistent consistent timeout status
  | requestComplete packetId =>
      cases stepped
      exact mqttRequestComplete_consistent consistent packetId

theorem run_consistent : ∀ {actions : List Action} {links final : Links},
    links.Consistent → links.run actions = some final → final.Consistent
  | [], _, _, consistent, ran => by
      cases ran
      exact consistent
  | _ :: _, _, _, consistent, ran => by
      obtain ⟨_, stepped, rest⟩ := Option.bind_eq_some.mp ran
      exact run_consistent (step_consistent consistent stepped) rest

/-! ## What a timeout completes -/

theorem mqttRequestComplete_completed {packetId : UInt16} {operation : Nat}
    (filed : links.outstandingRequestsTable packetId = some operation) :
    (links.mqttRequestComplete packetId).completed = links.completed ++ [operation] := by
  simp [mqttRequestComplete, filed]

/-- A timeout that runs with its back link still set completes, through the packet
id it carries, the operation that armed it; cancelled, or run after its operation
completed, it completes nothing. -/
theorem Consistent.requestTimeout_completed (consistent : links.Consistent) {timeout : Nat}
    {arg : TimeoutTaskArg} (status : TaskStatus) (alive : links.timeouts timeout = some arg) :
    (links.requestTimeout timeout status).completed = links.completed ++
      if status = .runReady ∧ arg.taskArgWrapper.isSome then [arg.armedBy] else [] := by
  simp only [requestTimeout, alive, releaseTimeout_completed]
  split_ifs with runs
  · obtain ⟨operation, wrapper⟩ := Option.isSome_iff_exists.mp runs.2
    have back : links.backLinks timeout = some operation := by simp [backLinks, alive, wrapper]
    obtain ⟨packetId, armed, filed⟩ := consistent.back_armed back
    simp only [armings, Function.comp_apply, alive, Option.map_some', Option.some.injEq,
      Prod.mk.injEq] at armed
    obtain ⟨rfl, rfl⟩ := armed
    exact mqttRequestComplete_completed filed
  · simp

/-- Over every run in which an operation arms a new timeout only once those it armed
before have run or been cancelled: a live operation links forward to a timeout
exactly when that timeout links back to it, no timeout links back to an operation
that is freed or completed, a timeout completes through `mqtt_request_complete` only
the operation that armed it, never a later one filed under the same packet id, and
no operation is completed twice. -/
theorem link_protocol_over_runs {actions : List Action} {final : Links}
    (ran : initial.run actions = some final) :
    Inverse final.forwardLinks final.backLinks ∧
    (∀ {timeout operation}, final.backLinks timeout = some operation →
      (final.operations operation).isSome ∧ operation ∉ final.completed) ∧
    (∀ {timeout arg} status, final.timeouts timeout = some arg →
      (final.requestTimeout timeout status).completed = final.completed ++
        if status = .runReady ∧ arg.taskArgWrapper.isSome then [arg.armedBy] else []) ∧
    final.completed.Nodup :=
  have consistent := run_consistent initial_consistent ran
  ⟨consistent.linked, consistent.back_live, consistent.requestTimeout_completed,
    consistent.completed_nodup⟩

/-- Packet id 1 is acknowledged while its timeout is armed, then filed again under a new
operation that arms a timeout of its own: the stale timeout, which no longer links back,
would complete nothing. -/
theorem link_protocol_after_packet_id_reuse :
    ∃ final, initial.run [.createRequest 1, .scheduleTimeout 0, .requestComplete 1,
        .createRequest 1, .scheduleTimeout 1] = some final ∧
      Inverse final.forwardLinks final.backLinks ∧
      (∀ {timeout operation}, final.backLinks timeout = some operation →
        (final.operations operation).isSome ∧ operation ∉ final.completed) ∧
      (∀ {timeout arg} status, final.timeouts timeout = some arg →
        (final.requestTimeout timeout status).completed = final.completed ++
          if status = .runReady ∧ arg.taskArgWrapper.isSome then [arg.armedBy] else []) ∧
      final.completed.Nodup := by
  refine ⟨?final, ?ran, link_protocol_over_runs ?ran⟩
  case ran => exact rfl

end Links

end MqttClient
