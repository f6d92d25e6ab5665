import MqttClient.Basic

/-! # The request tracker

The pending list, the ongoing list and the table keyed by packet id, and the three
places in `client.c` that change them. The request engine of `client_channel_handler.c`
is not part of `src/`; its operations are modelled from the spec. -/

namespace MqttClient

/-- `struct aws_mqtt_request`, by the fields the modelled functions read: the
packet id it is keyed by, and the task argument that its send and completion
functions receive (`send_request_ud`, `on_complete_ud`). -/
structure Request where
  packetId : UInt16
  taskArg : Nat
  deriving DecidableEq, Repr

/-- One call of a request's `on_complete`. -/
structure Completion where
  request : Request
  errorCode : ErrorCode
  deriving DecidableEq, Repr

structure RequestTracker where
  pendingRequestsList : List Request
  ongoingRequestsList : List Request
  outstandingRequestsTable : List Request
  /-- Requests acquired from `requests_pool` and not yet released. -/
  requestsPool : Nat
  deriving DecidableEq, Repr

namespace RequestTracker

def empty : RequestTracker := ⟨[], [], [], 0⟩

/-- `aws_hash_table_remove` of one packet id. -/
def removeKey (table : List Request) (packetId : UInt16) : List Request :=
  table.filter fun request => request.packetId ≠ packetId

/-- The loop that pops every request off `cancelling_requests`, removes its key
from the table and returns it to the pool. -/
def releaseRequests : List Request → RequestTracker → RequestTracker
  | [], tracker => tracker
  | request :: rest, tracker =>
      releaseRequests rest { tracker with
        outstandingRequestsTable := removeKey tracker.outstandingRequestsTable request.packetId
        requestsPool := tracker.requestsPool - 1 }

/-- The `on_complete` calls made while walking `cancelling_requests`. -/
def cancelCompletions (cancelling : List Request) (errorCode : ErrorCode) :
    List Completion :=
  cancelling.map fun request => ⟨request, errorCode⟩

/-- The request half of `s_mqtt_client_shutdown`. With a clean session the
ongoing list and then the pending list are moved onto `cancelling_requests`,
each request is completed with `CANCELLED_FOR_CLEAN_SESSION` and released;
otherwise the ongoing list is moved to the back of the pending list. -/
def shutdownRequests (tracker : RequestTracker) (cleanSession : Bool) :
    RequestTracker × List Completion :=
  if cleanSession then
    let cancelling := tracker.ongoingRequestsList ++ tracker.pendingRequestsList
    (releaseRequests cancelling
        { tracker with pendingRequestsList := [], ongoingRequestsList := [] },
      cancelCompletions cancelling .cancelledForCleanSession)
  else
    ({ tracker with
        pendingRequestsList := tracker.pendingRequestsList ++ tracker.ongoingRequestsList
        ongoingRequestsList := [] }, [])

/-- The clean-session branch of `aws_mqtt_client_connection_connect`: the pending
list is swapped onto `cancelling_requests`, completed with
`CANCELLED_FOR_CLEAN_SESSION` and released. -/
def cancelPendingRequests (tracker : RequestTracker) :
    RequestTracker × List Completion :=
  let cancelling := tracker.pendingRequestsList
  (releaseRequests cancelling { tracker with pendingRequestsList := [] },
    cancelCompletions cancelling .cancelledForCleanSession)

/-- The request half of `s_mqtt_client_connection_destroy_final`: the table is
cleaned up, then every pending request is completed with
`CONNECTION_DESTROYED` and returned to the pool. -/
def destroyRequests (tracker : RequestTracker) : RequestTracker × List Completion :=
  ({ tracker with
      outstandingRequestsTable := []
      pendingRequestsList := []
      requestsPool := tracker.requestsPool - tracker.pendingRequestsList.length },
    cancelCompletions tracker.pendingRequestsList .connectionDestroyed)

/-- Modelled from the spec: `mqtt_create_request` (in `client_channel_handler.c`).
It takes a packet id that is neither 0 nor in the table, places the new request
on the pending list, and fails (`none`, packet id 0) otherwise. -/
def mqttCreateRequest (tracker : RequestTracker) (request : Request) :
    Option RequestTracker :=
  if request.packetId ≠ 0 ∧
      request.packetId ∉ tracker.outstandingRequestsTable.map Request.packetId then
    some { tracker with
      pendingRequestsList := tracker.pendingRequestsList ++ [request]
      outstandingRequestsTable := request :: tracker.outstandingRequestsTable
      requestsPool := tracker.requestsPool + 1 }
  else none

/-- Modelled from the spec: the request engine sends the first pending request.
`ONGOING` moves it to the back of the ongoing list; `COMPLETE` and `ERROR`
complete it, which calls `on_complete` and releases it. -/
def sendRequest (tracker : RequestTracker) (result : RequestState) :
    Option (RequestTracker × List Completion) :=
  match tracker.pendingRequestsList with
  | [] => none
  | request :: rest =>
      let finished (errorCode : ErrorCode) : RequestTracker × List Completion :=
        ({ tracker with
            pendingRequestsList := rest
            outstandingRequestsTable :=
              removeKey tracker.outstandingRequestsTable request.packetId
            requestsPool := tracker.requestsPool - 1 }, [⟨request, errorCode⟩])
      match result with
      | .ongoing =>
          some ({ tracker with
            pendingRequestsList := rest
            ongoingRequestsList := tracker.ongoingRequestsList ++ [request] }, [])
      | .complete => some (finished .success)
      | .error => some (finished .other)

/-- Modelled from the spec: `mqtt_request_complete` (acknowledgement or operation
timeout). The request with this packet id, if any, has its `on_complete` called
and is removed from both lists and the table and released. -/
def mqttRequestComplete (tracker : RequestTracker) (packetId : UInt16)
    (errorCode : ErrorCode) : RequestTracker × List Completion :=
  match tracker.outstandingRequestsTable.find? (·.packetId = packetId) with
  | none => (tracker, [])
  | some request =>
      ({ pendingRequestsList := removeKey tracker.pendingRequestsList packetId
         ongoingRequestsList := removeKey tracker.ongoingRequestsList packetId
         outstandingRequestsTable := removeKey tracker.outstandingRequestsTable packetId
         requestsPool := tracker.requestsPool - 1 }, [⟨request, errorCode⟩])

/-! ## Consistency -/

/-- The representation invariant: the two lists hold exactly the requests of the
table, the table's keys are unique, and the pool has handed out one request per
entry. -/
structure Consistent (tracker : RequestTracker) : Prop where
  keys_nodup : (tracker.outstandingRequestsTable.map Request.packetId).Nodup
  lists_perm : (tracker.pendingRequestsList ++ tracker.ongoingRequestsList).Perm
    tracker.outstandingRequestsTable
  pool_eq : tracker.requestsPool = tracker.outstandingRequestsTable.length

theorem empty_consistent : empty.Consistent := ⟨.nil, .nil, rfl⟩

theorem releaseRequests_eq (cancelling : List Request) (tracker : RequestTracker) :
    releaseRequests cancelling tracker = { tracker with
      outstandingRequestsTable := tracker.outstandingRequestsTable.filter
        fun request => request.packetId ∉ cancelling.map Request.packetId
      requestsPool := tracker.requestsPool - cancelling.length } := by
  induction cancelling generalizing tracker with
  | nil => simp [releaseRequests]
  | cons request rest induction =>
      rw [releaseRequests, induction]
      simp only [removeKey, List.filter_filter, Nat.sub_sub, Nat.add_comm, List.map_cons,
        List.mem_cons, not_or, List.length_cons]
      congr 2
      funext candidate
      simp [Bool.and_comm]

variable {tracker next : RequestTracker}

theorem Consistent.lists_nodup (consistent : tracker.Consistent) :
    ((tracker.pendingRequestsList ++ tracker.ongoingRequestsList).map
      Request.packetId).Nodup :=
  (consistent.lists_perm.map _).nodup_iff.mpr consistent.keys_nodup

@[simp] theorem removeKey_nil (packetId : UInt16) : removeKey [] packetId = [] := rfl

theorem removeKey_cons (head : Request) (rest : List Request) (packetId : UInt16) :
    removeKey (head :: rest) packetId =
      if head.packetId = packetId then removeKey rest packetId
      else head :: removeKey rest packetId := by
  by_cases same : head.packetId = packetId <;> simp [removeKey, List.filter_cons, same]

theorem removeKey_eq_self {table : List Request} {packetId : UInt16}
    (absent : ∀ request ∈ table, request.packetId ≠ packetId) :
    removeKey table packetId = table :=
  List.filter_eq_self.mpr fun request member => decide_eq_true (absent request member)

private theorem keys_nodup_filter {table : List Request} (keep : Request → Bool)
    (nodup : (table.map Request.packetId).Nodup) :
    ((table.filter keep).map Request.packetId).Nodup :=
  ((List.filter_sublist table).map _).nodup nodup

private theorem ne_of_nodup_cons {head : Request} {rest : List Request}
    (nodup : ((head :: rest).map Request.packetId).Nodup) :
    ∀ other ∈ rest, other.packetId ≠ head.packetId := by
  intro other member same
  rw [List.map_cons, List.nodup_cons] at nodup
  exact nodup.1 (same ▸ List.mem_map_of_mem Request.packetId member)

private theorem perm_filter_of_perm (dropped kept : List Request) {table : List Request}
    (keep : Request → Bool) (perm : (dropped ++ kept).Perm table)
    (drop : ∀ request ∈ dropped, keep request = false)
    (retain : ∀ request ∈ kept, keep request = true) :
    kept.Perm (table.filter keep) := by
  have filtered := perm.filter keep
  rwa [List.filter_append, List.filter_eq_nil_iff.mpr (by simpa using drop),
    List.filter_eq_self.mpr retain, List.nil_append] at filtered

private theorem length_removeKey {table : List Request} {request : Request}
    (nodup : (table.map Request.packetId).Nodup) (member : request ∈ table) :
    (removeKey table request.packetId).length + 1 = table.length := by
  induction table with
  | nil => cases member
  | cons head rest induction =>
      have fresh := ne_of_nodup_cons nodup
      rw [List.map_cons, List.nodup_cons] at nodup
      rcases List.mem_cons.mp member with rfl | member
      · simp [removeKey_cons, removeKey_eq_self fresh]
      · have different : head.packetId ≠ request.packetId := fun same =>
          fresh request member same.symm
        simp [removeKey_cons, different, induction nodup.2 member]

theorem shutdownRequests_consistent (consistent : tracker.Consistent)
    (cleanSession : Bool) : (tracker.shutdownRequests cleanSession).1.Consistent := by
  cases cleanSession with
  | false =>
      exact { consistent with
        lists_perm := by simpa [shutdownRequests] using consistent.lists_perm }
  | true =>
      have cleared := perm_filter_of_perm
        (tracker.pendingRequestsList ++ tracker.ongoingRequestsList) []
        (fun request => decide (request.packetId ∉
          (tracker.ongoingRequestsList ++ tracker.pendingRequestsList).map Request.packetId))
        (by simpa using consistent.lists_perm)
        (fun request member => by
          simp only [decide_eq_false_iff_not, not_not, List.mem_map]
          exact ⟨request, by simpa [or_comm] using member, rfl⟩)
        (by simp)
      have lengths := consistent.lists_perm.length_eq
      simp only [List.length_append] at lengths
      refine ⟨?_, ?_, ?_⟩ <;>
        simp only [shutdownRequests, if_true, releaseRequests_eq, ← cleared.nil_eq]
      · exact .nil
      · exact .nil
      · simp only [List.length_append, List.length_nil, consistent.pool_eq]
        omega

theorem cancelPendingRequests_consistent (consistent : tracker.Consistent) :
    tracker.cancelPendingRequests.1.Consistent := by
  have nodup := consistent.lists_nodup
  rw [List.map_append, List.nodup_append] at nodup
  have kept := perm_filter_of_perm _ _
    (fun request => decide (request.packetId ∉
      tracker.pendingRequestsList.map Request.packetId)) consistent.lists_perm
    (fun request member => by simpa using List.mem_map_of_mem Request.packetId member)
    (fun request member => decide_eq_true fun pending =>
      nodup.2.2 pending (List.mem_map_of_mem Request.packetId member))
  have lengths := consistent.lists_perm.length_eq
  simp only [List.length_append] at lengths
  refine ⟨?_, ?_, ?_⟩ <;> simp only [cancelPendingRequests, releaseRequests_eq]
  · exact keys_nodup_filter _ consistent.keys_nodup
  · simpa using kept
  · rw [← kept.length_eq, consistent.pool_eq]
    omega

theorem mqttCreateRequest_consistent (consistent : tracker.Consistent)
    {request : Request} (created : tracker.mqttCreateRequest request = some next) :
    next.Consistent := by
  simp only [mqttCreateRequest] at created
  split at created
  · rename_i fresh
    cases created
    refine ⟨List.nodup_cons.mpr ⟨fresh.2, consistent.keys_nodup⟩, ?_, ?_⟩
    · simpa using List.perm_middle.trans (consistent.lists_perm.cons request)
    · simp [consistent.pool_eq]
  · cases created

theorem sendRequest_consistent (consistent : tracker.Consistent) {result : RequestState}
    {completions : List Completion}
    (sent : tracker.sendRequest result = some (next, completions)) : next.Consistent := by
  simp only [sendRequest] at sent
  split at sent
  · cases sent
  · rename_i request rest pending
    have perm := consistent.lists_perm
    rw [pending] at perm
    have nodup := consistent.lists_nodup
    rw [pending, List.cons_append] at nodup
    have finished : (rest ++ tracker.ongoingRequestsList).Perm
        (removeKey tracker.outstandingRequestsTable request.packetId) :=
      perm_filter_of_perm [request] _ _ perm (by simp)
        (fun other member => decide_eq_true (ne_of_nodup_cons nodup other member))
    have removed := length_removeKey consistent.keys_nodup
      (perm.subset (List.mem_cons_self _ _))
    cases result <;> simp only [Option.some.injEq, Prod.mk.injEq] at sent <;>
      obtain ⟨rfl, rfl⟩ := sent
    · exact { consistent with
        lists_perm := by simpa using (List.perm_append_singleton _ _).trans perm }
    all_goals
      exact ⟨keys_nodup_filter _ consistent.keys_nodup, finished, by
        simp only [consistent.pool_eq]; omega⟩

theorem mqttRequestComplete_consistent (consistent : tracker.Consistent)
    (packetId : UInt16) (errorCode : ErrorCode) :
    (tracker.mqttRequestComplete packetId errorCode).1.Consistent := by
  simp only [mqttRequestComplete]
  split
  · exact consistent
  · rename_i request found
    have member := List.mem_of_find?_eq_some found
    have same : request.packetId = packetId := by simpa using List.find?_some found
    have removed := length_removeKey consistent.keys_nodup member
    rw [same] at removed
    refine ⟨keys_nodup_filter _ consistent.keys_nodup, ?_, ?_⟩
    · simpa [removeKey, List.filter_append] using
        consistent.lists_perm.filter fun request => decide (request.packetId ≠ packetId)
    · simp only [consistent.pool_eq]
      omega

/-! ## The ongoing list -/

@[simp] theorem shutdownRequests_ongoing (tracker : RequestTracker) (cleanSession : Bool) :
    (tracker.shutdownRequests cleanSession).1.ongoingRequestsList = [] := by
  cases cleanSession <;> simp [shutdownRequests, releaseRequests_eq]

@[simp] theorem cancelPendingRequests_ongoing (tracker : RequestTracker) :
    tracker.cancelPendingRequests.1.ongoingRequestsList = tracker.ongoingRequestsList := by
  simp [cancelPendingRequests, releaseRequests_eq]

@[simp] theorem mqttCreateRequest_getD_ongoing (tracker : RequestTracker) (request : Request) :
    ((tracker.mqttCreateRequest request).getD tracker).ongoingRequestsList =
      tracker.ongoingRequestsList := by
  unfold mqttCreateRequest
  split <;> rfl

theorem mqttRequestComplete_ongoing_sublist (tracker : RequestTracker) (packetId : UInt16)
    (errorCode : ErrorCode) :
    (tracker.mqttRequestComplete packetId errorCode).1.ongoingRequestsList.Sublist
      tracker.ongoingRequestsList := by
  unfold mqttRequestComplete
  split
  · exact .refl _
  · exact List.filter_sublist _

theorem destroyRequests_consistent (consistent : tracker.Consistent)
    (idle : tracker.ongoingRequestsList = []) : tracker.destroyRequests.1.Consistent := by
  have lengths := consistent.lists_perm.length_eq
  simp only [idle, List.append_nil] at lengths
  exact ⟨.nil, by simp [destroyRequests, idle], by simp [destroyRequests, consistent.pool_eq, lengths]⟩

theorem mqttCreateRequest_getD_consistent (consistent : tracker.Consistent)
    (request : Request) : ((tracker.mqttCreateRequest request).getD tracker).Consistent := by
  cases created : tracker.mqttCreateRequest request with
  | none => exact consistent
  | some next => exact mqttCreateRequest_consistent consistent created

theorem sendRequest_getD_consistent (consistent : tracker.Consistent)
    (result : RequestState) : ((tracker.sendRequest result).getD (tracker, [])).1.Consistent := by
  cases sent : tracker.sendRequest result with
  | none => exact consistent
  | some outcome => exact sendRequest_consistent consistent sent

end RequestTracker

end MqttClient
