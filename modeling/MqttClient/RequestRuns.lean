import MqttClient.Lifecycle

/-! # Requests over runs

The request tracker's invariant over every run of the connection, and the order in
which a session that is not clean re-sends what survived a disconnect. -/

namespace MqttClient

namespace RequestTracker

theorem shutdownRequests_keep (tracker : RequestTracker) :
    tracker.shutdownRequests false =
      ({ tracker with
          pendingRequestsList := tracker.pendingRequestsList ++ tracker.ongoingRequestsList
          ongoingRequestsList := [] }, []) := rfl

/-- With a clean session, `s_mqtt_client_shutdown` empties both lists, removes the
keys of their requests from the table and nothing else, returns them to the pool
and completes each once with `CANCELLED_FOR_CLEAN_SESSION`. -/
theorem shutdownRequests_clean (tracker : RequestTracker) :
    tracker.shutdownRequests true =
      (⟨[], [], tracker.outstandingRequestsTable.filter fun request => request.packetId ∉
          (tracker.ongoingRequestsList ++ tracker.pendingRequestsList).map Request.packetId,
        tracker.requestsPool - (tracker.ongoingRequestsList ++ tracker.pendingRequestsList).length⟩,
        cancelCompletions (tracker.ongoingRequestsList ++ tracker.pendingRequestsList)
          .cancelledForCleanSession) := by
  simp [shutdownRequests, releaseRequests_eq]

theorem cancelPendingRequests_eq (tracker : RequestTracker) :
    tracker.cancelPendingRequests =
      ({ tracker with
          pendingRequestsList := []
          outstandingRequestsTable := tracker.outstandingRequestsTable.filter fun request =>
            request.packetId ∉ tracker.pendingRequestsList.map Request.packetId
          requestsPool := tracker.requestsPool - tracker.pendingRequestsList.length },
        cancelCompletions tracker.pendingRequestsList .cancelledForCleanSession) := by
  simp [cancelPendingRequests, releaseRequests_eq]

theorem destroyRequests_eq (tracker : RequestTracker) :
    tracker.destroyRequests =
      ({ tracker with
          outstandingRequestsTable := []
          pendingRequestsList := []
          requestsPool := tracker.requestsPool - tracker.pendingRequestsList.length },
        cancelCompletions tracker.pendingRequestsList .connectionDestroyed) := rfl

end RequestTracker

namespace Connection

/-- The tracker is consistent in every reachable state, so the two lists are
disjoint and free of duplicates and the table's keys are those of their requests;
the changes `client.c` makes to it keep it consistent from every consistent
tracker, and do exactly what the four equations say. -/
theorem request_tracker_consistent_over_runs :
    (∀ {actions : List Action} {final : Connection} {log : List Event},
      Connection.new.run actions = some (final, log) →
        final.requests.Consistent ∧
          ((final.requests.pendingRequestsList ++ final.requests.ongoingRequestsList).map
            Request.packetId).Nodup) ∧
    (∀ tracker : RequestTracker, tracker.Consistent → ∀ cleanSession,
      (tracker.shutdownRequests cleanSession).1.Consistent ∧
        tracker.cancelPendingRequests.1.Consistent) ∧
    (∀ tracker : RequestTracker, tracker.shutdownRequests false =
      ({ tracker with
          pendingRequestsList := tracker.pendingRequestsList ++ tracker.ongoingRequestsList
          ongoingRequestsList := [] }, [])) ∧
    (∀ tracker : RequestTracker, tracker.shutdownRequests true =
      (⟨[], [], tracker.outstandingRequestsTable.filter fun request => request.packetId ∉
          (tracker.ongoingRequestsList ++ tracker.pendingRequestsList).map Request.packetId,
        tracker.requestsPool - (tracker.ongoingRequestsList ++ tracker.pendingRequestsList).length⟩,
        RequestTracker.cancelCompletions (tracker.ongoingRequestsList ++ tracker.pendingRequestsList)
          .cancelledForCleanSession)) ∧
    (∀ tracker : RequestTracker, tracker.cancelPendingRequests =
      ({ tracker with
          pendingRequestsList := []
          outstandingRequestsTable := tracker.outstandingRequestsTable.filter fun request =>
            request.packetId ∉ tracker.pendingRequestsList.map Request.packetId
          requestsPool := tracker.requestsPool - tracker.pendingRequestsList.length },
        RequestTracker.cancelCompletions tracker.pendingRequestsList .cancelledForCleanSession)) ∧
    (∀ tracker : RequestTracker, tracker.destroyRequests =
      ({ tracker with
          outstandingRequestsTable := []
          pendingRequestsList := []
          requestsPool := tracker.requestsPool - tracker.pendingRequestsList.length },
        RequestTracker.cancelCompletions tracker.pendingRequestsList .connectionDestroyed)) :=
  ⟨fun ran =>
      have consistent := (run_new_invariant ran).coherent.consistent
      ⟨consistent, consistent.lists_nodup⟩,
    fun _ consistent cleanSession =>
      ⟨RequestTracker.shutdownRequests_consistent consistent cleanSession,
        RequestTracker.cancelPendingRequests_consistent consistent⟩,
    RequestTracker.shutdownRequests_keep, RequestTracker.shutdownRequests_clean,
    RequestTracker.cancelPendingRequests_eq, RequestTracker.destroyRequests_eq⟩

/-! ## Re-send order -/

/-- Requests 1 and 2 submitted in that order on a connected session that is not
clean, 1 written and awaiting its acknowledgement when the channel dies: the
pending list that the reconnection re-sends holds 2 before 1. -/
theorem resend_order_after_shutdown :
    (Connection.new.run [.connect ⟨none, false⟩ none, .channelSetup (.init .success none),
        .connackReceived, .submitRequest ⟨1, 0⟩, .submitRequest ⟨2, 0⟩, .sendRequest .ongoing,
        .channelShutdown .unexpectedHangup false]).map
      (fun result => result.1.requests.pendingRequestsList) = some [⟨2, 0⟩, ⟨1, 0⟩] := rfl

end Connection

end MqttClient
