import MqttClient.KeepAlive
import Mathlib.Data.List.Chain

/-! # The keep-alive over runs

What every run of the ping exchange does, in any order the event loop allows and
whatever fails in the sends. -/

namespace MqttClient

/-! ## Every ping timeout follows a PINGREQ -/

/-- Each ping timeout of a log comes right after a PINGREQ, at a time that `within` allows
of the PINGREQ's, and no log starts with one. -/
def TimeoutsFollowPingreqs (within : UInt64 → UInt64 → Prop)
    (log : List (UInt64 × PingObservation)) : Prop :=
  log.Chain' (fun earlier later =>
      later.2 = .timeout → earlier.2 = .pingreq ∧ within earlier.1 later.1) ∧
    ∀ first ∈ log.head?, first.2 ≠ .timeout

theorem timeoutsFollowPingreqs_nil (within : UInt64 → UInt64 → Prop) :
    TimeoutsFollowPingreqs within [] :=
  ⟨List.chain'_nil, fun _ absent => nomatch absent⟩

theorem timeoutsFollowPingreqs_append {within : UInt64 → UInt64 → Prop}
    {history : List (UInt64 × PingObservation)} {observed : UInt64 × PingObservation}
    (follow : TimeoutsFollowPingreqs within history)
    (after : observed.2 = .timeout →
      ∃ sent, history.getLast? = some (sent, .pingreq) ∧ within sent observed.1) :
    TimeoutsFollowPingreqs within (history ++ [observed]) := by
  refine ⟨List.chain'_append.mpr ⟨follow.1, List.chain'_singleton _, ?_⟩, ?_⟩
  · intro last isLast next isNext timedOut
    cases isNext
    obtain ⟨sent, endsWith, within⟩ := after timedOut
    cases isLast.symm.trans endsWith
    exact ⟨rfl, within⟩
  · cases history with
    | nil =>
      rintro first ⟨⟩ timedOut
      obtain ⟨_, ⟨⟩, _⟩ := after timedOut
    | cons oldest _ => exact follow.2

namespace PingState

variable {pingTimeoutNs : UInt64}

/-- While the flag is set and a timeout task is scheduled, the last observation is a
PINGREQ. -/
def Awaiting (state : PingState) (history : List (UInt64 × PingObservation)) : Prop :=
  state.waitingOnPingResponse = true → state.pingTimeouts ≠ [] →
    ∃ sent, history.getLast? = some (sent, .pingreq)

theorem step_observed {state next : PingState} {event : UInt64 × PingAction}
    {observed : List (UInt64 × PingObservation)}
    (stepped : state.step pingTimeoutNs event = some (next, observed)) :
    observed = [] ∨ ∃ observation, observed = [(event.1, observation)] ∧
      (observation = .timeout → ∃ deadline, event.2 = .pingTimeout deadline ∧
        state.waitingOnPingResponse = true) := by
  obtain ⟨_, _, rfl⟩ := step_eq_some.mp stepped
  obtain ⟨time, action⟩ := event
  cases action with
  | pingreq failure =>
    rcases @perform_pingreq pingTimeoutNs state time failure with same | same | ⟨_, same⟩ <;>
      simp [same]
  | pingresp => simp [perform_pingresp]
  | pingTimeout deadline =>
    rw [perform_pingTimeout]
    split <;> simp_all

theorem awaiting_step {state next : PingState} {history observed : List (UInt64 × PingObservation)}
    {event : UInt64 × PingAction} (awaiting : Awaiting state history)
    (stepped : state.step pingTimeoutNs event = some (next, observed)) :
    Awaiting next (history ++ observed) := by
  obtain ⟨allowed, rfl, rfl⟩ := step_eq_some.mp stepped
  obtain ⟨time, action⟩ := event
  cases action with
  | pingreq failure =>
    rcases @perform_pingreq pingTimeoutNs state time failure with same | same | ⟨_, same⟩
    · simpa [same, Awaiting] using awaiting
    · simp [same, Awaiting]
    · simp [same, Awaiting]
  | pingresp => simp [perform_pingresp, Awaiting]
  | pingTimeout deadline =>
    rw [perform_pingTimeout]
    split <;> simp_all [Awaiting]

theorem timeout_after_pingreq {state next : PingState}
    {history observed : List (UInt64 × PingObservation)} {event : UInt64 × PingAction}
    (awaiting : Awaiting state history)
    (stepped : state.step pingTimeoutNs event = some (next, observed)) :
    observed = [] ∨ ∃ observation, observed = [(event.1, observation)] ∧
      (observation = .timeout → ∃ sent deadline, history.getLast? = some (sent, .pingreq) ∧
        event.2 = .pingTimeout deadline ∧ event.1 = state.runTime deadline ∧
        deadline ∈ state.pingTimeouts) := by
  refine (step_observed stepped).imp_right fun ⟨observation, single, timedOut⟩ =>
    ⟨observation, single, fun isTimeout => ?_⟩
  obtain ⟨deadline, isPingTimeout, waiting⟩ := timedOut isTimeout
  have allowed := (step_eq_some.mp stepped).1
  rw [isPingTimeout] at allowed
  obtain ⟨scheduled, _, runs⟩ := enabled_pingTimeout allowed
  obtain ⟨sent, endsWith⟩ := awaiting waiting (List.ne_nil_of_mem scheduled)
  exact ⟨sent, deadline, endsWith, isPingTimeout, runs, scheduled⟩

/-- Over any run from a freshly set up channel, each ping timeout comes right after a
PINGREQ, with nothing observed between them. -/
theorem ping_timeouts_follow_pingreqs (pingTimeoutNs now : UInt64) (waiting : Bool)
    {events : List (UInt64 × PingAction)} {final : PingState}
    {log : List (UInt64 × PingObservation)}
    (ran : (installed now waiting).run pingTimeoutNs events = some (final, log)) :
    TimeoutsFollowPingreqs (fun _ _ => True) log := by
  have kept := run_invariant (fun _ => True)
    (fun state history => Awaiting state history ∧
      TimeoutsFollowPingreqs (fun _ _ => True) history)
    (fun _ ⟨awaiting, follow⟩ stepped => ⟨awaiting_step awaiting stepped, by
      rcases timeout_after_pingreq awaiting stepped with rfl | ⟨observation, rfl, after⟩
      · rwa [List.append_nil]
      · exact timeoutsFollowPingreqs_append follow fun timedOut =>
          let ⟨sent, _, endsWith, _⟩ := after timedOut
          ⟨sent, endsWith, trivial⟩⟩)
    (fun _ _ => trivial) ⟨fun _ scheduled => absurd rfl scheduled, timeoutsFollowPingreqs_nil _⟩
    ran
  simpa using kept.2

theorem ping_timeouts_follow_pingreqs_on_timeout :
    (installed 0 false).run 10 [(0, .pingreq none), (10, .pingTimeout 10)] =
        some (⟨10, false, []⟩, [(0, .pingreq), (10, .timeout)]) ∧
      TimeoutsFollowPingreqs (fun _ _ => True) [(0, .pingreq), (10, .timeout)] :=
  have ran : (installed 0 false).run 10 [(0, .pingreq none), (10, .pingTimeout 10)] =
      some (⟨10, false, []⟩, [(0, .pingreq), (10, .timeout)]) := by decide
  ⟨ran, ping_timeouts_follow_pingreqs 10 0 false ran⟩

end PingState

/-! ## Under the keep-alive's spacing, a ping timeout is never early

`s_pingresp_received_timeout` reads only the flag, and every PINGREQ sets it. A PINGREQ
sent while the timeout task of an earlier, answered one is still scheduled is therefore
timed out by that task, early. The keep-alive sends one PINGREQ per keep-alive interval,
and `aws_mqtt_client_connection_connect` makes that interval longer than the ping timeout:
then every ping timeout comes exactly `pingTimeoutNs` after the PINGREQ it times out. -/

/-- The times of the PINGREQs a log observes. -/
def pingreqTimes (log : List (UInt64 × PingObservation)) : List UInt64 :=
  log.filterMap fun observed => match observed.2 with
    | .pingreq => some observed.1
    | _ => none

/-- The times at which a run of events runs `s_pingreq_send`, whether or not its PINGREQ
reaches the channel. -/
def pingreqSendTimes (events : List (UInt64 × PingAction)) : List UInt64 :=
  events.filterMap fun event => match event.2 with
    | .pingreq _ => some event.1
    | _ => none

/-- Every two times of a list are at least `gap` apart. -/
def Spaced (gap : Nat) (times : List UInt64) : Prop :=
  times.Pairwise fun earlier later => earlier.toNat + gap ≤ later.toNat

instance (gap : Nat) (times : List UInt64) : Decidable (Spaced gap times) :=
  inferInstanceAs (Decidable (List.Pairwise _ times))

@[simp] theorem pingreqTimes_append (earlier later : List (UInt64 × PingObservation)) :
    pingreqTimes (earlier ++ later) = pingreqTimes earlier ++ pingreqTimes later :=
  List.filterMap_append _ _ _

@[simp] theorem pingreqTimes_timeout (time : UInt64) : pingreqTimes [(time, .timeout)] = [] :=
  rfl

@[simp] theorem pingreqSendTimes_append (earlier later : List (UInt64 × PingAction)) :
    pingreqSendTimes (earlier ++ later) = pingreqSendTimes earlier ++ pingreqSendTimes later :=
  List.filterMap_append _ _ _

theorem getLast?_pingreqTimes {history : List (UInt64 × PingObservation)} {sent : UInt64}
    (endsWith : history.getLast? = some (sent, .pingreq)) :
    (pingreqTimes history).getLast? = some sent := by
  obtain ⟨earlier, rfl⟩ := List.getLast?_eq_some_iff.mp endsWith
  simp [pingreqTimes, List.getLast?_concat]

namespace PingState

variable {pingTimeoutNs : UInt64} {gap : Nat}

theorem pingreqTimes_step {state next : PingState} {event : UInt64 × PingAction}
    {observed : List (UInt64 × PingObservation)}
    (stepped : state.step pingTimeoutNs event = some (next, observed)) :
    (pingreqTimes observed).Sublist (pingreqSendTimes [event]) := by
  obtain ⟨_, _, rfl⟩ := step_eq_some.mp stepped
  obtain ⟨time, action⟩ := event
  cases action with
  | pingreq failure =>
    rcases @perform_pingreq pingTimeoutNs state time failure with same | same | ⟨_, same⟩ <;>
      simp [same, pingreqTimes, pingreqSendTimes]
  | pingresp => simp [perform_pingresp, pingreqTimes]
  | pingTimeout deadline =>
    rw [perform_pingTimeout]
    split <;> simp [pingreqTimes]

theorem pingreqTimes_sublist :
    ∀ {events : List (UInt64 × PingAction)} {state final : PingState}
      {log : List (UInt64 × PingObservation)},
      state.run pingTimeoutNs events = some (final, log) →
        (pingreqTimes log).Sublist (pingreqSendTimes events)
  | [], _, _, _, ran => by
      simp only [run, Option.some.injEq, Prod.mk.injEq] at ran
      simp [← ran.2, pingreqTimes]
  | event :: _, _, _, _, ran => by
      obtain ⟨next, observed, later, stepped, rest, rfl⟩ := run_cons_eq ran
      rw [pingreqTimes_append, ← List.singleton_append, pingreqSendTimes_append]
      exact (pingreqTimes_step stepped).append (pingreqTimes_sublist rest)

/-- Every scheduled timeout task is due no earlier than now, `pingTimeoutNs` after the last
PINGREQ observed. -/
def ArmedForLast (pingTimeoutNs : UInt64) (state : PingState)
    (history : List (UInt64 × PingObservation)) : Prop :=
  ∀ deadline ∈ state.pingTimeouts, state.now.toNat ≤ deadline.toNat ∧
    ∃ sent, (pingreqTimes history).getLast? = some sent ∧
      deadline.toNat = sent.toNat + pingTimeoutNs.toNat

theorem due_of_enabled {state : PingState} {history : List (UInt64 × PingObservation)}
    {time : UInt64} {action : PingAction} (armed : ArmedForLast pingTimeoutNs state history)
    (allowed : state.enabled time action = true)
    (exchange : ∀ deadline, action ≠ .pingTimeout deadline) :
    ∀ deadline ∈ state.pingTimeouts, time.toNat ≤ deadline.toNat :=
  fun deadline scheduled => by
  have due := (enabled_of_exchange allowed exchange).2 deadline scheduled
  rwa [runTime_of_le (armed deadline scheduled).1] at due

theorem pingTimeouts_eq_nil_of_spaced {state : PingState}
    {history : List (UInt64 × PingObservation)} {time : UInt64}
    (wide : pingTimeoutNs.toNat < gap) (spaced : Spaced gap (pingreqTimes history ++ [time]))
    (armed : ArmedForLast pingTimeoutNs state history)
    (due : ∀ deadline ∈ state.pingTimeouts, time.toNat ≤ deadline.toNat) :
    state.pingTimeouts = [] :=
  List.eq_nil_iff_forall_not_mem.mpr fun deadline scheduled => by
    obtain ⟨_, sent, last, armedAt⟩ := armed deadline scheduled
    have apart := (List.pairwise_append.mp spaced).2.2 sent (List.mem_of_getLast?_eq_some last)
      time (List.mem_singleton_self time)
    have := due deadline scheduled
    omega

theorem armedForLast_step {state next : PingState}
    {history observed : List (UInt64 × PingObservation)} {event : UInt64 × PingAction}
    (wide : pingTimeoutNs.toNat < gap) (fits : event.1.toNat + pingTimeoutNs.toNat < 2 ^ 64)
    (spaced : Spaced gap (pingreqTimes (history ++ observed)))
    (armed : ArmedForLast pingTimeoutNs state history)
    (stepped : state.step pingTimeoutNs event = some (next, observed)) :
    ArmedForLast pingTimeoutNs next (history ++ observed) := by
  obtain ⟨allowed, rfl, rfl⟩ := step_eq_some.mp stepped
  obtain ⟨time, action⟩ := event
  cases action with
  | pingreq failure =>
    have due := due_of_enabled armed allowed fun _ => nofun
    rcases @perform_pingreq pingTimeoutNs state time failure with same | same | ⟨_, same⟩ <;>
      simp only [same, List.map_nil, List.map_cons, List.append_nil] at spaced ⊢
    · exact fun deadline scheduled => ⟨due deadline scheduled, (armed deadline scheduled).2⟩
    · have idle :=
        pingTimeouts_eq_nil_of_spaced wide (by simpa [pingreqTimes] using spaced) armed due
      simp [ArmedForLast, idle]
    · have idle :=
        pingTimeouts_eq_nil_of_spaced wide (by simpa [pingreqTimes] using spaced) armed due
      have armedAt : (time + pingTimeoutNs).toNat = time.toNat + pingTimeoutNs.toNat :=
        Nat.mod_eq_of_lt fits
      simp only [ArmedForLast, idle, List.nil_append, List.mem_singleton, forall_eq, armedAt]
      exact ⟨Nat.le_add_right _ _, time, by simp [pingreqTimes, List.getLast?_concat], rfl⟩
  | pingresp =>
    have due := due_of_enabled armed allowed fun _ => nofun
    rw [perform_pingresp]
    intro deadline scheduled
    simpa [pingreqTimes] using And.intro (due deadline scheduled) (armed deadline scheduled).2
  | pingTimeout deadline =>
    obtain ⟨scheduled, first, runs⟩ := enabled_pingTimeout allowed
    have runsAt : time = deadline := runs.trans (runTime_of_le (armed deadline scheduled).1)
    have kept : ∀ later ∈ state.pingTimeouts.erase deadline, time.toNat ≤ later.toNat ∧
        ∃ sent, (pingreqTimes history).getLast? = some sent ∧
          later.toNat = sent.toNat + pingTimeoutNs.toNat := fun later remaining =>
      have stillScheduled := List.mem_of_mem_erase remaining
      ⟨runsAt ▸ first later stillScheduled, (armed later stillScheduled).2⟩
    rw [perform_pingTimeout]
    split
    · simpa only [ArmedForLast, List.map_cons, List.map_nil, pingreqTimes_append,
        pingreqTimes_timeout, List.append_nil] using kept
    · simpa only [ArmedForLast, List.map_nil, List.append_nil] using kept

/-- What a run keeps when its PINGREQs are spaced: `Awaiting`, `ArmedForLast`, and that each
timeout so far came exactly `pingTimeoutNs` after the PINGREQ right before it. -/
def KeepsTime (pingTimeoutNs : UInt64) (state : PingState)
    (history : List (UInt64 × PingObservation)) : Prop :=
  Awaiting state history ∧ ArmedForLast pingTimeoutNs state history ∧
    TimeoutsFollowPingreqs (fun sent timedOut => timedOut.toNat = sent.toNat + pingTimeoutNs.toNat)
      history

theorem keepsTime_step {state next : PingState}
    {history observed : List (UInt64 × PingObservation)} {event : UInt64 × PingAction}
    (wide : pingTimeoutNs.toNat < gap) (fits : event.1.toNat + pingTimeoutNs.toNat < 2 ^ 64)
    (spaced : Spaced gap (pingreqTimes (history ++ observed)))
    (keeps : KeepsTime pingTimeoutNs state history)
    (stepped : state.step pingTimeoutNs event = some (next, observed)) :
    KeepsTime pingTimeoutNs next (history ++ observed) := by
  obtain ⟨awaiting, armed, follow⟩ := keeps
  refine ⟨awaiting_step awaiting stepped, armedForLast_step wide fits spaced armed stepped, ?_⟩
  rcases timeout_after_pingreq awaiting stepped with rfl | ⟨observation, rfl, after⟩
  · rwa [List.append_nil]
  refine timeoutsFollowPingreqs_append follow fun timedOut => ?_
  obtain ⟨sent, deadline, endsWith, _, runs, scheduled⟩ := after timedOut
  obtain ⟨due, armedSent, last, armedAt⟩ := armed deadline scheduled
  cases (getLast?_pingreqTimes endsWith).symm.trans last
  exact ⟨sent, endsWith, by rw [runs, runTime_of_le due, armedAt]⟩

/-- Over any run from a freshly set up channel whose PINGREQs are sent a keep-alive interval
apart, each ping timeout comes right after a PINGREQ, exactly the ping timeout after it: an
answered PINGREQ's task never times out a later one. -/
theorem keep_alive_ping_timeouts_are_exact (timings : Timings) (now : UInt64) (waiting : Bool)
    {events : List (UInt64 × PingAction)} {final : PingState}
    {log : List (UInt64 × PingObservation)}
    (ran : (installed now waiting).run timings.pingTimeoutNs events = some (final, log))
    (spaced : Spaced (timings.keepAliveTimeSecs.toNat * 1000000000) (pingreqSendTimes events))
    (clockFits : ∀ event ∈ events, event.1.toNat + timings.pingTimeoutNs.toNat < 2 ^ 64) :
    TimeoutsFollowPingreqs
      (fun sent timedOut => timedOut.toNat = sent.toNat + timings.pingTimeoutNs.toNat) log := by
  have kept := run_invariant (fun event => event.1.toNat + timings.pingTimeoutNs.toNat < 2 ^ 64)
    (fun state history => Spaced (timings.keepAliveTimeSecs.toNat * 1000000000)
      (pingreqTimes history) → KeepsTime timings.pingTimeoutNs state history)
    (fun fits keeps stepped spaced => keepsTime_step timings.keepAliveExceedsPingTimeout fits spaced
      (keeps (by rw [pingreqTimes_append] at spaced; exact (List.pairwise_append.mp spaced).1))
      stepped)
    clockFits (fun _ => ⟨fun _ scheduled => absurd rfl scheduled,
      fun _ absent => absurd absent (List.not_mem_nil _), timeoutsFollowPingreqs_nil _⟩) ran
  simpa using (kept (by simpa using spaced.sublist (pingreqTimes_sublist ran))).2.2

theorem keep_alive_ping_timeouts_are_exact_one_interval :
    (installed 0 false).run 10
        [(0, .pingreq none), (10, .pingTimeout 10), (1000000000, .pingreq none),
          (1000000001, .pingresp)] =
        some (⟨1000000001, false, [1000000010]⟩,
          [(0, .pingreq), (10, .timeout), (1000000000, .pingreq), (1000000001, .pingresp)]) ∧
      Spaced ((1 : UInt16).toNat * 1000000000) (pingreqSendTimes
        [(0, .pingreq none), (10, .pingTimeout 10), (1000000000, .pingreq none),
          (1000000001, .pingresp)]) ∧
      (∀ event ∈ [((0 : UInt64), PingAction.pingreq none), (10, .pingTimeout 10),
        (1000000000, .pingreq none), (1000000001, .pingresp)],
        event.1.toNat + (10 : UInt64).toNat < 2 ^ 64) ∧
      TimeoutsFollowPingreqs
        (fun sent timedOut => timedOut.toNat = sent.toNat + (10 : UInt64).toNat)
        [(0, .pingreq), (10, .timeout), (1000000000, .pingreq), (1000000001, .pingresp)] :=
  have ran : (installed 0 false).run 10
      [(0, .pingreq none), (10, .pingTimeout 10), (1000000000, .pingreq none),
        (1000000001, .pingresp)] =
      some (⟨1000000001, false, [1000000010]⟩,
        [(0, .pingreq), (10, .timeout), (1000000000, .pingreq), (1000000001, .pingresp)]) := by
    decide
  have spaced : Spaced ((1 : UInt16).toNat * 1000000000) (pingreqSendTimes
      [(0, .pingreq none), (10, .pingTimeout 10), (1000000000, .pingreq none),
        (1000000001, .pingresp)]) := by
    decide
  have clockFits : ∀ event ∈ [((0 : UInt64), PingAction.pingreq none), (10, .pingTimeout 10),
      (1000000000, .pingreq none), (1000000001, .pingresp)],
      event.1.toNat + (10 : UInt64).toNat < 2 ^ 64 := by
    decide
  ⟨ran, spaced, clockFits,
    keep_alive_ping_timeouts_are_exact ⟨1, 18446744073709551615, 10, by decide⟩ 0 false ran
      spaced clockFits⟩

/-- Without the spacing, with a 10 ns ping timeout: the task of the PINGREQ at 0, answered at
1, times out the PINGREQ sent at 2, 8 ns after it. -/
example : (installed 0 false).run 10
    [(0, .pingreq none), (1, .pingresp), (2, .pingreq none), (10, .pingTimeout 10)] =
      some (⟨10, false, [12]⟩,
        [(0, .pingreq), (1, .pingresp), (2, .pingreq), (10, .timeout)]) := by
  decide

/-! ## An unanswered PINGREQ is timed out -/

theorem perform_pingreq_none (state : PingState) (time : UInt64) :
    state.perform pingTimeoutNs time (.pingreq none) =
      ({ state with
          now := time, waitingOnPingResponse := true,
          pingTimeouts := state.pingTimeouts ++ [time + pingTimeoutNs] }, [.pingreq]) := rfl

theorem perform_pingreq_keeps (state : PingState) (time : UInt64)
    (failure : Option PingreqFailure) :
    (state.perform pingTimeoutNs time (.pingreq failure)).1.now = time ∧
      (state.waitingOnPingResponse = true →
        (state.perform pingTimeoutNs time (.pingreq failure)).1.waitingOnPingResponse = true) ∧
      state.pingTimeouts ⊆
        (state.perform pingTimeoutNs time (.pingreq failure)).1.pingTimeouts := by
  rcases @perform_pingreq pingTimeoutNs state time failure with same | same | ⟨_, same⟩ <;>
    simp [same]

theorem run_times_out (deadline : UInt64) :
    ∀ {events : List (UInt64 × PingAction)} {state final : PingState}
      {log : List (UInt64 × PingObservation)},
      deadline ∈ state.pingTimeouts → state.now.toNat ≤ deadline.toNat →
      state.waitingOnPingResponse = true → (∀ event ∈ events, event.2 ≠ .pingresp) →
      (∃ event ∈ events, deadline.toNat < event.1.toNat) →
      state.run pingTimeoutNs events = some (final, log) →
      ∃ time, state.now.toNat ≤ time.toNat ∧ time.toNat ≤ deadline.toNat ∧
        (time, .timeout) ∈ log
  | [], _, _, _, _, _, _, _, ⟨_, absent, _⟩, _ => nomatch absent
  | (time, action) :: events, state, _, _, scheduled, due, waiting, unanswered,
      ⟨late, member, after⟩, ran => by
    obtain ⟨next, observed, later, stepped, rest, rfl⟩ := run_cons_eq ran
    obtain ⟨allowed, rfl, rfl⟩ := step_eq_some.mp stepped
    have unansweredLater : ∀ event ∈ events, event.2 ≠ .pingresp :=
      fun event member => unanswered event (.tail _ member)
    dsimp only at allowed rest ⊢
    cases action with
    | pingresp => exact absurd rfl (unanswered _ (.head _))
    | pingTimeout first =>
      obtain ⟨_, earliest, runs⟩ := enabled_pingTimeout allowed
      refine ⟨time, runs ▸ le_runTime state first, ?_, ?_⟩
      · rw [runs]
        unfold runTime
        split
        · exact due
        · exact earliest deadline scheduled
      · simp [perform_pingTimeout, waiting]
    | pingreq failure =>
      have ⟨later, due'⟩ := enabled_of_exchange allowed fun _ => nofun
      have sentBy : time.toNat ≤ deadline.toNat := by
        have := due' deadline scheduled
        rwa [runTime_of_le due] at this
      have stillLate : ∃ event ∈ events, deadline.toNat < event.1.toNat := by
        rcases List.mem_cons.mp member with rfl | member
        · exact absurd after (Nat.not_lt.mpr sentBy)
        · exact ⟨late, member, after⟩
      obtain ⟨moved, flagged, kept⟩ := @perform_pingreq_keeps pingTimeoutNs state time failure
      obtain ⟨timedOutAt, notBefore, notAfter, timedOut⟩ :=
        run_times_out deadline (kept scheduled)
        (by rw [moved]; exact sentBy) (flagged waiting) unansweredLater stillLate rest
      rw [moved] at notBefore
      exact ⟨timedOutAt, Nat.le_trans later notBefore, notAfter,
        List.mem_append_right _ timedOut⟩

/-- If the event loop runs past the ping timeout of a PINGREQ whose timeout task was
scheduled, and no PINGRESP comes, a ping timeout shuts the channel down within the ping
timeout of that PINGREQ. -/
theorem unanswered_pingreq_times_out (pingTimeoutNs : UInt64) (state : PingState)
    {earlier later : List (UInt64 × PingAction)} {sentAt : UInt64} {final : PingState}
    {log : List (UInt64 × PingObservation)}
    (ran : state.run pingTimeoutNs (earlier ++ (sentAt, .pingreq none) :: later) =
      some (final, log))
    (clockFits : sentAt.toNat + pingTimeoutNs.toNat < 2 ^ 64)
    (unanswered : ∀ event ∈ later, event.2 ≠ .pingresp)
    (outlived : ∃ event ∈ later, sentAt.toNat + pingTimeoutNs.toNat < event.1.toNat) :
    ∃ time, sentAt.toNat ≤ time.toNat ∧ time.toNat ≤ sentAt.toNat + pingTimeoutNs.toNat ∧
      (time, PingObservation.timeout) ∈ log := by
  obtain ⟨middle, first, second, -, sent, rfl⟩ := run_append_eq ran
  obtain ⟨next, observed, rest, stepped, continued, rfl⟩ := run_cons_eq sent
  obtain ⟨-, rfl, -⟩ := step_eq_some.mp stepped
  have deadline : (sentAt + pingTimeoutNs).toNat = sentAt.toNat + pingTimeoutNs.toNat :=
    Nat.mod_eq_of_lt clockFits
  rw [perform_pingreq_none] at continued
  obtain ⟨time, notBefore, notAfter, timedOut⟩ := run_times_out (sentAt + pingTimeoutNs)
    (by simp) (by simp [deadline]) rfl unanswered (by rwa [deadline]) continued
  rw [deadline] at notAfter
  exact ⟨time, notBefore, notAfter, List.mem_append_right _ (List.mem_append_right _ timedOut)⟩

theorem unanswered_pingreq_times_out_at_deadline :
    (installed 0 false).run 10
        ([] ++ (0, .pingreq none) :: [(10, .pingTimeout 10), (11, .pingreq none)]) =
        some (⟨11, true, [21]⟩, [(0, .pingreq), (10, .timeout), (11, .pingreq)]) ∧
      (0 : UInt64).toNat + (10 : UInt64).toNat < 2 ^ 64 ∧
      (∀ event ∈ [((10 : UInt64), PingAction.pingTimeout 10), (11, .pingreq none)],
        event.2 ≠ .pingresp) ∧
      (∃ event ∈ [((10 : UInt64), PingAction.pingTimeout 10), (11, .pingreq none)],
        (0 : UInt64).toNat + (10 : UInt64).toNat < event.1.toNat) ∧
      ∃ time : UInt64, (0 : UInt64).toNat ≤ time.toNat ∧
        time.toNat ≤ (0 : UInt64).toNat + (10 : UInt64).toNat ∧
        (time, PingObservation.timeout) ∈
          [((0 : UInt64), PingObservation.pingreq), (10, .timeout), (11, .pingreq)] :=
  have ran : (installed 0 false).run 10
      ([] ++ (0, .pingreq none) :: [(10, .pingTimeout 10), (11, .pingreq none)]) =
      some (⟨11, true, [21]⟩, [(0, .pingreq), (10, .timeout), (11, .pingreq)]) := by decide
  have unanswered : ∀ event ∈ [((10 : UInt64), PingAction.pingTimeout 10), (11, .pingreq none)],
      event.2 ≠ .pingresp := by decide
  have outlived : ∃ event ∈ [((10 : UInt64), PingAction.pingTimeout 10), (11, .pingreq none)],
      (0 : UInt64).toNat + (10 : UInt64).toNat < event.1.toNat := by decide
  ⟨ran, by decide, unanswered, outlived,
    unanswered_pingreq_times_out 10 (installed 0 false) ran (by decide) unanswered outlived⟩

/-! ## What the ping flag means

`s_mqtt_client_init` does not clear `waiting_on_ping_response`, so a channel may start
with the flag its predecessor left set. Only a timeout task reads the flag, and a channel
has none until a PINGREQ, which sets the flag anyway: the stale flag cannot be observed.
From a clear flag, the flag is set exactly when the last thing observed is a PINGREQ. -/

/-- Two keep-alive states that differ at most in a flag no timeout task can read. -/
def Indistinguishable (state other : PingState) : Prop :=
  state.now = other.now ∧ state.pingTimeouts = other.pingTimeouts ∧
    (state.waitingOnPingResponse = other.waitingOnPingResponse ∨ state.pingTimeouts = [])

theorem enabled_congr {state other : PingState} (same : Indistinguishable state other)
    (time : UInt64) (action : PingAction) :
    state.enabled time action = other.enabled time action := by
  obtain ⟨now, tasks, -⟩ := same
  cases action <;> simp only [enabled, runTime, now, tasks]

theorem perform_indistinguishable {state other : PingState} {time : UInt64} {action : PingAction}
    (same : Indistinguishable state other) (allowed : state.enabled time action = true) :
    (state.perform pingTimeoutNs time action).2 = (other.perform pingTimeoutNs time action).2 ∧
      Indistinguishable (state.perform pingTimeoutNs time action).1
        (other.perform pingTimeoutNs time action).1 := by
  obtain ⟨now, tasks, flag⟩ := same
  cases action with
  | pingreq failure =>
    simp only [perform, pingreqSend]
    split_ifs <;> simp_all [Indistinguishable]
  | pingresp => exact ⟨rfl, rfl, tasks, .inl rfl⟩
  | pingTimeout deadline =>
    have flagSame := flag.resolve_right (List.ne_nil_of_mem (enabled_pingTimeout allowed).1)
    obtain ⟨_, _, _⟩ := state
    obtain ⟨_, _, _⟩ := other
    cases now
    cases tasks
    cases flagSame
    exact ⟨rfl, rfl, rfl, .inl rfl⟩

theorem step_indistinguishable {state other : PingState} (same : Indistinguishable state other)
    (event : UInt64 × PingAction) :
    Option.Rel (fun stepped otherStepped => stepped.2 = otherStepped.2 ∧
        Indistinguishable stepped.1 otherStepped.1)
      (state.step pingTimeoutNs event) (other.step pingTimeoutNs event) := by
  unfold step
  rw [← enabled_congr same]
  split
  · obtain ⟨observed, next⟩ := perform_indistinguishable same ‹_›
    exact .some ⟨by rw [observed], next⟩
  · exact .none

theorem run_indistinguishable :
    ∀ {events : List (UInt64 × PingAction)} {state other : PingState},
      Indistinguishable state other →
      Option.Rel (fun ran otherRan => ran.2 = otherRan.2 ∧ Indistinguishable ran.1 otherRan.1)
        (state.run pingTimeoutNs events) (other.run pingTimeoutNs events)
  | [], _, _, same => .some ⟨rfl, same⟩
  | event :: events, state, other, same => by
    simp only [run]
    match state.step pingTimeoutNs event, other.step pingTimeoutNs event,
        @step_indistinguishable pingTimeoutNs _ _ same event with
    | none, none, .none => exact .none
    | some (next, observed), some (otherNext, _), .some ⟨sameObserved, nextSame⟩ =>
      dsimp only at sameObserved nextSame
      subst sameObserved
      simp only [Option.some_bind]
      match next.run pingTimeoutNs events, otherNext.run pingTimeoutNs events,
          @run_indistinguishable events _ _ nextSame with
      | none, none, .none => exact .none
      | some (_, later), some (_, _), .some ⟨sameLater, finalSame⟩ =>
        dsimp only at sameLater
        subst sameLater
        exact .some ⟨rfl, finalSame⟩

theorem logs_eq_of_rel {ran otherRan : Option (PingState × List (UInt64 × PingObservation))}
    (related : Option.Rel (fun ran otherRan => ran.2 = otherRan.2 ∧
      Indistinguishable ran.1 otherRan.1) ran otherRan) :
    ran.map Prod.snd = otherRan.map Prod.snd := by
  cases related with
  | none => rfl
  | some alike => exact congrArg some alike.1

/-- Whether the previous channel left the ping flag set makes no difference to the new one:
over any events, the keep-alive of a freshly set up channel refuses the same events and
observes the same things at the same times. -/
theorem stale_ping_flag_is_unobservable (pingTimeoutNs now : UInt64)
    (events : List (UInt64 × PingAction)) :
    ((installed now true).run pingTimeoutNs events).map Prod.snd =
      ((installed now false).run pingTimeoutNs events).map Prod.snd :=
  logs_eq_of_rel (run_indistinguishable ⟨rfl, rfl, .inr rfl⟩)

/-- The flag is set exactly when the last observation is a PINGREQ. -/
def FlagTracks (state : PingState) (history : List (UInt64 × PingObservation)) : Prop :=
  state.waitingOnPingResponse = (history.getLast?.map Prod.snd == some .pingreq)

theorem step_flag {state next : PingState} {event : UInt64 × PingAction}
    {observed : List (UInt64 × PingObservation)}
    (stepped : state.step pingTimeoutNs event = some (next, observed)) :
    observed = [] ∧ next.waitingOnPingResponse = state.waitingOnPingResponse ∨
      ∃ observation, observed = [(event.1, observation)] ∧
        next.waitingOnPingResponse = (observation == .pingreq) := by
  obtain ⟨_, rfl, rfl⟩ := step_eq_some.mp stepped
  obtain ⟨time, action⟩ := event
  cases action with
  | pingreq failure =>
    rcases @perform_pingreq pingTimeoutNs state time failure with same | same | ⟨_, same⟩ <;>
      simp [same]
  | pingresp => simp [perform_pingresp]
  | pingTimeout deadline =>
    rw [perform_pingTimeout]
    split <;> simp_all

theorem flagTracks_step {state next : PingState}
    {history observed : List (UInt64 × PingObservation)} {event : UInt64 × PingAction}
    (tracks : FlagTracks state history)
    (stepped : state.step pingTimeoutNs event = some (next, observed)) :
    FlagTracks next (history ++ observed) := by
  unfold FlagTracks
  rcases step_flag stepped with ⟨rfl, same⟩ | ⟨observation, rfl, flag⟩
  · rw [List.append_nil, same]
    exact tracks
  · rw [flag, List.getLast?_concat]
    cases observation <;> rfl

/-- Over any run from a freshly set up channel with the flag clear, the flag is set exactly
when the last thing observed is a PINGREQ: it stands for an outstanding ping and nothing
else. -/
theorem ping_flag_tracks_last_observation (pingTimeoutNs now : UInt64)
    {events : List (UInt64 × PingAction)} {final : PingState}
    {log : List (UInt64 × PingObservation)}
    (ran : (installed now false).run pingTimeoutNs events = some (final, log)) :
    final.waitingOnPingResponse = (log.getLast?.map Prod.snd == some .pingreq) := by
  have kept := run_invariant (fun _ => True) FlagTracks
    (fun _ tracks stepped => flagTracks_step tracks stepped) (fun _ _ => trivial)
    (show FlagTracks (installed now false) [] from rfl) ran
  simpa using kept

theorem ping_flag_tracks_answered_then_unanswered :
    (installed 0 false).run 10
        [(0, .pingreq none), (1, .pingresp), (10, .pingTimeout 10), (20, .pingreq none)] =
        some (⟨20, true, [30]⟩, [(0, .pingreq), (1, .pingresp), (20, .pingreq)]) ∧
      (⟨20, true, [30]⟩ : PingState).waitingOnPingResponse =
        (([(0, .pingreq), (1, .pingresp), (20, .pingreq)] :
          List (UInt64 × PingObservation)).getLast?.map Prod.snd == some .pingreq) :=
  have ran : (installed 0 false).run 10
      [(0, .pingreq none), (1, .pingresp), (10, .pingTimeout 10), (20, .pingreq none)] =
      some (⟨20, true, [30]⟩, [(0, .pingreq), (1, .pingresp), (20, .pingreq)]) := by
    decide
  ⟨ran, ping_flag_tracks_last_observation 10 0 ran⟩

/-! ## One shutdown at most per scheduled timeout task -/

/-- Each step accounts for its timeout: the timeouts it observes and the tasks it leaves
scheduled are no more than the tasks there were, and one more when it is a PINGREQ send
that scheduled its task. -/
theorem step_timeouts_le {state next : PingState} {event : UInt64 × PingAction}
    {observed : List (UInt64 × PingObservation)}
    (stepped : state.step pingTimeoutNs event = some (next, observed)) :
    observed.countP (·.2 == .timeout) + next.pingTimeouts.length ≤
      state.pingTimeouts.length + [event].countP (·.2 == .pingreq none) := by
  obtain ⟨allowed, rfl, rfl⟩ := step_eq_some.mp stepped
  obtain ⟨time, action⟩ := event
  cases action with
  | pingreq failure =>
    rcases @perform_pingreq pingTimeoutNs state time failure with same | same | ⟨rfl, same⟩ <;>
      simp [same]
  | pingresp => simp [perform_pingresp]
  | pingTimeout deadline =>
    have scheduled := (enabled_pingTimeout allowed).1
    have remaining := List.length_erase_of_mem scheduled
    have nonempty := List.length_pos_of_mem scheduled
    rw [perform_pingTimeout]
    split
    · simp [remaining]
      omega
    · simp [remaining]

theorem run_timeouts_le :
    ∀ {events : List (UInt64 × PingAction)} {state final : PingState}
      {log : List (UInt64 × PingObservation)},
      state.run pingTimeoutNs events = some (final, log) →
      log.countP (·.2 == .timeout) + final.pingTimeouts.length ≤
        state.pingTimeouts.length + events.countP (·.2 == .pingreq none)
  | [], _, _, _, ran => by
    simp only [run, Option.some.injEq, Prod.mk.injEq] at ran
    obtain ⟨rfl, rfl⟩ := ran
    simp
  | event :: events, _, _, _, ran => by
    obtain ⟨next, observed, later, stepped, rest, rfl⟩ := run_cons_eq ran
    have now := step_timeouts_le stepped
    have after := run_timeouts_le rest
    rw [List.countP_append, ← List.singleton_append, List.countP_append]
    omega

/-- Over any run from a freshly set up channel, the ping-timeout shutdowns and the timeout
tasks still scheduled are at most the PINGREQ sends that scheduled their task: no task shuts
the channel down twice, and a PINGREQ whose task could not be allocated or timed never causes
a shutdown. -/
theorem ping_timeouts_at_most_armed_sends (pingTimeoutNs now : UInt64) (waiting : Bool)
    {events : List (UInt64 × PingAction)} {final : PingState}
    {log : List (UInt64 × PingObservation)}
    (ran : (installed now waiting).run pingTimeoutNs events = some (final, log)) :
    log.countP (·.2 == .timeout) + final.pingTimeouts.length ≤
      events.countP (·.2 == .pingreq none) := by
  simpa [installed] using run_timeouts_le ran

theorem ping_timeouts_at_most_armed_sends_after_failed_task :
    (installed 0 false).run 10
        [(0, .pingreq (some .timeoutTaskAlloc)), (5, .pingreq none), (15, .pingTimeout 15)] =
        some (⟨15, false, []⟩, [(0, .pingreq), (5, .pingreq), (15, .timeout)]) ∧
      ([(0, .pingreq), (5, .pingreq), (15, .timeout)] : List (UInt64 × PingObservation)).countP
          (·.2 == .timeout) + ([] : List UInt64).length ≤
        ([(0, .pingreq (some .timeoutTaskAlloc)), (5, .pingreq none), (15, .pingTimeout 15)] :
          List (UInt64 × PingAction)).countP (·.2 == .pingreq none) :=
  have ran : (installed 0 false).run 10
      [(0, .pingreq (some .timeoutTaskAlloc)), (5, .pingreq none), (15, .pingTimeout 15)] =
      some (⟨15, false, []⟩, [(0, .pingreq), (5, .pingreq), (15, .timeout)]) := by
    decide
  ⟨ran, ping_timeouts_at_most_armed_sends 10 0 false ran⟩

end PingState

end MqttClient
