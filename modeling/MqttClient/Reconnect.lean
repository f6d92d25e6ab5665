import MqttClient.Configuration
import Mathlib.Order.MinMax
import Mathlib.Algebra.Group.Nat.Basic

/-! # Reconnect backoff

The deadlines and the doubling of `s_attempt_reconnect`, on `uint64_t` values. -/

namespace MqttClient

/-- aws-c-common's `aws_mul_u64_saturating`. -/
def mulU64Saturating (a b : UInt64) : UInt64 :=
  if 0 < a ∧ 0 < b ∧ 18446744073709551615 / b < a then 18446744073709551615 else a * b

/-- aws-c-common's `aws_timestamp_convert` from `AWS_TIMESTAMP_SECS` to
`AWS_TIMESTAMP_NANOS`, the only conversion made here: a saturating multiplication by
the ratio of the two units. -/
def timestampConvert (seconds : UInt64) : UInt64 :=
  mulU64Saturating seconds 1000000000

namespace ReconnectTimeouts

/-- The update of `current_sec` in `s_attempt_reconnect`. -/
def backoff (timeouts : ReconnectTimeouts) : UInt64 :=
  if timeouts.currentSec > timeouts.maxSec / 2 then timeouts.maxSec else timeouts.currentSec * 2

/-- `s_attempt_reconnect` on a run-ready task with a live connection, given its two
readings of `aws_high_res_clock_get_ticks`: the first before the backoff grows, the
second after. -/
def attemptReconnect (timeouts : ReconnectTimeouts) (attemptTicks resetTicks : UInt64) :
    ReconnectTimeouts :=
  let nextAttemptMs := attemptTicks + timestampConvert timeouts.currentSec
  let currentSec := timeouts.backoff
  { timeouts with
    nextAttemptMs, currentSec
    nextAttemptResetTimerNs := resetTicks + 10000000000 + timestampConvert currentSec }

/-- A run of failed attempts, one for each pair of clock readings: a failed
`s_mqtt_client_connect` leaves the timeouts to the next attempt. -/
def attemptReconnects (timeouts : ReconnectTimeouts) : List (UInt64 × UInt64) → ReconnectTimeouts
  | [] => timeouts
  | (attemptTicks, resetTicks) :: rest =>
      (timeouts.attemptReconnect attemptTicks resetTicks).attemptReconnects rest

@[simp] theorem attemptReconnect_currentSec (timeouts : ReconnectTimeouts)
    (attemptTicks resetTicks : UInt64) :
    (timeouts.attemptReconnect attemptTicks resetTicks).currentSec = timeouts.backoff := rfl

@[simp] theorem attemptReconnect_maxSec (timeouts : ReconnectTimeouts)
    (attemptTicks resetTicks : UInt64) :
    (timeouts.attemptReconnect attemptTicks resetTicks).maxSec = timeouts.maxSec := rfl

/-! ## The backoff -/

theorem backoff_toNat (timeouts : ReconnectTimeouts) :
    timeouts.backoff.toNat = min (timeouts.currentSec.toNat * 2) timeouts.maxSec.toNat := by
  have bounded : timeouts.maxSec.toNat < 2 ^ 64 := timeouts.maxSec.toNat_lt_size
  unfold backoff
  split
  · rename_i above
    have above : timeouts.maxSec.toNat / 2 < timeouts.currentSec.toNat := by simpa using above
    omega
  · rename_i below
    have below : timeouts.currentSec.toNat ≤ timeouts.maxSec.toNat / 2 := by simpa using below
    show timeouts.currentSec.toNat * 2 % 2 ^ 64 = _
    omega

theorem min_clamp_mul_pow (value bound steps : Nat) :
    min (min value bound * 2 ^ steps) bound = min (value * 2 ^ steps) bound := by
  have grows : ∀ value, value ≤ value * 2 ^ steps :=
    fun value => Nat.le_mul_of_pos_right value (Nat.two_pow_pos steps)
  rcases le_total value bound with below | above
  · rw [min_eq_left below]
  · rw [min_eq_right above, min_eq_right (grows bound), min_eq_right (above.trans (grows value))]

theorem attemptReconnects_maxSec :
    ∀ (readings : List (UInt64 × UInt64)) (timeouts : ReconnectTimeouts),
      (timeouts.attemptReconnects readings).maxSec = timeouts.maxSec
  | [], _ => rfl
  | (_, _) :: rest, _ => attemptReconnects_maxSec rest _

theorem min_attemptReconnects_currentSec :
    ∀ (readings : List (UInt64 × UInt64)) (timeouts : ReconnectTimeouts),
      min (timeouts.attemptReconnects readings).currentSec.toNat timeouts.maxSec.toNat =
        min (timeouts.currentSec.toNat * 2 ^ readings.length) timeouts.maxSec.toNat
  | [], _ => by simp [attemptReconnects]
  | (attemptTicks, resetTicks) :: rest, timeouts => by
      have later := min_attemptReconnects_currentSec rest
        (timeouts.attemptReconnect attemptTicks resetTicks)
      rw [attemptReconnect_maxSec, attemptReconnect_currentSec, backoff_toNat,
        min_clamp_mul_pow] at later
      rw [attemptReconnects, later, List.length_cons, Nat.pow_succ', Nat.mul_assoc]

theorem attemptReconnects_currentSec_le :
    ∀ {readings : List (UInt64 × UInt64)} (timeouts : ReconnectTimeouts), readings ≠ [] →
      (timeouts.attemptReconnects readings).currentSec ≤ timeouts.maxSec
  | [(attemptTicks, resetTicks)], timeouts, _ =>
      show timeouts.backoff.toNat ≤ timeouts.maxSec.toNat by
        rw [backoff_toNat]
        exact min_le_right _ _
  | (attemptTicks, resetTicks) :: next :: rest, timeouts, _ =>
      attemptReconnects_currentSec_le (timeouts.attemptReconnect attemptTicks resetTicks)
        (List.cons_ne_nil next rest)

/-- From the first failed attempt on, the backoff is the initial `current_sec` doubled
once per attempt and clamped at `max_sec`, computed over the naturals with no
wrap-around: it never exceeds `max_sec` and never shrinks from one attempt to the
next. -/
theorem backoff_doubles_up_to_max_sec (timeouts : ReconnectTimeouts)
    {readings : List (UInt64 × UInt64)} (failed : readings ≠ []) :
    (timeouts.attemptReconnects readings).currentSec.toNat =
        min (timeouts.currentSec.toNat * 2 ^ readings.length) timeouts.maxSec.toNat ∧
      (timeouts.attemptReconnects readings).currentSec ≤ timeouts.maxSec ∧
      ∀ next : UInt64 × UInt64, (timeouts.attemptReconnects readings).currentSec ≤
        (timeouts.attemptReconnects (readings ++ [next])).currentSec := by
  have clamped : ∀ {readings : List (UInt64 × UInt64)}, readings ≠ [] →
      (timeouts.attemptReconnects readings).currentSec.toNat =
        min (timeouts.currentSec.toNat * 2 ^ readings.length) timeouts.maxSec.toNat :=
    fun failed => by
      rw [← min_attemptReconnects_currentSec,
        min_eq_left (attemptReconnects_currentSec_le timeouts failed)]
  refine ⟨clamped failed, attemptReconnects_currentSec_le timeouts failed, fun next => ?_⟩
  show (timeouts.attemptReconnects readings).currentSec.toNat ≤
    (timeouts.attemptReconnects (readings ++ [next])).currentSec.toNat
  rw [clamped failed, clamped (List.append_ne_nil_of_right_ne_nil readings (List.cons_ne_nil _ _)),
    List.length_append, List.length_singleton]
  exact min_le_min_right _
    (Nat.mul_le_mul_left _ (Nat.pow_le_pow_right Nat.two_pos (Nat.le_succ _)))

theorem backoff_after_two_failed_attempts :
    (ReconnectTimeouts.attemptReconnects ⟨1, 1, 128, 0, 0⟩ [(0, 0), (0, 0)]).currentSec.toNat =
        min (1 * 2 ^ 2) 128 ∧
      (ReconnectTimeouts.attemptReconnects ⟨1, 1, 128, 0, 0⟩ [(0, 0), (0, 0)]).currentSec ≤ 128 ∧
      ∀ next : UInt64 × UInt64,
        (ReconnectTimeouts.attemptReconnects ⟨1, 1, 128, 0, 0⟩ [(0, 0), (0, 0)]).currentSec ≤
          (ReconnectTimeouts.attemptReconnects ⟨1, 1, 128, 0, 0⟩ ([(0, 0), (0, 0)] ++ [next])).currentSec :=
  backoff_doubles_up_to_max_sec ⟨1, 1, 128, 0, 0⟩ (List.cons_ne_nil _ _)

/-! ## The deadlines -/

theorem toNat_add_mod (a b : UInt64) : (a + b).toNat = (a.toNat + b.toNat) % 2 ^ 64 := rfl

theorem timestampConvert_of_overflow {seconds : UInt64}
    (beyond : 2 ^ 64 ≤ seconds.toNat * 1000000000) :
    timestampConvert seconds = 18446744073709551615 := by
  have above : (18446744073709551615 / 1000000000 : UInt64).toNat < seconds.toNat := by
    show 18446744073 < seconds.toNat
    omega
  exact if_pos ⟨show 0 < seconds.toNat by omega, by decide, above⟩

/-- The deadline of the next attempt is a plain 64-bit addition: once `current_sec`
seconds no longer fit in 64 bits of nanoseconds, it wraps around to just before the
clock reading it was computed from, and the next attempt is due at once. -/
theorem next_attempt_deadline_wraps_below_now (timeouts : ReconnectTimeouts)
    {attemptTicks : UInt64} (resetTicks : UInt64) (ticking : 0 < attemptTicks.toNat)
    (beyond : 2 ^ 64 ≤ timeouts.currentSec.toNat * 1000000000) :
    (timeouts.attemptReconnect attemptTicks resetTicks).nextAttemptMs < attemptTicks := by
  show (attemptTicks + timestampConvert timeouts.currentSec).toNat < attemptTicks.toNat
  have largest : (18446744073709551615 : UInt64).toNat = 2 ^ 64 - 1 := rfl
  have bounded : attemptTicks.toNat < 2 ^ 64 := attemptTicks.toNat_lt_size
  rw [timestampConvert_of_overflow beyond, toNat_add_mod, largest]
  omega

theorem next_attempt_deadline_wraps_at_largest_bounds :
    (0 : Nat) < (1000000000 : UInt64).toNat ∧
      2 ^ 64 ≤ (18446744073709551615 : UInt64).toNat * 1000000000 ∧
      (ReconnectTimeouts.attemptReconnect
        ⟨18446744073709551615, 18446744073709551615, 18446744073709551615, 0, 0⟩
        1000000000 1000000000).nextAttemptMs < 1000000000 :=
  ⟨by decide, by decide,
    next_attempt_deadline_wraps_below_now _ 1000000000 (by decide) (by decide)⟩

end ReconnectTimeouts

end MqttClient
