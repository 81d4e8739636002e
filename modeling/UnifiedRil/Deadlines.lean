import Mathlib.Tactic.Linarith

/-!
The deadlines of timed waits. `osal_condition_unix_timedwait` and
`osal_mutex_unix_timedlock` add a timeout in milliseconds to the time of day,
which has microseconds, and pass on a time with nanoseconds. Neither converts
the microseconds.

`time_t`, `suseconds_t` and `long` have 64 bits here, and an addition of them
that overflows wraps around.
-/

namespace UnifiedRil.Deadlines

/-- `struct timeval`, as `gettimeofday` fills it in. -/
structure Timeval where
  tvSec : Int64
  tvUsec : Int64
  usec_range : 0 ≤ tvUsec.toInt ∧ tvUsec.toInt < 1000000

structure Timespec where
  tvSec : Int64
  tvNsec : Int64
  deriving DecidableEq

def Timeval.nanoseconds (tp : Timeval) : Int :=
  (tp.tvSec.toInt * 1000000 + tp.tvUsec.toInt) * 1000

def Timespec.nanoseconds (timeout : Timespec) : Int :=
  timeout.tvSec.toInt * 1000000000 + timeout.tvNsec.toInt

/-- `(ms % 1000) * 1000000`, in 32 bits -/
def nanosecondPart (ms : UInt32) : UInt32 := ms % 1000 * 1000000

/-- `timeout`, when it is `tp` now. -/
def timeoutAt (tp : Timeval) (ms : UInt32) : Timespec where
  tvSec := tp.tvSec + (ms / 1000).toUInt64.toInt64
  tvNsec := tp.tvUsec + (nanosecondPart ms).toUInt64.toInt64

variable {ρ : Type}

/-- `pthread_cond_timedwait` is what it does with the condition and the mutex of
the call until a deadline. -/
def osalConditionUnixTimedwait (pthreadCondTimedwait : Timespec → ρ) (tp : Timeval)
    (ms : UInt32) : ρ :=
  pthreadCondTimedwait (timeoutAt tp ms)

def osalMutexUnixTimedlock (pthreadMutexTimedlock : Timespec → ρ) (tp : Timeval)
    (ms : UInt32) : ρ :=
  pthreadMutexTimedlock (timeoutAt tp ms)

/-- A deadline as POSIX wants it, `ms` milliseconds from `tp` on. -/
structure KeepsTimeout (deadline : UInt32 → Timespec) (tp : Timeval) (ms : UInt32) : Prop where
  nsec : 0 ≤ (deadline ms).tvNsec.toInt ∧ (deadline ms).tvNsec.toInt < 1000000000
  nanoseconds : (deadline ms).nanoseconds = tp.nanoseconds + ms.toNat * 1000000
  product : (nanosecondPart ms).toNat = ms.toNat % 1000 * 1000000
  notBefore : tp.nanoseconds ≤ (deadline ms).nanoseconds
  monotone : ∀ ms', ms' ≤ ms → (deadline ms').nanoseconds ≤ (deadline ms).nanoseconds

/-- The seconds of the deadline are representable. -/
def SecondsFit (tp : Timeval) (ms : UInt32) : Prop :=
  tp.tvSec.toInt + (ms.toNat / 1000 : Nat) < 2 ^ 63

theorem nanosecondPart_toNat (ms : UInt32) :
    (nanosecondPart ms).toNat = ms.toNat % 1000 * 1000000 := by
  have hlt : ms.toNat % 1000 < 1000 := Nat.mod_lt _ (by decide)
  simp only [nanosecondPart, UInt32.toNat_mul, UInt32.toNat_mod, UInt32.reduceToNat]
  exact Nat.mod_eq_of_lt (by omega)

theorem toInt_toInt64 (x : UInt32) : x.toUInt64.toInt64.toInt = x.toNat := by
  have hlt := x.toNat_lt
  rw [Int64.toInt, UInt64.toBitVec_toInt64, BitVec.toInt_eq_toNat_of_lt]
  · rfl
  · rw [UInt64.toNat_toBitVec, UInt32.toNat_toUInt64]
    omega

theorem tvNsec_timeoutAt (tp : Timeval) (ms : UInt32) :
    (timeoutAt tp ms).tvNsec.toInt = tp.tvUsec.toInt + (ms.toNat % 1000 * 1000000 : Nat) := by
  obtain ⟨hnonneg, hlt⟩ := tp.usec_range
  have hmod : ms.toNat % 1000 < 1000 := Nat.mod_lt _ (by decide)
  rw [timeoutAt, Int64.toInt_add, toInt_toInt64, nanosecondPart_toNat]
  apply Int.bmod_eq_of_le
  · omega
  · omega

theorem timeoutAt_nsec (tp : Timeval) (ms : UInt32) :
    0 ≤ (timeoutAt tp ms).tvNsec.toInt ∧ (timeoutAt tp ms).tvNsec.toInt < 1000000000 := by
  obtain ⟨hnonneg, hlt⟩ := tp.usec_range
  have hmod : ms.toNat % 1000 < 1000 := Nat.mod_lt _ (by decide)
  rw [tvNsec_timeoutAt]
  omega

theorem tvSec_timeoutAt (tp : Timeval) (ms : UInt32) :
    (timeoutAt tp ms).tvSec.toInt = (tp.tvSec.toInt + (ms.toNat / 1000 : Nat)).bmod (2 ^ 64) := by
  rw [timeoutAt, Int64.toInt_add, toInt_toInt64]
  rfl

theorem tvSec_of_fit {tp : Timeval} {ms : UInt32} (hfit : SecondsFit tp ms) :
    (timeoutAt tp ms).tvSec.toInt = tp.tvSec.toInt + (ms.toNat / 1000 : Nat) := by
  have hle := tp.tvSec.le_toInt
  rw [SecondsFit] at hfit
  rw [tvSec_timeoutAt]
  apply Int.bmod_eq_of_le
  · omega
  · omega

theorem tvSec_of_not_fit {tp : Timeval} {ms : UInt32} (hfit : ¬ SecondsFit tp ms) :
    (timeoutAt tp ms).tvSec.toInt < tp.tvSec.toInt := by
  have hlt := tp.tvSec.toInt_lt
  have hms := ms.toNat_lt
  rw [SecondsFit, not_lt] at hfit
  rw [tvSec_timeoutAt, Int.bmod_def]
  split
  · omega
  · omega

theorem nanoseconds_timeoutAt {tp : Timeval} {ms : UInt32} (hfit : SecondsFit tp ms) :
    (timeoutAt tp ms).nanoseconds =
      tp.nanoseconds + ms.toNat * 1000000 - 999 * tp.tvUsec.toInt := by
  rw [Timespec.nanoseconds, tvSec_of_fit hfit, tvNsec_timeoutAt, Timeval.nanoseconds]
  have hms := Nat.div_add_mod ms.toNat 1000
  omega

theorem timeoutAt_monotone {tp : Timeval} {ms ms' : UInt32} (hfit : SecondsFit tp ms)
    (hle : ms' ≤ ms) : (timeoutAt tp ms').nanoseconds ≤ (timeoutAt tp ms).nanoseconds := by
  have hle' : ms'.toNat ≤ ms.toNat := UInt32.le_iff_toNat_le.mp hle
  have hfit' : SecondsFit tp ms' := by
    rw [SecondsFit] at hfit ⊢
    omega
  rw [nanoseconds_timeoutAt hfit, nanoseconds_timeoutAt hfit']
  omega

/-- Where it is early by more than the timeout, the wait is over before it
begins. -/
theorem timeoutAt_before_iff {tp : Timeval} {ms : UInt32} (hfit : SecondsFit tp ms) :
    (timeoutAt tp ms).nanoseconds < tp.nanoseconds ↔
      (ms.toNat : Int) * 1000000 < 999 * tp.tvUsec.toInt := by
  rw [nanoseconds_timeoutAt hfit]
  omega

theorem keepsTimeout_timeoutAt {tp : Timeval} {ms : UInt32} (husec : tp.tvUsec = 0)
    (hfit : SecondsFit tp ms) : KeepsTimeout (timeoutAt tp) tp ms := by
  have hzero : tp.tvUsec.toInt = 0 := by rw [husec]; rfl
  constructor
  case nsec => exact timeoutAt_nsec tp ms
  case nanoseconds =>
    rw [nanoseconds_timeoutAt hfit, hzero]
    omega
  case product => exact nanosecondPart_toNat ms
  case notBefore =>
    rw [nanoseconds_timeoutAt hfit, hzero]
    omega
  case monotone => exact fun _ => timeoutAt_monotone hfit

theorem keepsTimeout_iff (tp : Timeval) (ms : UInt32) :
    KeepsTimeout (timeoutAt tp) tp ms ↔ tp.tvUsec = 0 ∧ SecondsFit tp ms := by
  constructor
  · intro h
    have hfit : SecondsFit tp ms := by
      by_contra hnot
      have hbefore := tvSec_of_not_fit hnot
      have hnotBefore := h.notBefore
      rw [Timespec.nanoseconds, Timeval.nanoseconds] at hnotBefore
      have hnsec := (timeoutAt_nsec tp ms).2
      have husec := tp.usec_range.1
      omega
    refine ⟨Int64.toInt_inj.mp ?_, hfit⟩
    have hexact := h.nanoseconds
    rw [nanoseconds_timeoutAt hfit] at hexact
    change tp.tvUsec.toInt = 0
    omega
  · rintro ⟨husec, hfit⟩
    exact keepsTimeout_timeoutAt husec hfit

/-- The deadlines are exact if and only if the time of day has no microseconds
and the seconds do not overflow. -/
theorem deadlines_exact (tp : Timeval) (ms : UInt32) :
    (KeepsTimeout (osalConditionUnixTimedwait id tp) tp ms ↔
      tp.tvUsec = 0 ∧ SecondsFit tp ms) ∧
    (KeepsTimeout (osalMutexUnixTimedlock id tp) tp ms ↔
      tp.tvUsec = 0 ∧ SecondsFit tp ms) :=
  ⟨keepsTimeout_iff tp ms, keepsTimeout_iff tp ms⟩

/-- Half a second before a full second, a timeout of 100 ms is over. -/
theorem deadline_before_now :
    ¬ ∀ (tp : Timeval) (ms : UInt32), KeepsTimeout (osalConditionUnixTimedwait id tp) tp ms ∧
      KeepsTimeout (osalMutexUnixTimedlock id tp) tp ms := by
  intro hexact
  let tp : Timeval := ⟨1460000000, 500000, by decide⟩
  have hfit : SecondsFit tp 100 := by
    unfold SecondsFit
    decide
  have hbefore := (timeoutAt_before_iff hfit).mpr (by decide)
  exact not_le.mpr hbefore (hexact tp 100).1.notBefore

end UnifiedRil.Deadlines
