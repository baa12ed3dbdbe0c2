import SnmpTrap.Error
import SnmpTrap.Rust.Outcome

/-! The uptime of a macOS host (`macos_uptime_centiseconds`): two `timeval`s subtracted with a
borrow, scaled with saturation and capped. -/
namespace SnmpTrap
open Rust
set_option autoImplicit false
set_option maxHeartbeats 250000
set_option maxRecDepth 120000

/-- `libc::timeval`. -/
structure Timeval where
  tvSec : Int64
  tvUsec : Int32

/-! ## 64-bit arithmetic -/

/-- Subtraction of `i64`s with overflow checked. -/
def checkedSub {ε : Type} (a b : ℤ) : Outcome ε ℤ :=
  if -2 ^ 63 ≤ a - b ∧ a - b < 2 ^ 63 then .ok (a - b)
  else Outcome.panicked "attempt to subtract with overflow"

/-- `as u64` on an `i64`. -/
def asU64 (i : ℤ) : ℕ := (i % 2 ^ 64).toNat

/-- `u64::saturating_mul`. -/
def saturatingMul (a b : ℕ) : ℕ := min (a * b) (2 ^ 64 - 1)

/-- `u64::saturating_add`. -/
def saturatingAdd (a b : ℕ) : ℕ := min (a + b) (2 ^ 64 - 1)

/-! ## The function -/

/-- The end of the function; a wall clock behind the boot time counts as none. -/
def cappedCentiseconds (secs usecs : ℤ) : UInt32 :=
  if secs < 0 then 0
  else
    let totalUs := saturatingAdd (saturatingMul (asU64 secs) 1000000) (asU64 usecs)
    let centi := totalUs / 10000
    UInt32.ofNat (min centi (2 ^ 32 - 1))

/-- What is left once both clocks have answered. -/
def centisecondsBetween (boottime now : Timeval) : Outcome IoError UInt32 := do
  let secs ← checkedSub now.tvSec.toInt boottime.tvSec.toInt
  let usecs ← checkedSub now.tvUsec.toInt boottime.tvUsec.toInt
  let (secs, usecs) ←
    if usecs < 0 then do
      let secs ← checkedSub secs 1
      .ok (secs, usecs + 1000000)
    else .ok (secs, usecs)
  .ok (cappedCentiseconds secs usecs)

/-- `sysctl` for the boot time, then `gettimeofday`. -/
def macosUptimeCentiseconds (sysctl gettimeofday : Except IoError Timeval) :
    Outcome IoError UInt32 := do
  let boottime ← Outcome.ofExcept sysctl
  let now ← Outcome.ofExcept gettimeofday
  centisecondsBetween boottime now

/-! ## What it computes -/

/-- A `timeval` as the system gives them. -/
def Timeval.Normal (t : Timeval) : Prop := 0 ≤ t.tvUsec.toInt ∧ t.tvUsec.toInt < 1000000

/-- Its time in microseconds. -/
def Timeval.micros (t : Timeval) : ℤ := t.tvSec.toInt * 1000000 + t.tvUsec.toInt

theorem checkedSub_ok {ε : Type} {a b : ℤ} (hlo : -2 ^ 63 ≤ a - b) (hhi : a - b < 2 ^ 63) :
    (checkedSub a b : Outcome ε ℤ) = .ok (a - b) := if_pos ⟨hlo, hhi⟩

/-- Where a product or a sum saturates, the cap is reached anyway. -/
theorem cappedCentiseconds_eq {secs usecs : ℤ} (hsecs : secs < 2 ^ 63) (hlo : 0 ≤ usecs)
    (hhi : usecs < 1000000) : cappedCentiseconds secs usecs =
      UInt32.ofNat (min ((secs * 1000000 + usecs).toNat / 10000) (2 ^ 32 - 1)) := by
  unfold cappedCentiseconds saturatingAdd saturatingMul asU64
  by_cases hneg : secs < 0
  · have hzero : (secs * 1000000 + usecs).toNat = 0 := by omega
    rw [if_pos hneg, hzero]
    rfl
  · rw [if_neg hneg]
    refine congrArg UInt32.ofNat ?_
    omega

/-- Borrowing one second keeps the time and brings the microseconds in range. -/
theorem centisecondsBetween_eq {boottime now : Timeval} (hboot : boottime.Normal)
    (hnow : now.Normal) (hlo : -2 ^ 63 < now.tvSec.toInt - boottime.tvSec.toInt)
    (hhi : now.tvSec.toInt - boottime.tvSec.toInt < 2 ^ 63) :
    centisecondsBetween boottime now =
      .ok (UInt32.ofNat (min ((now.micros - boottime.micros).toNat / 10000) (2 ^ 32 - 1))) := by
  obtain ⟨hboot, hboot'⟩ := hboot
  obtain ⟨hnow, hnow'⟩ := hnow
  unfold centisecondsBetween
  rw [checkedSub_ok hlo.le hhi, Outcome.ok_bind, checkedSub_ok (by omega) (by omega),
    Outcome.ok_bind]
  by_cases hborrow : now.tvUsec.toInt - boottime.tvUsec.toInt < 0
  · have hmicros : (now.tvSec.toInt - boottime.tvSec.toInt - 1) * 1000000 +
        (now.tvUsec.toInt - boottime.tvUsec.toInt + 1000000) = now.micros - boottime.micros := by
      unfold Timeval.micros
      ring
    rw [if_pos hborrow, checkedSub_ok (by omega) (by omega), Outcome.ok_bind, Outcome.ok_bind]
    simp only
    rw [cappedCentiseconds_eq (by omega) (by omega) (by omega), hmicros]
  · have hmicros : (now.tvSec.toInt - boottime.tvSec.toInt) * 1000000 +
        (now.tvUsec.toInt - boottime.tvUsec.toInt) = now.micros - boottime.micros := by
      unfold Timeval.micros
      ring
    rw [if_neg hborrow, Outcome.ok_bind]
    simp only
    rw [cappedCentiseconds_eq (by omega) (by omega) (by omega), hmicros]

/-- **The macOS uptime is exact up to its caps.** Whatever two times the clocks tell, with the
seconds apart by less than an `i64` holds, the result is the time between them in whole hundredths
of a second, 0 where it is negative and `u32::MAX` where it is more; a clock that fails is the
error. -/
theorem macos_uptime_exact (sysctl gettimeofday : Except IoError Timeval)
    (hboot : ∀ t, sysctl = .ok t → t.Normal) (hnow : ∀ t, gettimeofday = .ok t → t.Normal)
    (hspan : ∀ boottime now, sysctl = .ok boottime → gettimeofday = .ok now →
      -2 ^ 63 < now.tvSec.toInt - boottime.tvSec.toInt ∧
        now.tvSec.toInt - boottime.tvSec.toInt < 2 ^ 63) :
    (∃ e, macosUptimeCentiseconds sysctl gettimeofday = Outcome.fail e ∧
      (sysctl = .error e ∨ (∃ t, sysctl = .ok t) ∧ gettimeofday = .error e)) ∨
    ∃ boottime now, sysctl = .ok boottime ∧ gettimeofday = .ok now ∧
      macosUptimeCentiseconds sysctl gettimeofday =
        .ok (UInt32.ofNat (min ((now.micros - boottime.micros).toNat / 10000) (2 ^ 32 - 1))) := by
  cases sysctl with
  | error e => exact Or.inl ⟨e, rfl, Or.inl rfl⟩
  | ok boottime =>
    cases gettimeofday with
    | error e => exact Or.inl ⟨e, rfl, Or.inr ⟨⟨boottime, rfl⟩, rfl⟩⟩
    | ok now =>
      obtain ⟨hlo, hhi⟩ := hspan boottime now rfl rfl
      exact Or.inr ⟨boottime, now, rfl, rfl,
        centisecondsBetween_eq (hboot boottime rfl) (hnow now rfl) hlo hhi⟩

/-- Three hundredths of a second over a borrow. -/
theorem macos_uptime_exact_borrow :
    macosUptimeCentiseconds (.ok ⟨100, 990000⟩) (.ok ⟨101, 20000⟩) = .ok 3 := by
  have hnormal : ∀ (sec : Int64) (usec : Int32), 0 ≤ usec.toInt ∧ usec.toInt < 1000000 →
      ∀ t, (.ok ⟨sec, usec⟩ : Except IoError Timeval) = .ok t → t.Normal := by
    rintro sec usec h t ht
    cases ht
    exact h
  obtain ⟨e, _, h | ⟨_, h⟩⟩ | ⟨boottime, now, hboot, hnow, h⟩ :=
    macos_uptime_exact (.ok ⟨100, 990000⟩) (.ok ⟨101, 20000⟩) (hnormal _ _ (by decide))
      (hnormal _ _ (by decide)) (by
        rintro boottime now hboot hnow
        cases hboot
        cases hnow
        decide)
  · cases h
  · cases h
  · cases hboot
    cases hnow
    rw [h]
    decide

end SnmpTrap
