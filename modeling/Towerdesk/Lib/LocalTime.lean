import Towerdesk.Lib.IsoDate

/-!
# Local time

A zone says how far its clocks stand from UTC at each instant, and which instant it reads a
local time as: clocks that are put forward or back skip some local times and show others
twice. An offset is always less than a day. The operations on the local calendar day go to
local time and back; a day of UTC is counted from the start of 1970.
-/

namespace LocalTime

open IsoDate (msPerDay)

structure Zone where
  offset : ℤ → ℤ
  utc : ℤ → ℤ
  offset_lt : ∀ t, -msPerDay < offset t ∧ offset t < msPerDay
  utc_lt : ∀ l, l - msPerDay < utc l ∧ utc l < l + msPerDay

/-- The day of UTC that an instant is on. -/
def utcDay (t : ℤ) : ℤ := t / msPerDay

theorem utcDay_add_days (t k : ℤ) : utcDay (t + k * msPerDay) = utcDay t + k :=
  Int.add_mul_ediv_right t k (by decide)

theorem utcDay_mono {s t : ℤ} (h : s ≤ t) : utcDay s ≤ utcDay t := Int.ediv_le_ediv (by decide) h

namespace Zone

variable (zone : Zone)

def localTime (t : ℤ) : ℤ := t + zone.offset t

/-- `date.setDate(date.getDate() + days)`. -/
def addDays (t days : ℤ) : ℤ := zone.utc (zone.localTime t + days * msPerDay)

/-- `date.setHours(0, 0, 0, 0)`. -/
def startOfDay (t : ℤ) : ℤ := zone.utc (zone.localTime t / msPerDay * msPerDay)

theorem addDays_lt (t days : ℤ) : zone.addDays t days < t + (days + 2) * msPerDay := by
  have hoffset := (zone.offset_lt t).2
  have hutc := (zone.utc_lt (zone.localTime t + days * msPerDay)).2
  rw [localTime] at hutc
  rw [addDays, localTime, Int.add_mul]
  omega

theorem lt_addDays (t days : ℤ) : t + (days - 2) * msPerDay < zone.addDays t days := by
  have hoffset := (zone.offset_lt t).1
  have hutc := (zone.utc_lt (zone.localTime t + days * msPerDay)).1
  rw [localTime] at hutc
  rw [addDays, localTime, Int.sub_mul]
  omega

theorem startOfDay_bounds (t : ℤ) :
    t - 3 * msPerDay < zone.startOfDay t ∧ zone.startOfDay t < t + 2 * msPerDay := by
  have hoffset := zone.offset_lt t
  have hutc := zone.utc_lt (zone.localTime t / msPerDay * msPerDay)
  have hday := Int.ediv_mul_add_emod (zone.localTime t) msPerDay
  have hmod := Int.emod_nonneg (zone.localTime t) (show msPerDay ≠ 0 by decide)
  have hlt := Int.emod_lt_of_pos (zone.localTime t) (show 0 < msPerDay by decide)
  have hlocal : zone.localTime t = t + zone.offset t := rfl
  rw [startOfDay]
  omega

/-- A zone whose clocks are never changed. -/
def fixed (offset : ℤ) (h : -msPerDay < offset ∧ offset < msPerDay) : Zone where
  offset _ := offset
  utc l := l - offset
  offset_lt _ := h
  utc_lt l := ⟨by omega, by omega⟩

variable {offset : ℤ} {h : -msPerDay < offset ∧ offset < msPerDay}

@[simp] theorem fixed_addDays (t days : ℤ) : (fixed offset h).addDays t days = t + days * msPerDay := by
  simp only [addDays, localTime, fixed]
  omega

@[simp] theorem fixed_addDays_zero (t : ℤ) : (fixed offset h).addDays t 0 = t := by simp

end Zone

end LocalTime
