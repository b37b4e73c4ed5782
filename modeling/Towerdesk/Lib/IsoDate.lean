import Mathlib.Algebra.Order.Group.Int
import Mathlib.Tactic.IntervalCases

/-!
# Dates as ISO 8601 text

A time value counts milliseconds from the start of 1970, within the hundred million days
on either side that a date may have. Its text is the extended format with milliseconds in
UTC, with a signed six-digit year outside 0 to 9999. Reading accepts exactly the texts
that are written.
-/

namespace IsoDate

section Calendar

structure Civil where
  year : ℤ
  month : ℤ
  day : ℤ
deriving DecidableEq

/-- A year that begins on 1 March, and a day of it, from 0: a leap day is the last. -/
structure MarchDay where
  year : ℤ
  day : ℤ

/-- Counting from 1 March of year 0 in eras of 400 years, centuries, quadrennia, years. -/
def MarchDay.ofDays (days : ℤ) : MarchDay :=
  let dayOfEra := days % 146097
  let century := min (dayOfEra / 36524) 3
  let dayOfCentury := dayOfEra - century * 36524
  let quadrennium := dayOfCentury / 1461
  let dayOfQuadrennium := dayOfCentury % 1461
  let yearOfQuadrennium := min (dayOfQuadrennium / 365) 3
  ⟨days / 146097 * 400 + century * 100 + quadrennium * 4 + yearOfQuadrennium,
    dayOfQuadrennium - yearOfQuadrennium * 365⟩

def MarchDay.toDays (d : MarchDay) : ℤ :=
  d.year / 400 * 146097 + d.year % 400 * 365 + d.year % 400 / 4 - d.year % 400 / 100 + d.day

def MarchDay.civil (d : MarchDay) : Civil :=
  let m := (5 * d.day + 2) / 153
  if m < 10 then ⟨d.year, m + 3, d.day - (153 * m + 2) / 5 + 1⟩
  else ⟨d.year + 1, m - 9, d.day - (153 * m + 2) / 5 + 1⟩

def Civil.march (c : Civil) : MarchDay :=
  if c.month ≤ 2 then ⟨c.year - 1, (153 * (c.month + 9) + 2) / 5 + c.day - 1⟩
  else ⟨c.year, (153 * (c.month - 3) + 2) / 5 + c.day - 1⟩

/-- 1970-01-01 is this many days after 1 March of year 0. -/
def epochDay : ℤ := 719468

def civilOfDays (days : ℤ) : Civil := (MarchDay.ofDays (days + epochDay)).civil

def daysOfCivil (c : Civil) : ℤ := c.march.toDays - epochDay

theorem MarchDay.ofDays_spec (days : ℤ) :
    (ofDays days).toDays = days ∧ 0 ≤ (ofDays days).day ∧ (ofDays days).day ≤ 365 := by
  simp only [ofDays, toDays]
  generalize hera : days % 146097 = dayOfEra
  generalize hcentury : min (dayOfEra / 36524) 3 = century
  generalize hcday : dayOfEra - century * 36524 = dayOfCentury
  generalize hquad : dayOfCentury / 1461 = quadrennium
  generalize hqday : dayOfCentury % 1461 = dayOfQuadrennium
  generalize hyear : min (dayOfQuadrennium / 365) 3 = yearOfQuadrennium
  have hcentury_range : 0 ≤ century ∧ century ≤ 3 := by omega
  have hcday_range : 0 ≤ dayOfCentury ∧ dayOfCentury ≤ 36524 := by omega
  have hquad_range : 0 ≤ quadrennium ∧ quadrennium ≤ 24 := by omega
  have hyear_range : 0 ≤ yearOfQuadrennium ∧ yearOfQuadrennium ≤ 3 := by omega
  have hday : 0 ≤ dayOfQuadrennium - yearOfQuadrennium * 365 ∧
      dayOfQuadrennium - yearOfQuadrennium * 365 ≤ 365 := by omega
  refine ⟨?_, hday⟩
  generalize hera' : days / 146097 = era
  have hsplit : era * 146097 + dayOfEra = days := by omega
  have hyearOfEra : 0 ≤ century * 100 + quadrennium * 4 + yearOfQuadrennium ∧
      century * 100 + quadrennium * 4 + yearOfQuadrennium < 400 := by omega
  have hdiv : (era * 400 + century * 100 + quadrennium * 4 + yearOfQuadrennium) / 400 = era := by
    omega
  have hmod : (era * 400 + century * 100 + quadrennium * 4 + yearOfQuadrennium) % 400 =
      century * 100 + quadrennium * 4 + yearOfQuadrennium := by omega
  have hfour : (century * 100 + quadrennium * 4 + yearOfQuadrennium) / 4 =
      century * 25 + quadrennium := by omega
  have hhundred : (century * 100 + quadrennium * 4 + yearOfQuadrennium) / 100 = century := by
    omega
  rw [hdiv, hmod, hfour, hhundred]
  omega

theorem MarchDay.civil_spec {d : MarchDay} (h : 0 ≤ d.day ∧ d.day ≤ 365) :
    d.civil.march = d ∧ 1 ≤ d.civil.month ∧ d.civil.month ≤ 12 ∧ 1 ≤ d.civil.day ∧
      d.civil.day ≤ 31 := by
  obtain ⟨year, day⟩ := d
  simp only at h
  simp only [civil]
  generalize hm : (5 * day + 2) / 153 = m
  obtain ⟨hm_low, hm_high⟩ : 0 ≤ m ∧ m ≤ 11 := by omega
  by_cases hlate : m < 10
  · simp only [if_pos hlate, Civil.march, show ¬ m + 3 ≤ 2 by omega, if_false, MarchDay.mk.injEq,
      true_and]
    interval_cases m <;> omega
  · simp only [if_neg hlate, Civil.march, show m - 9 ≤ 2 by omega, if_true, MarchDay.mk.injEq]
    interval_cases m <;> omega

theorem daysOfCivil_civilOfDays (days : ℤ) : daysOfCivil (civilOfDays days) = days := by
  obtain ⟨hdays, hrange⟩ := MarchDay.ofDays_spec (days + epochDay)
  rw [daysOfCivil, civilOfDays, (MarchDay.civil_spec hrange).1, hdays]
  omega

theorem MarchDay.ofDays_year {days : ℤ} (h : -100000000 ≤ days ∧ days ≤ 200000000) :
    -400000 ≤ (ofDays days).year ∧ (ofDays days).year ≤ 600000 := by
  simp only [ofDays]
  omega

theorem civilOfDays_year {days : ℤ} (h : -100000000 ≤ days ∧ days ≤ 100000000) :
    -400000 ≤ (civilOfDays days).year ∧ (civilOfDays days).year ≤ 600001 := by
  have hrange : -100000000 ≤ days + epochDay ∧ days + epochDay ≤ 200000000 := by
    rw [epochDay]
    omega
  have hyear := MarchDay.ofDays_year hrange
  rw [civilOfDays, MarchDay.civil]
  split_ifs
  · exact ⟨hyear.1, by dsimp only; omega⟩
  · exact ⟨by dsimp only; omega, by dsimp only; omega⟩

theorem civilOfDays_year_pos {days : ℤ} (h : -719102 ≤ days) : 0 < (civilOfDays days).year := by
  have hyear : 0 < (MarchDay.ofDays (days + epochDay)).year := by
    simp only [MarchDay.ofDays, epochDay]
    omega
  rw [civilOfDays, MarchDay.civil]
  split_ifs <;> dsimp only <;> omega

theorem civilOfDays_year_le {days : ℤ} (h : days ≤ 2932590) : (civilOfDays days).year ≤ 9999 := by
  have hyear : (MarchDay.ofDays (days + epochDay)).year ≤ 9998 := by
    simp only [MarchDay.ofDays, epochDay]
    omega
  rw [civilOfDays, MarchDay.civil]
  split_ifs <;> dsimp only <;> omega

end Calendar

section Digits

def place (n k : ℕ) : Char := Nat.digitChar (n / 10 ^ k % 10)

def number (cs : List Char) : ℕ := cs.foldl (fun n c => n * 10 + (c.toNat - 48)) 0

theorem digitChar_spec : ∀ n < 10, (Nat.digitChar n).toNat = n + 48 := by
  decide

theorem toNat_place (n k : ℕ) : (place n k).toNat = n / 10 ^ k % 10 + 48 :=
  digitChar_spec _ (Nat.mod_lt _ (by decide))

theorem number_two {n : ℕ} (h : n < 100) : number [place n 1, place n 0] = n := by
  simp only [number, List.foldl, toNat_place]
  omega

theorem number_three {n : ℕ} (h : n < 1000) : number [place n 2, place n 1, place n 0] = n := by
  simp only [number, List.foldl, toNat_place]
  omega

theorem number_four {n : ℕ} (h : n < 10000) :
    number [place n 3, place n 2, place n 1, place n 0] = n := by
  simp only [number, List.foldl, toNat_place]
  omega

theorem number_six {n : ℕ} (h : n < 1000000) :
    number [place n 5, place n 4, place n 3, place n 2, place n 1, place n 0] = n := by
  simp only [number, List.foldl, toNat_place]
  omega

def yearText (y : ℤ) : List Char :=
  let n := y.natAbs
  if 0 ≤ y ∧ y ≤ 9999 then [place n 3, place n 2, place n 1, place n 0]
  else (if y < 0 then '-' else '+') ::
    [place n 5, place n 4, place n 3, place n 2, place n 1, place n 0]

def readYear : List Char → ℤ
  | '-' :: cs => -number cs
  | '+' :: cs => number cs
  | cs => number cs

theorem readYear_yearText {y : ℤ} (h : -999999 ≤ y ∧ y ≤ 999999) : readYear (yearText y) = y := by
  simp only [yearText]
  by_cases hfour : 0 ≤ y ∧ y ≤ 9999
  · have hplace := toNat_place y.natAbs 3
    rw [if_pos hfour, readYear, number_four (by omega)]
    · omega
    · intro cs hcs
      rw [(List.cons.inj hcs).1] at hplace
      exact absurd hplace (by simp)
    · intro cs hcs
      rw [(List.cons.inj hcs).1] at hplace
      exact absurd hplace (by simp)
  · rw [if_neg hfour]
    by_cases hneg : y < 0
    · rw [if_pos hneg, readYear, number_six (by omega)]
      omega
    · rw [if_neg hneg, readYear, number_six (by omega)]
      omega

end Digits

section Days

/-- What the text of a day has after its year. -/
def monthDay (c : Civil) : List Char :=
  ['-', place c.month.toNat 1, place c.month.toNat 0, '-', place c.day.toNat 1, place c.day.toNat 0]

def dayText (days : ℤ) : List Char :=
  yearText (civilOfDays days).year ++ monthDay (civilOfDays days)

theorem monthDay_inj {days days' : ℤ} (h : monthDay (civilOfDays days) = monthDay (civilOfDays days')) :
    (civilOfDays days).month = (civilOfDays days').month ∧
      (civilOfDays days).day = (civilOfDays days').day := by
  obtain ⟨-, hmonth, hmonth', hday, hday'⟩ :=
    MarchDay.civil_spec (MarchDay.ofDays_spec (days + epochDay)).2
  obtain ⟨-, kmonth, kmonth', kday, kday'⟩ :=
    MarchDay.civil_spec (MarchDay.ofDays_spec (days' + epochDay)).2
  rw [← civilOfDays] at hmonth hmonth' hday hday' kmonth kmonth' kday kday'
  simp only [monthDay, List.cons.injEq, and_true, true_and] at h
  obtain ⟨hm1, hm0, hd1, hd0⟩ := h
  have hm := @number_two (civilOfDays days).month.toNat (by omega)
  have km := @number_two (civilOfDays days').month.toNat (by omega)
  have hd := @number_two (civilOfDays days).day.toNat (by omega)
  have kd := @number_two (civilOfDays days').day.toNat (by omega)
  rw [hm1, hm0, km] at hm
  rw [hd1, hd0, kd] at hd
  omega

theorem dayText_inj {days days' : ℤ} (h : dayText days = dayText days')
    (hyear : -999999 ≤ (civilOfDays days).year ∧ (civilOfDays days).year ≤ 999999)
    (hyear' : -999999 ≤ (civilOfDays days').year ∧ (civilOfDays days').year ≤ 999999) :
    days = days' := by
  obtain ⟨hyears, hrest⟩ := List.append_inj' h rfl
  obtain ⟨hmonth, hday⟩ := monthDay_inj hrest
  have hyear_eq : (civilOfDays days).year = (civilOfDays days').year := by
    rw [← readYear_yearText hyear, ← readYear_yearText hyear', hyears]
  have hcivil : civilOfDays days = civilOfDays days' := by
    cases hc : civilOfDays days
    cases hc' : civilOfDays days'
    simp_all
  rw [← daysOfCivil_civilOfDays days, hcivil, daysOfCivil_civilOfDays]

theorem yearText_four {y : ℤ} (h : 0 ≤ y ∧ y ≤ 9999) :
    yearText y = [place y.natAbs 3, place y.natAbs 2, place y.natAbs 1, place y.natAbs 0] :=
  if_pos h

theorem length_dayText {days : ℤ}
    (hyear : 0 ≤ (civilOfDays days).year ∧ (civilOfDays days).year ≤ 9999) :
    (dayText days).length = 10 := by
  rw [dayText, yearText_four hyear]
  rfl

end Days

section TimeValues

def maxTime : ℤ := 8640000000000000

structure TimeValue where
  ms : ℤ
  inRange : -maxTime ≤ ms ∧ ms ≤ maxTime
deriving DecidableEq

theorem TimeValue.ms_injective : Function.Injective TimeValue.ms := by
  rintro ⟨a, ha⟩ ⟨b, hb⟩ h
  cases h
  rfl

instance : LinearOrder TimeValue :=
  @LinearOrder.lift' TimeValue ℤ Int.instLinearOrder TimeValue.ms TimeValue.ms_injective

def TimeValue.epoch : TimeValue := ⟨0, by decide⟩

def msPerDay : ℤ := 86400000

def tail (month day hour minute second ms : ℕ) : List Char :=
  ['-', place month 1, place month 0, '-', place day 1, place day 0,
    'T', place hour 1, place hour 0, ':', place minute 1, place minute 0,
    ':', place second 1, place second 0, '.', place ms 2, place ms 1, place ms 0, 'Z']

def toISOString (t : TimeValue) : List Char :=
  let c := civilOfDays (t.1 / msPerDay)
  let ms := (t.1 % msPerDay).toNat
  yearText c.year ++ tail c.month.toNat c.day.toNat (ms / 3600000) (ms / 60000 % 60)
    (ms / 1000 % 60) (ms % 1000)

theorem take_toISOString (t : TimeValue)
    (hyear : 0 ≤ (civilOfDays (t.1 / msPerDay)).year ∧ (civilOfDays (t.1 / msPerDay)).year ≤ 9999) :
    (toISOString t).take 10 = dayText (t.1 / msPerDay) := by
  rw [toISOString, dayText, yearText_four hyear]
  rfl

/-- The milliseconds that the digits of a text stand for, at the places they have. -/
def readTail (year : ℤ) : List Char → Option ℤ
  | [_, m1, m0, _, d1, d0, _, h1, h0, _, i1, i0, _, s1, s0, _, f2, f1, f0, _] =>
    some (daysOfCivil ⟨year, number [m1, m0], number [d1, d0]⟩ * msPerDay +
      (number [h1, h0] * 3600000 + number [i1, i0] * 60000 + number [s1, s0] * 1000 +
        number [f2, f1, f0] : ℕ))
  | _ => none

def readMs (text : List Char) : Option ℤ :=
  readTail (readYear (text.take (text.length - 20))) (text.drop (text.length - 20))

def timeValue (ms : ℤ) : Option TimeValue :=
  if h : -maxTime ≤ ms ∧ ms ≤ maxTime then some ⟨ms, h⟩ else none

def parse (text : List Char) : Option TimeValue :=
  ((readMs text).bind timeValue).filter (toISOString · = text)

theorem tail_length (month day hour minute second ms : ℕ) :
    (tail month day hour minute second ms).length = 20 := rfl

theorem readTail_tail (year : ℤ) {month day hour minute second ms : ℕ} (hmonth : month < 100)
    (hday : day < 100) (hhour : hour < 100) (hminute : minute < 100) (hsecond : second < 100)
    (hms : ms < 1000) :
    readTail year (tail month day hour minute second ms) =
      some (daysOfCivil ⟨year, month, day⟩ * msPerDay +
        (hour * 3600000 + minute * 60000 + second * 1000 + ms : ℕ)) := by
  rw [tail, readTail, number_two hmonth, number_two hday, number_two hhour, number_two hminute,
    number_two hsecond, number_three hms]

theorem readMs_append (year : List Char) (month day hour minute second ms : ℕ) :
    readMs (year ++ tail month day hour minute second ms) =
      readTail (readYear year) (tail month day hour minute second ms) := by
  have hlength : (year ++ tail month day hour minute second ms).length - 20 = year.length := by
    rw [List.length_append, tail_length, Nat.add_sub_cancel]
  rw [readMs, hlength, List.drop_left, List.take_left]

theorem readMs_toISOString (t : TimeValue) : readMs (toISOString t) = some t.1 := by
  have hdays : -100000000 ≤ t.1 / msPerDay ∧ t.1 / msPerDay ≤ 100000000 := by
    have hrange : -8640000000000000 ≤ t.1 ∧ t.1 ≤ 8640000000000000 := t.2
    rw [msPerDay]
    omega
  have hmod : 0 ≤ t.1 % msPerDay ∧ t.1 % msPerDay < 86400000 := by
    rw [msPerDay]
    omega
  have hyear := civilOfDays_year hdays
  obtain ⟨-, hmonth, hmonth', hday, hday'⟩ :=
    MarchDay.civil_spec (MarchDay.ofDays_spec (t.1 / msPerDay + epochDay)).2
  rw [← civilOfDays] at hmonth hmonth' hday hday'
  rw [toISOString, readMs_append, readTail_tail _ (by omega) (by omega) (by omega) (by omega)
    (by omega) (by omega), readYear_yearText (by omega), Int.toNat_of_nonneg (by omega),
    Int.toNat_of_nonneg (by omega), daysOfCivil_civilOfDays]
  have hsplit : t.1 = t.1 / msPerDay * msPerDay + t.1 % msPerDay := (Int.ediv_mul_add_emod _ _).symm
  congr 1
  omega

theorem place_le (n k : ℕ) : (place n k).toNat ≤ 57 := by
  rw [toNat_place]
  omega

theorem toNat_le_of_mem (t : TimeValue) : ∀ c ∈ toISOString t, c.toNat ≤ 90 := by
  have hplace : ∀ n k, (place n k).toNat ≤ 90 := fun n k => (place_le n k).trans (by decide)
  have hyear : ∀ y, ∀ c ∈ yearText y, c.toNat ≤ 90 := by
    intro y
    simp only [yearText]
    split_ifs <;> simp [hplace]
  have htail : ∀ month day hour minute second ms,
      ∀ c ∈ tail month day hour minute second ms, c.toNat ≤ 90 := by
    intro month day hour minute second ms
    simp [tail, hplace]
  intro c hc
  rcases List.mem_append.mp hc with hc | hc
  · exact hyear _ c hc
  · exact htail _ _ _ _ _ _ c hc

theorem parse_toISOString (t : TimeValue) : parse (toISOString t) = some t := by
  have hvalue : timeValue t.1 = some t := dif_pos t.2
  rw [parse, readMs_toISOString, Option.bind_some, hvalue]
  simp

end TimeValues

end IsoDate
