import LogHarvest.Calendar.Date
import Mathlib

/-!
# Days

Dates and day numbers are two names of the same days. A day number is found again from its date
(`dayNumber_ofDayNumber`), a number of the calendar names a date that exists
(`isProper_ofDayNumber`), and of two dates the earlier one has the smaller number
(`dayNumber_lt_iff`). The closed form for the days of many years is the sum of the lengths of
their months.
-/

namespace LogHarvest.Date

/-- The year, the month and the day exist. -/
def IsProper (d : Date) : Prop := make? d.year d.month d.day = .ok d

/-- The earlier date: the year decides, then the month, then the day. -/
def Precedes (d e : Date) : Prop :=
  d.year < e.year ∨
    d.year = e.year ∧ (d.month < e.month ∨ d.month = e.month ∧ d.day < e.day)

/-- How many days of a month there are. -/
def monthLength (year month : Nat) : Nat := (monthLengths year).getD (month - 1) 0

theorem isProper_iff {d : Date} :
    d.IsProper ↔ (0 < d.year ∧ d.year ≤ lastYear) ∧ (0 < d.month ∧ d.month ≤ 12) ∧
      (0 < d.day ∧ d.day ≤ monthLength d.year d.month) := by
  unfold IsProper make? monthLength
  split_ifs with hyear hmonth hday
  · exact iff_of_false (fun h => by cases h) fun h => by omega
  · exact iff_of_false (fun h => by cases h) fun h => by omega
  · exact iff_of_false (fun h => by cases h) fun h => by omega
  · exact iff_of_true rfl (by omega)

/-- No month has more than 31 days. -/
theorem monthLength_le (year month : Nat) : monthLength year month ≤ 31 := by
  have hall : ∀ n ∈ monthLengths year, n ≤ 31 := by
    unfold monthLengths
    split <;> decide
  unfold monthLength
  rw [List.getD_eq_getElem?_getD]
  cases h : (monthLengths year)[month - 1]? with
  | none => exact Nat.zero_le 31
  | some n => exact hall n (List.mem_of_getElem? h)

/-! ## Days of years -/

theorem sum_monthLengths (year : Nat) :
    (monthLengths year).sum = if isLeap year then 366 else 365 := by
  unfold monthLengths
  split <;> rfl

/-- A year has the days of its months. -/
theorem daysInYears_succ (y : Nat) :
    daysInYears (y + 1) = daysInYears y + (monthLengths (y + 1)).sum := by
  have hleap : isLeap (y + 1) = true ↔
      4 ∣ y + 1 ∧ (¬ 100 ∣ y + 1 ∨ 400 ∣ y + 1) := by
    simp [isLeap, Nat.dvd_iff_mod_eq_zero]
  have hcentury : 100 ∣ y + 1 → 4 ∣ y + 1 := fun h => (by decide : 4 ∣ 100).trans h
  have hfourth : 400 ∣ y + 1 → 100 ∣ y + 1 := fun h => (by decide : 100 ∣ 400).trans h
  have hfew : y / 100 ≤ y := Nat.div_le_self y 100
  rw [sum_monthLengths]
  simp only [daysInYears, Nat.succ_div, hleap]
  -- no century but every fourth one adds a leap day
  split_ifs <;> grind

theorem daysInYears_strictMono : StrictMono daysInYears := by
  refine strictMono_nat_of_lt_succ fun y => ?_
  rw [daysInYears_succ, sum_monthLengths]
  split <;> omega

/-! ## Days of months -/

section Months

variable {lengths : List Nat} {i j k n : Nat}

theorem sum_take_succ (lengths : List Nat) (i : Nat) :
    (lengths.take (i + 1)).sum = (lengths.take i).sum + lengths.getD i 0 := by
  rw [List.take_add_one, List.sum_append, List.getD_eq_getElem?_getD]
  cases lengths[i]? <;> rfl

theorem sum_take_le (h : i ≤ k) : (lengths.take i).sum ≤ (lengths.take k).sum :=
  (List.take_sublist_take_left h).sum_le_sum fun _ _ => Nat.zero_le _

/-- A day of one month comes before all days of the later months. -/
theorem sum_take_add_lt (hj : j < lengths.getD i 0) (h : i < k) :
    (lengths.take i).sum + j < (lengths.take k).sum := by
  have hnext : (lengths.take (i + 1)).sum ≤ (lengths.take k).sum := sum_take_le h
  rw [sum_take_succ] at hnext
  omega

/-- The months are gone through until the one with the day. -/
theorem exists_inMonths (month : Nat) (h : n < lengths.sum) :
    ∃ i j, inMonths month n lengths = (month + i, j + 1) ∧ j < lengths.getD i 0 ∧
      (lengths.take i).sum + j = n := by
  induction lengths generalizing month n with
  | nil => exact absurd h (Nat.not_lt_zero n)
  | cons length rest ih =>
    rw [inMonths]
    split
    · next hin => exact ⟨0, n, rfl, hin, Nat.zero_add n⟩
    · next hlater =>
      rw [List.sum_cons] at h
      obtain ⟨i, j, hfound, hj, hsum⟩ := ih (month + 1) (show n - length < rest.sum by omega)
      refine ⟨i + 1, j, ?_, hj, ?_⟩
      · rw [hfound, Nat.add_right_comm, Nat.add_assoc]
      · rw [List.take_succ_cons, List.sum_cons]
        omega

end Months

/-! ## The date of a number -/

/-- The day number, with the days of the year told apart from those of the years before. -/
theorem dayNumber_eq (d : Date) :
    d.dayNumber = daysInYears (d.year - 1) +
      (((monthLengths d.year).take (d.month - 1)).sum + (d.day - 1)) :=
  Nat.add_assoc ..

/-- What is found for a number: a year, a month and a day with as many days before them. -/
theorem exists_ofDayNumber (n : Nat) :
    ∃ i j, ofDayNumber n = ⟨yearsBefore n + 1, i + 1, j + 1⟩ ∧
      j < (monthLengths (yearsBefore n + 1)).getD i 0 ∧
      daysInYears (yearsBefore n) + (((monthLengths (yearsBefore n + 1)).take i).sum + j) = n := by
  have hbefore := daysInYears_yearsBefore_le n
  have hafter := lt_daysInYears_yearsBefore n
  rw [daysInYears_succ] at hafter
  obtain ⟨i, j, hfound, hj, hsum⟩ := exists_inMonths 1
    (show n - daysInYears (yearsBefore n) < (monthLengths (yearsBefore n + 1)).sum by omega)
  refine ⟨i, j, ?_, hj, by omega⟩
  rw [ofDayNumber, hfound, Nat.add_comm 1 i]

/-- The date of a number has this number. -/
theorem dayNumber_ofDayNumber (n : Nat) : (ofDayNumber n).dayNumber = n := by
  obtain ⟨i, j, hfound, -, hsum⟩ := exists_ofDayNumber n
  rw [hfound, dayNumber_eq]
  exact hsum

/-- The numbers of the calendar are those of dates that exist. -/
theorem isProper_ofDayNumber {n : Nat} (h : n < daysInYears lastYear) :
    (ofDayNumber n).IsProper := by
  obtain ⟨i, j, hfound, hj, -⟩ := exists_ofDayNumber n
  have hyear : yearsBefore n < lastYear :=
    daysInYears_strictMono.lt_iff_lt.mp ((daysInYears_yearsBefore_le n).trans_lt h)
  have hmonth : i < 12 := by
    by_contra hlate
    rw [List.getD_eq_getElem?_getD, List.getElem?_eq_none (not_lt.mp hlate)] at hj
    exact Nat.not_lt_zero j hj
  rw [hfound, isProper_iff]
  exact ⟨⟨Nat.succ_pos _, hyear⟩, ⟨Nat.succ_pos i, hmonth⟩, Nat.succ_pos j, hj⟩

/-! ## The order of dates -/

section Order

variable {d e : Date}

theorem precedes_total (d e : Date) : d.Precedes e ∨ d = e ∨ e.Precedes d := by
  obtain ⟨y, m, n⟩ := d
  obtain ⟨y', m', n'⟩ := e
  simp only [Precedes, Date.mk.injEq]
  omega

/-- A date that exists lies in its year. -/
theorem dayNumber_lt_daysInYears (hd : d.IsProper) : d.dayNumber < daysInYears d.year := by
  obtain ⟨hyear, hmonth, hday⟩ := isProper_iff.mp hd
  have hin : d.day - 1 < (monthLengths d.year).getD (d.month - 1) 0 := by
    unfold monthLength at hday
    omega
  have hrest := sum_take_add_lt hin (show d.month - 1 < 12 by omega)
  have hall : ((monthLengths d.year).take 12).sum = (monthLengths d.year).sum := rfl
  have hlength := daysInYears_succ (d.year - 1)
  rw [Nat.sub_add_cancel hyear.1] at hlength
  rw [dayNumber_eq]
  omega

theorem dayNumber_lt_daysInYears_lastYear (hd : d.IsProper) :
    d.dayNumber < daysInYears lastYear :=
  (dayNumber_lt_daysInYears hd).trans_le
    (daysInYears_strictMono.monotone (isProper_iff.mp hd).1.2)

theorem dayNumber_lt_of_precedes (hd : d.IsProper) (he : e.IsProper) (h : d.Precedes e) :
    d.dayNumber < e.dayNumber := by
  obtain ⟨hdyear, hdmonth, hdday⟩ := isProper_iff.mp hd
  obtain ⟨heyear, hemonth, heday⟩ := isProper_iff.mp he
  rcases h with hyear | ⟨hyear, hmonth | ⟨hmonth, hday⟩⟩
  · have hyears := daysInYears_strictMono.monotone (show d.year ≤ e.year - 1 by omega)
    have hlast := dayNumber_lt_daysInYears hd
    rw [dayNumber_eq e]
    omega
  · have hin : d.day - 1 < (monthLengths d.year).getD (d.month - 1) 0 := by
      unfold monthLength at hdday
      omega
    have hrest := sum_take_add_lt hin (show d.month - 1 < e.month - 1 by omega)
    rw [dayNumber_eq, dayNumber_eq, hyear]
    rw [hyear] at hrest
    omega
  · rw [dayNumber_eq, dayNumber_eq, hyear, hmonth]
    omega

/-- The day numbers count the dates in their order. -/
theorem dayNumber_lt_iff (hd : d.IsProper) (he : e.IsProper) :
    d.dayNumber < e.dayNumber ↔ d.Precedes e := by
  refine ⟨fun h => ?_, dayNumber_lt_of_precedes hd he⟩
  rcases precedes_total d e with hbefore | rfl | hafter
  · exact hbefore
  · exact absurd h (Nat.lt_irrefl _)
  · exact absurd h (dayNumber_lt_of_precedes he hd hafter).not_gt

/-- Different dates have different numbers. -/
theorem eq_of_dayNumber_eq (hd : d.IsProper) (he : e.IsProper)
    (h : d.dayNumber = e.dayNumber) : d = e := by
  rcases precedes_total d e with hbefore | heq | hafter
  · exact absurd h (dayNumber_lt_of_precedes hd he hbefore).ne
  · exact heq
  · exact absurd h (dayNumber_lt_of_precedes he hd hafter).ne'

/-- The number of a date is that of no other date. -/
theorem ofDayNumber_dayNumber (hd : d.IsProper) : ofDayNumber d.dayNumber = d := by
  have hproper := isProper_ofDayNumber (dayNumber_lt_daysInYears_lastYear hd)
  exact eq_of_dayNumber_eq hproper hd (dayNumber_ofDayNumber _)

end Order

end LogHarvest.Date
