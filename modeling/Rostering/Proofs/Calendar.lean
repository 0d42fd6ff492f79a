import Mathlib
import Rostering.Calendar

/-!
# Dates, their parts and their texts

A date is a day number. This module shows that its views lose nothing.

## The architecture

The argument goes from the year to the text.

* **`yearOfDay_bounds`** — a day number lies in the year that `yearOfDay` gives; the quotient by
  the mean length of a year is at most one off.
* **`monthOfDay_spec`** — walking over the months splits a day of the year into a month and a day
  of it, by induction on the months still ahead.
* **`Date.ofCivil?_civil`** — year, month and day determine the date.
* **`readDigits_padded`** — digits that were filled up with zeros read back to their number.
* **`Date.ofIso?_iso`** — the text of a date reads back to the date.
-/

namespace Rostering

/-! ## Years -/

/-- A year has 365 days, and one more in a leap year. -/
theorem daysBeforeYear_succ {year : Nat} (hyear : 1 ≤ year) :
    daysBeforeYear (year + 1) = daysBeforeYear year + if isLeapYear year then 366 else 365 := by
  obtain ⟨y, rfl⟩ : ∃ y, year = y + 1 := ⟨year - 1, by omega⟩
  have hcycle : 400 ∣ y + 1 → 100 ∣ y + 1 := fun h => Nat.dvd_trans (by decide) h
  have hcentury : 100 ∣ y + 1 → 4 ∣ y + 1 := fun h => Nat.dvd_trans (by decide) h
  have hfewer : y / 100 ≤ y / 4 := Nat.div_le_div_left (by decide) (by decide)
  unfold daysBeforeYear isLeapYear
  simp only [Nat.add_sub_cancel, Nat.succ_div, Bool.and_eq_true, Bool.or_eq_true, beq_iff_eq,
    bne_iff_ne, ne_eq, ← Nat.dvd_iff_mod_eq_zero]
  -- from here on only the counts of leap years matter, not how they were divided out
  generalize y / 4 = fours, y / 100 = centuries, y / 400 = cycles at *
  by_cases hfour : 4 ∣ y + 1
  · by_cases hhundred : 100 ∣ y + 1
    · by_cases hlong : 400 ∣ y + 1
      · simp only [hfour, hhundred, hlong, not_true_eq_false, false_or, and_self, if_true]
        omega
      · simp only [hfour, hhundred, hlong, not_true_eq_false, or_self, and_false, if_true, if_false]
        omega
    · have hlong : ¬ 400 ∣ y + 1 := fun h => hhundred (hcycle h)
      simp only [hfour, hhundred, hlong, not_false_eq_true, or_false, and_self, if_true, if_false]
      omega
  · have hhundred : ¬ 100 ∣ y + 1 := fun h => hfour (hcentury h)
    have hlong : ¬ 400 ∣ y + 1 := fun h => hhundred (hcycle h)
    simp only [hfour, hhundred, hlong, false_and, if_false]
    omega

/-- Four hundred years have 146097 days, and no stretch of years is more than two days away from its
share of them. -/
theorem daysBeforeYear_bounds (y : Nat) :
    146097 * y ≤ 400 * daysBeforeYear (y + 1) + 700 ∧
      400 * daysBeforeYear (y + 1) ≤ 146097 * y + 400 := by
  unfold daysBeforeYear
  rw [Nat.add_sub_cancel]
  omega

/-- A day number lies in its year. The guess is at most one off: the bound that sends it to its
neighbour is one of the two that are claimed, and the other follows from the mean length of a
year. -/
theorem yearOfDay_bounds (n : Nat) :
    1 ≤ yearOfDay n ∧ daysBeforeYear (yearOfDay n) ≤ n ∧ n < daysBeforeYear (yearOfDay n + 1) := by
  have hquotient := Nat.div_add_mod (n * 400) 146097
  have hrest := Nat.mod_lt (n * 400) (show 146097 > 0 by decide)
  unfold yearOfDay
  generalize n * 400 / 146097 = q at *
  simp only
  -- the days before a year are the mean length times the year, up to less than one and a half days
  have hguess := daysBeforeYear_bounds q
  have hnext := daysBeforeYear_bounds (q + 1)
  have hafter := daysBeforeYear_bounds (q + 1 + 1)
  split
  · next hlow =>
      cases q with
      | zero => exact absurd hlow (Nat.not_lt_zero n)
      -- the guess was one too late
      | succ q =>
          have hbefore := daysBeforeYear_bounds q
          rw [Nat.add_sub_cancel]
          omega
  · next hlow =>
      split
      · next hhigh => omega
      · next hhigh => omega

/-- The years of the calendar end with 9999. -/
theorem yearOfDay_le {n : Nat} (hn : n < calendarLength) : yearOfDay n ≤ 9999 := by
  obtain ⟨hfirst, hlow, -⟩ := yearOfDay_bounds n
  have hshare := (daysBeforeYear_bounds (yearOfDay n - 1)).1
  rw [Nat.sub_add_cancel hfirst] at hshare
  unfold calendarLength at hn
  omega

/-! ## Months -/

/-- Walking over months of which the first has a given number: the rest falls into one of them, and
the days of those before it are used up. Induction on the months ahead. -/
theorem monthOfDay_spec (lengths : List Nat) :
    ∀ (month rest : Nat), rest < lengths.foldr (· + ·) 0 →
      ∃ i, ∃ h : i < lengths.length, ∃ day, monthOfDay lengths month rest = (month + i, day + 1)
        ∧ day < lengths[i] ∧ rest = (lengths.take i).foldr (· + ·) 0 + day := by
  induction lengths with
  | nil =>
      intro month rest hrest
      exact absurd hrest (Nat.not_lt_zero rest)
  | cons length more ih =>
      intro month rest hrest
      -- the rest falls into this month, or its days are used up and the next months are walked over
      by_cases hhere : rest < length
      · refine ⟨0, Nat.succ_pos _, rest, ?_, hhere, ?_⟩
        · simp [monthOfDay, hhere]
        · simp
      · have hmore : rest - length < more.foldr (· + ·) 0 := by
          rw [List.foldr_cons] at hrest
          omega
        obtain ⟨i, hi, day, heq, hday, hsum⟩ := ih (month + 1) (rest - length) hmore
        refine ⟨i + 1, Nat.succ_lt_succ hi, day, ?_, hday, ?_⟩
        · rw [monthOfDay, if_neg hhere, heq]
          congr 1
          omega
        · rw [List.take_succ_cons, List.foldr_cons]
          omega

/-- The months make up the year. -/
theorem sum_monthLengths (year : Nat) :
    (monthLengths year).foldr (· + ·) 0 = if isLeapYear year then 366 else 365 := by
  unfold monthLengths
  cases isLeapYear year <;> rfl

theorem daysBeforeMonth_eq_foldr (year i : Nat) :
    daysBeforeMonth year (i + 1) = ((monthLengths year).take i).foldr (· + ·) 0 :=
  List.foldl_eq_foldr

/-! ## Year, month and day -/

namespace Date

theorem ofIndex?_index (d : Date) : ofIndex? d.index = some d := by
  unfold ofIndex?
  rw [dif_pos d.inCalendar]

/-- Year, month and day are in their ranges, and together they count the days to the date. Together
with `ofCivil?_civil` this makes the two readings of a date inverse to each other. -/
theorem civil_spec (d : Date) : ∃ year month day, d.civil = (year, month, day)
    ∧ 1 ≤ year ∧ year ≤ 9999 ∧ 1 ≤ month ∧ month ≤ 12 ∧ 1 ≤ day ∧ day ≤ monthLength year month
    ∧ daysBeforeYear year + daysBeforeMonth year month + (day - 1) = d.index := by
  obtain ⟨hyear, hlow, hhigh⟩ := yearOfDay_bounds d.index
  -- the year holds the day, so its number within the year is less than the lengths of all months
  have hrest : d.index - daysBeforeYear (yearOfDay d.index)
      < (monthLengths (yearOfDay d.index)).foldr (· + ·) 0 := by
    rw [sum_monthLengths]
    rw [daysBeforeYear_succ hyear] at hhigh
    omega
  obtain ⟨i, hi, day, heq, hday, hsum⟩ := monthOfDay_spec _ 1 _ hrest
  have htwelve : i < 12 := hi
  -- months are counted from one, and their lengths are listed from zero
  have hlength : monthLength (yearOfDay d.index) (1 + i)
      = (monthLengths (yearOfDay d.index))[i] := by
    unfold monthLength
    rw [if_neg (by omega), Nat.add_sub_cancel_left, List.getElem?_eq_getElem hi]
    rfl
  refine ⟨yearOfDay d.index, 1 + i, day + 1, ?_, hyear, yearOfDay_le d.inCalendar, by omega,
    by omega, by omega, ?_, ?_⟩
  · unfold civil
    simp only [heq]
  · rw [hlength]
    exact hday
  · rw [Nat.add_comm 1 i, daysBeforeMonth_eq_foldr]
    omega

theorem monthLength_le (year month : Nat) : monthLength year month ≤ 31 := by
  have hall : ∀ length ∈ monthLengths year, length ≤ 31 := by
    unfold monthLengths
    cases isLeapYear year <;> decide
  unfold monthLength
  split
  · exact Nat.zero_le _
  · cases hget : (monthLengths year)[month - 1]? with
    | none => exact Nat.zero_le _
    | some length => exact hall length (List.mem_of_getElem? hget)

/-- Year, month and day determine the date. -/
theorem ofCivil?_civil (d : Date) : ofCivil? d.civil.1 d.civil.2.1 d.civil.2.2 = some d := by
  obtain ⟨year, month, day, hcivil, hyear, hlast, -, -, hfirst, hday, hindex⟩ := d.civil_spec
  rw [hcivil]
  unfold ofCivil?
  rw [if_pos ⟨hyear, hlast, hfirst, hday⟩, hindex]
  exact d.ofIndex?_index

end Date

/-! ## Digits -/

/-- Reading as many digits as there are in front gives their number. -/
theorem readDigits_append (digits rest : List Char) (hdigits : ∀ c ∈ digits, c.isDigit) :
    ∀ n, readDigits digits.length (digits ++ rest) n
      = some (Nat.ofDigitChars 10 digits n, rest) := by
  induction digits with
  | nil =>
      intro n
      rfl
  | cons c cs ih =>
      intro n
      have hc : c.isDigit := hdigits c List.mem_cons_self
      have hcs : ∀ d ∈ cs, d.isDigit := fun d hd => hdigits d (List.mem_cons_of_mem c hd)
      rw [List.length_cons, List.cons_append, readDigits, if_pos hc, ih hcs,
        Nat.ofDigitChars_cons]

theorem toList_padded (width n : Nat) :
    (padded width n).toList
      = List.replicate (width - (Nat.toDigits 10 n).length) '0' ++ Nat.toDigits 10 n := by
  unfold padded
  exact String.toList_ofList

/-- A number with few enough digits is written with exactly so many. -/
theorem length_padded {width n : Nat} (hwidth : 0 < width) (hn : n < 10 ^ width) :
    (padded width n).toList.length = width := by
  have hfew := (Nat.length_toDigits_le_iff (show 1 < 10 by decide) hwidth).mpr hn
  rw [toList_padded, List.length_append, List.length_replicate]
  omega

theorem isDigit_of_mem_padded {width n : Nat} {c : Char} (hc : c ∈ (padded width n).toList) :
    c.isDigit := by
  rw [toList_padded, List.mem_append] at hc
  cases hc with
  | inl hzero =>
      rw [List.eq_of_mem_replicate hzero]
      rfl
  | inr hdigit => exact Nat.isDigit_of_mem_toDigits (by decide) (by decide) hdigit

/-- Digits that were filled up with zeros read back to their number. -/
theorem readDigits_padded {width n : Nat} (hwidth : 0 < width) (hn : n < 10 ^ width)
    (rest : List Char) : readDigits width ((padded width n).toList ++ rest) 0 = some (n, rest) := by
  have hread := readDigits_append (padded width n).toList rest
    (fun c hc => isDigit_of_mem_padded hc) 0
  rw [length_padded hwidth hn] at hread
  rw [hread, toList_padded, Nat.ofDigitChars_append, Nat.ofDigitChars_replicate_zero,
    Nat.mul_zero, Nat.ofDigitChars_ten_toDigits]

theorem utf8Len_of_isDigit {cs : List Char} (hcs : ∀ c ∈ cs, c.isDigit) :
    String.utf8Len cs = cs.length := by
  induction cs with
  | nil => rfl
  | cons c cs ih =>
      have hdigit : c.isDigit := hcs c List.mem_cons_self
      have hsize : c.utf8Size = 1 := by
        rw [Char.utf8Size_eq_one_iff]
        simp only [Char.isDigit, Bool.and_eq_true, decide_eq_true_eq] at hdigit
        exact UInt32.le_trans hdigit.2 (by decide)
      rw [String.utf8Len_cons, ih fun d hd => hcs d (List.mem_cons_of_mem c hd), hsize,
        List.length_cons]

/-! ## Texts of dates -/

namespace Date

theorem toList_iso {d : Date} {year month day : Nat} (hcivil : d.civil = (year, month, day)) :
    d.iso.toList = (padded 4 year).toList
      ++ '-' :: ((padded 2 month).toList ++ '-' :: (padded 2 day).toList) := by
  unfold iso
  rw [hcivil]
  simp

/-- The text of a date reads back to the date. The digits are padded, so the three parts stand at
fixed places whatever the date is. -/
theorem ofIso?_iso (d : Date) : ofIso? d.iso = some d := by
  obtain ⟨year, month, day, hcivil, hfirst, hlast, -, hmonth, -, hday, -⟩ := d.civil_spec
  have hlong := monthLength_le year month
  have hyear : year < 10 ^ 4 := by omega
  have hmonth : month < 10 ^ 2 := by omega
  have hday : day < 10 ^ 2 := by omega
  have htext := toList_iso hcivil
  have hsize : d.iso.utf8ByteSize = 10 := by
    rw [← String.utf8Len_toList, htext]
    simp only [String.utf8Len_append, String.utf8Len_cons,
      utf8Len_of_isDigit fun _ hc => isDigit_of_mem_padded hc,
      length_padded (show 0 < 4 by decide) hyear, length_padded (show 0 < 2 by decide) hmonth,
      length_padded (show 0 < 2 by decide) hday]
    rfl
  -- a month begins with a digit, so it is not taken for the mark of a week
  have hweek : ∀ rest tail, (padded 2 month).toList ++ rest ≠ 'W' :: tail := by
    intro rest tail heq
    cases hdigits : (padded 2 month).toList with
    | nil =>
        have hlength := length_padded (show 0 < 2 by decide) hmonth
        rw [hdigits] at hlength
        exact absurd hlength (by decide)
    | cons c cs =>
        have hc : c.isDigit := isDigit_of_mem_padded (hdigits ▸ List.mem_cons_self)
        rw [hdigits, List.cons_append, List.cons.injEq] at heq
        rw [heq.1] at hc
        exact absurd hc (by decide)
  have hread := d.ofCivil?_civil
  rw [hcivil] at hread
  unfold ofIso?
  rw [hsize, htext]
  simp only [beq_self_eq_true, Bool.or_true, guard_true, Option.pure_def, Option.bind_eq_bind,
    Option.bind_some, readDigits_padded (show 0 < 4 by decide) hyear, List.head?_cons, if_true,
    List.tail_cons]
  split
  · next tail heq => exact absurd heq (hweek _ tail)
  · have hend := readDigits_padded (show 0 < 2 by decide) hday []
    rw [List.append_nil] at hend
    simp only [readDigits_padded (show 0 < 2 by decide) hmonth, Option.bind_some, readChar,
      if_true, hend]
    exact hread

end Date

end Rostering
