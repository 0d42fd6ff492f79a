import Rostering.Proofs.Config.RoundTrip

/-!
# Ranges of days

A range of days lists every day from its first to its last, each at the time of day of the first
(`Index.members_daily`). Dates are day numbers, so a step is an addition; that it is a step in the
calendar, over the ends of months, leap years and centuries, is what the first half of this module
shows.

## The architecture

* **`IsCivil.unique`**, **`Date.civil_eq`** — the days to a date are counted by one year, month and
  day only, so these can be read off any way to count.
* **`IsNextDate`**, **`Date.isNextDate_civil`** — the date with the next number is the next one in
  the calendar.
* **`Day.onDate`** — the days of a range are one time on several dates, which their labels tell
  apart.
* **`Day.distance?_addDays?`** — each step takes a day off the distance to the end, and
  `Day.exists_addDays?` — the calendar does not end before the range does.
* **`Day.through_eq_map`** — hence a range is the list of its steps, and the rest is read off that
  list.
-/

namespace Rostering

/-! ## Months and years in a row -/

/-- The days before a month are those before the one before it, and that one's. -/
theorem daysBeforeMonth_succ {year month : Nat} (hfirst : 1 ≤ month) (hlast : month ≤ 12) :
    daysBeforeMonth year (month + 1) = daysBeforeMonth year month + monthLength year month := by
  unfold daysBeforeMonth monthLength monthLengths
  interval_cases month <;> cases isLeapYear year <;> rfl

theorem daysBeforeMonth_mono (year : Nat) : Monotone (daysBeforeMonth year) := by
  refine monotone_nat_of_le_succ fun month => ?_
  by_cases hmonth : 1 ≤ month ∧ month ≤ 12
  · rw [daysBeforeMonth_succ hmonth.1 hmonth.2]
    exact Nat.le_add_right _ _
  · -- outside of the year no month adds any days
    unfold daysBeforeMonth
    rcases Nat.eq_zero_or_pos month with rfl | hpos
    · exact Nat.le_refl _
    · have hlength : (monthLengths year).length = 12 := rfl
      rw [List.take_of_length_le (by omega), List.take_of_length_le (by omega)]

theorem daysBeforeYear_mono : Monotone fun year => daysBeforeYear (year + 1) := by
  refine monotone_nat_of_le_succ fun year => ?_
  rw [daysBeforeYear_succ (Nat.le_add_left 1 year)]
  exact Nat.le_add_right _ _

/-- A year ends with its twelfth month. -/
theorem daysBeforeYear_add_months {year : Nat} (hyear : 1 ≤ year) :
    daysBeforeYear (year + 1) = daysBeforeYear year + daysBeforeMonth year 13 := by
  rw [daysBeforeYear_succ hyear, ← sum_monthLengths, daysBeforeMonth_eq_foldr]
  rfl

/-! ## Dates one after the other -/

/-- A day of a month of a year. -/
structure IsCivil (year month day : Nat) : Prop where
  first_year : 1 ≤ year
  first_month : 1 ≤ month
  last_month : month ≤ 12
  first_day : 1 ≤ day
  last_day : day ≤ monthLength year month

/-- The days before a day of the calendar. -/
def daysBefore (year month day : Nat) : Nat :=
  daysBeforeYear year + daysBeforeMonth year month + (day - 1)

namespace IsCivil

variable {year month day year' month' day' : Nat}

theorem lt_nextMonth (h : IsCivil year month day) :
    daysBeforeMonth year month + (day - 1) < daysBeforeMonth year (month + 1) := by
  have hfirst := h.first_day
  have hlast := h.last_day
  rw [daysBeforeMonth_succ h.first_month h.last_month]
  omega

theorem lt_nextYear (h : IsCivil year month day) :
    daysBefore year month day < daysBeforeYear (year + 1) := by
  have hmonth := h.lt_nextMonth
  have hrest : daysBeforeMonth year (month + 1) ≤ daysBeforeMonth year 13 :=
    daysBeforeMonth_mono year (Nat.succ_le_succ h.last_month)
  rw [daysBeforeYear_add_months h.first_year]
  unfold daysBefore
  omega

/-- Whoever counts as many days is not in an earlier year. -/
theorem year_le (h : IsCivil year month day) (h' : IsCivil year' month' day')
    (hcount : daysBefore year month day = daysBefore year' month' day') : year' ≤ year := by
  by_contra hlate
  have hnext := h.lt_nextYear
  have hyears : daysBeforeYear (year + 1) ≤ daysBeforeYear year' := by
    have hmono := daysBeforeYear_mono (show year ≤ year' - 1 by omega)
    simpa [Nat.sub_add_cancel h'.first_year] using hmono
  rw [hcount] at hnext
  unfold daysBefore at hnext
  omega

theorem month_le (h : IsCivil year month day)
    (hcount : daysBeforeMonth year month + (day - 1) = daysBeforeMonth year month' + (day' - 1)) :
    month' ≤ month := by
  by_contra hlate
  have hnext := h.lt_nextMonth
  have hmonths := daysBeforeMonth_mono year (show month + 1 ≤ month' by omega)
  omega

/-- Days that are counted alike are one day: the year is the same, then the month, then the day. -/
theorem unique (h : IsCivil year month day) (h' : IsCivil year' month' day')
    (hcount : daysBefore year month day = daysBefore year' month' day') :
    (year, month, day) = (year', month', day') := by
  obtain rfl : year = year' :=
    Nat.le_antisymm (h'.year_le h hcount.symm) (h.year_le h' hcount)
  have hmonths : daysBeforeMonth year month + (day - 1)
      = daysBeforeMonth year month' + (day' - 1) := by
    unfold daysBefore at hcount
    omega
  obtain rfl : month = month' :=
    Nat.le_antisymm (h'.month_le hmonths.symm) (h.month_le hmonths)
  have hday := h.first_day
  have hday' := h'.first_day
  obtain rfl : day = day' := by omega
  rfl

end IsCivil

/-- Year, month and day of two dates in a row: the next day of a month, the first of the next month,
or the first day of the next year. -/
inductive IsNextDate : Nat × Nat × Nat → Nat × Nat × Nat → Prop where
  | day {year month day : Nat} (hday : day < monthLength year month) :
      IsNextDate (year, month, day) (year, month, day + 1)
  | month {year month : Nat} (hmonth : month < 12) :
      IsNextDate (year, month, monthLength year month) (year, month + 1, 1)
  | year {year : Nat} : IsNextDate (year, 12, 31) (year + 1, 1, 1)

namespace Date

theorem exists_civil (d : Date) : ∃ year month day, d.civil = (year, month, day)
    ∧ IsCivil year month day ∧ daysBefore year month day = d.index := by
  obtain ⟨year, month, day, hcivil, hyear, -, hfirst, hlast, hday, hlong, hindex⟩ := d.civil_spec
  exact ⟨year, month, day, hcivil, ⟨hyear, hfirst, hlast, hday, hlong⟩, hindex⟩

/-- However the days to a date are counted, that gives its year, month and day. -/
theorem civil_eq {d : Date} {year month day : Nat} (h : IsCivil year month day)
    (hindex : daysBefore year month day = d.index) : d.civil = (year, month, day) := by
  obtain ⟨year', month', day', hcivil, h', hindex'⟩ := d.exists_civil
  rw [hcivil]
  exact h'.unique h (hindex'.trans hindex.symm)

theorem monthLength_pos (year : Nat) {month : Nat} (hfirst : 1 ≤ month) (hlast : month ≤ 12) :
    1 ≤ monthLength year month := by
  unfold monthLength monthLengths
  interval_cases month <;> cases isLeapYear year <;> decide

/-- The date with the next number is the next one in the calendar. One case for each way in which a
day, a month and a year can end. -/
theorem isNextDate_civil {a b : Date} (hb : b.index = a.index + 1) :
    IsNextDate a.civil b.civil := by
  obtain ⟨year, month, day, hcivil, h, hindex⟩ := a.exists_civil
  obtain ⟨hyear, hfirst, hlast, hday, hlong⟩ := h
  rw [hcivil]
  by_cases hmore : day < monthLength year month
  · -- inside a month
    have hnext : b.civil = (year, month, day + 1) :=
      civil_eq ⟨hyear, hfirst, hlast, by omega, hmore⟩ (by
        unfold daysBefore at *
        omega)
    rw [hnext]
    exact .day hmore
  · obtain rfl : day = monthLength year month := by omega
    by_cases hwithin : month < 12
    · -- at the end of a month
      have hpos := monthLength_pos year (show 1 ≤ month + 1 by omega) (by omega)
      have hnext : b.civil = (year, month + 1, 1) :=
        civil_eq ⟨hyear, by omega, by omega, le_refl 1, hpos⟩ (by
          unfold daysBefore at *
          rw [daysBeforeMonth_succ hfirst hlast]
          omega)
      rw [hnext]
      exact .month hwithin
    · -- at the end of a year
      obtain rfl : month = 12 := by omega
      have hdecember : monthLength year 12 = 31 := rfl
      have hbegin : daysBeforeMonth (year + 1) 1 = 0 := rfl
      have hmonths : daysBeforeMonth year (12 + 1) = _ := daysBeforeMonth_succ hfirst hlast
      have hpos := monthLength_pos (year + 1) (le_refl 1) (by omega)
      have hnext : b.civil = (year + 1, 1, 1) :=
        civil_eq ⟨by omega, le_refl 1, by omega, le_refl 1, hpos⟩ (by
          unfold daysBefore at *
          rw [daysBeforeYear_add_months hyear, hmonths, hbegin]
          omega)
      rw [hnext]
      exact hdecember ▸ .year

theorem iso_injective {a b : Date} (h : a.iso = b.iso) : a = b := by
  have hread := Date.ofIso?_iso a
  rw [h, Date.ofIso?_iso b] at hread
  exact (Option.some.inj hread).symm

theorem eq_of_index {a b : Date} (h : a.index = b.index) : a = b := by
  obtain ⟨i, hi⟩ := a
  obtain ⟨j, hj⟩ := b
  cases h
  rfl

theorem addDays?_eq_some {a b : Date} {n : Nat} :
    a.addDays? n = some b ↔ b.index = a.index + n := by
  unfold addDays? ofIndex?
  constructor
  · intro h
    split at h
    · cases h
      rfl
    · cases h
  · intro h
    rw [dif_pos (h ▸ b.inCalendar)]
    exact congrArg some (eq_of_index h.symm)

end Date

/-! ## Times of day -/

/-- The moment has a time of day that exists, and no offset. -/
structure Moment.IsLocal (m : Moment) : Prop where
  offset : m.offset = none
  hour : m.hour < 24
  minute : m.minute < 60
  second : m.second < 60
  micro : m.micro < 1000000

namespace Day

/-- The time of a day on another date. -/
def onDate (d : Day) (a : Date) : Day :=
  match d with
  | .date _ => .date a
  | .moment m => .moment { m with date := a }

/-- At one time of day, every date has a label of its own. -/
theorem label_onDate_iff (d : Day) (a b : Date) :
    (d.onDate a).label = (d.onDate b).label ↔ a = b := by
  refine ⟨fun h => Date.iso_injective ?_, fun h => by rw [h]⟩
  cases d with
  | date _ => exact h
  | moment m =>
      -- behind the date both labels go on in the same way, if they go on at all
      simp only [onDate, label, Moment.isMidnight, Moment.iso, Moment.text] at h
      split at h
      · exact h
      · simpa only [String.append_left_inj] using h

/-- Stepping by days keeps the time and counts on the dates. -/
theorem addDays?_eq_some {d e : Day} {n : Nat} :
    d.addDays? n = some e ↔ ∃ b : Date, b.index = d.toDate.index + n ∧ e = d.onDate b := by
  cases d with
  | date a =>
      simp only [addDays?, Option.map_eq_some_iff, Date.addDays?_eq_some, toDate, onDate]
      exact exists_congr fun b => and_congr_right fun _ => eq_comm
  | moment m =>
      simp only [addDays?, Option.map_eq_some_iff, Date.addDays?_eq_some, toDate, onDate]
      exact exists_congr fun b => and_congr_right fun _ => eq_comm

/-! ## The ends of a range -/

/-- Two dates or two local moments, the second not before the first. -/
inductive AreEnds : Day → Day → Prop where
  | dates {a b : Date} (hforward : a.index ≤ b.index) : AreEnds (.date a) (.date b)
  | moments {m n : Moment} (hm : m.IsLocal) (hn : n.IsLocal) (hforward : m.instant ≤ n.instant) :
      AreEnds (.moment m) (.moment n)

/-- No less than no time lies between the two. -/
def IsUpTo (d last : Day) : Prop := ∃ rest, d.distance? last = some rest ∧ 0 ≤ rest

theorem AreEnds.isUpTo {first last : Day} (h : AreEnds first last) : first.IsUpTo last := by
  cases h with
  | dates hforward =>
      refine ⟨_, rfl, ?_⟩
      rw [Int.ofNat_eq_natCast]
      omega
  | @moments m n hm hn hforward =>
      refine ⟨n.instant - m.instant, ?_, by omega⟩
      simp [distance?, hm.offset, hn.offset]

theorem AreEnds.distance_nonneg {first last : Day} (h : AreEnds first last) {distance : Int}
    (hdistance : first.distance? last = some distance) : 0 ≤ distance := by
  obtain ⟨rest, hrest, hpositive⟩ := h.isUpTo
  rw [hdistance] at hrest
  cases hrest
  exact hpositive

/-- Each step takes a day off the distance to the end. The walk through a range is counted by it. -/
theorem distance?_addDays? {d e last : Day} {n : Nat} {distance : Int}
    (hstep : d.addDays? n = some e) (hdistance : d.distance? last = some distance) :
    e.distance? last = some (distance - n * 86400000000) := by
  obtain ⟨b, hb, rfl⟩ := addDays?_eq_some.mp hstep
  -- dates and moments have no distance to each other, so both ends are of one kind; a moment has
  -- one only to a moment that is as local as itself
  cases d with
  | date a =>
      cases last with
      | moment l => cases hdistance
      | date l =>
          simp only [toDate, onDate, distance?, Option.some.injEq, Int.ofNat_eq_natCast] at *
          omega
  | moment m =>
      cases last with
      | date l => cases hdistance
      | moment l =>
          simp only [toDate, onDate, distance?, Option.ite_none_right_eq_some, Option.some.injEq,
            Moment.instant, Int.ofNat_eq_natCast] at *
          exact ⟨hdistance.1, by omega⟩

/-- The calendar does not end before a range does: as many days as fit into it can be gone. -/
theorem exists_addDays? {first last : Day} (h : AreEnds first last) {distance : Int}
    (hdistance : first.distance? last = some distance) {n : Nat}
    (hn : n * 86400000000 ≤ distance) : ∃ d, first.addDays? n = some d := by
  have hindex : first.toDate.index + n ≤ last.toDate.index := by
    cases h with
    | dates hforward =>
        simp only [toDate, distance?, Option.some.injEq, Int.ofNat_eq_natCast] at *
        omega
    | @moments m l hm hl hforward =>
        -- less than a day has passed at either end
        obtain ⟨hmzone, -, -, -, -⟩ := hm
        obtain ⟨hlzone, hhour, hminute, hsecond, hmicro⟩ := hl
        simp only [toDate, distance?, hmzone, hlzone, if_true, Option.some.injEq, Moment.instant,
          Option.getD_none, Int.ofNat_eq_natCast] at *
        omega
  have hcalendar := last.toDate.inCalendar
  exact ⟨first.onDate ⟨first.toDate.index + n, by omega⟩, addDays?_eq_some.mpr ⟨_, rfl, rfl⟩⟩

/-! ## The days of a range -/

/-- The same time on the next date. -/
def IsNext (d e : Day) : Prop :=
  e = d.onDate e.toDate ∧ IsNextDate d.toDate.civil e.toDate.civil

/-- The days from the first one to the last, in steps of a day. -/
structure AreDaily (first last : Day) (days : List Day) : Prop where
  /-- They are the days that come any number of days after the first, and are not after the last. -/
  reached : ∀ n d, days[n]? = some d ↔ first.addDays? n = some d ∧ d.IsUpTo last
  begin : days.head? = some first
  next : days.IsChain IsNext
  /-- Behind the last of them there is not a whole day left. -/
  close : ∃ d rest, days.getLast? = some d ∧ d.distance? last = some rest
    ∧ 0 ≤ rest ∧ rest < 86400000000

/-- The day some steps after the first. -/
def step (first : Day) (n : Nat) : Day := (first.addDays? n).getD first

section

variable {first last : Day} (h : AreEnds first last) {distance : Int}
  (hdistance : first.distance? last = some distance)
include h hdistance

/-- No step of a range is missing. -/
theorem addDays?_step {n : Nat} (hn : n * 86400000000 ≤ distance) :
    first.addDays? n = some (first.step n) := by
  obtain ⟨d, hd⟩ := exists_addDays? h hdistance hn
  rw [step, hd, Option.getD_some]

/-- A range is the list of its steps. -/
theorem through_eq_map :
    through first last = (List.range (distance.toNat / 86400000000 + 1)).map first.step := by
  have hpositive := h.distance_nonneg hdistance
  unfold through
  rw [hdistance]
  simp only
  rw [if_neg (by omega), ← List.filterMap_eq_map]
  refine List.filterMap_congr fun n hn => ?_
  rw [List.mem_range] at hn
  exact addDays?_step h hdistance (by omega)

/-- The days of a range are those in reach from its first that are not after its last. -/
theorem getElem?_through {n : Nat} {d : Day} :
    (through first last)[n]? = some d ↔ first.addDays? n = some d ∧ d.IsUpTo last := by
  -- the range is the list of its steps, so that its members are those of a list of numbers
  have hpositive := h.distance_nonneg hdistance
  rw [through_eq_map h hdistance, List.getElem?_map, Option.map_eq_some_iff]
  constructor
  · rintro ⟨m, hm, rfl⟩
    obtain ⟨hlt, hget⟩ := List.getElem?_eq_some_iff.mp hm
    rw [List.getElem_range] at hget
    rw [List.length_range] at hlt
    subst hget
    have hwithin : (n : Int) * 86400000000 ≤ distance := by omega
    have hstep := addDays?_step h hdistance hwithin
    exact ⟨hstep, _, distance?_addDays? hstep hdistance, by omega⟩
  · -- the distance that is left after so many days bounds the number of steps
    rintro ⟨hd, rest, hrest, hleft⟩
    obtain rfl := Option.some.inj ((distance?_addDays? hd hdistance).symm.trans hrest)
    exact ⟨n, List.getElem?_range (by omega), by rw [step, hd, Option.getD_some]⟩

/-- One step of a range leads to the same time on the next date. -/
theorem isNext_step {n : Nat} (hn : (n + 1 : Nat) * 86400000000 ≤ distance) :
    (first.step n).IsNext (first.step (n + 1)) := by
  obtain ⟨a, ha, hstep⟩ := addDays?_eq_some.mp (addDays?_step h hdistance (n := n) (by omega))
  obtain ⟨b, hb, hnext⟩ := addDays?_eq_some.mp (addDays?_step h hdistance hn)
  rw [hstep, hnext]
  have hdate : ∀ c, (first.onDate c).toDate = c := fun c => by cases first <;> rfl
  refine ⟨?_, ?_⟩
  · cases first <;> rfl
  · rw [hdate, hdate]
    exact Date.isNextDate_civil (by omega)

theorem areDaily_through : AreDaily first last (through first last) := by
  have hpositive := h.distance_nonneg hdistance
  refine ⟨fun n d => getElem?_through h hdistance, ?_, ?_, ?_⟩
  · -- no step leads to the first
    have hstart := (getElem?_through h hdistance (n := 0) (d := first)).mpr
      ⟨by cases first <;> exact addDays?_eq_some.mpr ⟨_, rfl, rfl⟩, h.isUpTo⟩
    rwa [← List.head?_eq_getElem?] at hstart
  · rw [through_eq_map h hdistance, List.isChain_map]
    refine (List.isChain_range_succ _ _).mpr fun n hn => ?_
    exact isNext_step h hdistance (by omega)
  · -- of the whole days up to the end none is left
    have hlast := addDays?_step h hdistance (n := distance.toNat / 86400000000) (by omega)
    refine ⟨_, _, ?_, distance?_addDays? hlast hdistance, by omega, by omega⟩
    rw [through_eq_map h hdistance, List.getLast?_map, List.getLast?_range,
      if_neg (Nat.succ_ne_zero _)]
    rfl

theorem nodup_labels_through : ((through first last).map label).Nodup := by
  rw [through_eq_map h hdistance, List.map_map]
  refine List.Nodup.map_on (fun n hn m hm heq => ?_) List.nodup_range
  have hpositive := h.distance_nonneg hdistance
  rw [List.mem_range] at hn hm
  obtain ⟨a, ha, hstep⟩ := addDays?_eq_some.mp (addDays?_step h hdistance (n := n) (by omega))
  obtain ⟨b, hb, hstep'⟩ := addDays?_eq_some.mp (addDays?_step h hdistance (n := m) (by omega))
  rw [Function.comp_apply, Function.comp_apply, hstep, hstep'] at heq
  have hdate : a = b := (label_onDate_iff first a b).mp heq
  rw [hdate] at ha
  omega

end

/-- A range of dates ends with its last date, and has as many days as there are from one end to the
other, ends included. -/
theorem through_dates {a b : Date} (hforward : a.index ≤ b.index) :
    (through (.date a) (.date b)).getLast? = some (.date b)
      ∧ (through (.date a) (.date b)).length = b.index - a.index + 1 := by
  -- dates are whole days apart
  have hquotient : ((Int.ofNat b.index - a.index) * 86400000000).toNat / 86400000000
      = b.index - a.index := by
    rw [Int.ofNat_eq_natCast]
    omega
  have hlist := through_eq_map (AreEnds.dates hforward) rfl
  rw [hquotient] at hlist
  rw [hlist]
  refine ⟨?_, by rw [List.length_map, List.length_range]⟩
  have hlast : (Day.date a).addDays? (b.index - a.index) = some (.date b) :=
    addDays?_eq_some.mpr ⟨b, by simp only [toDate]; omega, rfl⟩
  rw [List.getLast?_map, List.getLast?_range, if_neg (Nat.succ_ne_zero _), Nat.add_sub_cancel,
    Option.map_some, step, hlast, Option.getD_some]

end Day

/-! ## Ranges as indexes -/

/-- An index over a range of days lists the day at the beginning and every day that comes a whole
number of days later, up to the end. Their labels are distinct. A range of dates ends with its last
date, and is written in such a way that it reads back. A range of moments may end before a whole day
is over; then its end is not a member, and this is said by the steps being all those that do not go
beyond it. -/
theorem Index.members_daily {first last : Day} (h : first.AreEnds last) :
    ∃ days : List Day, Index.ofDays (.day first) (.day last) = .ok (.range first last)
      ∧ (Index.range first last).members = days.map .day ∧ first.AreDaily last days
      ∧ ((Index.range first last).members.map Value.label).Nodup
      ∧ ∀ a b, first = .date a → last = .date b → days.getLast? = some last
        ∧ days.length = b.index - a.index + 1
        ∧ ∀ path, Config.index (Config.encodeIndex (.range first last)) path
          = .ok (.range first last) := by
  obtain ⟨distance, hdistance, hpositive⟩ := h.isUpTo
  refine ⟨Day.through first last, ?_, rfl, Day.areDaily_through h hdistance, ?_, ?_⟩
  · simp only [Index.ofDays, hdistance]
    rw [if_neg (by omega)]
    rfl
  -- labels of members are those of their days
  · have hlabels : (Index.range first last).members.map Value.label
        = (Day.through first last).map Day.label := by
      unfold Index.members
      rw [List.map_map]
      rfl
    rw [hlabels]
    exact Day.nodup_labels_through h hdistance
  · rintro a b rfl rfl
    cases h with
    | dates hforward =>
        obtain ⟨hlast, hlength⟩ := Day.through_dates hforward
        have hwritten : (Index.range (.date a) (.date b)).WellFormed := hforward
        exact ⟨hlast, hlength, Config.index_encodeIndex hwritten⟩

/-- A century that divides by four hundred has a leap day. -/
theorem Index.members_daily_of_leapDay :
    let first : Day := .date ⟨730177, by decide⟩
    let last : Day := .date ⟨730179, by decide⟩
    first.AreEnds last
      ∧ (Index.range first last).members.map Value.label = ["2000-02-28", "2000-02-29", "2000-03-01"]
      ∧ ∃ days : List Day, Index.ofDays (.day first) (.day last) = .ok (.range first last)
        ∧ (Index.range first last).members = days.map .day ∧ first.AreDaily last days
        ∧ ((Index.range first last).members.map Value.label).Nodup
        ∧ ∀ a b, first = .date a → last = .date b → days.getLast? = some last
          ∧ days.length = b.index - a.index + 1
          ∧ ∀ path, Config.index (Config.encodeIndex (.range first last)) path
            = .ok (.range first last) := by
  intro first last
  have hends : first.AreEnds last := .dates (by decide)
  refine ⟨hends, ?_, Index.members_daily hends⟩
  subst first last
  decide +kernel

-- A range of moments ends before its end if the last day is not a whole one.
example : (Index.range (.moment ⟨⟨730177, by decide⟩, 9, 30, 0, 0, none⟩)
    (.moment ⟨⟨730179, by decide⟩, 8, 0, 0, 0, none⟩)).members.map Value.label
      = ["2000-02-28T09:30:00", "2000-02-29T09:30:00"] := by decide +kernel

end Rostering
