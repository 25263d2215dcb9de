import Mathlib.Data.List.Lex
import Mathlib.Order.Monotone.Basic

/-!
# The Gregorian calendar in seconds

A date with a time of day against the seconds since the start of 1970. Later fields are later
seconds, and every number of seconds is one date and time.
-/

namespace DecadaEmbedded.Library.Calendar

def IsLeap (year : Nat) : Prop := year % 4 = 0 ∧ (year % 100 ≠ 0 ∨ year % 400 = 0)

instance : DecidablePred IsLeap := fun year =>
  inferInstanceAs (Decidable (year % 4 = 0 ∧ (year % 100 ≠ 0 ∨ year % 400 = 0)))

def yearDays (year : Nat) : Nat := if IsLeap year then 366 else 365

/-- The months of a year are 1 to 12. -/
def monthDays (year month : Nat) : Nat :=
  if month = 2 then if IsLeap year then 29 else 28
  else if month = 4 ∨ month = 6 ∨ month = 9 ∨ month = 11 then 30
  else 31

/-- The days from the start of 1970 to that of the year `1970 + n`. -/
def daysToYear : Nat → Nat
  | 0 => 0
  | n + 1 => daysToYear n + yearDays (1970 + n)

/-- The days of the first `n` months of a year. -/
def daysToMonth (year : Nat) : Nat → Nat
  | 0 => 0
  | n + 1 => daysToMonth year n + monthDays year (n + 1)

@[ext] structure DateTime where
  year : Nat
  month : Nat
  day : Nat
  hour : Nat
  minute : Nat
  second : Nat
deriving DecidableEq, Repr

namespace DateTime

structure Valid (date : DateTime) : Prop where
  year : 1970 ≤ date.year
  month : 1 ≤ date.month ∧ date.month ≤ 12
  day : 1 ≤ date.day ∧ date.day ≤ monthDays date.year date.month
  hour : date.hour < 24
  minute : date.minute < 60
  second : date.second < 60

def dayOfYear (date : DateTime) : Nat := daysToMonth date.year (date.month - 1) + (date.day - 1)

def days (date : DateTime) : Nat := daysToYear (date.year - 1970) + date.dayOfYear

def secondOfDay (date : DateTime) : Nat := (date.hour * 60 + date.minute) * 60 + date.second

def seconds (date : DateTime) : Nat := date.days * 86400 + date.secondOfDay

def fields (date : DateTime) : List Nat :=
  [date.year, date.month, date.day, date.hour, date.minute, date.second]

end DateTime

/-! ## Years and months -/

theorem monotone_daysToYear : Monotone daysToYear := by
  apply monotone_nat_of_le_succ
  intro n
  exact Nat.le_add_right _ _

theorem monotone_daysToMonth (year : Nat) : Monotone (daysToMonth year) := by
  apply monotone_nat_of_le_succ
  intro n
  exact Nat.le_add_right _ _

theorem daysToMonth_twelve (year : Nat) : daysToMonth year 12 = yearDays year := by
  by_cases leap : IsLeap year <;> simp [daysToMonth, monthDays, yearDays, leap]

theorem yearDays_pos (year : Nat) : 0 < yearDays year := by
  unfold yearDays
  split_ifs <;> decide

namespace DateTime

variable {a b : DateTime}

theorem Valid.dayOfMonth_lt (valid : a.Valid) : a.dayOfYear < daysToMonth a.year a.month := by
  obtain ⟨month, bound⟩ := Nat.exists_eq_add_of_le' valid.month.1
  have day := valid.day
  rw [dayOfYear, bound, daysToMonth, Nat.add_sub_cancel, ← bound]
  omega

theorem Valid.dayOfYear_lt (valid : a.Valid) : a.dayOfYear < yearDays a.year := by
  have later := monotone_daysToMonth a.year valid.month.2
  rw [daysToMonth_twelve] at later
  exact valid.dayOfMonth_lt.trans_le later

theorem Valid.days_lt (valid : a.Valid) : a.days < daysToYear (a.year - 1970 + 1) := by
  have year := valid.year
  have inside := valid.dayOfYear_lt
  rw [days, daysToYear, show 1970 + (a.year - 1970) = a.year by omega]
  omega

theorem Valid.secondOfDay_lt (valid : a.Valid) : a.secondOfDay < 86400 := by
  have hour := valid.hour
  have minute := valid.minute
  have second := valid.second
  rw [secondOfDay]
  omega

theorem days_lt_of_year (valid : a.Valid) (less : a.year < b.year) : a.days < b.days := by
  have year := valid.year
  have later := monotone_daysToYear (show a.year - 1970 + 1 ≤ b.year - 1970 by omega)
  exact valid.days_lt.trans_le (later.trans (Nat.le_add_right _ _))

theorem days_lt_of_month (valid : a.Valid) (same : a.year = b.year) (less : a.month < b.month) :
    a.days < b.days := by
  have later := monotone_daysToMonth a.year (show a.month ≤ b.month - 1 by omega)
  have inside := valid.dayOfMonth_lt
  rw [days, days, same, dayOfYear.eq_def b, ← same]
  omega

theorem days_lt_of_day (valid : a.Valid) (year : a.year = b.year) (month : a.month = b.month)
    (less : a.day < b.day) : a.days < b.days := by
  have day := valid.day
  rw [days, days, dayOfYear, dayOfYear, year, month]
  omega

theorem seconds_lt_of_days (valid : a.Valid) (less : a.days < b.days) : a.seconds < b.seconds := by
  have inside := valid.secondOfDay_lt
  rw [seconds, seconds]
  omega

theorem seconds_lt_of_fields (valid : a.Valid) (less : a.fields < b.fields) : a.seconds < b.seconds := by
  simp only [fields, List.cons_lt_cons_iff, List.not_lt_nil, and_false, or_false] at less
  rcases less with year | ⟨year, month | ⟨month, day | ⟨day, time⟩⟩⟩
  · exact seconds_lt_of_days valid (days_lt_of_year valid year)
  · exact seconds_lt_of_days valid (days_lt_of_month valid year month)
  · exact seconds_lt_of_days valid (days_lt_of_day valid year month day)
  · have minute := valid.minute
    have second := valid.second
    have same : a.days = b.days := by rw [days, days, dayOfYear, dayOfYear, year, month, day]
    rw [seconds, seconds, same, secondOfDay, secondOfDay]
    omega

theorem fields_injective : Function.Injective fields := by
  intro a b same
  simp only [fields, List.cons.injEq, and_true] at same
  obtain ⟨year, month, day, hour, minute, second⟩ := same
  exact DateTime.ext year month day hour minute second

theorem fields_lt_of_seconds (valid : b.Valid) (less : a.seconds < b.seconds) : a.fields < b.fields := by
  rcases lt_trichotomy a.fields b.fields with before | same | behind
  · exact before
  · rw [fields_injective same] at less
    exact absurd less (Nat.lt_irrefl _)
  · exact absurd (seconds_lt_of_fields valid behind) (Nat.lt_asymm less)

end DateTime

/-! ## The date of a number of seconds -/

/-- Counts the days of whole years away; each year takes more than one unit of fuel. -/
def yearOfDays : Nat → Nat → Nat → Nat × Nat
  | 0, year, days => (year, days)
  | fuel + 1, year, days =>
      if days < yearDays year then (year, days)
      else yearOfDays fuel (year + 1) (days - yearDays year)

def monthOfDays (year : Nat) : Nat → Nat → Nat → Nat × Nat
  | 0, month, days => (month, days)
  | fuel + 1, month, days =>
      if days < monthDays year month then (month, days)
      else monthOfDays year fuel (month + 1) (days - monthDays year month)

def ofSeconds (seconds : Nat) : DateTime :=
  let (year, dayOfYear) := yearOfDays (seconds / 86400) 1970 (seconds / 86400)
  let (month, dayOfMonth) := monthOfDays year 11 1 dayOfYear
  ⟨year, month, dayOfMonth + 1, seconds % 86400 / 3600, seconds % 3600 / 60, seconds % 60⟩

theorem yearOfDays_spec {fuel n days : Nat} (enough : days ≤ fuel) :
    ∃ m rest, yearOfDays fuel (1970 + n) days = (1970 + m, rest) ∧ rest < yearDays (1970 + m) ∧
      daysToYear m + rest = daysToYear n + days := by
  induction fuel generalizing n days with
  | zero =>
      have positive := yearDays_pos (1970 + n)
      exact ⟨n, days, rfl, by omega, rfl⟩
  | succ fuel ih =>
      rw [yearOfDays]
      split_ifs with inside
      · exact ⟨n, days, rfl, inside, rfl⟩
      · have positive := yearDays_pos (1970 + n)
        obtain ⟨m, rest, found, short, total⟩ :=
          @ih (n + 1) (days - yearDays (1970 + n)) (by omega)
        refine ⟨m, rest, found, short, ?_⟩
        rw [total, daysToYear]
        omega

theorem monthOfDays_spec {year fuel n days : Nat} (months : n + fuel = 11)
    (inside : daysToMonth year n + days < yearDays year) :
    ∃ m rest, monthOfDays year fuel (n + 1) days = (m + 1, rest) ∧ m < 12 ∧ rest < monthDays year (m + 1) ∧
      daysToMonth year m + rest = daysToMonth year n + days := by
  induction fuel generalizing n days with
  | zero =>
      have last : n = 11 := by omega
      subst last
      have twelve : daysToMonth year 11 + monthDays year (11 + 1) = yearDays year := daysToMonth_twelve year
      exact ⟨11, days, rfl, by decide, by omega, rfl⟩
  | succ fuel ih =>
      rw [monthOfDays]
      split_ifs with short
      · exact ⟨n, days, rfl, by omega, short, rfl⟩
      · obtain ⟨m, rest, found, bound, below, total⟩ :=
          @ih (n + 1) (days - monthDays year (n + 1)) (by omega) (by rw [daysToMonth]; omega)
        refine ⟨m, rest, found, bound, below, ?_⟩
        rw [total, daysToMonth]
        omega

theorem ofSeconds_spec (seconds : Nat) : (ofSeconds seconds).Valid ∧ (ofSeconds seconds).seconds = seconds := by
  obtain ⟨m, dayOfYear, year, inside, days⟩ := @yearOfDays_spec _ 0 (seconds / 86400) (Nat.le_refl _)
  obtain ⟨k, dayOfMonth, month, bound, below, total⟩ :=
    @monthOfDays_spec (1970 + m) 11 0 dayOfYear rfl (by simpa [daysToMonth] using inside)
  have date : ofSeconds seconds =
      ⟨1970 + m, k + 1, dayOfMonth + 1, seconds % 86400 / 3600, seconds % 3600 / 60, seconds % 60⟩ := by
    simp only [ofSeconds]
    rw [year]
    simp only
    rw [month]
  rw [date]
  constructor
  · exact ⟨by simp, ⟨by simp, by simp; omega⟩, ⟨by simp, by simp; omega⟩, by simp; omega, by simp; omega,
      by simp; omega⟩
  · simp only [DateTime.seconds, DateTime.days, DateTime.dayOfYear, DateTime.secondOfDay, Nat.add_sub_cancel,
      Nat.add_sub_cancel_left]
    simp only [daysToYear, daysToMonth] at days total
    omega

end DecadaEmbedded.Library.Calendar
