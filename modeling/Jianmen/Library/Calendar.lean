import Mathlib.Algebra.Ring.Nat
import Mathlib.Data.Int.Notation
import Mathlib.Data.List.DropRight
import Mathlib.Tactic.Common

/-!
# Dates and times as text

Instants are counted in nanoseconds from the beginning of 1970.  Their date in UTC is that of the
Gregorian calendar, extended to all years, and they are written as RFC 3339 has it: numbers of fixed
width, and a fraction of a second without zeros at its end.  Different instants are written
differently.
-/

namespace Jianmen.Calendar

open List

/-! ## Dates -/

structure Date where
  year : ℤ
  month : ℕ
  day : ℕ

/-- The year of a day and the day within the year.  Days are counted from the first of January of
the year 1, where a cycle of 400 years begins: leap days come last. -/
def yearDay (days : ℤ) : ℤ × ℕ :=
  let cycle := days % 146097
  let centuries := min (cycle / 36524) 3
  let century := cycle - 36524 * centuries
  let fours := century / 1461
  let four := century - 1461 * fours
  let years := min (four / 365) 3
  (400 * (days / 146097) + 100 * centuries + 4 * fours + years + 1, (four - 365 * years).toNat)

def isLeap (year : ℤ) : Bool :=
  year % 4 = 0 ∧ (year % 100 ≠ 0 ∨ year % 400 = 0)

def monthLengths (leap : Bool) : List ℕ :=
  [31, if leap then 29 else 28, 31, 30, 31, 30, 31, 31, 30, 31, 30, 31]

/-- The month and the day within it, for a day counted from the start of a month. -/
def monthDay : List ℕ → ℕ → ℕ → ℕ × ℕ
  | [], month, day => (month, day + 1)
  | length :: lengths, month, day =>
    if day < length then (month, day + 1) else monthDay lengths (month + 1) (day - length)

def date (days : ℤ) : Date :=
  let (year, day) := yearDay days
  let (month, day) := monthDay (monthLengths (isLeap year)) 1 day
  ⟨year, month, day⟩

/-- The cycles, centuries, groups of four years and years that have gone by. -/
theorem yearDay_spec (days : ℤ) : ∃ cycles centuries fours years : ℤ,
    (0 ≤ centuries ∧ centuries ≤ 3) ∧ (0 ≤ fours ∧ fours ≤ 24) ∧ (0 ≤ years ∧ years ≤ 3) ∧
      (yearDay days).1 = 400 * cycles + 100 * centuries + 4 * fours + years + 1 ∧
      days = 146097 * cycles + 36524 * centuries + 1461 * fours + 365 * years +
        (yearDay days).2 := by
  refine ⟨_, _, _, _, ?_, ?_, ?_, rfl, ?_⟩
  · omega
  · omega
  · omega
  · simp only [yearDay]
    omega

theorem yearDay_injective {days days' : ℤ} (same : yearDay days = yearDay days') :
    days = days' := by
  obtain ⟨cycles, centuries, fours, years, _, _, _, year, split⟩ := yearDay_spec days
  obtain ⟨cycles', centuries', fours', years', _, _, _, year', split'⟩ := yearDay_spec days'
  rw [same] at year split
  have same_cycles : cycles = cycles' := by omega
  have same_centuries : centuries = centuries' := by omega
  have same_fours : fours = fours' := by omega
  omega

theorem yearDay_short (days : ℤ) : (yearDay days).2 < 366 := by
  simp only [yearDay]
  omega

theorem monthDay_month (lengths : List ℕ) (month day : ℕ) :
    month ≤ (monthDay lengths month day).1 ∧
      (monthDay lengths month day).1 ≤ month + lengths.length := by
  fun_induction monthDay lengths month day with
  | case1 | case2 => simp
  | case3 =>
    simp only [length_cons]
    omega

theorem monthDay_day {lengths : List ℕ} (short : ∀ length ∈ lengths, length ≤ 31) {month day : ℕ}
    (inside : day < lengths.sum + 31) : (monthDay lengths month day).2 ≤ 31 := by
  fun_induction monthDay lengths month day with
  | case1 =>
    simp only [sum_nil] at inside
    omega
  | case2 _ _ _ _ early =>
    have := short _ mem_cons_self
    simp only
    omega
  | case3 _ _ _ _ late ih =>
    rw [sum_cons] at inside
    exact ih (fun length member => short length (mem_cons_of_mem _ member)) (by omega)

theorem monthDay_injective {lengths : List ℕ} {month day day' : ℕ}
    (same : monthDay lengths month day = monthDay lengths month day') : day = day' := by
  induction lengths generalizing month day day' with
  | nil => simpa [monthDay] using same
  | cons length lengths ih =>
    have later := monthDay_month lengths (month + 1) (day - length)
    have later' := monthDay_month lengths (month + 1) (day' - length)
    simp only [monthDay] at same
    split at same
    · split at same
      · simpa using same
      · rw [← same] at later'
        omega
    · split at same
      · rw [same] at later
        omega
      · have := ih same
        omega

theorem date_injective {days days' : ℤ} (year : (date days).year = (date days').year)
    (month : (date days).month = (date days').month) (day : (date days).day = (date days').day) :
    days = days' := by
  simp only [date] at year month day
  rw [year] at month day
  exact yearDay_injective (Prod.ext year (monthDay_injective (Prod.ext month day)))

theorem date_bounds (days : ℤ) : (date days).month < 100 ∧ (date days).day < 100 := by
  simp only [date]
  generalize isLeap (yearDay days).1 = leap
  have inside := yearDay_short days
  have month := monthDay_month (monthLengths leap) 1 (yearDay days).2
  have day := @monthDay_day (monthLengths leap) (by cases leap <;> decide) 1 (yearDay days).2
    (by cases leap <;> simp [monthLengths] <;> omega)
  have few : (monthLengths leap).length = 12 := rfl
  omega

/-! ## Numbers -/

/-- The last digits of a number. -/
def digits : ℕ → ℕ → List Char
  | 0, _ => []
  | width + 1, number => digits width (number / 10) ++ [Nat.digitChar (number % 10)]

theorem digits_length (width number : ℕ) : (digits width number).length = width := by
  induction width generalizing number with
  | zero => rfl
  | succ width ih => simp [digits, ih]

theorem digitChar_injective : ∀ digit < 10, ∀ digit' < 10,
    Nat.digitChar digit = Nat.digitChar digit' → digit = digit' := by
  decide

theorem digits_injective {width number number' : ℕ} (small : number < 10 ^ width)
    (small' : number' < 10 ^ width) (same : digits width number = digits width number') :
    number = number' := by
  induction width generalizing number number' with
  | zero => omega
  | succ width ih =>
    rw [Nat.pow_succ] at small small'
    obtain ⟨front, last⟩ := append_inj' same rfl
    have high := ih (by omega) (by omega) front
    have low := digitChar_injective (number % 10) (by omega) (number' % 10) (by omega)
      (by simpa using last)
    omega

theorem digits_append {width number number' : ℕ} {rest rest' : List Char}
    (small : number < 10 ^ width) (small' : number' < 10 ^ width)
    (same : digits width number ++ rest = digits width number' ++ rest') :
    number = number' ∧ rest = rest' := by
  obtain ⟨front, back⟩ := append_inj same (by rw [digits_length, digits_length])
  exact ⟨digits_injective small small' front, back⟩

/-- A fraction of a second. -/
def fraction (nanoseconds : ℕ) : List Char :=
  match (digits 9 nanoseconds).rdropWhile (· == '0') with
  | [] => []
  | kept => '.' :: kept

theorem eq_of_rdropWhile {first second : List Char} (same : first.length = second.length)
    (kept : first.rdropWhile (· == '0') = second.rdropWhile (· == '0')) : first = second := by
  have zeros : ∀ text : List Char, ∃ count,
      text = text.rdropWhile (· == '0') ++ replicate count '0' := by
    intro text
    refine ⟨(text.rtakeWhile (· == '0')).length, ?_⟩
    have taken : text.rtakeWhile (· == '0') =
        replicate (text.rtakeWhile (· == '0')).length '0' := by
      refine eq_replicate_length.mpr fun digit member => ?_
      simpa using mem_rtakeWhile_imp member
    rw [← taken]
    exact (rdropWhile_append_rtakeWhile).symm
  obtain ⟨count, first_eq⟩ := zeros first
  obtain ⟨count', second_eq⟩ := zeros second
  rw [kept] at first_eq
  generalize second.rdropWhile (· == '0') = stem at first_eq second_eq
  subst first_eq second_eq
  simp only [length_append, length_replicate, Nat.add_left_cancel_iff] at same
  rw [same]

theorem fraction_injective {nanoseconds nanoseconds' : ℕ} (small : nanoseconds < 1000000000)
    (small' : nanoseconds' < 1000000000) (same : fraction nanoseconds = fraction nanoseconds') :
    nanoseconds = nanoseconds' := by
  refine @digits_injective 9 _ _ small small'
    (eq_of_rdropWhile (by rw [digits_length, digits_length]) ?_)
  unfold fraction at same
  split at same
  · rename_i none
    split at same
    · rename_i none'
      rw [none, none']
    · cases same
  · split at same
    · cases same
    · exact (cons.inj same).2

/-! ## Instants -/

def nanosecondsPerDay : ℤ := 86400000000000

/-- The day of an instant, counted from the first of January of the year 1. -/
def dayOf (instant : ℤ) : ℤ :=
  instant / nanosecondsPerDay + 719162

def timeOfDay (instant : ℤ) : ℕ :=
  (instant % nanosecondsPerDay).toNat

def yearOf (instant : ℤ) : ℤ :=
  (date (dayOf instant)).year

/-- The year has four digits. -/
def InRange (instant : ℤ) : Prop :=
  0 ≤ yearOf instant ∧ yearOf instant ≤ 9999

instance (instant : ℤ) : Decidable (InRange instant) :=
  inferInstanceAs (Decidable (_ ∧ _))

def rfc3339 (instant : ℤ) : List Char :=
  let date := date (dayOf instant)
  let time := timeOfDay instant
  digits 4 date.year.toNat ++ '-' :: (digits 2 date.month ++ '-' :: (digits 2 date.day ++
    'T' :: (digits 2 (time / 3600000000000) ++ ':' :: (digits 2 (time / 60000000000 % 60) ++
      ':' :: (digits 2 (time / 1000000000 % 60) ++ (fraction (time % 1000000000) ++ ['Z']))))))

theorem instant_eq {instant instant' : ℤ} (day : dayOf instant = dayOf instant')
    (time : timeOfDay instant = timeOfDay instant') : instant = instant' := by
  unfold dayOf timeOfDay nanosecondsPerDay at *
  omega

theorem timeOfDay_lt (instant : ℤ) : timeOfDay instant < 86400000000000 := by
  unfold timeOfDay nanosecondsPerDay
  omega

theorem rfc3339_injective {instant instant' : ℤ} (inRange : InRange instant)
    (inRange' : InRange instant') (same : rfc3339 instant = rfc3339 instant') :
    instant = instant' := by
  unfold InRange yearOf at inRange inRange'
  have short := timeOfDay_lt instant
  have short' := timeOfDay_lt instant'
  obtain ⟨month, day⟩ := date_bounds (dayOf instant)
  obtain ⟨month', day'⟩ := date_bounds (dayOf instant')
  obtain ⟨years, same⟩ := digits_append (by omega) (by omega) same
  obtain ⟨months, same⟩ := digits_append month month' (cons.inj same).2
  obtain ⟨days, same⟩ := digits_append day day' (cons.inj same).2
  obtain ⟨hours, same⟩ := digits_append (by omega) (by omega) (cons.inj same).2
  obtain ⟨minutes, same⟩ := digits_append (by omega) (by omega) (cons.inj same).2
  obtain ⟨seconds, same⟩ := digits_append (by omega) (by omega) (cons.inj same).2
  have fractions := fraction_injective (by omega) (by omega) (append_cancel_right same)
  exact instant_eq (date_injective (by omega) months days) (by omega)

/-- The last nanosecond of the year 9999, and a leap day. -/
example : rfc3339 253402300799999999999 = "9999-12-31T23:59:59.999999999Z".toList ∧
    rfc3339 951782400500000000 = "2000-02-29T00:00:00.5Z".toList := by
  decide +kernel

end Jianmen.Calendar
