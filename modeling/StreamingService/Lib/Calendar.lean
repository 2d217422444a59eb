import Mathlib.Algebra.Ring.Nat
import Mathlib.Data.Int.Basic

/-!
# Lib — Calendar

Days, numbered from the first of January 1970, and their dates in the
Gregorian calendar. A year is found by dividing into cycles of 400, 100, 4 and
1 years, whose last one is the shorter or longer by a day; a month by the
days of the year before it. Each is determined by the first day it begins
with, so a day is its date again.

Dates are spelled by numerals of a fixed width, which are read back wherever
they stand.
-/

namespace Lib.Calendar

/-! ## Years -/

/-- The number of the first of January. -/
def dayFromYear (y : Int) : Int :=
  365 * (y - 1970) + (y - 1969) / 4 - (y - 1901) / 100 + (y - 1601) / 400

/-- The 29th of February. -/
def leapDays (y : Int) : Int := if y % 4 = 0 ∧ (y % 100 ≠ 0 ∨ y % 400 = 0) then 1 else 0

theorem leapDays_cases (y : Int) : leapDays y = 0 ∨ leapDays y = 1 := by
  unfold leapDays
  split
  · exact .inr rfl
  · exact .inl rfl

/-- The year of a day; 719162 days lie between the first day of year 1 and day 0. -/
def yearFromDay (d : Int) : Int :=
  let n := d + 719162
  let cycle := n / 146097
  let century := min (n % 146097 / 36524) 3
  let rest := n - 146097 * cycle - 36524 * century
  400 * cycle + 100 * century + 4 * (rest / 1461) + min (rest % 1461 / 365) 3 + 1

section

variable {c h q s : Int}

theorem dayFromYear_cycles (hh : 0 ≤ h ∧ h ≤ 3) (hq : 0 ≤ q ∧ q ≤ 24) (hs : 0 ≤ s ∧ s ≤ 3) :
    dayFromYear (400 * c + 100 * h + 4 * q + s + 1) =
      146097 * c + 36524 * h + 1461 * q + 365 * s - 719162 := by
  have hfour : (400 * c + 100 * h + 4 * q + s + 1 - 1969) / 4 = 100 * c + 25 * h + q - 492 := by
    omega
  have hhundred : (400 * c + 100 * h + 4 * q + s + 1 - 1901) / 100 = 4 * c + h - 19 := by omega
  have hcycle : (400 * c + 100 * h + 4 * q + s + 1 - 1601) / 400 = c - 4 := by omega
  rw [dayFromYear, hfour, hhundred, hcycle]
  omega

/-- The last of four years is leap, but for the last of a century that is not the
last of a cycle. -/
theorem leapDays_cycles (hh : 0 ≤ h ∧ h ≤ 3) (hq : 0 ≤ q ∧ q ≤ 24) (hs : 0 ≤ s ∧ s ≤ 3) :
    leapDays (400 * c + 100 * h + 4 * q + s + 1) = if s = 3 ∧ (q ≠ 24 ∨ h = 3) then 1 else 0 := by
  unfold leapDays
  refine if_congr ?_ rfl rfl
  constructor
  · intro hleap
    omega
  · intro hlast
    omega

end

/-- A day is one of its year's. -/
theorem yearFromDay_spec (d : Int) :
    dayFromYear (yearFromDay d) ≤ d ∧
      d < dayFromYear (yearFromDay d) + 365 + leapDays (yearFromDay d) := by
  unfold yearFromDay
  dsimp only
  generalize hc : (d + 719162) / 146097 = c
  generalize hh : min ((d + 719162) % 146097 / 36524) 3 = h
  generalize hr : d + 719162 - 146097 * c - 36524 * h = r
  generalize hq : r / 1461 = q
  generalize hs : min (r % 1461 / 365) 3 = s
  have hcentury : 0 ≤ h ∧ h ≤ 3 := by omega
  -- the last century of a cycle has a day more
  have hrest : 0 ≤ r ∧ (r < 36524 ∨ (h = 3 ∧ r ≤ 36524)) := by omega
  have hfour : 0 ≤ q ∧ q ≤ 24 := by omega
  have hyear : 0 ≤ s ∧ s ≤ 3 := by omega
  rw [dayFromYear_cycles hcentury hfour hyear, leapDays_cycles hcentury hfour hyear]
  constructor
  · omega
  · split <;> omega

/-! ## Months -/

/-- The days of the year before a month, counted from 0. -/
def monthStart (leap : Int) : Nat → Int
  | 0 => 0
  | 1 => 31
  | 2 => 59 + leap
  | 3 => 90 + leap
  | 4 => 120 + leap
  | 5 => 151 + leap
  | 6 => 181 + leap
  | 7 => 212 + leap
  | 8 => 243 + leap
  | 9 => 273 + leap
  | 10 => 304 + leap
  | _ => 334 + leap

/-- The month of a day of the year. -/
def monthFromDay (leap n : Int) : Nat :=
  if n < 31 then 0
  else if n < 59 + leap then 1
  else if n < 90 + leap then 2
  else if n < 120 + leap then 3
  else if n < 151 + leap then 4
  else if n < 181 + leap then 5
  else if n < 212 + leap then 6
  else if n < 243 + leap then 7
  else if n < 273 + leap then 8
  else if n < 304 + leap then 9
  else if n < 334 + leap then 10
  else 11

/-- A day is one of its month's. -/
theorem monthFromDay_spec {leap n : Int} (hleap : leap = 0 ∨ leap = 1) (hn : 0 ≤ n)
    (hn' : n < 365 + leap) :
    monthFromDay leap n ≤ 11 ∧ monthStart leap (monthFromDay leap n) ≤ n ∧
      n < monthStart leap (monthFromDay leap n) + 31 := by
  unfold monthFromDay
  (repeat' split) <;> simp only [monthStart] <;> omega

/-! ## Dates -/

/-- A date, its month counted from 0 and its day from 1. -/
structure Date where
  year : Int
  month : Nat
  date : Nat
  deriving DecidableEq, Repr

def ofDay (d : Int) : Date :=
  let year := yearFromDay d
  let n := d - dayFromYear year
  let month := monthFromDay (leapDays year) n
  { year, month, date := (n - monthStart (leapDays year) month).toNat + 1 }

def Date.toDay (x : Date) : Int :=
  dayFromYear x.year + monthStart (leapDays x.year) x.month + (x.date - 1)

theorem ofDay_bounds (d : Int) : (ofDay d).month ≤ 11 ∧ 1 ≤ (ofDay d).date ∧ (ofDay d).date ≤ 31 := by
  obtain ⟨hfirst, hlast⟩ := yearFromDay_spec d
  obtain ⟨hmonth, hstart, hend⟩ := monthFromDay_spec (leapDays_cases (yearFromDay d))
    (show 0 ≤ d - dayFromYear (yearFromDay d) by omega) (by omega)
  refine ⟨hmonth, ?_, ?_⟩
  · simp only [ofDay]
    omega
  · simp only [ofDay]
    omega

/-- **A day is its date again.** -/
theorem toDay_ofDay (d : Int) : (ofDay d).toDay = d := by
  obtain ⟨hfirst, hlast⟩ := yearFromDay_spec d
  obtain ⟨-, hstart, -⟩ := monthFromDay_spec (leapDays_cases (yearFromDay d))
    (show 0 ≤ d - dayFromYear (yearFromDay d) by omega) (by omega)
  simp only [ofDay, Date.toDay]
  omega

/-! ## Numerals of a fixed width -/

/-- `n.toString().padStart(width, '0')`. -/
def padded (width n : Nat) : List Char := (Nat.toDigits 10 n).leftpad width '0'

theorem length_padded {width n : Nat} (hwidth : 0 < width) (hn : n < 10 ^ width) :
    (padded width n).length = width := by
  have hle := (Nat.length_toDigits_le_iff (by omega) hwidth).mpr hn
  rw [padded, List.length_leftpad]
  omega

@[simp] theorem ofDigitChars_padded (width n : Nat) : Nat.ofDigitChars 10 (padded width n) 0 = n := by
  simp [padded, List.leftpad, Nat.ofDigitChars_append]

theorem isDigit_of_mem_padded {width n : Nat} {c : Char} (h : c ∈ padded width n) : c.isDigit := by
  rcases List.mem_append.mp h with h | h
  · rw [List.eq_of_mem_replicate h]
    rfl
  · exact Nat.isDigit_of_mem_toDigits (by omega) (by omega) h

/-- Numerals of the given widths, one after the other. -/
def spell : List (Nat × Nat) → List Char
  | [] => []
  | (width, n) :: rest => padded width n ++ spell rest

/-- The numerals of the given widths that a text begins with. -/
def readFields : List Nat → List Char → List Nat
  | [], _ => []
  | width :: rest, text =>
      Nat.ofDigitChars 10 (text.take width) 0 :: readFields rest (text.drop width)

section

variable {fields : List (Nat × Nat)}

theorem length_spell (h : ∀ f ∈ fields, 0 < f.1 ∧ f.2 < 10 ^ f.1) :
    (spell fields).length = (fields.map Prod.fst).sum := by
  induction fields with
  | nil => rfl
  | cons f rest ih =>
      obtain ⟨hwidth, hn⟩ := h f List.mem_cons_self
      rw [spell, List.length_append, length_padded hwidth hn,
        ih fun f hf => h f (List.mem_cons_of_mem _ hf)]
      simp

theorem isDigit_of_mem_spell {c : Char} (h : c ∈ spell fields) : c.isDigit := by
  induction fields with
  | nil => cases h
  | cons f rest ih =>
      rcases List.mem_append.mp h with h | h
      · exact isDigit_of_mem_padded h
      · exact ih h

/-- **Numerals of known widths are read back.** -/
theorem readFields_spell (h : ∀ f ∈ fields, 0 < f.1 ∧ f.2 < 10 ^ f.1) :
    readFields (fields.map Prod.fst) (spell fields) = fields.map Prod.snd := by
  induction fields with
  | nil => rfl
  | cons f rest ih =>
      obtain ⟨hwidth, hn⟩ := h f List.mem_cons_self
      have hlength := length_padded hwidth hn
      simp only [List.map_cons, spell, readFields, List.take_left' hlength, List.drop_left' hlength,
        ofDigitChars_padded, ih fun f hf => h f (List.mem_cons_of_mem _ hf)]

end

end Lib.Calendar
