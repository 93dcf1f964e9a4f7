import Mathlib.Algebra.Group.Nat.Defs
import Mathlib.Data.List.Lex

/-!
# Calendar dates as texts

A date written with fixed-width numbers, most significant first, compares like the day it stands
for: `dateText_append_lt_iff`.  So does a time of the day: `timeText_lt_iff`.

- §1 mixed radix: which place a number falls on
- §2 years, months and days
- §3 numbers of a fixed width
- §4 dates
- §5 times of the day
-/

namespace MtpSync

namespace Calendar

/-! ## §1 Mixed radix -/

/-- Counting through places of the lengths `len k`, `len (k + 1)`, …: the place a number falls on
and what is left of it there.  The last place is the one the fuel reaches. -/
def locate (len : ℕ → ℕ) : (fuel k n : ℕ) → ℕ × ℕ
  | 0, k, n => (k, n)
  | fuel + 1, k, n => if n < len k then (k, n) else locate len fuel (k + 1) (n - len k)

/-- The numbers the first `fuel` places hold. -/
def total (len : ℕ → ℕ) : (fuel k : ℕ) → ℕ
  | 0, _ => 0
  | fuel + 1, k => len k + total len fuel (k + 1)

variable {len : ℕ → ℕ}

theorem le_locate (fuel k n : ℕ) : k ≤ (locate len fuel k n).1 := by
  induction fuel generalizing k n with
  | zero => exact Nat.le_refl k
  | succ fuel ih =>
    rw [locate]
    split
    · exact Nat.le_refl k
    · exact Nat.le_of_succ_le (ih (k + 1) (n - len k))

/-- A later number falls on a later place, or later on the same. -/
theorem locate_lt {fuel k n n' : ℕ} (h : n < n') :
    (locate len fuel k n).1 < (locate len fuel k n').1 ∨
      (locate len fuel k n).1 = (locate len fuel k n').1 ∧
        (locate len fuel k n).2 < (locate len fuel k n').2 := by
  induction fuel generalizing k n n' with
  | zero => exact .inr ⟨rfl, h⟩
  | succ fuel ih =>
    rw [locate, locate]
    by_cases hn' : n' < len k
    · rw [if_pos hn', if_pos (Nat.lt_trans h hn')]
      exact .inr ⟨rfl, h⟩
    · rw [if_neg hn']
      by_cases hn : n < len k
      · -- only the smaller one falls on the place at hand
        rw [if_pos hn]
        exact .inl (le_locate fuel (k + 1) (n' - len k))
      · rw [if_neg hn]
        exact ih (by omega)

/-- A number that the places hold falls inside the one it falls on. -/
theorem locate_inside {fuel k n : ℕ} (h : n < total len fuel k) :
    (locate len fuel k n).2 < len (locate len fuel k n).1 ∧
      (locate len fuel k n).1 < k + fuel := by
  induction fuel generalizing k n with
  | zero => exact absurd h (Nat.not_lt_zero n)
  | succ fuel ih =>
    rw [total] at h
    rw [locate]
    by_cases hn : n < len k
    · rw [if_pos hn]
      exact ⟨hn, by omega⟩
    · rw [if_neg hn]
      -- the number falls behind this place, and there is one place less
      have hrest := ih (k := k + 1) (n := n - len k) (by omega)
      exact ⟨hrest.1, by omega⟩

theorem mul_le_total {m : ℕ} (h : ∀ k, m ≤ len k) (fuel k : ℕ) : fuel * m ≤ total len fuel k := by
  induction fuel generalizing k with
  | zero => simp [total]
  | succ fuel ih =>
    have hk := h k
    have hrest := ih (k + 1)
    rw [total, Nat.succ_mul]
    omega

/-! ## §2 Years, months and days -/

def isLeap (year : ℕ) : Bool := year % 4 == 0 && (year % 100 != 0 || year % 400 == 0)

def yearDays (year : ℕ) : ℕ := if isLeap year then 366 else 365

/-- Months are counted from 0. -/
def monthDays (year month : ℕ) : ℕ :=
  if month = 1 then (if isLeap year then 29 else 28)
  else if month = 3 ∨ month = 5 ∨ month = 8 ∨ month = 10 then 30
  else 31

/-- A date; month and day are counted from 0. -/
structure Date where
  year : ℕ
  month : ℕ
  day : ℕ
  deriving DecidableEq

/-- The first year of the day count. -/
def baseYear : ℕ := 1900

/-- How far the day count goes. -/
def baseYears : ℕ := 1200

/-- The date of day `n`, where day 0 is the first of January of `baseYear`. -/
def Date.ofDay (n : ℕ) : Date :=
  let (year, dayOfYear) := locate yearDays baseYears baseYear n
  let (month, day) := locate (monthDays year) 12 0 dayOfYear
  ⟨year, month, day⟩

example : Date.ofDay 25567 = ⟨1970, 0, 0⟩ := by decide +kernel
example : Date.ofDay 43157 = ⟨2018, 1, 27⟩ := by decide +kernel

/-- Earlier in the calendar. -/
def Date.Before (a b : Date) : Prop :=
  a.year < b.year ∨ a.year = b.year ∧ (a.month < b.month ∨ a.month = b.month ∧ a.day < b.day)

/-- The numbers of a date as the calendar has them. -/
structure Date.Valid (d : Date) : Prop where
  year : d.year < 10000
  month : d.month < 12
  day : d.day < 31

theorem Date.before_ofDay {n n' : ℕ} (h : n < n') : (Date.ofDay n).Before (Date.ofDay n') := by
  unfold Date.ofDay Date.Before
  rcases @locate_lt yearDays baseYears baseYear _ _ h with hyear | ⟨hyear, hday⟩
  · exact .inl hyear
  · -- in the same year, months have the same lengths
    have hmonth := @locate_lt (monthDays (locate yearDays baseYears baseYear n).1) 12 0 _ _ hday
    dsimp only
    rw [← hyear]
    exact .inr ⟨rfl, hmonth⟩

private theorem total_monthDays (year : ℕ) : total (monthDays year) 12 0 = yearDays year := by
  unfold yearDays
  cases h : isLeap year with
  | true => simp [total, monthDays, h]
  | false => simp [total, monthDays, h]

private theorem le_yearDays (year : ℕ) : 365 ≤ yearDays year := by
  unfold yearDays
  split <;> decide

private theorem monthDays_le (year month : ℕ) : monthDays year month ≤ 31 := by
  unfold monthDays
  split_ifs <;> decide

/-- The days the count reaches. -/
theorem Date.valid_ofDay {n : ℕ} (h : n < 438000) : (Date.ofDay n).Valid := by
  have hyears := mul_le_total le_yearDays baseYears baseYear
  have hn : n < total yearDays baseYears baseYear := by
    rw [baseYears] at hyears ⊢
    omega
  obtain ⟨hday, hyear⟩ := locate_inside hn
  -- the day of the year falls into a month of that year
  have hmonths : (locate yearDays baseYears baseYear n).2 <
      total (monthDays (locate yearDays baseYears baseYear n).1) 12 0 := by
    rw [total_monthDays]
    exact hday
  obtain ⟨hday', hmonth⟩ := locate_inside hmonths
  refine ⟨?_, by simpa [Date.ofDay] using hmonth, ?_⟩
  · exact Nat.lt_trans hyear (by decide)
  · exact Nat.lt_of_lt_of_le hday' (monthDays_le _ _)

/-! ## §3 Numbers of a fixed width -/

/-- A decimal digit. -/
def digit (d : ℕ) : Char := Char.ofNat (48 + d)

/-- The last `w` digits of a number. -/
def pad : (w n : ℕ) → List Char
  | 0, _ => []
  | w + 1, n => digit (n / 10 ^ w % 10) :: pad w n

theorem digit_lt {d d' : ℕ} (h : d < d') (hd' : d' < 10) : digit d < digit d' := by
  have hall : ∀ d' < 10, ∀ d < d', digit d < digit d' := by decide
  exact hall d' hd' d h

@[simp] theorem length_pad (w n : ℕ) : (pad w n).length = w := by
  induction w with
  | zero => rfl
  | succ w ih => rw [pad, List.length_cons, ih]

/-- Numbers of one width compare like their texts. -/
theorem pad_lt {w n n' : ℕ} (h : n % 10 ^ w < n' % 10 ^ w) : pad w n < pad w n' := by
  induction w with
  | zero => omega
  | succ w ih =>
    rw [Nat.mod_pow_succ, Nat.mod_pow_succ] at h
    rw [pad, pad, List.cons_lt_cons_iff]
    rcases Nat.lt_trichotomy (n / 10 ^ w % 10) (n' / 10 ^ w % 10) with hlt | heq | hgt
    · exact .inl (digit_lt hlt (Nat.mod_lt _ (by decide)))
    · -- the leading digits agree, and the others decide
      rw [heq] at h ⊢
      exact .inr ⟨rfl, ih (by omega)⟩
    · have hpos : 0 < 10 ^ w := Nat.pow_pos (by decide)
      have hmod := Nat.mod_lt n hpos
      have hmod' := Nat.mod_lt n' hpos
      have hle : 10 ^ w * (n' / 10 ^ w % 10 + 1) ≤ 10 ^ w * (n / 10 ^ w % 10) :=
        Nat.mul_le_mul_left _ hgt
      rw [Nat.mul_add, Nat.mul_one] at hle
      omega

theorem pad_lt_of_lt {w n n' : ℕ} (h : n < n') (hn' : n' < 10 ^ w) : pad w n < pad w n' := by
  apply pad_lt
  rwa [Nat.mod_eq_of_lt (Nat.lt_trans h hn'), Nat.mod_eq_of_lt hn']

/-- What comes behind texts of one length that differ plays no part. -/
theorem append_lt_append {a b : List Char} (hlen : a.length = b.length) (h : a < b)
    (x y : List Char) : a ++ x < b ++ y := by
  induction a generalizing b with
  | nil =>
    rw [List.length_nil] at hlen
    rw [List.length_eq_zero_iff.1 hlen.symm] at h
    exact absurd h (List.not_lt_nil _)
  | cons c a ih =>
    cases b with
    | nil => cases hlen
    | cons c' b =>
      rw [List.cons_append, List.cons_append, List.cons_lt_cons_iff]
      rcases List.cons_lt_cons_iff.1 h with hc | ⟨hc, hrest⟩
      · exact .inl hc
      · -- the first characters agree, and the rest has one length again
        exact .inr ⟨hc, ih (Nat.succ.inj hlen) hrest⟩

theorem append_lt_append_left_iff (a x y : List Char) : a ++ x < a ++ y ↔ x < y := by
  induction a with
  | nil => rfl
  | cons c a ih =>
    rw [List.cons_append, List.cons_append, List.cons_lt_cons_iff, ih]
    exact ⟨fun h => h.elim (fun h => absurd h (Char.lt_irrefl c)) And.right, fun h => .inr ⟨rfl, h⟩⟩

/-! ## §4 Dates -/

/-- `YYYY-MM-DD`. -/
def Date.text (d : Date) : List Char :=
  pad 4 d.year ++ '-' :: (pad 2 (d.month + 1) ++ '-' :: pad 2 (d.day + 1))

example : (Date.ofDay 43157).text = "2018-02-28".toList := by decide +kernel

theorem Date.length_text (d : Date) : d.text.length = 10 := by
  simp [Date.text]

/-- Earlier dates have smaller texts. -/
theorem Date.text_lt {a b : Date} (hb : b.Valid) (h : a.Before b) : a.text < b.text := by
  unfold Date.text
  rcases h with hyear | ⟨hyear, h⟩
  · exact append_lt_append (by simp) (pad_lt_of_lt hyear hb.year) _ _
  · -- the same year: month and day decide behind it
    rw [hyear]
    apply List.append_left_lt
    refine List.cons_lt_cons_iff.2 (.inr ⟨rfl, ?_⟩)
    rcases h with hmonth | ⟨hmonth, hday⟩
    · have hmonths := hb.month
      exact append_lt_append (by simp) (pad_lt_of_lt (by omega) (by omega)) _ _
    · have hdays := hb.day
      rw [hmonth]
      apply List.append_left_lt
      exact List.cons_lt_cons_iff.2 (.inr ⟨rfl, pad_lt_of_lt (by omega) (by omega)⟩)

/-- **Dates compare like their days**, and on one day what is written behind the date decides. -/
theorem dateText_append_lt_iff {n n' : ℕ} (hn : n < 438000) (hn' : n' < 438000)
    (x y : List Char) :
    (Date.ofDay n).text ++ x < (Date.ofDay n').text ++ y ↔ n < n' ∨ n = n' ∧ x < y := by
  have hlen : (Date.ofDay n).text.length = (Date.ofDay n').text.length := by
    rw [Date.length_text, Date.length_text]
  rcases Nat.lt_trichotomy n n' with hlt | heq | hgt
  · have h := Date.text_lt (Date.valid_ofDay hn') (Date.before_ofDay hlt)
    exact ⟨fun _ => .inl hlt, fun _ => append_lt_append hlen h x y⟩
  · subst heq
    simp [append_lt_append_left_iff]
  · -- a later date is greater, whatever stands behind it
    have h := append_lt_append hlen.symm
      (Date.text_lt (Date.valid_ofDay hn) (Date.before_ofDay hgt)) y x
    refine ⟨fun h' => absurd (List.lt_trans h h') (List.lt_irrefl _), fun h' => ?_⟩
    omega

/-! ## §5 Times of the day -/

/-- `HH-MM-SS`, of a second of the day. -/
def timeText (n : ℕ) : List Char :=
  pad 2 (n / 3600) ++ '-' :: (pad 2 (n % 3600 / 60) ++ '-' :: pad 2 (n % 60))

example : timeText 45296 = "12-34-56".toList := by decide +kernel

private theorem timeText_lt {n n' : ℕ} (h : n < n') (hn' : n' < 86400) :
    timeText n < timeText n' := by
  unfold timeText
  rcases Nat.lt_or_ge (n / 3600) (n' / 3600) with hhour | hhour
  · exact append_lt_append (by simp) (pad_lt_of_lt hhour (by omega)) _ _
  · -- the same hour: minute and second decide behind it
    have hsame : n / 3600 = n' / 3600 := by omega
    rw [hsame]
    apply List.append_left_lt
    refine List.cons_lt_cons_iff.2 (.inr ⟨rfl, ?_⟩)
    rcases Nat.lt_or_ge (n % 3600 / 60) (n' % 3600 / 60) with hminute | hminute
    · exact append_lt_append (by simp) (pad_lt_of_lt hminute (by omega)) _ _
    · have hsame' : n % 3600 / 60 = n' % 3600 / 60 := by omega
      rw [hsame']
      apply List.append_left_lt
      exact List.cons_lt_cons_iff.2 (.inr ⟨rfl, pad_lt_of_lt (by omega) (by omega)⟩)

/-- **Times of the day compare like their seconds.** -/
theorem timeText_lt_iff {n n' : ℕ} (hn : n < 86400) (hn' : n' < 86400) :
    timeText n < timeText n' ↔ n < n' := by
  refine ⟨fun h => ?_, fun h => timeText_lt h hn'⟩
  rcases Nat.lt_trichotomy n n' with hlt | rfl | hgt
  · exact hlt
  · exact absurd h (List.lt_irrefl _)
  · exact absurd (List.lt_trans h (timeText_lt hgt hn)) (List.lt_irrefl _)

end Calendar

end MtpSync
