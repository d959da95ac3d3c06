import Mathlib.Algebra.Ring.Nat

/-!
# Dates and RFC 3339 instants

The proleptic Gregorian calendar by counting: the days of whole years, of
whole months, and the day.  `readInstant` reads an RFC 3339 text with a numeric
offset as seconds since 1970-01-01T00:00:00Z, without leap seconds.

## Main results

* `daysBeforeYear_succ_eq` — the closed form of the count.
* `readNat_fixedWidth` — a decimal of fixed width is read back.
* `readInstant_text` — so is the text of a date and a time of day.
-/

namespace Sidecar.Verified.Gregorian

/-! ## Decimals of fixed width -/

/-- The last `width` digits of `n`. -/
def fixedWidth : Nat → Nat → List Char
  | 0, _ => []
  | width + 1, n => fixedWidth width (n / 10) ++ [Nat.digitChar (n % 10)]

/-- The value of a decimal digit. -/
def digit? (c : Char) : Option Nat :=
  if '0' ≤ c ∧ c ≤ '9' then some (c.toNat - '0'.toNat) else none

/-- Read digits, the most significant first. -/
def readNat (cs : List Char) : Option Nat :=
  cs.foldlM (fun n c => (digit? c).map (10 * n + ·)) 0

theorem digit?_digitChar {n : Nat} (h : n < 10) : digit? (Nat.digitChar n) = some n := by
  have hall : ∀ n : Fin 10, digit? (Nat.digitChar n) = some n.val := by decide
  exact hall ⟨n, h⟩

theorem readNat_append_singleton (cs : List Char) (c : Char) :
    readNat (cs ++ [c]) = (readNat cs).bind fun n => (digit? c).map (10 * n + ·) := by
  simp [readNat, List.foldlM_append]

/-- Reading inverts writing, whatever the number of leading zeros. -/
theorem readNat_fixedWidth {width n : Nat} (h : n < 10 ^ width) :
    readNat (fixedWidth width n) = some n := by
  induction width generalizing n with
  | zero =>
      have hzero : n = 0 := by omega
      subst hzero
      rfl
  | succ width ih =>
      have hdiv : n / 10 < 10 ^ width := by
        rw [Nat.pow_succ] at h
        omega
      rw [fixedWidth, readNat_append_singleton, ih hdiv, Option.bind_some,
        digit?_digitChar (Nat.mod_lt n (by decide)), Option.map_some]
      exact congrArg some (Nat.div_add_mod n 10)

theorem fixedWidth_zero (width : Nat) :
    fixedWidth width 0 = List.replicate width '0' := by
  induction width with
  | zero => rfl
  | succ width ih =>
      rw [fixedWidth, Nat.zero_div, ih, List.replicate_succ']
      rfl

/-- Padding the digits of a number with zeros. -/
theorem fixedWidth_eq_pad {width n : Nat} (h : n < 10 ^ width) (hpos : 0 < width) :
    fixedWidth width n =
      List.replicate (width - (Nat.toDigits 10 n).length) '0' ++ Nat.toDigits 10 n := by
  induction width generalizing n with
  | zero => omega
  | succ width ih =>
      by_cases hn : n < 10
      · rw [Nat.toDigits_of_lt_base hn, fixedWidth, Nat.div_eq_of_lt hn,
          Nat.mod_eq_of_lt hn, fixedWidth_zero]
        rfl
      · have hdiv : n / 10 < 10 ^ width := by
          rw [Nat.pow_succ] at h
          omega
        have hwidth : 0 < width := by
          cases width with
          | zero => omega
          | succ width => exact Nat.succ_pos width
        rw [fixedWidth, ih hdiv hwidth, Nat.toDigits_of_base_le (by decide)
          (Nat.not_lt.mp hn),
          List.length_append, List.length_singleton, Nat.add_sub_add_right,
          List.append_assoc]

/-! ## Dates -/

/-- Leap years of the Gregorian calendar. -/
def isLeap (year : Nat) : Bool := year % 4 = 0 && (year % 100 ≠ 0 || year % 400 = 0)

/-- Days before 1 January of a year; years start with 1. -/
def daysBeforeYear : Nat → Nat
  | 0 | 1 => 0
  | year + 2 => daysBeforeYear (year + 1) + if isLeap (year + 1) then 366 else 365

/-- The lengths of the twelve months. -/
def monthLengths (leap : Bool) : List Nat :=
  [31, if leap then 29 else 28, 31, 30, 31, 30, 31, 31, 30, 31, 30, 31]

/-- Days of the year before the first of a month. -/
def daysBeforeMonth (leap : Bool) (month : Nat) : Nat :=
  ((monthLengths leap).take (month - 1)).sum

/-- The length of a month, counted from 1. -/
def daysInMonth (leap : Bool) (month : Nat) : Nat :=
  (monthLengths leap).getD (month - 1) 0

/-- A day of the calendar, valid by construction. -/
structure Date where
  year : Nat
  month : Nat
  day : Nat
  year_pos : 1 ≤ year
  month_range : 1 ≤ month ∧ month ≤ 12
  day_range : 1 ≤ day ∧ day ≤ daysInMonth (isLeap year) month

/-- The number of the day, where 1 January of year 1 is day 1. -/
def Date.ordinal (d : Date) : Nat :=
  daysBeforeYear d.year + daysBeforeMonth (isLeap d.year) d.month + d.day

/-- The ordinal of 1970-01-01. -/
def epochDay : Nat := 719163

example : Date.ordinal ⟨1970, 1, 1, by decide, by decide, by decide⟩ = epochDay := by
  decide +kernel

/-- The closed form of the days before a year. -/
theorem daysBeforeYear_succ_eq (n : Nat) :
    daysBeforeYear (n + 1) = 365 * n + n / 4 - n / 100 + n / 400 := by
  induction n with
  | zero => rfl
  | succ n ih =>
      rw [daysBeforeYear, ih]
      by_cases hleap : isLeap (n + 1) = true
      · rw [if_pos hleap]
        simp only [isLeap, Bool.and_eq_true, Bool.or_eq_true, decide_eq_true_eq] at hleap
        omega
      · rw [if_neg hleap]
        simp only [isLeap, Bool.and_eq_true, Bool.or_eq_true, decide_eq_true_eq] at hleap
        omega

/-! ## Instants -/

/-- The day with these fields, if there is one. -/
def Date.ofFields? (year month day : Nat) : Option Date :=
  if h : 1 ≤ year ∧ (1 ≤ month ∧ month ≤ 12) ∧
      1 ≤ day ∧ day ≤ daysInMonth (isLeap year) month then
    some ⟨year, month, day, h.1, h.2.1, h.2.2⟩
  else none

/-- Seconds since the epoch of a UTC date and time of day, less the offset. -/
def seconds (d : Date) (hour minute second : Nat) (offset : Int) : Int :=
  ((d.ordinal : Int) - epochDay) * 86400 + hour * 3600 + minute * 60 + second - offset

/-- The value of the sign of a numeric offset. -/
def sign? (c : Char) : Option Int :=
  if c = '+' then some 1 else if c = '-' then some (-1) else none

/-- Read `YYYY-MM-DDTHH:MM:SS+HH:MM`. -/
def readInstant (text : String) : Option Int :=
  match text.toList with
  | [y₁, y₂, y₃, y₄, c₁, m₁, m₂, c₂, d₁, d₂, t, h₁, h₂, c₃, i₁, i₂, c₄, s₁, s₂,
      z, a₁, a₂, c₅, b₁, b₂] =>
    if c₁ = '-' ∧ c₂ = '-' ∧ t = 'T' ∧ c₃ = ':' ∧ c₄ = ':' ∧ c₅ = ':' then do
      let year ← readNat [y₁, y₂, y₃, y₄]
      let month ← readNat [m₁, m₂]
      let day ← readNat [d₁, d₂]
      let date ← Date.ofFields? year month day
      let hour ← readNat [h₁, h₂]
      let minute ← readNat [i₁, i₂]
      let second ← readNat [s₁, s₂]
      let sign ← sign? z
      let offsetHour ← readNat [a₁, a₂]
      let offsetMinute ← readNat [b₁, b₂]
      if hour < 24 ∧ minute < 60 ∧ second < 60 ∧ offsetHour < 24 ∧ offsetMinute < 60 then
        some (seconds date hour minute second
          (sign * (offsetHour * 3600 + offsetMinute * 60 : Nat)))
      else none
    else none
  | _ => none

/-- The text of a date and a time of day in UTC. -/
def instantText (d : Date) (hour minute second : Nat) : List Char :=
  fixedWidth 4 d.year ++ ['-'] ++ fixedWidth 2 d.month ++ ['-'] ++ fixedWidth 2 d.day ++
    ['T'] ++ fixedWidth 2 hour ++ [':'] ++ fixedWidth 2 minute ++ [':'] ++
    fixedWidth 2 second ++ ['+', '0', '0', ':', '0', '0']

theorem Date.ofFields?_self (d : Date) : Date.ofFields? d.year d.month d.day = some d :=
  dif_pos ⟨d.year_pos, d.month_range, d.day_range⟩

theorem daysInMonth_le (leap : Bool) (month : Nat) : daysInMonth leap month ≤ 31 := by
  match month with
  | 0 | 1 | 2 | 3 | 4 | 5 | 6 | 7 | 8 | 9 | 10 | 11 | 12 => cases leap <;> decide
  | month + 13 => simp [daysInMonth, monthLengths]

/-- **The text of an instant is read back.** -/
theorem readInstant_text {text : String} {d : Date} {hour minute second : Nat}
    (htext : text.toList = instantText d hour minute second) (hyear : d.year < 10000)
    (hhour : hour < 24) (hminute : minute < 60) (hsecond : second < 60) :
    readInstant text = some (seconds d hour minute second 0) := by
  have hmonth := d.month_range
  have hday := d.day_range
  have hlength := daysInMonth_le (isLeap d.year) d.month
  have ry : readNat (fixedWidth 4 d.year) = some d.year := readNat_fixedWidth hyear
  have rm : readNat (fixedWidth 2 d.month) = some d.month := readNat_fixedWidth (by omega)
  have rd : readNat (fixedWidth 2 d.day) = some d.day := readNat_fixedWidth (by omega)
  have rh : readNat (fixedWidth 2 hour) = some hour := readNat_fixedWidth (by omega)
  have ri : readNat (fixedWidth 2 minute) = some minute := readNat_fixedWidth (by omega)
  have rs : readNat (fixedWidth 2 second) = some second := readNat_fixedWidth (by omega)
  have hzero : readNat ['0', '0'] = some 0 := by decide
  simp only [fixedWidth, List.nil_append, List.cons_append] at ry rm rd rh ri rs
  simp only [instantText, fixedWidth, List.nil_append, List.cons_append] at htext
  simp only [readInstant, htext, and_self, if_true, ry, rm, rd, rh, ri, rs, hzero, sign?,
    Date.ofFields?_self, Option.bind_eq_bind, Option.bind_some, hhour, hminute, hsecond]
  rfl

end Sidecar.Verified.Gregorian
