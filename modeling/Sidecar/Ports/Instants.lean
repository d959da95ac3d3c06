import Sidecar.Ports.Calendar
import Sidecar.Verified.Gregorian

/-!
# The texts of timestamps denote them

CPython finds the date of an ordinal by dividing by the lengths of the
calendar's cycles and guessing the month; the result is the date that counting
gives.  The ISO text of a timestamp is therefore an RFC 3339 text of the same
instant.

## Main results

* `ord2ymd_spec` — the date of an ordinal.
* `unixToIsoUtc_eq_ok` — the text of a timestamp, and what it reads as.
-/

namespace Sidecar.Ports.Instants

open Sidecar.Verified.Gregorian
open Sidecar.Ports.Python
open Sidecar.Ports.Calendar

/-! ## Dates -/

/-- The month and the day of the `n`-th day of a year, counted from 0: the
second half of `_ord2ymd`. -/
def monthDay (n : Int) (leapYear : Bool) : Nat × Int :=
  let month := ((n + 50) / 32).toNat
  let preceding := Calendar.daysBeforeMonth month + if month > 2 && leapYear then 1 else 0
  if preceding > n then
    (month - 1, n - (preceding - (Calendar.daysInMonth (month - 1) +
      if month - 1 = 2 && leapYear then 1 else 0)) + 1)
  else (month, n - preceding + 1)

theorem ord2ymd_eq (n : Int) :
    ord2ymd n =
      let year := (n - 1) / 146097 * 400 + 1 + (n - 1) % 146097 / 36524 * 100 +
        (n - 1) % 146097 % 36524 / 1461 * 4 + (n - 1) % 146097 % 36524 % 1461 / 365
      if (n - 1) % 146097 % 36524 % 1461 / 365 = 4 || (n - 1) % 146097 / 36524 = 4 then
        (year - 1, 12, 31)
      else (year, monthDay ((n - 1) % 146097 % 36524 % 1461 % 365)
        ((n - 1) % 146097 % 36524 % 1461 / 365 = 3 &&
          ((n - 1) % 146097 % 36524 / 1461 ≠ 24 || (n - 1) % 146097 / 36524 = 3))) := by
  unfold ord2ymd monthDay
  simp only
  split
  · rfl
  · exact (apply_ite (Prod.mk _) _ _ _).symm

/-- The guess of the month is right, or one too high. -/
theorem monthDay_spec {n : Nat} {leap : Bool} (h : n < if leap then 366 else 365) :
    ∃ month day : Nat, monthDay n leap = (month, (day : Int)) ∧ (1 ≤ month ∧ month ≤ 12) ∧
      (1 ≤ day ∧ day ≤ Verified.Gregorian.daysInMonth leap month) ∧
      Verified.Gregorian.daysBeforeMonth leap month + day = n + 1 := by
  have hall : ∀ (leap : Bool) (n : Fin 366), n.val < (if leap then 366 else 365) →
      0 ≤ (monthDay n.val leap).2 ∧
      (1 ≤ (monthDay n.val leap).1 ∧ (monthDay n.val leap).1 ≤ 12) ∧
      (1 ≤ (monthDay n.val leap).2.toNat ∧
        (monthDay n.val leap).2.toNat ≤ Verified.Gregorian.daysInMonth leap
          (monthDay n.val leap).1) ∧
      Verified.Gregorian.daysBeforeMonth leap (monthDay n.val leap).1 +
        (monthDay n.val leap).2.toNat = n.val + 1 := by
    decide +kernel
  have hn : n < 366 := by cases leap <;> simp at h <;> omega
  obtain ⟨hpos, hrest⟩ := hall leap ⟨n, hn⟩ h
  refine ⟨_, _, ?_, hrest⟩
  rw [Int.toNat_of_nonneg hpos]

/-- The years of whole cycles of 400, 100, 4 and 1 years. -/
theorem cycles_div {a b c e : Nat} (hb : b ≤ 3) (hc : c ≤ 24) (he : e ≤ 3) :
    (400 * a + 100 * b + 4 * c + e) / 4 = 100 * a + 25 * b + c ∧
      (400 * a + 100 * b + 4 * c + e) / 100 = 4 * a + b ∧
      (400 * a + 100 * b + 4 * c + e) / 400 = a := by
  omega

theorem isLeap_cycles {a b c e : Nat} (hb : b ≤ 3) (hc : c ≤ 24) (he : e ≤ 3) :
    isLeap (400 * a + 100 * b + 4 * c + e + 1) =
      (decide ((e : Int) = 3) &&
        (decide ((c : Int) ≠ 24) || decide ((b : Int) = 3))) := by
  rw [Bool.eq_iff_iff]
  simp only [isLeap, Bool.and_eq_true, Bool.or_eq_true, decide_eq_true_eq]
  omega

/-- The date of the day after whole cycles, whole months and some days. -/
theorem date_of_cycles {a b c e month day n : Nat} (hb : b ≤ 3) (hc : c ≤ 24) (he : e ≤ 3)
    (hmonth : 1 ≤ month ∧ month ≤ 12)
    (hday : 1 ≤ day ∧
      day ≤ Verified.Gregorian.daysInMonth
        (isLeap (400 * a + 100 * b + 4 * c + e + 1)) month)
    (hcount : Verified.Gregorian.daysBeforeMonth
      (isLeap (400 * a + 100 * b + 4 * c + e + 1)) month + day = n + 1) :
    ∃ d : Date, d.year = 400 * a + 100 * b + 4 * c + e + 1 ∧ d.month = month ∧
    d.day = day ∧
      d.ordinal = 146097 * a + 36524 * b + 1461 * c + 365 * e + n + 1 := by
  obtain ⟨h4, h100, h400⟩ := @cycles_div a b c e hb hc he
  refine ⟨⟨_, month, day, Nat.succ_pos _, hmonth, hday⟩, rfl, rfl, rfl, ?_⟩
  rw [Date.ordinal, daysBeforeYear_succ_eq, Nat.add_assoc, hcount, h4, h100, h400]
  omega

/-- **The date of an ordinal.** -/
theorem ord2ymd_spec {n : Nat} (h : 1 ≤ n) :
    ∃ d : Date, ord2ymd n = ((d.year : Int), d.month, (d.day : Int)) ∧ d.ordinal = n := by
  obtain ⟨a, b, c, e, r, ha, hb, hc, he, hr⟩ : ∃ a b c e r : Nat,
      ((n : Int) - 1) / 146097 = a ∧ ((n : Int) - 1) % 146097 / 36524 = b ∧
      ((n : Int) - 1) % 146097 % 36524 / 1461 = c ∧
      ((n : Int) - 1) % 146097 % 36524 % 1461 / 365 = e ∧
      ((n : Int) - 1) % 146097 % 36524 % 1461 % 365 = r :=
    ⟨_, _, _, _, _, (Int.toNat_of_nonneg (by omega)).symm,
      (Int.toNat_of_nonneg (by omega)).symm, (Int.toNat_of_nonneg (by omega)).symm,
      (Int.toNat_of_nonneg (by omega)).symm, (Int.toNat_of_nonneg (by omega)).symm⟩
  have hn : n = 146097 * a + 36524 * b + 1461 * c + 365 * e + r + 1 := by omega
  have hr365 : r < 365 := by omega
  have hc24 : c ≤ 24 := by omega
  rw [ord2ymd_eq, ha, hb, hc, he, hr]
  by_cases hlast : (e : Int) = 4 ∨ (b : Int) = 4
  · -- the last day of a cycle, which is the last day of a leap year
    obtain ⟨b', c', hb', hc', hleap, hyear, hlastDay⟩ : ∃ b' c' : Nat, b' ≤ 3 ∧ c' ≤ 24 ∧
        (c' ≠ 24 ∨ b' = 3) ∧ 100 * b + 4 * c + e = 100 * b' + 4 * c' + 4 ∧
          n = 146097 * a + 36524 * b' + 1461 * c' + 365 * 3 + 365 + 1 := by
      rcases hlast with hlast | hlast
      · exact ⟨b, c, by omega, by omega, by omega, by omega, by omega⟩
      · exact ⟨3, 24, by omega, by omega, by omega, by omega, by omega⟩
    have hleap : isLeap (400 * a + 100 * b' + 4 * c' + 3 + 1) = true := by
      rw [isLeap_cycles hb' hc' (Nat.le_refl 3)]
      simp only [Bool.and_eq_true, Bool.or_eq_true, decide_eq_true_eq]
      omega
    obtain ⟨d, hdyear, hmonth, hday, hordinal⟩ :=
      @date_of_cycles a b' c' 3 12 31 365 hb' hc' (Nat.le_refl 3) (by decide)
        (by rw [hleap]; decide) (by rw [hleap]; decide)
    refine ⟨d, ?_, by omega⟩
    rw [if_pos (by simpa using hlast), hdyear, hmonth, hday]
    refine Prod.ext ?_ rfl
    show (a : Int) * 400 + 1 + b * 100 + c * 4 + e - 1 = (_ : Nat)
    omega
  · have hb3 : b ≤ 3 := by omega
    have he3 : e ≤ 3 := by omega
    have hleap := @isLeap_cycles a b c e hb3 hc24 he3
    have hlength : r < if isLeap (400 * a + 100 * b + 4 * c + e + 1) then
        366 else 365 := by
      split <;> omega
    obtain ⟨month, day, hmd, hmonth, hday, hcount⟩ := monthDay_spec hlength
    obtain ⟨d, hyear, hmonth', hday', hordinal⟩ :=
      date_of_cycles hb3 hc24 he3 hmonth hday hcount
    refine ⟨d, ?_, by omega⟩
    rw [if_neg (by simpa using hlast), ← hleap, hmd, hyear, hmonth', hday']
    simp only [Prod.mk.injEq, and_true]
    omega

/-! ## Texts -/

theorem toList_pad {width n : Nat} (h : n < 10 ^ width) (hpos : 0 < width) :
    (pad width n).toList = fixedWidth width n := by
  have hrepr : (toString (n : Int)).toList = Nat.toDigits 10 n := by
    rw [Int.toString_eq_repr, Int.repr_eq_if, if_pos (by omega), Int.toNat_natCast,
      Nat.toList_repr]
  rw [pad, String.toList_append, String.toList_ofList, ← String.length_toList, hrepr,
    fixedWidth_eq_pad h hpos]

/-- The text that `isoformat` gives for a date and a time of day in UTC. -/
def isoText (d : Date) (hour minute second : Nat) : String :=
  pad 4 d.year ++ "-" ++ pad 2 d.month ++ "-" ++ pad 2 d.day ++ "T" ++
    pad 2 hour ++ ":" ++
    pad 2 minute ++ ":" ++ pad 2 second ++ "+00:00"

theorem toList_isoText {d : Date} {hour minute second : Nat} (hyear : d.year < 10000)
    (hhour : hour < 24) (hminute : minute < 60) (hsecond : second < 60) :
    (isoText d hour minute second).toList = instantText d hour minute second := by
  have hmonth := d.month_range
  have hday := d.day_range
  have hlength := daysInMonth_le (isLeap d.year) d.month
  have htwo : ∀ {n : Nat}, n < 100 → (pad 2 n).toList = fixedWidth 2 n := fun h =>
    toList_pad h (by decide)
  have hfour : (pad 4 d.year).toList = fixedWidth 4 d.year := toList_pad hyear (by decide)
  simp only [isoText, String.toList_append, hfour]
  rw [htwo (by omega), htwo (by omega), htwo (by omega), htwo (by omega), htwo (by omega)]
  rfl

/-- **The text of a timestamp** is that of its date and time of day, which is
the instant itself. -/
theorem unixToIsoUtc_eq_ok {ts : Int} {text : String} (h : unixToIsoUtc ts = .ok text) :
    ∃ d : Date, d.year < 10000 ∧
      text = isoText d (ts % 86400 / 3600).toNat (ts % 86400 / 60 % 60).toNat
        (ts % 86400 % 60).toNat ∧
      readInstant text = some ts := by
  unfold unixToIsoUtc at h
  split at h
  · cases h
  · next hrange =>
      simp only [Bool.or_eq_true, decide_eq_true_eq] at hrange
      obtain ⟨d, hymd, hordinal⟩ := @ord2ymd_spec (ts / 86400 + epochOrdinal).toNat
        (by simp only [epochOrdinal]; omega)
      rw [Int.toNat_of_nonneg (by simp only [epochOrdinal]; omega)] at hymd
      have hday : (d.ordinal : Int) = ts / 86400 + 719163 := by
        rw [hordinal]
        exact Int.toNat_of_nonneg (by simp only [epochOrdinal]; omega)
      have hyear : d.year < 10000 := by
        obtain ⟨year, hyear⟩ := Nat.exists_eq_add_of_le' d.year_pos
        have hdays := daysBeforeYear_succ_eq year
        have hle : daysBeforeYear d.year < d.ordinal := by
          have := d.day_range
          simp only [Date.ordinal]
          omega
        rw [hyear] at hle ⊢
        omega
      have htext : text = isoText d (ts % 86400 / 3600).toNat (ts % 86400 / 60 % 60).toNat
          (ts % 86400 % 60).toNat := by
        rw [hymd] at h
        simp only [isoText]
        rw [Int.toNat_of_nonneg (by omega), Int.toNat_of_nonneg (by omega),
          Int.toNat_of_nonneg (by omega)]
        exact (Except.ok.inj h).symm
      refine ⟨d, hyear, htext, ?_⟩
      have hlist :=
        @toList_isoText d (ts % 86400 / 3600).toNat (ts % 86400 / 60 % 60).toNat
        (ts % 86400 % 60).toNat hyear (by omega) (by omega) (by omega)
      rw [readInstant_text (htext ▸ hlist) hyear (by omega) (by omega)
        (by omega), seconds]
      simp only [epochDay, Option.some.injEq]
      omega

end Sidecar.Ports.Instants
