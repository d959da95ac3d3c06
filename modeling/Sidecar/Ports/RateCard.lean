import Sidecar.Ports.Config
import Sidecar.Verified.Regex

/-!
# The rate card id

`_require_uuid` matches the configured rate card id against a regular
expression that ignores case.  Over Unicode this takes in four letters from
outside ASCII, none of which is near a hexadecimal digit; but `$` lets a line
break follow the id.

## Main results

* `hexDigits_ignoreCase` — what `[0-9a-f]` means under IGNORECASE.
* `requireUuid_eq_ok_iff` — what is accepted.
* `requireUuid_validates_iff` — it is the UUIDs, line breaks at the end aside.
-/

namespace Sidecar.Ports.RateCard

open Sidecar.Verified.Regex
open Sidecar.Ports.Python

/-! ## Ignoring case -/

/-- The letter that IGNORECASE compares a character by, as far as it is one of
ASCII: besides the ASCII letters themselves, the four characters from outside
that `[a-z]` matches. -/
def foldCase (ch : Char) : Char :=
  if ch.toNat = 0x130 || ch.toNat = 0x131 then 'i'
  else if ch.toNat = 0x17f then 's'
  else if ch.toNat = 0x212a then 'k'
  else ch.toLower

/-- A character class, as the ranges it is written as. -/
abbrev Ranges := List (Char × Char)

/-- The ASCII characters of a class. -/
def members (ranges : Ranges) : List Char :=
  ranges.flatMap fun range =>
    (List.range' range.1.toNat (range.2.toNat + 1 - range.1.toNat)).map Char.ofNat

/-- `re.IGNORECASE` on a class of ASCII characters. -/
def ignoreCase (ranges : Ranges) (ch : Char) : Bool :=
  (members ranges).any fun member => foldCase member = foldCase ch

/-- `[0-9a-f]`. -/
def HEX_DIGITS : Ranges := [('0', '9'), ('a', 'f')]

def HYPHEN : Ranges := [('-', '-')]

/-- `_UUID_RE`. -/
def UUID_RE : Pattern :=
  .seq .caret (.seq
    (.seq (.times 8 hex) (.seq hyphen (.seq (.times 4 hex) (.seq hyphen
      (.seq (.times 4 hex) (.seq hyphen (.seq (.times 4 hex) (.seq hyphen
        (.times 12 hex)))))))))
    .dollar)
where
  hex : Pattern := .chars (ignoreCase HEX_DIGITS)
  hyphen : Pattern := .chars (ignoreCase HYPHEN)

/-- `Settings._require_uuid`. -/
def requireUuid (value : String) : Except PyExc String :=
  if UUID_RE.accepts value then .ok value
  else .error (.valueError
    (s!"METRONOME_DEFAULT_RATE_CARD_ID={pyRepr value} is not a UUID. " ++
      "Set it to the rate card UUID from your Metronome dashboard " ++
      "(Rate Cards → copy ID); the placeholder shipped in " ++
      "`.env.example` will be rejected by the Metronome API."))

/-! ## UUIDs -/

/-- A hexadecimal digit of either case. -/
def isHexDigit (ch : Char) : Bool :=
  ('0' ≤ ch && ch ≤ '9') || ('a' ≤ ch && ch ≤ 'f') || ('A' ≤ ch && ch ≤ 'F')

/-- So many hexadecimal digits. -/
def Hex (n : Nat) (word : List Char) : Prop :=
  word.length = n ∧ ∀ ch ∈ word, isHexDigit ch = true

/-- Groups of 8, 4, 4, 4 and 12 hexadecimal digits, separated by hyphens. -/
def IsUuid (word : List Char) : Prop :=
  ∃ a b c d e, Hex 8 a ∧ Hex 4 b ∧ Hex 4 c ∧ Hex 4 d ∧ Hex 12 e ∧
    word = a ++ '-' :: (b ++ '-' :: (c ++ '-' :: (d ++ '-' :: e)))

theorem isUuid_length {word : List Char} (h : IsUuid word) : word.length = 36 := by
  obtain ⟨a, b, c, d, e, ⟨ha, _⟩, ⟨hb, _⟩, ⟨hc, _⟩, ⟨hd, _⟩, ⟨he, _⟩, rfl⟩ := h
  simp only [List.length_append, List.length_cons, ha, hb, hc, hd, he]

/-! ## What the classes match -/

theorem toLower_nonAscii {ch : Char} (h : 128 ≤ ch.toNat) : ch.toLower = ch := by
  unfold Char.toLower
  rw [dif_neg]
  rintro ⟨_, hle⟩
  have hle : ch.toNat ≤ 'Z'.toNat := hle
  have hz : 'Z'.toNat = 90 := rfl
  omega

theorem foldCase_nonAscii {ch : Char} (h : 128 ≤ ch.toNat) :
    foldCase ch = 'i' ∨ foldCase ch = 's' ∨ foldCase ch = 'k' ∨ foldCase ch = ch := by
  unfold foldCase
  split
  · exact .inl rfl
  · split
    · exact .inr (.inl rfl)
    · split
      · exact .inr (.inr (.inl rfl))
      · exact .inr (.inr (.inr (toLower_nonAscii h)))

/-- Of a class without `i`, `s` and `k`, nothing outside ASCII is a case
variant. -/
theorem ignoreCase_nonAscii {ranges : Ranges}
    (hascii : ∀ member ∈ members ranges, (foldCase member).toNat < 128 ∧
      foldCase member ∉ ['i', 's', 'k']) {ch : Char} (h : 128 ≤ ch.toNat) :
    ignoreCase ranges ch = false := by
  rw [ignoreCase, List.any_eq_false]
  intro member hmem heq
  obtain ⟨hlt, hother⟩ := hascii member hmem
  have heq : foldCase member = foldCase ch := of_decide_eq_true heq
  rcases foldCase_nonAscii h with hch | hch | hch | hch
  · exact hother (by simp [heq, hch])
  · exact hother (by simp [heq, hch])
  · exact hother (by simp [heq, hch])
  · rw [heq, hch] at hlt
    omega

/-- Two classes agree if they do on ASCII and the one has nothing else. -/
theorem ignoreCase_eq {ranges : Ranges} {p : Char → Bool}
    (hclass : ((members ranges).all fun member =>
      (foldCase member).toNat < 128 && foldCase member ∉ ['i', 's', 'k']) = true)
    (hp : ∀ ch, p ch = true → ch.toNat < 128)
    (hascii : ((List.range 128).all fun n =>
      ignoreCase ranges (Char.ofNat n) == p (Char.ofNat n)) = true) (ch : Char) :
    ignoreCase ranges ch = p ch := by
  by_cases h : ch.toNat < 128
  · have hch := beq_iff_eq.mp (List.all_eq_true.mp hascii ch.toNat (List.mem_range.mpr h))
    rwa [Char.ofNat_toNat] at hch
  · have hclass : ∀ member ∈ members ranges, (foldCase member).toNat < 128 ∧
        foldCase member ∉ ['i', 's', 'k'] := fun member hmem => by
      simpa only [Bool.and_eq_true, decide_eq_true_eq] using
        List.all_eq_true.mp hclass member hmem
    rw [ignoreCase_nonAscii hclass (Nat.le_of_not_lt h)]
    refine (Bool.eq_false_of_not_eq_true fun hch => h (hp ch hch)).symm

theorem isHexDigit_ascii (ch : Char) (h : isHexDigit ch = true) : ch.toNat < 128 := by
  have hle : ∀ {hi : Char}, hi.toNat < 128 → ch ≤ hi → ch.toNat < 128 := fun hhi hch =>
    Nat.lt_of_le_of_lt hch hhi
  simp only [isHexDigit, Bool.or_eq_true, Bool.and_eq_true, decide_eq_true_eq] at h
  rcases h with (⟨_, h⟩ | ⟨_, h⟩) | ⟨_, h⟩
  · exact hle (by decide) h
  · exact hle (by decide) h
  · exact hle (by decide) h

/-- **`[0-9a-f]` under IGNORECASE** is the hexadecimal digits of either case. -/
theorem hexDigits_ignoreCase (ch : Char) : ignoreCase HEX_DIGITS ch = isHexDigit ch :=
  ignoreCase_eq (by decide +kernel) isHexDigit_ascii (by decide +kernel) ch

theorem hyphen_ignoreCase (ch : Char) : ignoreCase HYPHEN ch = decide (ch = '-') := by
  refine ignoreCase_eq (p := fun ch => decide (ch = '-')) (by decide +kernel)
    (fun ch h => ?_)
    (by decide +kernel) ch
  rw [of_decide_eq_true h]
  decide

/-! ## What is accepted -/

theorem spells_hyphen {word : List Char} : UUID_RE.hyphen.Spells word ↔ word = ['-'] := by
  constructor
  · rintro ⟨ch, rfl, hch⟩
    rw [hyphen_ignoreCase] at hch
    rw [of_decide_eq_true hch]
  · rintro rfl
    exact ⟨'-', rfl, by rw [hyphen_ignoreCase]; rfl⟩

theorem spells_hex {n : Nat} {word : List Char} :
    (Pattern.times n UUID_RE.hex).Spells word ↔ Hex n word := by
  rw [UUID_RE.hex, spells_times_chars]
  simp only [hexDigits_ignoreCase]
  exact Iff.rfl

/-- A group and the hyphen after it. -/
theorem spells_group {n : Nat} {rest : Pattern} {word : List Char} :
    (Pattern.seq (.times n UUID_RE.hex) (.seq UUID_RE.hyphen rest)).Spells word ↔
      ∃ group tail, Hex n group ∧ rest.Spells tail ∧ word = group ++ '-' :: tail := by
  constructor
  · rintro ⟨group, _, rfl, hgroup, _, tail, rfl, hhyphen, htail⟩
    rw [spells_hyphen.mp hhyphen]
    exact ⟨group, tail, spells_hex.mp hgroup, htail, rfl⟩
  · rintro ⟨group, tail, hgroup, htail, rfl⟩
    exact ⟨group, '-' :: tail, rfl, spells_hex.mpr hgroup, ['-'], tail, rfl,
      spells_hyphen.mpr rfl, htail⟩

/-- **What the expression accepts**: a UUID, or a UUID and a line break. -/
theorem accepts_iff (value : String) : UUID_RE.accepts value = true ↔
    ∃ word, IsUuid word ∧ (value.toList = word ∨ value.toList = word ++ ['\n']) := by
  rw [UUID_RE, accepts_anchored (by simp [Pattern.plain, UUID_RE.hex, UUID_RE.hyphen])]
  refine exists_congr fun word => and_congr_left fun _ => ?_
  simp only [spells_group, spells_hex, IsUuid]
  constructor
  · rintro ⟨a, _, ha, ⟨b, _, hb, ⟨c, _, hc, ⟨d, e, hd, he, rfl⟩, rfl⟩, rfl⟩, rfl⟩
    exact ⟨a, b, c, d, e, ha, hb, hc, hd, he, rfl⟩
  · rintro ⟨a, b, c, d, e, ha, hb, hc, hd, he, rfl⟩
    exact ⟨a, _, ha, ⟨b, _, hb, ⟨c, _, hc, ⟨d, e, hd, he, rfl⟩, rfl⟩, rfl⟩, rfl⟩

/-- The validator accepts the UUIDs, and rejects everything else with a
ValueError. -/
structure Validates (value : String) : Prop where
  accepts : requireUuid value = .ok value ↔ IsUuid value.toList
  rejects : ¬IsUuid value.toList → ∃ msg, requireUuid value = .error (.valueError msg)

theorem requireUuid_eq_ok_iff (value : String) :
    requireUuid value = .ok value ↔ UUID_RE.accepts value = true := by
  unfold requireUuid
  split
  · next h => simp [h]
  · next h => simp [h]

/-- **The validator accepts exactly the UUIDs**, unless the value is a UUID
followed by a line break. -/
theorem requireUuid_validates_iff (value : String) :
    Validates value ↔ ¬∃ uuid : String, IsUuid uuid.toList ∧ value = uuid ++ "\n" := by
  constructor
  · rintro hvalid ⟨uuid, huuid, rfl⟩
    have htext : (uuid ++ "\n").toList = uuid.toList ++ ['\n'] := String.toList_append
    have hok : requireUuid (uuid ++ "\n") = .ok (uuid ++ "\n") :=
      (requireUuid_eq_ok_iff _).mpr ((accepts_iff _).mpr ⟨_, huuid, .inr htext⟩)
    have hlength := isUuid_length (hvalid.accepts.mp hok)
    rw [htext, List.length_append, isUuid_length huuid] at hlength
    cases hlength
  · intro hbreak
    have haccepts : UUID_RE.accepts value = true ↔ IsUuid value.toList := by
      rw [accepts_iff]
      constructor
      · rintro ⟨word, hword, rfl | htext⟩
        · exact hword
        · refine absurd ⟨String.ofList word, by rwa [String.toList_ofList], ?_⟩ hbreak
          rw [← String.toList_inj, htext, String.toList_append, String.toList_ofList]
          rfl
      · exact fun hword => ⟨_, hword, .inl rfl⟩
    refine ⟨(requireUuid_eq_ok_iff value).trans haccepts, fun hother => ?_⟩
    rw [requireUuid, if_neg (fun h => hother (haccepts.mp h))]
    exact ⟨_, rfl⟩

/-- A UUID pasted with its line break passes. -/
theorem requireUuid_validates_lineBreak :
    ¬Validates "11111111-2222-3333-4444-555555555555\n" := by
  intro hvalid
  have hok : requireUuid "11111111-2222-3333-4444-555555555555\n" =
      .ok "11111111-2222-3333-4444-555555555555\n" := by decide +kernel
  have hlength := isUuid_length (hvalid.accepts.mp hok)
  revert hlength
  decide

end Sidecar.Ports.RateCard
