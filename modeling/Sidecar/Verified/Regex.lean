import Mathlib.Data.List.Basic

/-!
# Regular expressions with anchors

A backtracking matcher works at a place of a text and yields, in its order of
preference, the places it can have moved to.  `Spells` is the language of an
expression without anchors, and knows nothing of places.  The two meet in
`accepts_anchored`: an expression between `^` and `$` accepts what it spells,
and the same with a line break at the end, because `$` also holds there.

## Main results

* `mem_ends_of_plain` — without anchors the matcher consumes what is spelled.
* `accepts_anchored` — what an anchored expression accepts.
* `spells_times_chars` — repetitions of a character class.
-/

namespace Sidecar.Verified.Regex

inductive Pattern where
  /-- One character of a class. -/
  | chars (members : Char → Bool)
  /-- `^` and `$`, without MULTILINE. -/
  | caret
  | dollar
  | seq (r s : Pattern)
  /-- `r{n}`. -/
  | times (n : Nat) (r : Pattern)

/-- A place of a text: the characters before it, the nearest first, and those
after it. -/
structure Place where
  before : List Char
  after : List Char

/-! ## Matching -/

def iterate (f : Place → List Place) : Nat → Place → List Place
  | 0, x => [x]
  | n + 1, x => (f x).flatMap (iterate f n)

/-- The places a match that starts here can end at. -/
def Pattern.ends : Pattern → Place → List Place
  | .chars members, x =>
      match x.after with
      | [] => []
      | ch :: rest => if members ch then [⟨ch :: x.before, rest⟩] else []
  | .caret, x => if x.before = [] then [x] else []
  | .dollar, x => if x.after = [] ∨ x.after = ['\n'] then [x] else []
  | .seq r s, x => (r.ends x).flatMap s.ends
  | .times n r, x => iterate r.ends n x

/-- Some match starts where the text does. -/
def Pattern.accepts (r : Pattern) (text : String) : Bool :=
  !(r.ends ⟨[], text.toList⟩).isEmpty

/-! ## Languages -/

/-- No anchors. -/
def Pattern.plain : Pattern → Prop
  | .chars _ => True
  | .caret | .dollar => False
  | .seq r s => r.plain ∧ s.plain
  | .times _ r => r.plain

/-- The words of an expression, up to its anchors. -/
def Pattern.Spells : Pattern → List Char → Prop
  | .chars members, word => ∃ ch, word = [ch] ∧ members ch = true
  | .caret, word | .dollar, word => word = []
  | .seq r s, word => ∃ u v, word = u ++ v ∧ r.Spells u ∧ s.Spells v
  | .times n r, word => ∃ parts : List (List Char), parts.length = n ∧
      (∀ part ∈ parts, r.Spells part) ∧ word = parts.flatten

/-- `word` stands between the two places. -/
def Between (x y : Place) (word : List Char) : Prop :=
  x.after = word ++ y.after ∧ y.before = word.reverse ++ x.before

theorem between_nil {x y : Place} : Between x y [] ↔ y = x := by
  constructor
  · rintro ⟨hafter, hbefore⟩
    cases x
    cases y
    simp_all
  · rintro rfl
    exact ⟨rfl, rfl⟩

theorem between_append {x y : Place} {u v : List Char} :
    Between x y (u ++ v) ↔ ∃ z, Between x z u ∧ Between z y v := by
  constructor
  · rintro ⟨hafter, hbefore⟩
    refine ⟨⟨u.reverse ++ x.before, v ++ y.after⟩, ⟨?_, rfl⟩, rfl, ?_⟩
    · rw [hafter, List.append_assoc]
    · rw [hbefore, List.reverse_append, List.append_assoc]
  · rintro ⟨z, ⟨hafter, hbefore⟩, hafter', hbefore'⟩
    refine ⟨?_, ?_⟩
    · rw [hafter, hafter', List.append_assoc]
    · rw [hbefore', hbefore, List.reverse_append, List.append_assoc]

/-- Repeating a matcher that consumes words of a language. -/
theorem mem_iterate {f : Place → List Place} {language : List Char → Prop}
    (hf : ∀ x y, y ∈ f x ↔ ∃ word, language word ∧ Between x y word) (n : Nat)
    (x y : Place) :
    y ∈ iterate f n x ↔ ∃ parts : List (List Char), parts.length = n ∧
      (∀ part ∈ parts, language part) ∧ Between x y parts.flatten := by
  induction n generalizing x with
  | zero =>
      constructor
      · intro hmem
        exact ⟨[], rfl, by simp, between_nil.mpr (List.mem_singleton.mp hmem)⟩
      · rintro ⟨parts, hlength, _, hbetween⟩
        rw [List.length_eq_zero_iff.mp hlength] at hbetween
        exact List.mem_singleton.mpr (between_nil.mp hbetween)
  | succ n ih =>
      rw [iterate, List.mem_flatMap]
      constructor
      · rintro ⟨z, hz, hy⟩
        obtain ⟨part, hpart, hfirst⟩ := (hf x z).mp hz
        obtain ⟨parts, hlength, hparts, hrest⟩ := (ih z).mp hy
        refine ⟨part :: parts, by rw [List.length_cons, hlength], ?_, ?_⟩
        · simpa using ⟨hpart, hparts⟩
        · exact between_append.mpr ⟨z, hfirst, hrest⟩
      · rintro ⟨parts, hlength, hparts, hbetween⟩
        obtain ⟨part, rest, rfl⟩ := List.exists_cons_of_length_eq_add_one hlength
        obtain ⟨z, hfirst, hrest⟩ := between_append.mp hbetween
        refine ⟨z, (hf x z).mpr ⟨part, hparts part List.mem_cons_self, hfirst⟩,
          (ih z).mpr ?_⟩
        exact ⟨rest, by simpa using hlength,
          fun p hp => hparts p (List.mem_cons_of_mem _ hp),
          hrest⟩

/-- **Without anchors the matcher consumes what is spelled.** -/
theorem mem_ends_of_plain {r : Pattern} (hplain : r.plain) (x y : Place) :
    y ∈ r.ends x ↔ ∃ word, r.Spells word ∧ Between x y word := by
  induction r generalizing x y with
  | chars members =>
      obtain ⟨before, after⟩ := x
      cases after with
      | nil =>
          constructor
          · intro hmem
            cases hmem
          · rintro ⟨word, ⟨ch, rfl, _⟩, hafter, _⟩
            cases hafter
      | cons ch rest =>
          by_cases hch : members ch = true
          · simp only [Pattern.ends, hch, if_true, List.mem_singleton]
            constructor
            · rintro rfl
              exact ⟨[ch], ⟨ch, rfl, hch⟩, rfl, rfl⟩
            · rintro ⟨word, ⟨ch', rfl, _⟩, hafter, hbefore⟩
              obtain ⟨rfl, rfl⟩ := List.cons.inj hafter
              cases y
              simpa using hbefore
          · simp only [Pattern.ends, hch]
            constructor
            · intro hmem
              cases hmem
            · rintro ⟨word, ⟨ch', rfl, hch'⟩, hafter, _⟩
              obtain ⟨rfl, _⟩ := List.cons.inj hafter
              exact absurd hch' hch
  | caret => exact hplain.elim
  | dollar => exact hplain.elim
  | seq r s ihr ihs =>
      rw [Pattern.ends, List.mem_flatMap]
      constructor
      · rintro ⟨z, hz, hy⟩
        obtain ⟨u, hu, hfirst⟩ := (ihr hplain.1 x z).mp hz
        obtain ⟨v, hv, hrest⟩ := (ihs hplain.2 z y).mp hy
        exact ⟨u ++ v, ⟨u, v, rfl, hu, hv⟩, between_append.mpr ⟨z, hfirst, hrest⟩⟩
      · rintro ⟨word, ⟨u, v, rfl, hu, hv⟩, hbetween⟩
        obtain ⟨z, hfirst, hrest⟩ := between_append.mp hbetween
        exact ⟨z, (ihr hplain.1 x z).mpr ⟨u, hu, hfirst⟩,
          (ihs hplain.2 z y).mpr ⟨v, hv, hrest⟩⟩
  | times n r ih =>
      rw [Pattern.ends, mem_iterate (ih hplain)]
      constructor
      · rintro ⟨parts, hlength, hparts, hbetween⟩
        exact ⟨parts.flatten, ⟨parts, hlength, hparts, rfl⟩, hbetween⟩
      · rintro ⟨word, ⟨parts, hlength, hparts, rfl⟩, hbetween⟩
        exact ⟨parts, hlength, hparts, hbetween⟩

/-- **What an expression between anchors accepts.** -/
theorem accepts_anchored {r : Pattern} (hplain : r.plain) (text : String) :
    (Pattern.seq .caret (.seq r .dollar)).accepts text = true ↔
      ∃ word, r.Spells word ∧ (text.toList = word ∨ text.toList = word ++ ['\n']) := by
  have hends : (Pattern.seq .caret (.seq r .dollar)).ends ⟨[], text.toList⟩ =
      (r.ends ⟨[], text.toList⟩).flatMap Pattern.dollar.ends := List.append_nil _
  rw [Pattern.accepts, Bool.not_eq_true', List.isEmpty_eq_false_iff_exists_mem, hends]
  constructor
  · rintro ⟨y, hy⟩
    obtain ⟨z, hz, hdollar⟩ := List.mem_flatMap.mp hy
    obtain ⟨word, hword, hafter, _⟩ := (mem_ends_of_plain hplain _ z).mp hz
    refine ⟨word, hword, ?_⟩
    rw [Pattern.ends] at hdollar
    split at hdollar
    · next hend =>
        rcases hend with hend | hend
        · rw [hend, List.append_nil] at hafter
          exact .inl hafter
        · rw [hend] at hafter
          exact .inr hafter
    · cases hdollar
  · rintro ⟨word, hword, htext⟩
    have hreach : ∀ rest, text.toList = word ++ rest → (rest = [] ∨ rest = ['\n']) →
        ∃ y, y ∈ (r.ends ⟨[], text.toList⟩).flatMap Pattern.dollar.ends := by
      intro rest hrest hend
      let z : Place := ⟨word.reverse ++ [], rest⟩
      have hz : z ∈ r.ends ⟨[], text.toList⟩ :=
        (mem_ends_of_plain hplain _ z).mpr ⟨word, hword, hrest, rfl⟩
      refine ⟨z, List.mem_flatMap.mpr ⟨z, hz, ?_⟩⟩
      rw [Pattern.ends, if_pos hend]
      exact List.mem_singleton_self z
    rcases htext with htext | htext
    · exact hreach [] (by rw [htext, List.append_nil]) (.inl rfl)
    · exact hreach ['\n'] htext (.inr rfl)

theorem spells_times_chars {n : Nat} {members : Char → Bool} {word : List Char} :
    (Pattern.times n (.chars members)).Spells word ↔
      word.length = n ∧ ∀ ch ∈ word, members ch = true := by
  constructor
  · rintro ⟨parts, rfl, hparts, rfl⟩
    induction parts with
    | nil => exact ⟨rfl, by simp⟩
    | cons part parts ih =>
        obtain ⟨ch, rfl, hch⟩ := hparts part List.mem_cons_self
        obtain ⟨hlength, hall⟩ := ih fun p hp => hparts p (List.mem_cons_of_mem _ hp)
        refine ⟨?_, ?_⟩
        · rw [List.flatten_cons, List.length_append, hlength, List.length_cons,
            List.length_cons]
          simp [Nat.add_comm]
        · rw [List.flatten_cons, List.singleton_append]
          exact List.forall_mem_cons.mpr ⟨hch, hall⟩
  · rintro ⟨rfl, hall⟩
    refine ⟨word.map fun ch => [ch], List.length_map _, fun part hpart => ?_, ?_⟩
    · obtain ⟨ch, hch, rfl⟩ := List.mem_map.mp hpart
      exact ⟨ch, rfl, hall ch hch⟩
    · induction word with
      | nil => rfl
      | cons ch word ih =>
          rw [List.map_cons, List.flatten_cons,
            ← ih fun ch' h => hall ch' (List.mem_cons_of_mem _ h)]
          rfl

end Sidecar.Verified.Regex
