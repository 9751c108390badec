import SentenceSpans.Sentence.Abbreviation
import SentenceSpans.Unicode.SentenceBreak

/-!
# Classes of letters

The sentence rules, the rule of abbreviations and the words of a text look at different properties
of a character.  This file says how the properties hang together.

Results:
1. `upper_parts`, `letter_parts`, `ofChar_of_isLower` and `ofChar_of_isDigit`: letters and digits of
   ASCII.
2. `ofChar_of_isUppercase`: every capital is a letter for the sentence rules.
3. `inWord_of_ofChar`: letters and digits belong to words and open nothing.
-/

namespace SentenceSpans

open Unicode

/-! ## 1. Letters and digits of ASCII -/

/-- What holds of the first 128 characters holds of every character with such a code. -/
theorem forall_ascii {motive : Char → Prop} (all : ∀ code : Fin 128, motive (Char.ofNat code))
    {c : Char} (ascii : c.toNat < 128) : motive c := by
  have here := all ⟨c.toNat, ascii⟩
  rwa [Char.ofNat_toNat] at here

theorem toNat_lt_of_isAlpha {c : Char} (letter : c.isAlpha = true) : c.toNat < 128 := by
  delta Char.isAlpha Char.isUpper Char.isLower at letter
  simp only [Bool.or_eq_true, Bool.and_eq_true, decide_eq_true_eq, UInt32.le_iff_toNat_le,
    ge_iff_le] at letter
  change (65 ≤ c.toNat ∧ c.toNat ≤ 90) ∨ (97 ≤ c.toNat ∧ c.toNat ≤ 122) at letter
  omega

theorem toNat_lt_of_isDigit {c : Char} (digit : c.isDigit = true) : c.toNat < 128 := by
  have bounds := Char.isDigit_iff_toNat.1 digit
  have last : '9'.toNat = 57 := rfl
  omega

theorem letter_parts {c : Char} (letter : c.isAlpha = true) :
    (SentenceBreak.ofChar c = .upper ∨ SentenceBreak.ofChar c = .lower) ∧
      isAlphanumeric c = true ∧ c ≠ '.' :=
  forall_ascii (motive := fun c => c.isAlpha = true →
    (SentenceBreak.ofChar c = .upper ∨ SentenceBreak.ofChar c = .lower) ∧
      isAlphanumeric c = true ∧ c ≠ '.') (by decide +kernel) (toNat_lt_of_isAlpha letter) letter

theorem upper_parts {c : Char} (capital : c.isUpper = true) :
    SentenceBreak.ofChar c = .upper ∧ isUppercaseLetter c = true ∧ c.isDigit = false := by
  have letter : c.isAlpha = true := by
    show (c.isUpper || c.isLower) = true
    rw [capital, Bool.true_or]
  exact forall_ascii (motive := fun c => c.isUpper = true →
    SentenceBreak.ofChar c = .upper ∧ isUppercaseLetter c = true ∧ c.isDigit = false)
    (by decide +kernel) (toNat_lt_of_isAlpha letter) capital

theorem ofChar_of_isLower {c : Char} (small : c.isLower = true) :
    SentenceBreak.ofChar c = .lower := by
  have letter : c.isAlpha = true := by
    show (c.isUpper || c.isLower) = true
    rw [small, Bool.or_true]
  exact forall_ascii (motive := fun c => c.isLower = true → SentenceBreak.ofChar c = .lower)
    (by decide +kernel) (toNat_lt_of_isAlpha letter) small

theorem ofChar_of_isDigit {c : Char} (digit : c.isDigit = true) :
    SentenceBreak.ofChar c = .numeric :=
  forall_ascii (motive := fun c => c.isDigit = true → SentenceBreak.ofChar c = .numeric)
    (by decide +kernel) (toNat_lt_of_isDigit digit) digit

theorem ofChar_space : SentenceBreak.ofChar ' ' = .sp := by decide +kernel

theorem ofChar_dot : SentenceBreak.ofChar '.' = .aTerm := by decide +kernel

/-! ## 2. Capitals of all scripts -/

theorem ofChar_of_isWhiteSpace {c : Char} (white : isWhiteSpace c = true) :
    SentenceBreak.ofChar c = .cr ∨ SentenceBreak.ofChar c = .lf ∨ SentenceBreak.ofChar c = .sep ∨
      SentenceBreak.ofChar c = .sp := by
  unfold SentenceBreak.ofChar
  split
  · exact .inl rfl
  · split
    · exact .inr (.inl rfl)
    · split
      · exact .inr (.inr (.inl rfl))
      · exact .inr (.inr (.inr rfl))

theorem not_isUppercase_of_isWhiteSpace {c : Char} (white : isWhiteSpace c = true) :
    isUppercase c = false := by
  have all : ∀ range ∈ whiteSpace.tree.ranges,
      ∀ code ∈ List.range' range.first (range.last + 1 - range.first),
        uppercase.contains code = false := by
    decide +kernel
  rw [isWhiteSpace, CodeTable.contains_eq_any, List.any_eq_true] at white
  obtain ⟨range, listed, inside⟩ := white
  simp only [CodeRange.contains, Bool.and_eq_true, decide_eq_true_eq] at inside
  have present : c.toNat ∈ List.range' range.first (range.last + 1 - range.first) := by
    rw [List.mem_range'_1]
    omega
  exact all range listed c.toNat present

theorem mtavruli_parts {c : Char} (mtavruli : isMtavruli c = true) :
    isAttached c = false ∧ isLowercase c = false := by
  have all : ∀ code ∈ List.range' 0x1C90 48,
      attached.contains code = false ∧ lowercase.contains code = false := by
    decide +kernel
  rw [isMtavruli, decide_eq_true_eq] at mtavruli
  have present : c.toNat ∈ List.range' 0x1C90 48 := by
    rw [List.mem_range'_1]
    omega
  exact all c.toNat present

/-- The rules see every capital as a letter, although not always as a capital. -/
theorem ofChar_of_isUppercase {c : Char} (capital : isUppercase c = true) :
    SentenceBreak.ofChar c = .upper ∨ SentenceBreak.ofChar c = .oLetter := by
  have noSeparator : isSeparator c = false := by
    rw [Bool.eq_false_iff]
    intro separates
    simp only [isSeparator, Bool.or_eq_true, decide_eq_true_eq] at separates
    rcases separates with (rfl | rfl) | rfl <;> revert capital <;> decide +kernel
  have noStop : isFullStop c = false := by
    rw [Bool.eq_false_iff]
    intro stops
    simp only [isFullStop, Bool.or_eq_true, decide_eq_true_eq] at stops
    rcases stops with ((rfl | rfl) | rfl) | rfl <;> revert capital <;> decide +kernel
  have noWhite : isWhiteSpace c = false := by
    rw [Bool.eq_false_iff]
    intro white
    rw [not_isUppercase_of_isWhiteSpace white] at capital
    cases capital
  have noReturn : c ≠ '\r' := by
    rintro rfl
    exact absurd noWhite (by decide +kernel)
  have noFeed : c ≠ '\n' := by
    rintro rfl
    exact absurd noWhite (by decide +kernel)
  cases mtavruli : isMtavruli c with
  | false => simp [SentenceBreak.ofChar, noReturn, noFeed, noSeparator, noWhite, noStop, capital,
      mtavruli]
  | true =>
      obtain ⟨base, noLower⟩ := mtavruli_parts mtavruli
      simp [SentenceBreak.ofChar, noReturn, noFeed, noSeparator, noWhite, noStop, mtavruli, base,
        noLower, isAlphabetic, capital]

/-! ## 3. Characters of words -/

theorem ofChar_of_isOpeningPunctuation {c : Char} (opens : isOpeningPunctuation c = true) :
    SentenceBreak.ofChar c = .close := by
  simp only [isOpeningPunctuation, Bool.or_eq_true, decide_eq_true_eq] at opens
  rcases opens with ((((((rfl | rfl) | rfl) | rfl) | rfl) | rfl) | rfl) | rfl <;> decide +kernel

/-- Letters and digits belong to words and open nothing. -/
theorem inWord_of_ofChar {c : Char}
    (kind : SentenceBreak.ofChar c = .upper ∨ SentenceBreak.ofChar c = .lower ∨
      SentenceBreak.ofChar c = .oLetter ∨ SentenceBreak.ofChar c = .numeric) :
    Words.isWordChar c = true ∧ isOpeningPunctuation c = false := by
  constructor
  · rw [Words.isWordChar, Bool.not_eq_true', Bool.eq_false_iff]
    intro white
    rcases ofChar_of_isWhiteSpace white with other | other | other | other <;>
      rw [other] at kind <;> revert kind <;> decide
  · rw [Bool.eq_false_iff]
    intro opens
    rw [ofChar_of_isOpeningPunctuation opens] at kind
    revert kind
    decide

theorem inWord_of_isUppercase {c : Char} (capital : isUppercase c = true) :
    Words.isWordChar c = true ∧ isOpeningPunctuation c = false :=
  inWord_of_ofChar ((ofChar_of_isUppercase capital).imp_right fun other => .inr (.inl other))

end SentenceSpans
