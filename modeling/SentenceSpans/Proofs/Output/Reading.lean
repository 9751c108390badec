import SentenceSpans.Input.Record
import SentenceSpans.Output.Reading
import SentenceSpans.Proofs.Text.Utf8

/-!
# Outputs that can be read in one way

A number has one numeral without a needless zero, a span is two numerals around a comma, and each
mark ends the parts in front of it.  So the bytes of an output tell its lines and their spans, and
no other bytes are read as these.

Results:
1. `readNumber?_eq_some_iff`: a number is read from its numeral only.
2. `Span.read?_eq_some_iff`: so is a span from its two numerals.
3. `Marked.mapM_eq_some_iff`: a sequence, from the parts that stand for its members.
4. `readLine?_eq_some_iff` and `readOutput?_eq_some_iff`: lines and whole outputs.
5. `renderOutput_readable`: all of this for bytes.
-/

namespace SentenceSpans

/-! ## Definitions -/

/-- A span as it stands in an output line, without its semicolon. -/
def Span.text (span : Span) : List Char :=
  Nat.toDigits 10 span.start ++ ',' :: Nat.toDigits 10 span.stop

/-- A line of an output without its line feed. -/
def lineText (spans : List Span) : List Char :=
  Marked.join ';' (spans.map Span.text)

def readBytes? (bytes : List UInt8) : Option (List (List Span)) :=
  match Utf8.decode bytes with
  | .ok text => readOutput? text
  | .error _ => none

/-! ## 1. Numbers -/

theorem isDigit_of_mem {n : Nat} {c : Char} (member : c ∈ Nat.toDigits 10 n) : c.isDigit = true :=
  Nat.isDigit_of_mem_toDigits (by decide) (by decide) member

/-- A character that is no digit stands in no numeral. -/
theorem notMem_toDigits {mark : Char} (other : mark.isDigit = false) (n : Nat) :
    mark ∉ Nat.toDigits 10 n := by
  intro member
  rw [isDigit_of_mem member] at other
  cases other

/-- A digit is the numeral of its value. -/
theorem toDigits_value_of_isDigit {c : Char} (digit : c.isDigit = true) :
    c.toNat - '0'.toNat < 10 ∧ Nat.toDigits 10 (c.toNat - '0'.toNat) = [c] := by
  obtain ⟨low, high⟩ := Char.isDigit_iff_toNat.1 digit
  change 48 ≤ c.toNat at low
  change c.toNat ≤ 57 at high
  have small : c.toNat - 48 < 10 := by omega
  have same : (c.toNat - 48).digitChar = c := by
    rw [← Char.toNat_inj, Nat.toNat_digitChar_of_lt_ten small]
    omega
  exact ⟨small, (Nat.toDigits_of_lt_base small).trans (congrArg ([·]) same)⟩

/-- Digits behind the numeral of a number make the numeral of a larger one. -/
theorem toDigits_ofDigitChars {digits : List Char} {n : Nat} (positive : 0 < n)
    (all : ∀ c ∈ digits, c.isDigit = true) :
    Nat.toDigits 10 (Nat.ofDigitChars 10 digits n) = Nat.toDigits 10 n ++ digits := by
  induction digits generalizing n with
  | nil => rw [Nat.ofDigitChars_nil, List.append_nil]
  | cons c rest ih =>
      obtain ⟨digit, others⟩ := List.forall_mem_cons.1 all
      obtain ⟨small, same⟩ := toDigits_value_of_isDigit digit
      have longer : 0 < 10 * n + (c.toNat - '0'.toNat) := by omega
      rw [Nat.ofDigitChars_cons, ih longer others,
        ← Nat.toDigits_append_toDigits (by decide) positive small, same, List.append_assoc]
      rfl

/-- The numeral of a number that is not zero does not start with a zero. -/
theorem exists_head_toDigits {n : Nat} (positive : 0 < n) :
    ∃ c rest, Nat.toDigits 10 n = c :: rest ∧ c ≠ '0' := by
  induction n using Nat.strongRecOn with
  | ind n ih =>
      rw [Nat.toDigits_eq_if (by decide)]
      split
      · refine ⟨_, [], rfl, ?_⟩
        rw [Ne, Nat.digitChar_eq_zero]
        omega
      · obtain ⟨c, rest, same, other⟩ := ih (n / 10) (by omega) (by omega)
        refine ⟨c, rest ++ [(n % 10).digitChar], ?_, other⟩
        rw [same, List.cons_append]

theorem readNumber?_toDigits (n : Nat) : readNumber? (Nat.toDigits 10 n) = some n := by
  by_cases zero : n = 0
  · subst zero
    rw [Nat.toDigits_zero]
    rfl
  · obtain ⟨c, rest, same, other⟩ := exists_head_toDigits (Nat.pos_of_ne_zero zero)
    have all : (c :: rest).all Char.isDigit = true := by
      rw [List.all_eq_true, ← same]
      exact fun _ => isDigit_of_mem
    have value : Nat.ofDigitChars 10 (c :: rest) 0 = n := by
      rw [← same, Nat.ofDigitChars_ten_toDigits]
    rw [same]
    unfold readNumber?
    split
    · next empty => cases empty
    · next single => exact absurd (List.cons.inj single).1 other
    · next leading => exact absurd (List.cons.inj leading).1 other
    · next here =>
        cases here
        rw [if_pos all, value]

theorem toDigits_of_readNumber? {digits : List Char} {n : Nat}
    (found : readNumber? digits = some n) : digits = Nat.toDigits 10 n := by
  unfold readNumber? at found
  split at found
  · cases found
  · cases found
    rfl
  · cases found
  · next c rest single leading =>
      split at found
      · next all =>
          cases found
          obtain ⟨digit, others⟩ := List.forall_mem_cons.1 (List.all_eq_true.1 all)
          obtain ⟨_, same⟩ := toDigits_value_of_isDigit digit
          -- The first digit is no zero, so that the digits behind it only make the number larger.
          have positive : 0 < c.toNat - '0'.toNat := by
            have low := (Char.isDigit_iff_toNat.1 digit).1
            refine Nat.sub_pos_of_lt (Nat.lt_of_le_of_ne low fun zero => ?_)
            exact leading (Char.toNat_inj.1 zero).symm
          rw [Nat.ofDigitChars_cons, Nat.mul_zero, Nat.zero_add,
            toDigits_ofDigitChars positive others, same]
          rfl
      · cases found

theorem readNumber?_eq_some_iff {digits : List Char} {n : Nat} :
    readNumber? digits = some n ↔ digits = Nat.toDigits 10 n :=
  ⟨toDigits_of_readNumber?, fun same => same ▸ readNumber?_toDigits n⟩

/-! ## 2. Spans -/

theorem Span.isDigit_or_of_mem {span : Span} {c : Char} (member : c ∈ span.text) :
    c.isDigit = true ∨ c = ',' := by
  rw [Span.text, List.mem_append, List.mem_cons] at member
  rcases member with start | comma | stop
  · exact .inl (isDigit_of_mem start)
  · exact .inr comma
  · exact .inl (isDigit_of_mem stop)

theorem Span.read?_text (span : Span) : Span.read? span.text = some span := by
  have inside : ∀ c ∈ Nat.toDigits 10 span.start, decide (c ≠ ',') = true := by
    intro c member
    rw [decide_eq_true_eq]
    rintro rfl
    exact notMem_toDigits (by decide) span.start member
  unfold Span.read?
  rw [Span.text, List.dropWhile_append_of_pos inside, List.takeWhile_append_of_pos inside,
    List.dropWhile_cons_of_neg (by decide), List.takeWhile_cons_of_neg (by decide),
    List.append_nil, readNumber?_toDigits]
  simp only [readNumber?_toDigits]

theorem Span.text_of_read? {text : List Char} {span : Span} (found : Span.read? text = some span) :
    text = span.text := by
  unfold Span.read? at found
  split at found
  · cases found
  · next mark stop behind =>
      split at found
      · next start last first second =>
          cases found
          have comma : mark = ',' := by
            have other := List.head?_dropWhile_not (fun c => decide (c ≠ ',')) text
            rw [behind] at other
            simpa using other
          subst comma
          rw [Span.text, ← readNumber?_eq_some_iff.1 first, ← readNumber?_eq_some_iff.1 second,
            ← behind, List.takeWhile_append_dropWhile]
      · cases found

theorem Span.read?_eq_some_iff {text : List Char} {span : Span} :
    Span.read? text = some span ↔ text = span.text :=
  ⟨Span.text_of_read?, fun same => same ▸ Span.read?_text span⟩

/-! ## 3. Sequences -/

namespace Marked

/-- Parts that are read one by one. -/
theorem mapM_read_eq_some_iff {read : List Char → Option α} {write : α → List Char}
    (exact : ∀ part value, read part = some value ↔ part = write value) (parts : List (List Char))
    (values : List α) : parts.mapM read = some values ↔ parts = values.map write := by
  induction parts generalizing values with
  | nil =>
      rw [List.mapM_nil]
      constructor
      · rintro ⟨⟩
        rfl
      · intro same
        rw [List.map_eq_nil_iff.1 same.symm]
        rfl
  | cons part rest ih =>
      rw [List.mapM_cons]
      constructor
      · intro found
        obtain ⟨value, first, later⟩ := Option.bind_eq_some_iff.1 found
        obtain ⟨others, behind, same⟩ := Option.bind_eq_some_iff.1 later
        cases same
        rw [(exact part value).1 first, (ih others).1 behind, List.map_cons]
      · intro same
        obtain ⟨value, others, rfl, first, behind⟩ := List.map_eq_cons_iff.1 same.symm
        rw [(exact part value).2 first.symm, (ih others).2 behind.symm]
        rfl

/-- A sequence is read from its parts, and from no other text. -/
theorem mapM_eq_some_iff {mark : Char} {read : List Char → Option α} {write : α → List Char}
    (exact : ∀ part value, read part = some value ↔ part = write value)
    (unmarked : ∀ value, mark ∉ write value) (text : List Char) (values : List α) :
    ((parts? mark text).bind fun parts => parts.mapM read) = some values ↔
      text = join mark (values.map write) := by
  rw [Option.bind_eq_some_iff]
  constructor
  · rintro ⟨parts, split, members⟩
    rw [← (mapM_read_eq_some_iff exact parts values).1 members]
    exact (join_of_parts? split).symm
  · rintro rfl
    refine ⟨_, parts?_join ?_, (mapM_read_eq_some_iff exact _ values).2 rfl⟩
    intro part member
    obtain ⟨value, _, rfl⟩ := List.mem_map.1 member
    exact unmarked value

end Marked

/-! ## 4. Lines and outputs -/

theorem semicolon_notMem_text (span : Span) : ';' ∉ span.text := by
  intro member
  rcases Span.isDigit_or_of_mem member with digit | comma
  · exact absurd digit (by decide)
  · exact absurd comma (by decide)

theorem readLine?_eq_some_iff {line : List Char} {spans : List Span} :
    readLine? line = some spans ↔ line = lineText spans :=
  Marked.mapM_eq_some_iff (fun _ _ => Span.read?_eq_some_iff) semicolon_notMem_text line spans

theorem isDigit_or_of_mem_lineText {spans : List Span} {c : Char} (member : c ∈ lineText spans) :
    c.isDigit = true ∨ c = ',' ∨ c = ';' := by
  rw [lineText, Marked.join, List.mem_flatMap] at member
  obtain ⟨part, present, inside⟩ := member
  obtain ⟨span, _, rfl⟩ := List.mem_map.1 present
  rcases List.mem_append.1 inside with text | last
  · exact (Span.isDigit_or_of_mem text).imp_right .inl
  · exact .inr (.inr (List.mem_singleton.1 last))

theorem newline_notMem_lineText (spans : List Span) : '\n' ∉ lineText spans := by
  intro member
  rcases isDigit_or_of_mem_lineText member with digit | comma | semicolon
  · exact absurd digit (by decide)
  · exact absurd comma (by decide)
  · exact absurd semicolon (by decide)

theorem Span.toList_render (span : Span) : span.render.toList = span.text ++ [';'] := by
  simp [Span.render, Span.text]

theorem toList_renderLine (spans : List Span) :
    (renderLine spans).toList = lineText spans ++ ['\n'] := by
  rw [renderLine, String.toList_append, String.toList_join, lineText, Marked.join, List.flatMap_map,
    List.flatMap_map]
  simp only [Span.toList_render]
  rfl

theorem toList_renderOutput (lines : List (List Span)) :
    (renderOutput lines).toList = Marked.join '\n' (lines.map lineText) := by
  rw [renderOutput, String.toList_join, Marked.join, List.flatMap_map, List.flatMap_map]
  simp only [toList_renderLine]

theorem readOutput?_eq_some_iff {text : List Char} {lines : List (List Span)} :
    readOutput? text = some lines ↔ text = (renderOutput lines).toList := by
  rw [toList_renderOutput]
  exact Marked.mapM_eq_some_iff (fun _ _ => readLine?_eq_some_iff) newline_notMem_lineText text
    lines

/-! ## 5. Bytes -/

theorem encode_renderOutput (lines : List (List Span)) :
    Utf8.encode (renderOutput lines) =
      lines.flatMap fun spans => Utf8.encode (renderLine spans) := by
  have each : ∀ text : String, Utf8.encode text = text.toList.flatMap String.utf8EncodeChar := by
    intro text
    rw [← Utf8.encode_ofList, String.ofList_toList]
  simp only [each]
  rw [renderOutput, String.toList_join, List.flatMap_map, List.flatMap_assoc]

theorem readBytes?_eq_some_iff {bytes : List UInt8} {lines : List (List Span)} :
    readBytes? bytes = some lines ↔ bytes = Utf8.encode (renderOutput lines) := by
  constructor
  · intro found
    unfold readBytes? at found
    cases decoded : Utf8.decode bytes with
    | ok text =>
        rw [decoded] at found
        rw [← Utf8.decode_eq_ok_iff.1 decoded, readOutput?_eq_some_iff.1 found,
          String.ofList_toList]
    | error malformed =>
        rw [decoded] at found
        cases found
  · rintro rfl
    have decoded : Utf8.decode (Utf8.encode (renderOutput lines)) =
        .ok (renderOutput lines).toList :=
      Utf8.decode_eq_ok_iff.2 (by rw [String.ofList_toList])
    unfold readBytes?
    rw [decoded]
    exact readOutput?_eq_some_iff.2 rfl

/-- The characters of a line are ASCII, so that each takes the byte that has its code. -/
theorem toNat_lt_of_mem_lineText {spans : List Span} {c : Char} (member : c ∈ lineText spans) :
    c.toNat < 0x80 := by
  rcases isDigit_or_of_mem_lineText member with digit | rfl | rfl
  · have high : c.toNat ≤ 57 := (Char.isDigit_iff_toNat.1 digit).2
    omega
  · decide
  · decide

theorem encode_renderLine (spans : List Span) :
    ∃ body, Input.lineFeed ∉ body ∧ Utf8.encode (renderLine spans) = body ++ [Input.lineFeed] := by
  refine ⟨(lineText spans).flatMap String.utf8EncodeChar, ?_, ?_⟩
  · intro member
    obtain ⟨c, inside, fed⟩ := List.mem_flatMap.1 member
    have ascii := toNat_lt_of_mem_lineText inside
    rw [← Char.ofNat_toNat c, Utf8.utf8EncodeChar_of_one ascii, List.mem_singleton] at fed
    have code : c.toNat = '\n'.toNat := by
      have same := congrArg UInt8.toNat fed
      rw [Utf8.toNat_ofNat_of_lt (by omega)] at same
      exact same.symm
    rw [Char.toNat_inj.1 code] at inside
    exact newline_notMem_lineText spans inside
  · rw [← String.ofList_toList (s := renderLine spans), Utf8.encode_ofList, toList_renderLine,
      List.flatMap_append]
    rfl

/-- The bytes of an output are read as the lines that it was made from, and bytes that are read at
all are those of the lines found.  The bytes of a line hold one line feed, at their end, and the
line is the same whatever its buffer held before. -/
theorem renderOutput_readable :
    (∀ (bytes : List UInt8) (lines : List (List Span)),
        readBytes? bytes = some lines ↔
          bytes = lines.flatMap fun spans => Utf8.encode (renderLine spans)) ∧
      (∀ spans : List Span, ∃ body,
        Input.lineFeed ∉ body ∧ Utf8.encode (renderLine spans) = body ++ [Input.lineFeed]) ∧
      ∀ (buffer : LineBuffer) (spans : List Span),
        buffer.fill spans = (⟨renderLine spans⟩, spans.length) := by
  refine ⟨fun bytes lines => ?_, encode_renderLine, LineBuffer.fill_eq⟩
  rw [readBytes?_eq_some_iff, encode_renderOutput]

end SentenceSpans
