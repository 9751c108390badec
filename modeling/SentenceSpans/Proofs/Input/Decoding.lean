import SentenceSpans.Proofs.Input.Sources
import SentenceSpans.Proofs.Text.Utf8
import SentenceSpans.Run.Expected

/-!
# Decoding line by line

A line is decoded by itself, without its terminator.  Nothing is lost by that: a line feed and a
carriage return belong to no sequence of several bytes, so that the lines are all UTF-8 exactly when
the input is, and the first line that is not tells the place where decoding the whole input stops.

Results:
1. `FoundIn.eq_mappedItems`: the items that a source finds are those of the lines.
2. `lines_induction`: an input, line by line.
3. `decode_line`: a line in front of others, from its content.
4. `decode_lines`: all lines.
5. `FoundIn.agrees_with_decode`: the items that a source finds.
-/

namespace SentenceSpans

/-- An item that stands for a line that is not UTF-8. -/
def Item.IsUndecodable (item : Item) : Prop :=
  ∃ line rawLength malformed, item = .error (.invalidInput line rawLength malformed)

namespace Input

/-- The items that a source gives when it is asked again and again.  The source has the bytes at
hand, or reads them through a buffer, in any portions and with any interruptions. -/
inductive FoundIn (bytes : List UInt8) (items : List Item) : Prop
  | mapped (asked : ∀ n, answer MappedLines.next (.new bytes) n = items[n]?)
  | buffered {size : Nat} {steps rest : List ReadStep} (room : 0 < size)
      (goesOn : ∀ step ∈ steps, step.goesOn = true) (delivers : delivered steps = bytes)
      (ended : ∀ step ∈ rest, step = .bytes [] ∨ step = .interrupted)
      (asked : ∀ n, answer BufferedLines.next (.new size (steps ++ rest)) n = items[n]?)

/-! ## 1. Sources -/

theorem FoundIn.eq_mappedItems {bytes : List UInt8} {items : List Item}
    (found : FoundIn bytes items) : items = mappedItems bytes := by
  apply List.ext_getElem?
  intro n
  cases found with
  | mapped asked => rw [← asked, answer_mapped]
  | buffered room goesOn delivers ended asked =>
      rw [← asked, answer_buffered, bufferedItems_of_goesOn room goesOn ended, delivers]

theorem foundIn_mappedItems (bytes : List UInt8) : FoundIn bytes (mappedItems bytes) :=
  .mapped (answer_mapped bytes)

/-! ## 2. Lines -/

/-- An input is empty, or a line that nothing ends, or it starts with a line that a line feed
ends. -/
@[elab_as_elim]
theorem lines_induction {motive : List UInt8 → Prop} (empty : motive [])
    (last : ∀ body, lineFeed ∉ body → body ≠ [] → motive body)
    (ended : ∀ body left, lineFeed ∉ body → motive left → motive (body ++ lineFeed :: left))
    (bytes : List UInt8) : motive bytes := by
  cases cut : cutLine bytes with
  | none =>
      by_cases present : bytes = []
      · rw [present]
        exact empty
      · exact last bytes (unfed_of_uncut cut) present
  | some parts =>
      obtain ⟨line, left⟩ := parts
      obtain ⟨body, unfed, _, same⟩ := parts_of_cut cut
      rw [same]
      exact ended body left unfed (lines_induction empty last ended left)
termination_by bytes.length
decreasing_by
  rw [same, List.length_append, List.length_cons]
  omega

theorem dropFinal_cases (byte : UInt8) (bytes : List UInt8) :
    (bytes.getLast? ≠ some byte ∧ dropFinal byte bytes = bytes) ∨
      (bytes.getLast? = some byte ∧ bytes = dropFinal byte bytes ++ [byte]) := by
  unfold dropFinal
  split
  · next final =>
      obtain ⟨front, rfl⟩ := List.getLast?_eq_some_iff.1 final
      exact .inr ⟨final, by rw [List.dropLast_concat]⟩
  · next other => exact .inl ⟨other, rfl⟩

theorem stripTerminator_of_ended (body : List UInt8) :
    stripTerminator (body ++ [lineFeed]) = dropFinal carriageReturn body := by
  have final : (body ++ [lineFeed]).getLast? = some lineFeed := List.getLast?_concat
  rw [stripTerminator, dropFinal, dropFinal, if_pos final, List.dropLast_concat, ← dropFinal]

theorem stripTerminator_of_unfed {body : List UInt8} (unfed : lineFeed ∉ body) :
    stripTerminator body = dropFinal carriageReturn body := by
  have other : body.getLast? ≠ some lineFeed := fun final => unfed (List.mem_of_getLast? final)
  rw [stripTerminator, dropFinal, dropFinal, if_neg other, ← dropFinal]

/-- What is dropped in front of the line feed is ASCII. -/
theorem exists_content (body : List UInt8) :
    ∃ content ending, body = content ++ ending ∧ dropFinal carriageReturn body = content ∧
      ∀ byte ∈ ending, byte.toNat < 0x80 := by
  rcases dropFinal_cases carriageReturn body with ⟨_, same⟩ | ⟨_, split⟩
  · exact ⟨body, [], (List.append_nil body).symm, same, nofun⟩
  · exact ⟨_, [carriageReturn], split, rfl, List.forall_mem_singleton.2 (by decide)⟩

/-! ## 3. One line -/

/-- A line in front of others has ASCII characters behind its content.  If the content is UTF-8,
then decoding goes on behind the line.  If not, then decoding stops inside the content. -/
theorem decode_line {content ending left : List UInt8} (ascii : ∀ byte ∈ ending, byte.toNat < 0x80)
    (last : ending = [] → left = []) :
    (∃ text whole, Utf8.decode content = .ok text ∧
        Utf8.decode (content ++ ending ++ left) =
          Utf8.behind (content ++ ending).length whole (Utf8.decode left)) ∨
      ∃ malformed whole, Utf8.decode content = .error malformed ∧
        Utf8.decode (content ++ ending ++ left) = .error whole ∧
          whole.validUpTo = malformed.validUpTo := by
  cases found : Utf8.decode content with
  | ok text =>
      obtain ⟨marks, closed⟩ := Utf8.decodeFrom_ascii ascii 0 []
      have line : Utf8.decode (content ++ ending) = .ok (text ++ marks) := by
        rw [Utf8.decode_append found, Utf8.decode, closed]
        rfl
      exact .inl ⟨text, text ++ marks, rfl, Utf8.decode_append line left⟩
  | error malformed =>
      right
      cases ending with
      | nil =>
          refine ⟨malformed, malformed, rfl, ?_, rfl⟩
          rw [last rfl, List.append_nil, List.append_nil, found]
      | cons byte marks =>
          have one : byte.toNat < 0x80 := ascii byte List.mem_cons_self
          obtain ⟨whole, stopped, same⟩ := Utf8.validUpTo_append found one (marks ++ left)
          refine ⟨malformed, whole, rfl, ?_, same⟩
          rw [List.append_assoc]
          exact stopped

/-! ## 4. All lines -/

/-- How lines are decoded, and the input that they make up. -/
def LinesDecode (items : List Item) (bytes : List UInt8) : Prop :=
  (Utf8.IsUtf8 bytes ∧ ∀ item ∈ items, item.isFailure = false) ∨
    ∃ earlier later line rawLength malformed whole,
      items = earlier ++ .error (.invalidInput line rawLength malformed) :: later ∧
        (∀ item ∈ earlier, item.isFailure = false) ∧ Utf8.decode bytes = .error whole ∧
          Item.total Item.rawLength earlier + malformed.validUpTo = whole.validUpTo

/-- A line in front of others. -/
theorem linesDecode_cons {content ending left : List UInt8} {others : List Item} (number : Nat)
    (ascii : ∀ byte ∈ ending, byte.toNat < 0x80) (last : ending = [] → left = [])
    (stripped : stripTerminator (content ++ ending) = content) (rest : LinesDecode others left) :
    LinesDecode (Item.ofLine number (content ++ ending) :: others) (content ++ ending ++ left) := by
  rw [Item.ofLine, stripped]
  rcases decode_line ascii last with
    ⟨text, whole, decoded, goesOn⟩ | ⟨malformed, whole, stopped, all, same⟩
  · rw [decoded]
    rcases rest with ⟨valid, texts⟩ | ⟨earlier, later, line, length, malformed, stop, rfl, texts,
      stopped, same⟩
    · left
      obtain ⟨more, read⟩ := Utf8.isUtf8_iff.1 valid
      rw [read] at goesOn
      exact ⟨Utf8.isUtf8_iff.2 ⟨_, goesOn⟩, List.forall_mem_cons.2 ⟨rfl, texts⟩⟩
    · -- The place counts from the start of this line, which is one more item in front.
      right
      rw [stopped] at goesOn
      refine ⟨_ :: earlier, later, line, length, malformed, _, rfl,
        List.forall_mem_cons.2 ⟨rfl, texts⟩, goesOn, ?_⟩
      dsimp only
      rw [← same, ← Nat.add_assoc]
      rfl
  · rw [stopped]
    refine .inr ⟨[], others, number, _, malformed, whole, rfl, nofun, all, ?_⟩
    rw [same]
    exact Nat.zero_add _

theorem decode_lines (number : Nat) (bytes : List UInt8) :
    LinesDecode (Item.ofLines number (physicalLines bytes)) bytes := by
  have none : LinesDecode [] [] := .inl ⟨Utf8.isUtf8_iff.2 ⟨[], rfl⟩, nofun⟩
  induction bytes using lines_induction generalizing number with
  | empty => exact none
  | last body unfed present =>
      have stripped := stripTerminator_of_unfed unfed
      rw [physicalLines_of_unfed unfed present, Item.ofLines_cons, Item.ofLines_nil]
      obtain ⟨content, ending, rfl, same, ascii⟩ := exists_content body
      have line := linesDecode_cons number ascii (fun _ => rfl) (stripped.trans same) none
      rwa [List.append_nil] at line
  | ended body left unfed ih =>
      have stripped := stripTerminator_of_ended body
      rw [physicalLines_of_fed unfed, Item.ofLines_cons]
      obtain ⟨content, ending, rfl, same, ascii⟩ := exists_content body
      have marks : ∀ byte ∈ ending ++ [lineFeed], byte.toNat < 0x80 :=
        List.forall_mem_append.2 ⟨ascii, List.forall_mem_singleton.2 (by decide)⟩
      have split : content ++ ending ++ [lineFeed] = content ++ (ending ++ [lineFeed]) :=
        List.append_assoc content ending [lineFeed]
      rw [List.append_cons (content ++ ending) lineFeed left, split]
      rw [split] at stripped
      exact linesDecode_cons number marks (fun none => by simp at none) (stripped.trans same)
        (ih (number + 1))

/-! ## 5. The items of a source -/

theorem not_isUndecodable_of_text {item : Item} (text : item.isFailure = false) :
    ¬ item.IsUndecodable := by
  rintro ⟨line, rawLength, malformed, rfl⟩
  cases text

/-- The first element with a property, and those in front of it. -/
theorem eq_of_first {p : α → Prop} {before before' after after' : List α} {x y : α}
    (same : before ++ x :: after = before' ++ y :: after') (without : ∀ a ∈ before, ¬ p a)
    (without' : ∀ a ∈ before', ¬ p a) (here : p x) (here' : p y) : before = before' ∧ x = y := by
  rcases List.append_eq_append_iff.1 same with ⟨more, rfl, rest⟩ | ⟨more, rfl, rest⟩
  · cases more with
    | nil => exact ⟨(List.append_nil before).symm, (List.cons.inj rest).1⟩
    | cons first others =>
        obtain ⟨rfl, -⟩ := List.cons.inj rest
        exact absurd here (without' x (List.mem_append_right before List.mem_cons_self))
  · cases more with
    | nil => exact ⟨List.append_nil before', (List.cons.inj rest).1.symm⟩
    | cons first others =>
        obtain ⟨rfl, -⟩ := List.cons.inj rest
        exact absurd here' (without y (List.mem_append_right before' List.mem_cons_self))

theorem isUndecodable_ofLine_iff (number : Nat) (line : List UInt8) :
    (Item.ofLine number line).IsUndecodable ↔ ¬ Utf8.IsUtf8 (stripTerminator line) := by
  rw [Item.ofLine, Utf8.not_isUtf8_iff]
  cases Utf8.decode (stripTerminator line) with
  | ok text => exact ⟨nofun, nofun⟩
  | error malformed => exact ⟨fun _ => ⟨malformed, rfl⟩, fun _ => ⟨_, _, _, rfl⟩⟩

theorem getElem?_mappedItems (bytes : List UInt8) (n : Nat) :
    (mappedItems bytes)[n]? = (physicalLines bytes)[n]?.map (Item.ofLine (n + 1)) := by
  rw [mappedItems, Item.getElem?_ofLines, Nat.add_comm]

/-- Decoding line by line agrees with decoding the whole input.  Some line is not UTF-8 exactly when
the input is not, and the first such line tells where decoding the input stops.  Each line is judged
by its own bytes, whatever the lines before it are. -/
theorem FoundIn.agrees_with_decode {bytes : List UInt8} {items : List Item}
    (found : FoundIn bytes items) :
    ((∃ item ∈ items, item.IsUndecodable) ↔ ¬ Utf8.IsUtf8 bytes) ∧
      (∀ (earlier later : List Item) (line rawLength : Nat) (malformed : Utf8.Malformed),
        items = earlier ++ .error (.invalidInput line rawLength malformed) :: later →
          (∀ item ∈ earlier, ¬ item.IsUndecodable) →
            ∃ whole, Utf8.decode bytes = .error whole ∧
              Item.total Item.rawLength earlier + malformed.validUpTo = whole.validUpTo ∧
                Utf8.StopsAt bytes whole.validUpTo) ∧
      items.length = (physicalLines bytes).length ∧
      ∀ (n : Nat) (line : List UInt8), (physicalLines bytes)[n]? = some line →
        ∃ item : Item, items[n]? = some item ∧
          (item.IsUndecodable ↔ ¬ Utf8.IsUtf8 (stripTerminator line)) := by
  obtain rfl := found.eq_mappedItems
  have lines : LinesDecode (mappedItems bytes) bytes := decode_lines 1 bytes
  refine ⟨?_, ?_, Item.length_ofLines 1 (physicalLines bytes), ?_⟩
  · rcases lines with ⟨valid, texts⟩ |
      ⟨earlier, later, line, length, malformed, whole, split, _, stopped, _⟩
    · refine ⟨?_, fun invalid => absurd valid invalid⟩
      rintro ⟨item, present, undecodable⟩
      exact absurd undecodable (not_isUndecodable_of_text (texts item present))
    · refine ⟨fun _ => Utf8.not_isUtf8_iff.2 ⟨whole, stopped⟩, fun _ => ?_⟩
      rw [split]
      exact ⟨_, List.mem_append_right _ List.mem_cons_self, _, _, _, rfl⟩
  · intro earlier later line length malformed split decodable
    rcases lines with ⟨valid, texts⟩ |
      ⟨before, after, number, size, first, whole, found, texts, stopped, same⟩
    · have present : .error (.invalidInput line length malformed) ∈ mappedItems bytes := by
        rw [split]
        exact List.mem_append_right earlier List.mem_cons_self
      cases texts _ present
    · rw [split] at found
      obtain ⟨rfl, here⟩ := eq_of_first found decodable
        (fun item inside => not_isUndecodable_of_text (texts item inside))
        ⟨line, length, malformed, rfl⟩ ⟨number, size, first, rfl⟩
      cases here
      exact ⟨whole, stopped, same, Utf8.stopsAt_validUpTo stopped⟩
  · intro n line present
    rw [getElem?_mappedItems, present]
    exact ⟨_, rfl, isUndecodable_ofLine_iff (n + 1) line⟩

/-- Reads that cut a sequence of three bytes, whose last byte is missing at the end of the second
line.  The whole input goes on with a line feed there, and the line by itself ends. -/
theorem FoundIn.agrees_with_decode_truncated :
    FoundIn [0x61, 0x0A, 0x62, 0xE2, 0x82, 0x0D, 0x0A, 0xFF]
        [.ok ⟨1, ['a'], 2⟩, .error (.invalidInput 2 5 ⟨1, none⟩),
          .error (.invalidInput 3 1 ⟨0, some 1⟩)] ∧
      Utf8.decode [0x61, 0x0A, 0x62, 0xE2, 0x82, 0x0D, 0x0A, 0xFF] = .error ⟨3, some 2⟩ ∧
      Utf8.StopsAt [0x61, 0x0A, 0x62, 0xE2, 0x82, 0x0D, 0x0A, 0xFF] 3 := by
  have found : FoundIn [0x61, 0x0A, 0x62, 0xE2, 0x82, 0x0D, 0x0A, 0xFF]
      [.ok ⟨1, ['a'], 2⟩, .error (.invalidInput 2 5 ⟨1, none⟩),
        .error (.invalidInput 3 1 ⟨0, some 1⟩)] := by
    have asked := answer_buffered 2 ([.bytes [0x61, 0x0A, 0x62, 0xE2], .interrupted,
      .bytes [0x82, 0x0D], .bytes [0x0A, 0xFF]] ++ [.bytes []])
    exact .buffered (by decide) (by decide) rfl (by decide) asked
  obtain ⟨whole, stopped, place, stops⟩ := found.agrees_with_decode.2.1
    [.ok ⟨1, ['a'], 2⟩] [.error (.invalidInput 3 1 ⟨0, some 1⟩)] 2 5 ⟨1, none⟩ rfl (by
      rintro item (_ | ⟨_, ⟨⟩⟩) ⟨_, _, _, ⟨⟩⟩)
  have same : whole.validUpTo = 3 := place.symm
  rw [same] at stops
  exact ⟨found, rfl, stops⟩

end Input

end SentenceSpans
