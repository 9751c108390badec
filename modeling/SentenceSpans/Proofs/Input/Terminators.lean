import SentenceSpans.Proofs.Input.Decoding

/-!
# Line terminators

A line feed ends a line, alone or behind a carriage return.  A last line that nothing ends has no
terminator, so that a carriage return at its end is content; yet it is not decoded.  This is the
only byte of content that a source loses.

Results:
1. `exists_content_of_line`: the content and the terminator of a line, and what is decoded of it.
2. `exists_records`: an input put together from its records.
3. `FoundIn.loses_final_carriageReturn`: what the items that a source finds keep of the input.
4. `final_carriageReturn_lost`: an input that cannot be put together from its record.
-/

namespace SentenceSpans

def Item.ofContent (line rawLength : Nat) (content : List UInt8) : Item :=
  match Utf8.decode content with
  | .ok text => .ok ⟨line, text, rawLength⟩
  | .error malformed => .error (.invalidInput line rawLength malformed)

namespace Input

/-- What ends a line; the last line may have no end. -/
inductive Terminator where
  | newline
  | returnNewline
  | absent
deriving DecidableEq, Repr

namespace Terminator

def bytes : Terminator → List UInt8
  | newline => [lineFeed]
  | returnNewline => [carriageReturn, lineFeed]
  | absent => []

/-- The part of the content of a line that is decoded.  Where the line has no terminator, a carriage
return at its end is taken for one. -/
def kept : Terminator → List UInt8 → List UInt8
  | absent, content => dropFinal carriageReturn content
  | _, content => content

end Terminator

/-- A line with its content and its terminator, which is as long as can be. -/
structure EndsIn (line content : List UInt8) (terminator : Terminator) : Prop where
  whole : line = content ++ terminator.bytes
  unfed : lineFeed ∉ content
  longest : terminator = .newline → content.getLast? ≠ some carriageReturn

/-- The bytes of records and of their terminators. -/
def rebuilt (records : List (Record × Terminator)) : List UInt8 :=
  records.flatMap fun entry => Utf8.encode (String.ofList entry.1.text) ++ entry.2.bytes

/-- Records that give the items, each with a terminator.  Only the last one may do without. -/
structure RecordsOf (items : List Item) (records : List (Record × Terminator)) : Prop where
  items : items = records.map fun entry => .ok entry.1
  ended : ∀ entry ∈ records.dropLast, entry.2 ≠ .absent

/-- The carriage return at the end of an input, if there is one. -/
def finalReturn (bytes : List UInt8) : List UInt8 :=
  if bytes.getLast? = some carriageReturn then [carriageReturn] else []

/-! ## 1. Content and terminator -/

theorem ofLine_eq_ofContent (number : Nat) (line : List UInt8) :
    Item.ofLine number line = .ofContent number line.length (stripTerminator line) := rfl

theorem not_mem_dropFinal {byte other : UInt8} {bytes : List UInt8} (absent : byte ∉ bytes) :
    byte ∉ dropFinal other bytes := by
  rcases dropFinal_cases other bytes with ⟨_, same⟩ | ⟨_, split⟩
  · rwa [same]
  · intro present
    rw [split] at absent
    exact absent (List.mem_append_left [other] present)

/-- A line that a line feed ends is decoded without its terminator. -/
theorem exists_content_of_ended {body : List UInt8} (unfed : lineFeed ∉ body) :
    ∃ content terminator, EndsIn (body ++ [lineFeed]) content terminator ∧ terminator ≠ .absent ∧
      stripTerminator (body ++ [lineFeed]) = content := by
  refine ⟨dropFinal carriageReturn body, ?_⟩
  rw [stripTerminator_of_ended]
  rcases dropFinal_cases carriageReturn body with ⟨other, same⟩ | ⟨_, split⟩
  · rw [same]
    exact ⟨.newline, ⟨rfl, unfed, fun _ => other⟩, nofun, rfl⟩
  · refine ⟨.returnNewline, ⟨?_, not_mem_dropFinal unfed, nofun⟩, nofun, rfl⟩
    rw [Terminator.bytes, List.append_cons (dropFinal carriageReturn body), ← split]

/-- The lines of an input, by their places. -/
theorem line_cases {bytes line : List UInt8} {n : Nat}
    (present : (physicalLines bytes)[n]? = some line) :
    (∃ body, lineFeed ∉ body ∧ line = body ++ [lineFeed]) ∨
      (lineFeed ∉ line ∧ n + 1 = (physicalLines bytes).length) := by
  induction bytes using lines_induction generalizing n with
  | empty => cases present
  | last body unfed some =>
      rw [physicalLines_of_unfed unfed some] at present ⊢
      cases n with
      | zero =>
          cases present
          exact .inr ⟨unfed, rfl⟩
      | succ n => cases present
  | ended body left unfed ih =>
      rw [physicalLines_of_fed unfed] at present ⊢
      cases n with
      | zero => exact .inl ⟨body, unfed, (Option.some.inj present).symm⟩
      | succ n =>
          rcases ih present with fed | ⟨other, final⟩
          · exact .inl fed
          · exact .inr ⟨other, congrArg (· + 1) final⟩

/-- Each line has a content and a terminator, and what is kept of its content is decoded. -/
theorem exists_content_of_line {bytes line : List UInt8} {n : Nat}
    (present : (physicalLines bytes)[n]? = some line) :
    ∃ content terminator, EndsIn line content terminator ∧
      (terminator = .absent → n + 1 = (physicalLines bytes).length) ∧
      stripTerminator line = terminator.kept content := by
  rcases line_cases present with ⟨body, unfed, rfl⟩ | ⟨unfed, final⟩
  · obtain ⟨content, terminator, ends, some, stripped⟩ := exists_content_of_ended unfed
    refine ⟨content, terminator, ends, fun none => absurd none some, ?_⟩
    rw [stripped]
    cases terminator with
    | newline => rfl
    | returnNewline => rfl
    | absent => exact absurd rfl some
  · exact ⟨line, .absent, ⟨(List.append_nil line).symm, unfed, nofun⟩, fun _ => final,
      stripTerminator_of_unfed unfed⟩

/-! ## 2. Records -/

theorem exists_text {number rawLength : Nat} {content : List UInt8}
    (text : (Item.ofContent number rawLength content).isFailure = false) :
    ∃ record, Item.ofContent number rawLength content = .ok record ∧
      Utf8.encode (String.ofList record.text) = content := by
  unfold Item.ofContent at text ⊢
  cases decoded : Utf8.decode content with
  | ok text => exact ⟨_, rfl, Utf8.decode_eq_ok_iff.1 decoded⟩
  | error malformed =>
      rw [decoded] at text
      cases text

theorem finalReturn_of_fed (body left : List UInt8) :
    finalReturn (body ++ lineFeed :: left) = finalReturn left := by
  unfold finalReturn
  cases left with
  | nil =>
      rw [List.getLast?_concat]
      rfl
  | cons byte rest => simp

/-- A record in front of others, with a terminator. -/
theorem RecordsOf.cons {items : List Item} {records : List (Record × Terminator)}
    (rest : RecordsOf items records) (record : Record) {terminator : Terminator}
    (ended : terminator ≠ .absent) :
    RecordsOf (.ok record :: items) ((record, terminator) :: records) where
  items := by rw [rest.items, List.map_cons]
  ended := by
    cases records with
    | nil => exact nofun
    | cons next others =>
        rw [List.dropLast_cons_cons]
        exact List.forall_mem_cons.2 ⟨ended, rest.ended⟩

/-- Items tell the records, though not their terminators. -/
theorem RecordsOf.records_eq {items : List Item} {records others : List (Record × Terminator)}
    (of : RecordsOf items records) (of' : RecordsOf items others) :
    records.map (·.1) = others.map (·.1) := by
  have same := of.items.symm.trans of'.items
  have inner : ∀ entries : List (Record × Terminator),
      (entries.map fun entry => (.ok entry.1 : Item)) = (entries.map (·.1)).map .ok :=
    fun _ => List.map_map.symm
  rw [inner, inner] at same
  exact (List.map_inj_right fun _ _ => Except.ok.inj).1 same

/-- An input whose lines are UTF-8 is put together from its records, up to its final carriage
return. -/
theorem exists_records (number : Nat) {bytes : List UInt8}
    (texts : ∀ item ∈ Item.ofLines number (physicalLines bytes), item.isFailure = false) :
    ∃ records, RecordsOf (Item.ofLines number (physicalLines bytes)) records ∧
      rebuilt records ++ finalReturn bytes = bytes := by
  induction bytes using lines_induction generalizing number with
  | empty => exact ⟨[], ⟨rfl, nofun⟩, rfl⟩
  | last body unfed present =>
      rw [physicalLines_of_unfed unfed present, Item.ofLines_cons, Item.ofLines_nil,
        ofLine_eq_ofContent, stripTerminator_of_unfed unfed] at texts ⊢
      obtain ⟨record, decoded, encoded⟩ := exists_text (texts _ List.mem_cons_self)
      refine ⟨[(record, .absent)], ⟨by rw [decoded]; rfl, nofun⟩, ?_⟩
      have content : rebuilt [(record, .absent)] = dropFinal carriageReturn body := by
        rw [← encoded]
        simp [rebuilt, Terminator.bytes]
      rw [content, finalReturn]
      rcases dropFinal_cases carriageReturn body with ⟨other, same⟩ | ⟨final, split⟩
      · rw [if_neg other, same, List.append_nil]
      · rw [if_pos final, ← split]
  | ended body left unfed ih =>
      obtain ⟨content, terminator, ends, some, stripped⟩ := exists_content_of_ended unfed
      rw [physicalLines_of_fed unfed, Item.ofLines_cons, ofLine_eq_ofContent, stripped] at texts ⊢
      obtain ⟨here, later⟩ := List.forall_mem_cons.1 texts
      obtain ⟨record, decoded, encoded⟩ := exists_text here
      obtain ⟨records, of, rest⟩ := ih (number + 1) later
      refine ⟨(record, terminator) :: records, ?_, ?_⟩
      · rw [decoded]
        exact of.cons record some
      · have line := ends.whole
        rw [finalReturn_of_fed, rebuilt, List.flatMap_cons, encoded, ← line, ← rebuilt,
          List.append_assoc, rest, List.append_assoc]
        rfl

theorem rebuilt_cons (record : Record) (terminator : Terminator)
    (rest : List (Record × Terminator)) :
    rebuilt ((record, terminator) :: rest) =
      Utf8.encode (String.ofList record.text) ++ (terminator.bytes ++ rebuilt rest) := by
  rw [rebuilt, List.flatMap_cons, List.append_assoc]
  rfl

/-- The first byte tells a terminator. -/
theorem Terminator.append_inj {one two : Terminator} (some : one ≠ .absent) (some' : two ≠ .absent)
    {later later' : List UInt8} (same : one.bytes ++ later = two.bytes ++ later') :
    later = later' := by
  cases one <;> cases two <;> cases same <;> first | rfl | contradiction

/-- With other terminators, the same records do not make up for a carriage return at the end. -/
theorem rebuilt_ne {records others : List (Record × Terminator)}
    (same : records.map (·.1) = others.map (·.1))
    (ended : ∀ entry ∈ records.dropLast, entry.2 ≠ .absent)
    (ended' : ∀ entry ∈ others.dropLast, entry.2 ≠ .absent) :
    rebuilt others ≠ rebuilt records ++ [carriageReturn] := by
  induction records generalizing others with
  | nil =>
      cases others with
      | nil => exact nofun
      | cons entry rest => cases same
  | cons entry rest ih =>
      obtain ⟨record, terminator⟩ := entry
      cases others with
      | nil => cases same
      | cons entry' rest' =>
          obtain ⟨record', terminator'⟩ := entry'
          obtain ⟨first, later⟩ := List.cons.inj same
          cases first
          rw [rebuilt_cons, rebuilt_cons, List.append_assoc, List.append_assoc]
          intro equal
          have equal := List.append_cancel_left equal
          -- Only the last terminators may differ.
          cases rest with
          | nil =>
              cases rest' with
              | nil => cases terminator <;> cases terminator' <;> cases equal
              | cons next' more' => cases later
          | cons next more =>
              cases rest' with
              | nil => cases later
              | cons next' more' =>
                  rw [List.dropLast_cons_cons] at ended ended'
                  obtain ⟨here, ended⟩ := List.forall_mem_cons.1 ended
                  obtain ⟨here', ended'⟩ := List.forall_mem_cons.1 ended'
                  exact ih later ended ended' (Terminator.append_inj here' here equal)

/-! ## 3. The items of a source -/

theorem finalReturn_cases (bytes : List UInt8) :
    finalReturn bytes = [] ∨ finalReturn bytes = [carriageReturn] := by
  unfold finalReturn
  split
  · exact .inr rfl
  · exact .inl rfl

theorem finalReturn_eq_nil_iff (bytes : List UInt8) :
    finalReturn bytes = [] ↔ bytes.getLast? ≠ some carriageReturn := by
  unfold finalReturn
  split
  · next final => exact ⟨nofun, fun other => absurd final other⟩
  · next other => exact ⟨fun _ => other, fun _ => rfl⟩

/-- A source decodes each line without its terminator, and the last line, where it has none, without
a carriage return at its end.  So the records give back an input that is UTF-8, up to a carriage
return at its end, and whether there is one decides whether they give back the whole input. -/
theorem FoundIn.loses_final_carriageReturn {bytes : List UInt8} {items : List Item}
    (found : FoundIn bytes items) :
    items.length = (physicalLines bytes).length ∧
      (∀ (n : Nat) (line : List UInt8), (physicalLines bytes)[n]? = some line →
        ∃ content terminator, EndsIn line content terminator ∧
          (terminator = .absent → n + 1 = (physicalLines bytes).length) ∧
          items[n]? = some (.ofContent (n + 1) line.length (terminator.kept content))) ∧
      (Utf8.IsUtf8 bytes →
        (∃ records, RecordsOf items records ∧ rebuilt records ++ finalReturn bytes = bytes) ∧
          ((∃ records, RecordsOf items records ∧ rebuilt records = bytes) ↔
            bytes.getLast? ≠ some carriageReturn)) := by
  obtain rfl := found.eq_mappedItems
  refine ⟨Item.length_ofLines 1 (physicalLines bytes), ?_, ?_⟩
  · intro n line present
    obtain ⟨content, terminator, ends, final, stripped⟩ := exists_content_of_line present
    refine ⟨content, terminator, ends, final, ?_⟩
    rw [getElem?_mappedItems, present, ← stripped]
    rfl
  · intro valid
    have texts : ∀ item ∈ mappedItems bytes, item.isFailure = false := by
      rcases decode_lines 1 bytes with ⟨_, texts⟩ | ⟨_, _, _, _, _, whole, _, _, stopped, _⟩
      · exact texts
      · exact absurd valid (Utf8.not_isUtf8_iff.2 ⟨whole, stopped⟩)
    obtain ⟨records, of, whole⟩ := exists_records 1 texts
    refine ⟨⟨records, of, whole⟩, ?_⟩
    rw [← finalReturn_eq_nil_iff]
    constructor
    · rintro ⟨others, of', whole'⟩
      rcases finalReturn_cases bytes with none | some
      · exact none
      · rw [some] at whole
        exact absurd (whole'.trans whole.symm)
          (rebuilt_ne (of.records_eq of') of.ended of'.ended)
    · intro none
      rw [none, List.append_nil] at whole
      exact ⟨records, of, whole⟩

/-- A carriage return in front of a terminator is kept, and reads that cut the terminator do not
matter. -/
theorem FoundIn.loses_final_carriageReturn_inside :
    FoundIn [0x61, 0x0D, 0x0D, 0x0A, 0xC3, 0xA9] [.ok ⟨1, ['a', '\r'], 4⟩, .ok ⟨2, ['é'], 2⟩] ∧
      ∃ records, RecordsOf [.ok ⟨1, ['a', '\r'], 4⟩, .ok ⟨2, ['é'], 2⟩] records ∧
        rebuilt records = [0x61, 0x0D, 0x0D, 0x0A, 0xC3, 0xA9] := by
  have found : FoundIn [0x61, 0x0D, 0x0D, 0x0A, 0xC3, 0xA9]
      [.ok ⟨1, ['a', '\r'], 4⟩, .ok ⟨2, ['é'], 2⟩] := by
    have asked := answer_buffered 3 ([.bytes [0x61, 0x0D, 0x0D], .interrupted,
      .bytes [0x0A, 0xC3, 0xA9]] ++ [])
    exact .buffered (by decide) (by decide) rfl (by nofun) asked
  have valid : Utf8.IsUtf8 [0x61, 0x0D, 0x0D, 0x0A, 0xC3, 0xA9] := Utf8.isUtf8_iff.2 ⟨_, rfl⟩
  exact ⟨found, (found.loses_final_carriageReturn.2.2 valid).2.2 (by decide)⟩

/-! ## 4. A lost byte -/

/-- An input of one line that nothing ends.  Its content has a carriage return, which the record
lacks, and no terminator brings it back. -/
theorem final_carriageReturn_lost :
    FoundIn [0x61, 0x0D] [.ok ⟨1, ['a'], 2⟩] ∧
      (∀ content terminator, EndsIn [0x61, 0x0D] content terminator →
        Item.ofContent 1 2 content = .ok ⟨1, ['a', '\r'], 2⟩) ∧
      ¬ ∃ records, RecordsOf [.ok ⟨1, ['a'], 2⟩] records ∧ rebuilt records = [0x61, 0x0D] := by
  refine ⟨foundIn_mappedItems [0x61, 0x0D], ?_, ?_⟩
  · rintro content terminator ⟨whole, _, _⟩
    cases terminator with
    | newline =>
        have final := congrArg List.getLast? whole
        rw [Terminator.bytes, List.getLast?_concat] at final
        cases final
    | returnNewline =>
        have final := congrArg List.getLast? whole
        rw [Terminator.bytes, List.append_cons, List.getLast?_concat] at final
        cases final
    | absent =>
        rw [Terminator.bytes, List.append_nil] at whole
        rw [← whole]
        rfl
  · rintro ⟨records, ⟨items, _⟩, whole⟩
    obtain ⟨⟨record, terminator⟩, rest, rfl⟩ := List.exists_cons_of_ne_nil (l := records) (by
      rintro rfl
      cases items)
    obtain ⟨first, others⟩ := List.cons.inj items
    cases first
    rw [List.map_eq_nil_iff.1 others.symm, rebuilt_cons, Utf8.encode_ofList] at whole
    cases terminator <;> exact absurd whole (by decide)

end Input

end SentenceSpans
