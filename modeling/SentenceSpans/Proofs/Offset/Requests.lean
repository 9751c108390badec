import SentenceSpans.Proofs.Sentence.Boundaries

/-!
# Requests of one tracker

A tracker is asked for one byte position after another, and is asked again after it has refused
one.  It only ever measures the text between two places.  All the same each answer is the size of
the whole text before the position, whatever was asked before.

Results:
1. `splitBytes?_eq_some_iff` and `splitBytes?_eq_none_iff`: where a text can be split.
2. `request_between`: what the whole text says about one request.
3. `StandsIn.request`: where a request leaves a tracker; `StandsIn.afterAll`: where all of them do;
   `StandsIn.serves`: what a request achieves.
4. `advance?_eq`: giving up at the first refusal moves a tracker in the same way.
5. `answers_of_isOnward`: all requests of a tracker, and their answers.
-/

namespace SentenceSpans

/-! ## Definitions -/

/-- A byte position behind the first byte of a character and before its end. -/
def InsideCharacter (text : List Char) (position : Nat) : Prop :=
  ∃ front c back, text = front ++ c :: back ∧ byteLength front < position ∧
    position < byteLength front + c.utf8Size

namespace Tracker

/-- The tracker between two parts of a text. -/
def between (unit : OffsetUnit) (front back : List Char) : Tracker :=
  ⟨unit, byteLength front, unit.measure front, back⟩

/-- A tracker stands between two parts of a text. -/
def StandsIn (unit : OffsetUnit) (text : List Char) (tracker : Tracker) : Prop :=
  ∃ front back, text = front ++ back ∧ tracker = between unit front back

/-- The tracker that requests leave behind, whether they were refused or not. -/
def afterAll (tracker : Tracker) (targets : List Nat) : Tracker :=
  targets.foldl (fun reached target => (reached.request target).2) tracker

/-- No request is for a position before the one where it finds the tracker. -/
def IsOnward (tracker : Tracker) : List Nat → Prop
  | [] => True
  | target :: rest => tracker.position ≤ target ∧ (tracker.request target).2.IsOnward rest

instance decidableIsOnward (tracker : Tracker) :
    (targets : List Nat) → Decidable (tracker.IsOnward targets)
  | [] => isTrue trivial
  | target :: rest =>
      have := decidableIsOnward (tracker.request target).2 rest
      inferInstanceAs (Decidable (_ ∧ _))

/-- The size of the text before a byte position, measured in one go from the start of the text. -/
def sizeBefore? (unit : OffsetUnit) (text : List Char) (target : Nat) : Option Nat :=
  (splitBytes? text target).map fun parts => unit.measure parts.1

/-- A request of a tracker of a text is served as it should be.  What it made is its answer and the
tracker that it left behind. -/
structure Serves (unit : OffsetUnit) (text : List Char) (before : Tracker) (target : Nat)
    (made : Option Nat × Tracker) : Prop where
  /-- The tracker is left between two characters or at an end of the text. -/
  place : IsPlace text made.2.position
  /-- Its offset is the size of the text before its place. -/
  offset : made.2.offset = unit.measure (textBefore text made.2.position)
  /-- Just the positions ahead that are no places of the text are refused. -/
  refused_iff : made.1 = none ↔
    before.position < target ∧ (byteLength text < target ∨ InsideCharacter text target)
  /-- A refusal changes nothing. -/
  kept : made.1 = none → made.2 = before
  /-- The answer is the size of the text before the position, where the tracker now stands. -/
  answered : ∀ offset, made.1 = some offset →
    made.2.position = target ∧ offset = unit.measure (textBefore text target)

/-! ## 1. Splitting a text -/

theorem splitBytes?_zero (text : List Char) : splitBytes? text 0 = some ([], text) := by
  cases text with
  | nil => rfl
  | cons c rest => rfl

theorem splitBytes?_cons {c : Char} {size : Nat} (rest : List Char) (fits : c.utf8Size ≤ size) :
    splitBytes? (c :: rest) size =
      (splitBytes? rest (size - c.utf8Size)).map fun parts => (c :: parts.1, parts.2) := by
  cases size with
  | zero => exact absurd (Char.utf8Size_pos c) (Nat.not_lt.2 fits)
  | succ size => rw [splitBytes?, if_pos fits]

/-- Behind a whole front, a text is split where its back is. -/
theorem splitBytes?_append_add (front back : List Char) (size : Nat) :
    splitBytes? (front ++ back) (byteLength front + size) =
      (splitBytes? back size).map fun parts => (front ++ parts.1, parts.2) := by
  induction front with
  | nil => simp [OffsetUnit.measure_nil]
  | cons c rest ih =>
      rw [List.cons_append, byteLength_cons, Nat.add_assoc,
        splitBytes?_cons _ (Nat.le_add_right _ _), Nat.add_sub_cancel_left, ih, Option.map_map]
      rfl

theorem splitBytes?_append (front back : List Char) :
    splitBytes? (front ++ back) (byteLength front) = some (front, back) := by
  have joined := splitBytes?_append_add front back 0
  rwa [Nat.add_zero, splitBytes?_zero, Option.map_some, List.append_nil] at joined

theorem splitBytes?_eq_some_iff {text front back : List Char} {size : Nat} :
    splitBytes? text size = some (front, back) ↔
      text = front ++ back ∧ size = byteLength front := by
  constructor
  · intro found
    -- No bytes are left to pass, no characters are, or one is, which fits or does not.
    fun_induction splitBytes? text size generalizing front with
    | case1 text =>
        cases found
        exact ⟨rfl, rfl⟩
    | case2 size => cases found
    | case3 c rest size fits ih =>
        obtain ⟨⟨before, after⟩, split, same⟩ := Option.map_eq_some_iff.1 found
        obtain ⟨rfl, rfl⟩ : c :: before = front ∧ after = back := Prod.mk.inj same
        obtain ⟨rfl, bytes⟩ := ih split
        refine ⟨rfl, ?_⟩
        rw [byteLength_cons]
        omega
    | case4 c rest size long => cases found
  · rintro ⟨rfl, rfl⟩
    exact splitBytes?_append front back

theorem insideCharacter_of_lt {c : Char} {position : Nat} (rest : List Char)
    (started : 0 < position) (short : position < c.utf8Size) :
    InsideCharacter (c :: rest) position :=
  ⟨[], c, rest, rfl, started, by simpa [OffsetUnit.measure_nil] using short⟩

/-- Behind the first character, a position is judged by the rest of the text. -/
theorem insideCharacter_cons_iff {c : Char} {rest : List Char} {position : Nat}
    (fits : c.utf8Size ≤ position) :
    InsideCharacter (c :: rest) position ↔ InsideCharacter rest (position - c.utf8Size) := by
  constructor
  · rintro ⟨front, d, back, split, start, stop⟩
    cases front with
    | nil =>
        cases split
        have beginning : byteLength [] = 0 := rfl
        omega
    | cons first front =>
        cases split
        rw [byteLength_cons] at start stop
        exact ⟨front, d, back, rfl, by omega, by omega⟩
  · rintro ⟨front, d, back, rfl, start, stop⟩
    have bytes := byteLength_cons c front
    exact ⟨c :: front, d, back, rfl, by omega, by omega⟩

/-- A text cannot be split past its end or inside a character; everywhere else it can. -/
theorem splitBytes?_eq_none_iff {text : List Char} {size : Nat} :
    splitBytes? text size = none ↔ byteLength text < size ∨ InsideCharacter text size := by
  fun_induction splitBytes? text size with
  | case1 text =>
      constructor
      · intro refused
        cases refused
      · rintro (past | ⟨front, c, back, -, start, -⟩)
        · exact absurd past (Nat.not_lt_zero _)
        · exact absurd start (Nat.not_lt_zero _)
  | case2 size => exact ⟨fun _ => .inl (Nat.succ_pos size), fun _ => rfl⟩
  | case3 c rest size fits ih =>
      rw [Option.map_eq_none_iff, ih, insideCharacter_cons_iff fits, byteLength_cons]
      have past : byteLength rest < size + 1 - c.utf8Size ↔
          c.utf8Size + byteLength rest < size + 1 := by omega
      rw [past]
  | case4 c rest size long =>
      have inside := insideCharacter_of_lt rest (Nat.succ_pos size) (Nat.not_le.1 long)
      exact ⟨fun _ => .inr inside, fun _ => rfl⟩

/-! ## 2. One request -/

/-- A request goes by the whole text: where it can be split, the tracker answers the size of the
front and moves between the two parts; where it cannot, the tracker stays. -/
theorem request_between (unit : OffsetUnit) (front back : List Char) {target : Nat}
    (onward : byteLength front ≤ target) :
    (between unit front back).request target =
      match splitBytes? (front ++ back) target with
      | none => (none, between unit front back)
      | some (passed, rest) => (some (unit.measure passed), between unit passed rest) := by
  obtain ⟨size, rfl⟩ := Nat.exists_eq_add_of_le onward
  rw [splitBytes?_append_add]
  cases size with
  | zero =>
      rw [splitBytes?_zero, Option.map_some, List.append_nil]
      exact request_of_le (Nat.le_refl _)
  | succ size =>
      have ahead : (between unit front back).position < byteLength front + (size + 1) :=
        Nat.lt_add_of_pos_right (Nat.succ_pos size)
      rw [request_of_lt ahead]
      simp only [between, Nat.add_sub_cancel_left]
      cases found : splitBytes? back (size + 1) with
      | none => rfl
      | some parts =>
          obtain ⟨_, bytes⟩ := splitBytes?_eq_some_iff.1 found
          simp only [Option.map_some, OffsetUnit.measure_append, bytes]

/-! ## 3. Where requests leave a tracker -/

theorem standsIn_start (unit : OffsetUnit) (text : List Char) :
    StandsIn unit text (start unit text) :=
  ⟨[], text, rfl, rfl⟩

section

variable {unit : OffsetUnit} {text : List Char} {tracker : Tracker}

/-- A request that does not go back either is refused, and the tracker stays, or ends at a place of
the text, and the tracker moves there. -/
theorem StandsIn.request_cases (stands : StandsIn unit text tracker) {target : Nat}
    (onward : tracker.position ≤ target) :
    splitBytes? text target = none ∧ tracker.request target = (none, tracker) ∨
      ∃ front back, text = front ++ back ∧ target = byteLength front ∧
        tracker.request target = (some (unit.measure front), between unit front back) := by
  obtain ⟨front, back, rfl, rfl⟩ := stands
  rw [request_between unit front back onward]
  cases found : splitBytes? (front ++ back) target with
  | none => exact .inl ⟨rfl, rfl⟩
  | some parts =>
      obtain ⟨same, bytes⟩ := splitBytes?_eq_some_iff.1 found
      exact .inr ⟨parts.1, parts.2, same, bytes, rfl⟩

/-- A request leaves a tracker between two parts of its text, also one that goes back. -/
theorem StandsIn.request (stands : StandsIn unit text tracker) (target : Nat) :
    StandsIn unit text (tracker.request target).2 := by
  rcases Nat.le_total tracker.position target with onward | passed
  · obtain ⟨_, made⟩ | ⟨front, back, same, _, made⟩ := stands.request_cases onward
    · rw [made]
      exact stands
    · rw [made]
      exact ⟨front, back, same, rfl⟩
  · rw [request_of_le passed]
    exact stands

theorem StandsIn.afterAll (stands : StandsIn unit text tracker) (targets : List Nat) :
    StandsIn unit text (tracker.afterAll targets) := by
  induction targets generalizing tracker with
  | nil => exact stands
  | cons target rest ih => exact ih (stands.request target)

theorem StandsIn.place (stands : StandsIn unit text tracker) : IsPlace text tracker.position := by
  obtain ⟨front, back, rfl, rfl⟩ := stands
  exact ⟨front, back, rfl, rfl⟩

theorem StandsIn.offset_eq (stands : StandsIn unit text tracker) :
    tracker.offset = unit.measure (textBefore text tracker.position) := by
  obtain ⟨front, back, rfl, rfl⟩ := stands
  simp only [between, textBefore_append]

/-- The answer is the size measured in one go, wherever the tracker comes from. -/
theorem StandsIn.answer_eq (stands : StandsIn unit text tracker) {target : Nat}
    (onward : tracker.position ≤ target) :
    (tracker.request target).1 = sizeBefore? unit text target := by
  obtain ⟨unsplit, made⟩ | ⟨front, back, same, bytes, made⟩ := stands.request_cases onward
  · rw [made, sizeBefore?, unsplit]
    rfl
  · rw [made, sizeBefore?, same, bytes, splitBytes?_append]
    rfl

/-- The place of a tracker is not among the positions that it refuses. -/
theorem StandsIn.refused_iff (stands : StandsIn unit text tracker) {target : Nat}
    (onward : tracker.position ≤ target) :
    (tracker.request target).1 = none ↔
      tracker.position < target ∧ (byteLength text < target ∨ InsideCharacter text target) := by
  rw [stands.answer_eq onward, sizeBefore?, Option.map_eq_none_iff, ← splitBytes?_eq_none_iff]
  constructor
  · intro unsplit
    refine ⟨Nat.lt_of_le_of_ne onward fun here => ?_, unsplit⟩
    obtain ⟨front, back, rfl, rfl⟩ := stands
    rw [← here, between, splitBytes?_append] at unsplit
    cases unsplit
  · exact And.right

/-- A request that does not go back is served as it should be. -/
theorem StandsIn.serves (stands : StandsIn unit text tracker) {target : Nat}
    (onward : tracker.position ≤ target) :
    Serves unit text tracker target (tracker.request target) where
  place := (stands.request target).place
  offset := (stands.request target).offset_eq
  refused_iff := stands.refused_iff onward
  kept refused := by
    obtain ⟨_, made⟩ | ⟨front, back, _, _, made⟩ := stands.request_cases onward
    · rw [made]
    · rw [made] at refused
      cases refused
  answered offset granted := by
    obtain ⟨_, made⟩ | ⟨front, back, same, bytes, made⟩ := stands.request_cases onward
    · rw [made] at granted
      cases granted
    · rw [made] at granted ⊢
      cases granted
      rw [same, bytes, textBefore_append]
      exact ⟨rfl, rfl⟩

end

/-! ## 4. Giving up at the first refusal -/

/-- A walk that has passed its target never lands on it. -/
theorem walk_of_lt {unit : OffsetUnit} {target position offset : Nat} {text : List Char}
    (passed : target < position) : walk unit target position offset text = none := by
  cases text with
  | nil => exact if_neg (Nat.ne_of_gt passed)
  | cons c rest =>
      rw [walk, if_neg (Nat.not_lt.2 (Nat.le_of_lt passed)), if_neg (Nat.ne_of_gt passed)]

/-- A walk over the characters of a text lands where the text can be split. -/
theorem walk_eq {unit : OffsetUnit} {target position offset : Nat} {text : List Char}
    (onward : position ≤ target) :
    walk unit target position offset text =
      (splitBytes? text (target - position)).map fun parts =>
        ⟨unit, target, offset + unit.measure parts.1, parts.2⟩ := by
  induction text generalizing position offset with
  | nil =>
      rcases Nat.eq_or_lt_of_le onward with rfl | ahead
      · rw [walk, if_pos rfl, Nat.sub_self]
        rfl
      · have past : byteLength [] < target - position := Nat.sub_pos_of_lt ahead
        rw [walk, if_neg (Nat.ne_of_lt ahead), splitBytes?_eq_none_iff.2 (.inl past)]
        rfl
  | cons c rest ih =>
      rcases Nat.eq_or_lt_of_le onward with rfl | ahead
      · rw [walk, if_neg (Nat.lt_irrefl position), if_pos rfl, Nat.sub_self]
        rfl
      · rw [walk, if_pos ahead]
        rcases Nat.lt_or_ge (target - position) c.utf8Size with short | fits
        · have inside := insideCharacter_of_lt rest (Nat.sub_pos_of_lt ahead) short
          rw [walk_of_lt (by omega), splitBytes?_eq_none_iff.2 (.inr inside)]
          rfl
        · rw [ih (by omega), splitBytes?_cons rest fits, Nat.sub_sub, Option.map_map]
          simp only [Function.comp_def, OffsetUnit.measure_cons, Nat.add_assoc]

/-- A user who gives up at the first refusal moves the tracker in the same way. -/
theorem advance?_eq (tracker : Tracker) (target : Nat) :
    tracker.advance? target =
      match tracker.request target with
      | (none, _) => none
      | (some _, after) => some after := by
  rcases Nat.lt_or_ge tracker.position target with ahead | reached
  · rw [advance?, if_neg (Nat.not_le.2 ahead), walk_eq (Nat.le_of_lt ahead), request_of_lt ahead]
    cases splitBytes? tracker.rest (target - tracker.position) with
    | none => rfl
    | some parts => rfl
  · rw [advance?, if_pos reached, request_of_le reached]

/-! ## 5. All requests -/

theorem IsOnward.le {tracker : Tracker} {earlier later : List Nat} {target : Nat}
    (onward : tracker.IsOnward (earlier ++ target :: later)) :
    (tracker.afterAll earlier).position ≤ target := by
  induction earlier generalizing tracker with
  | nil => exact onward.1
  | cons first rest ih => exact ih onward.2

theorem answersFrom_eq {unit : OffsetUnit} {text : List Char} {tracker : Tracker}
    {targets : List Nat} (stands : StandsIn unit text tracker) (onward : tracker.IsOnward targets)
    (done : List (Option Nat)) :
    tracker.answersFrom done targets = done.reverse ++ targets.map (sizeBefore? unit text) := by
  induction targets generalizing tracker done with
  | nil => rw [answersFrom, List.map_nil, List.append_nil]
  | cons target rest ih =>
      change (tracker.request target).2.answersFrom ((tracker.request target).1 :: done) rest = _
      rw [ih (stands.request target) onward.2, stands.answer_eq onward.1, List.reverse_cons,
        List.append_assoc]
      rfl

/-- A new tracker that is never asked for a position before its own serves every request as it
should, also behind refused ones.  Its answers are the sizes of the text before the positions, each
measured by itself. -/
theorem answers_of_isOnward {unit : OffsetUnit} {text : List Char} {targets : List Nat}
    (onward : (start unit text).IsOnward targets) :
    (∀ earlier target later, targets = earlier ++ target :: later →
      Serves unit text ((start unit text).afterAll earlier) target
        (((start unit text).afterAll earlier).request target)) ∧
      answers unit text targets = targets.map (sizeBefore? unit text) := by
  refine ⟨?_, answersFrom_eq (standsIn_start unit text) onward []⟩
  rintro earlier target later rfl
  exact ((standsIn_start unit text).afterAll earlier).serves onward.le

/-- Positions past the end of a text and inside its characters, between others. -/
theorem answers_of_isOnward_refused :
    (start .utf16 "é😀a".toList).IsOnward [5, 1, 2, 2, 9, 6, 7] ∧
      answers .utf16 "é😀a".toList [5, 1, 2, 2, 9, 6, 7] =
        [none, none, some 1, some 1, none, some 3, some 4] ∧
      Serves .utf16 "é😀a".toList ⟨.utf16, 2, 1, "😀a".toList⟩ 9
        (none, ⟨.utf16, 2, 1, "😀a".toList⟩) := by
  have onward : (start .utf16 "é😀a".toList).IsOnward [5, 1, 2, 2, 9, 6, 7] := by decide
  obtain ⟨served, answered⟩ := answers_of_isOnward onward
  refine ⟨onward, answered.trans (by decide), served [5, 1, 2, 2] 9 [6, 7] rfl⟩

end Tracker

end SentenceSpans
