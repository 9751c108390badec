import SentenceSpans.Proofs.Input.Decoding
import SentenceSpans.Proofs.Pieces

/-!
# Complete lines

The line feeds of an input cut it into complete lines and a tail, the bytes behind the last of them.
Where the input ends, the tail is one more line, unless it is empty.  Where reading fails, the tail
is lost: the items are those of the complete lines that were delivered before, whatever else the
reader has to deliver.

Results:
1. `exists_completeLines`: every input has complete lines and a tail.
2. `physicalLines_of_completeLines`: they tell its physical lines.
3. `isLineCut_physicalLines` and `length_physicalLines`: these are slices of the input, and their
   number is that of the line feeds, up to the last one.
4. `read_of_failure`: the items put together before a failure.
5. `buffered_ends_at_failure`: the items of a reader that fails, and the answers of its source.
-/

namespace SentenceSpans

/-! ## Definitions -/

namespace Item

/-- Decoded or not, an item stands for all bytes of its line. -/
theorem rawLength_ofLine (number : Nat) (line : List UInt8) :
    (ofLine number line).rawLength = line.length := by
  unfold ofLine
  cases Utf8.decode (Input.stripTerminator line) <;> rfl

theorem total_rawLength_ofLines (number : Nat) (lines : List (List UInt8)) :
    total rawLength (ofLines number lines) = lines.flatten.length := by
  induction lines generalizing number with
  | nil => rfl
  | cons line lines ih =>
      have first := rawLength_ofLine number line
      rw [ofLines_cons, List.flatten_cons, List.length_append, ← ih (number + 1), ← first]
      rfl

end Item

namespace Input

/-- The lines of an input that a line feed ends, and the bytes behind the last of them. -/
structure CompleteLines (bytes : List UInt8) (lines : List (List UInt8)) (tail : List UInt8) :
    Prop where
  whole : lines.flatten ++ tail = bytes
  ended : ∀ line ∈ lines, ∃ body, lineFeed ∉ body ∧ line = body ++ [lineFeed]
  unfed : lineFeed ∉ tail

/-- Slices of an input, one after another, each of which is a line: it has no line feed but at its
end, and only the last slice may lack it there. -/
structure IsLineCut (bytes : List UInt8) (slices : List (List UInt8)) : Prop where
  whole : slices.flatten = bytes
  filled : ∀ slice ∈ slices, slice ≠ []
  ended : ∀ slice ∈ slices.dropLast, slice.getLast? = some lineFeed
  inner : ∀ slice ∈ slices, lineFeed ∉ slice.dropLast

/-! ## 1. Every input -/

/-- A line in front of complete lines. -/
theorem CompleteLines.cons {body left tail : List UInt8} {lines : List (List UInt8)}
    (unfed : lineFeed ∉ body) (cut : CompleteLines left lines tail) :
    CompleteLines (body ++ lineFeed :: left) ((body ++ [lineFeed]) :: lines) tail where
  whole := by
    rw [List.flatten_cons, List.append_assoc, cut.whole, List.append_assoc]
    rfl
  ended := List.forall_mem_cons.2 ⟨⟨body, unfed, rfl⟩, cut.ended⟩
  unfed := cut.unfed

theorem exists_completeLines (bytes : List UInt8) :
    ∃ lines tail, CompleteLines bytes lines tail := by
  induction bytes using lines_induction with
  | empty => exact ⟨[], [], rfl, nofun, List.not_mem_nil⟩
  | last body unfed present => exact ⟨[], body, rfl, nofun, unfed⟩
  | ended body left unfed ih =>
      obtain ⟨lines, tail, cut⟩ := ih
      exact ⟨_, tail, cut.cons unfed⟩

/-- Complete lines are taken off an input one by one. -/
theorem CompleteLines.of_cons {bytes line tail : List UInt8} {lines : List (List UInt8)}
    (cut : CompleteLines bytes (line :: lines) tail) :
    ∃ body left, lineFeed ∉ body ∧ line = body ++ [lineFeed] ∧ bytes = body ++ lineFeed :: left ∧
      CompleteLines left lines tail := by
  obtain ⟨⟨body, unfed, rfl⟩, later⟩ := List.forall_mem_cons.1 cut.ended
  refine ⟨body, lines.flatten ++ tail, unfed, rfl, ?_, ⟨rfl, later, cut.unfed⟩⟩
  rw [← cut.whole, List.flatten_cons, List.append_assoc, List.append_assoc]
  rfl

/-! ## 2. Physical lines -/

theorem physicalLines_of_completeLines {bytes tail : List UInt8} {lines : List (List UInt8)}
    (cut : CompleteLines bytes lines tail) :
    physicalLines bytes = lines ++ if tail = [] then [] else [tail] := by
  induction lines generalizing bytes with
  | nil =>
      rw [← cut.whole]
      split
      · next empty =>
          rw [empty]
          rfl
      · next present => exact physicalLines_of_unfed cut.unfed present
  | cons line lines ih =>
      obtain ⟨body, left, unfed, rfl, rfl, rest⟩ := cut.of_cons
      rw [physicalLines_of_fed unfed, ih rest]
      rfl

/-! ## 3. Slices of the input -/

theorem isLineCut_physicalLines (bytes : List UInt8) : IsLineCut bytes (physicalLines bytes) := by
  obtain ⟨lines, tail, cut⟩ := exists_completeLines bytes
  have final : ∀ line ∈ lines, line.getLast? = some lineFeed ∧ lineFeed ∉ line.dropLast := by
    intro line member
    obtain ⟨body, unfed, rfl⟩ := cut.ended line member
    rw [List.getLast?_concat, List.dropLast_concat]
    exact ⟨rfl, unfed⟩
  have same := physicalLines_of_completeLines cut
  refine ⟨flatten_physicalLines bytes, fun slice => physicalLines_ne_nil, ?_, ?_⟩
  · intro slice member
    rw [same] at member
    split at member
    · rw [List.append_nil] at member
      exact (final slice (List.dropLast_subset lines member)).1
    · rw [List.dropLast_concat] at member
      exact (final slice member).1
  · intro slice member
    rw [same] at member
    rcases List.mem_append.1 member with complete | last
    · exact (final slice complete).2
    · split at last
      · cases last
      · rw [List.mem_singleton.1 last]
        exact fun fed => cut.unfed (List.dropLast_subset tail fed)

/-- Each complete line has one line feed. -/
theorem CompleteLines.count_eq {bytes tail : List UInt8} {lines : List (List UInt8)}
    (cut : CompleteLines bytes lines tail) : bytes.count lineFeed = lines.length := by
  induction lines generalizing bytes with
  | nil =>
      rw [← cut.whole]
      exact List.count_eq_zero.2 cut.unfed
  | cons line lines ih =>
      obtain ⟨body, left, unfed, rfl, rfl, rest⟩ := cut.of_cons
      rw [List.count_append, List.count_eq_zero.2 unfed, List.count_cons_self, ih rest,
        List.length_cons, Nat.zero_add]

/-- There is a tail where the input does not end in a line feed. -/
theorem CompleteLines.tail_ne_nil_iff {bytes tail : List UInt8} {lines : List (List UInt8)}
    (cut : CompleteLines bytes lines tail) :
    tail ≠ [] ↔ bytes ≠ [] ∧ bytes.getLast? ≠ some lineFeed := by
  rw [← cut.whole]
  constructor
  · intro present
    refine ⟨fun empty => present (List.append_eq_nil_iff.1 empty).2, ?_⟩
    rw [List.getLast?_append_of_ne_nil _ present]
    exact fun final => cut.unfed (List.mem_of_getLast? final)
  · rintro ⟨filled, unended⟩ rfl
    rw [List.append_nil] at filled unended
    have some : lines ≠ [] := by
      rintro rfl
      exact filled rfl
    obtain ⟨front, line, rfl⟩ := exists_concat some
    obtain ⟨body, _, rfl⟩ := cut.ended line (by simp)
    apply unended
    rw [List.flatten_append, List.flatten_singleton, ← List.append_assoc, List.getLast?_concat]

/-- There are as many lines as line feeds, and one more where the last line has none. -/
theorem length_physicalLines (bytes : List UInt8) :
    (physicalLines bytes).length = bytes.count lineFeed +
      if bytes ≠ [] ∧ bytes.getLast? ≠ some lineFeed then 1 else 0 := by
  obtain ⟨lines, tail, cut⟩ := exists_completeLines bytes
  rw [physicalLines_of_completeLines cut, List.length_append, cut.count_eq]
  simp only [← cut.tail_ne_nil_iff]
  by_cases empty : tail = []
  · rw [if_pos empty, if_neg (not_not_intro empty), List.length_nil]
  · rw [if_neg empty, if_pos empty, List.length_singleton]

/-! ## 4. Items before a failure -/

/-- Bytes that are put together are the items of the complete lines, and a tail that waits for its
line feed. -/
theorem foldl_push_of_completeLines {bytes tail : List UInt8} {lines : List (List UInt8)}
    (cut : CompleteLines bytes lines tail) (found : List Item) (number : Nat) :
    bytes.foldl Assembly.push ⟨found, number, []⟩ =
      ⟨(Item.ofLines number lines).reverse ++ found, number + lines.length, tail.reverse⟩ := by
  -- The number of the line at hand grows with each line that is found.
  induction lines generalizing bytes found number with
  | nil =>
      rw [← cut.whole]
      exact (foldl_push_of_unfed cut.unfed ⟨found, number, []⟩).trans
        (by rw [List.append_nil]; rfl)
  | cons line lines ih =>
      obtain ⟨body, left, unfed, rfl, rfl, rest⟩ := cut.of_cons
      rw [foldl_push_of_fed unfed, ih rest, Item.ofLines_cons, List.reverse_cons,
        List.append_assoc, List.length_cons, Nat.add_assoc, Nat.add_comm 1]
      rfl

/-- A failure comes behind the chunks, and what is found before it stays. -/
theorem read_of_failure (chunks : List (List UInt8)) (cause : IoFailure) (later : List Fill)
    (assembly : Assembly) :
    assembly.read (chunks.map Fill.chunk ++ .failure cause :: later) =
      (chunks.flatten.foldl Assembly.push assembly).found.reverse ++
        [.error (.inputRead (chunks.flatten.foldl Assembly.push assembly).line cause)] := by
  induction chunks generalizing assembly with
  | nil => exact List.reverse_cons
  | cons chunk rest ih =>
      rw [List.map_cons, List.cons_append, Assembly.read, ih, List.flatten_cons, List.foldl_append]

/-! ## 5. Readers that fail -/

theorem bufferedItems_of_failure {size : Nat} (room : 0 < size) {steps : List ReadStep}
    (goesOn : ∀ step ∈ steps, step.goesOn = true) (cause : IoFailure) (later : List ReadStep)
    {lines : List (List UInt8)} {tail : List UInt8}
    (cut : CompleteLines (delivered steps) lines tail) :
    bufferedItems size (steps ++ .failure cause :: later) =
      Item.ofLines 1 lines ++ [.error (.inputRead (lines.length + 1) cause)] := by
  obtain ⟨chunks, filled, same⟩ := chunks_of_fills room goesOn
  have script : fills size (steps ++ .failure cause :: later) =
      chunks.map Fill.chunk ++ .failure cause :: fills size later := by
    rw [fills, List.flatMap_append, ← fills, filled]
    rfl
  rw [bufferedItems, script, read_of_failure, same, Assembly.empty,
    foldl_push_of_completeLines cut, List.append_nil, List.reverse_reverse, Nat.add_comm 1]

/-- A reader that goes on up to a failure gives the items of the complete lines that it delivered
before, then the failure, with the number of the line that was being read, and then nothing.  No
byte of the tail is in an item, and neither is anything delivered later. -/
theorem buffered_ends_at_failure {size : Nat} (room : 0 < size) {steps : List ReadStep}
    (goesOn : ∀ step ∈ steps, step.goesOn = true) (cause : IoFailure) (later : List ReadStep) :
    (∃ lines tail, CompleteLines (delivered steps) lines tail) ∧
      ∀ lines tail, CompleteLines (delivered steps) lines tail →
        bufferedItems size (steps ++ .failure cause :: later) =
            Item.ofLines 1 lines ++ [.error (.inputRead (lines.length + 1) cause)] ∧
          Item.total Item.rawLength (bufferedItems size (steps ++ .failure cause :: later)) +
            tail.length = (delivered steps).length ∧
          (∀ n line, lines[n]? = some line →
            answer BufferedLines.next (.new size (steps ++ .failure cause :: later)) n =
              some (Item.ofLine (n + 1) line)) ∧
          answer BufferedLines.next (.new size (steps ++ .failure cause :: later)) lines.length =
            some (.error (.inputRead (lines.length + 1) cause)) ∧
          ∀ n, lines.length < n →
            answer BufferedLines.next (.new size (steps ++ .failure cause :: later)) n = none := by
  refine ⟨exists_completeLines (delivered steps), ?_⟩
  intro lines tail cut
  have items := bufferedItems_of_failure room goesOn cause later cut
  have count : (Item.ofLines 1 lines).length = lines.length := Item.length_ofLines 1 lines
  refine ⟨items, ?_, ?_, ?_, ?_⟩
  · have sizes := congrArg List.length cut.whole
    rw [List.length_append] at sizes
    rw [items, Item.total_concat, Item.total_rawLength_ofLines, ← sizes]
    rfl
  · intro n line present
    obtain ⟨inside, _⟩ := List.getElem?_eq_some_iff.1 present
    rw [answer_buffered, items, List.getElem?_append_left (by rwa [count]), Item.getElem?_ofLines,
      present, Nat.add_comm]
    rfl
  · rw [answer_buffered, items, ← count, List.getElem?_concat_length]
  · intro n behind
    rw [answer_buffered, items, List.getElem?_eq_none]
    rw [List.length_append, count, List.length_singleton]
    exact behind

/-- A failure behind a line, a line that is not UTF-8 and half of a line, in reads that a buffer of
two bytes cuts further.  The rest of the line and another failure come too late. -/
theorem buffered_ends_at_failure_halfway :
    (∀ step ∈ [ReadStep.bytes [0x61, 0x0A, 0x62], .interrupted, .bytes [0xFF, 0x0A, 0x63]],
        step.goesOn = true) ∧
      CompleteLines (delivered [.bytes [0x61, 0x0A, 0x62], .interrupted, .bytes [0xFF, 0x0A, 0x63]])
        [[0x61, 0x0A], [0x62, 0xFF, 0x0A]] [0x63] ∧
      bufferedItems 2
          ([.bytes [0x61, 0x0A, 0x62], .interrupted, .bytes [0xFF, 0x0A, 0x63]] ++
            .failure ⟨"device gone"⟩ :: [.bytes [0x64, 0x0A, 0x65, 0x0A], .failure ⟨"again"⟩]) =
        [.ok ⟨1, ['a'], 2⟩, .error (.invalidInput 2 3 ⟨1, some 1⟩),
          .error (.inputRead 3 ⟨"device gone"⟩)] ∧
      answer BufferedLines.next (.new 2
          ([.bytes [0x61, 0x0A, 0x62], .interrupted, .bytes [0xFF, 0x0A, 0x63]] ++
            .failure ⟨"device gone"⟩ :: [.bytes [0x64, 0x0A, 0x65, 0x0A], .failure ⟨"again"⟩])) 3 =
        none := by
  have goesOn : ∀ step ∈ [ReadStep.bytes [0x61, 0x0A, 0x62], .interrupted,
      .bytes [0xFF, 0x0A, 0x63]], step.goesOn = true := by decide
  have cut : CompleteLines
      (delivered [.bytes [0x61, 0x0A, 0x62], .interrupted, .bytes [0xFF, 0x0A, 0x63]])
      [[0x61, 0x0A], [0x62, 0xFF, 0x0A]] [0x63] := by
    refine ⟨rfl, ?_, by decide⟩
    exact List.forall_mem_cons.2 ⟨⟨[0x61], by decide, rfl⟩,
      List.forall_mem_singleton.2 ⟨[0x62, 0xFF], by decide, rfl⟩⟩
  have room : 0 < 2 := by decide
  obtain ⟨items, _, _, _, silent⟩ := (buffered_ends_at_failure room goesOn ⟨"device gone"⟩
    [.bytes [0x64, 0x0A, 0x65, 0x0A], .failure ⟨"again"⟩]).2 _ _ cut
  exact ⟨goesOn, cut, items.trans rfl, silent 3 (by decide)⟩

end Input

end SentenceSpans
