import SentenceSpans.Proofs.Input.Delivery

/-!
# Asking line sources

A source that is asked again and again gives the items found in its input, one at a time, and
nothing from then on.  So two sources with the same items cannot be told apart by asking, however
often that is done, and whatever parts the bytes of one of them arrive in.

Results:
1. `readLine_cases`: a line read through a buffer is the first one found in what is left.
2. `answer_eq_getElem?`: the answers of a source, from what one answer leaves to be found;
   `next_buffered` and `next_mapped`: what it leaves.
3. `answer_buffered` and `answer_mapped`: the answers of both sources.
4. `buffered_agrees_mapped`: they are the same.
-/

namespace SentenceSpans.Input

/-! ## 1. One line of a delivery -/

namespace Assembly

/-- The same line at hand, with more lines found before. -/
def behind (earlier : List Item) (assembly : Assembly) : Assembly :=
  ⟨assembly.found ++ earlier, assembly.line, assembly.pending⟩

variable (earlier : List Item) (assembly : Assembly)

theorem foldl_push_behind (bytes : List UInt8) :
    bytes.foldl push (assembly.behind earlier) = (bytes.foldl push assembly).behind earlier := by
  induction bytes generalizing assembly with
  | nil => rfl
  | cons byte rest ih =>
      have step : (assembly.behind earlier).push byte = (assembly.push byte).behind earlier := by
        rw [push, push]
        split <;> rfl
      rw [List.foldl_cons, List.foldl_cons, step, ih]

theorem close_behind : (assembly.behind earlier).close = earlier.reverse ++ assembly.close := by
  rw [close, close, behind]
  split
  · exact List.reverse_append
  · rw [completeLine, completeLine, ← List.reverse_append]
    rfl

/-- What was found before does not matter for what is found later. -/
theorem read_behind (fills : List Fill) :
    (assembly.behind earlier).read fills = earlier.reverse ++ assembly.read fills := by
  induction fills generalizing assembly with
  | nil => exact close_behind earlier assembly
  | cons fill rest ih =>
      cases fill with
      | chunk bytes => rw [read, read, foldl_push_behind, ih]
      | endOfInput =>
          rw [read, read, behind]
          split
          · exact close_behind earlier assembly
          · exact ih assembly.completeLine
      | failure cause =>
          rw [read, read, behind, ← List.reverse_append]
          rfl

end Assembly

/-- The items found in a buffer and the fills to come, from the start of a line with the given
number.  The bytes of the line that were read before are `taken`. -/
def itemsIn (number : Nat) (taken : List UInt8) (buffer : Buffer) : List Item :=
  (buffer.held.foldl Assembly.push ⟨[], number, taken.reverse⟩).read buffer.script

/-- A line that was found stays in front of what is found after it. -/
theorem read_after_line (item : Item) (number : Nat) (held : List UInt8) (script : List Fill) :
    (held.foldl Assembly.push ⟨[item], number, []⟩).read script =
      item :: itemsIn number [] ⟨held, script⟩ := by
  have behind : (⟨[item], number, []⟩ : Assembly) = .behind [item] ⟨[], number, []⟩ := rfl
  rw [behind, Assembly.foldl_push_behind, Assembly.read_behind]
  rfl

theorem itemsIn_of_fed {body : List UInt8} (unfed : lineFeed ∉ body) (left : List UInt8)
    (script : List Fill) (number : Nat) (taken : List UInt8) :
    itemsIn number taken ⟨body ++ lineFeed :: left, script⟩ =
      Item.ofLine number (taken ++ (body ++ [lineFeed])) ::
        itemsIn (number + 1) [] ⟨left, script⟩ := by
  rw [itemsIn, foldl_push_of_fed unfed, List.reverse_reverse]
  exact read_after_line _ _ left script

theorem itemsIn_of_unfed {held : List UInt8} (unfed : lineFeed ∉ held) (script : List Fill)
    (number : Nat) (taken : List UInt8) :
    itemsIn number taken ⟨held, script⟩ = itemsIn number (taken ++ held) ⟨[], script⟩ := by
  rw [itemsIn, itemsIn, foldl_push_of_unfed unfed, List.reverse_append]
  rfl

/-- Where the input ends, the bytes at hand are a line of their own. -/
theorem itemsIn_of_exhausted (number : Nat) {taken : List UInt8} (present : taken ≠ []) :
    itemsIn number taken ⟨[], []⟩ = [Item.ofLine number taken] := by
  have some : ¬ taken.reverse.isEmpty = true := by simpa using present
  rw [itemsIn, List.foldl_nil, Assembly.read, Assembly.close, if_neg some, Assembly.completeLine,
    List.reverse_reverse]
  rfl

theorem itemsIn_of_ended (later : List Fill) (number : Nat) {taken : List UInt8}
    (present : taken ≠ []) :
    itemsIn number taken ⟨[], .endOfInput :: later⟩ =
      Item.ofLine number taken :: itemsIn (number + 1) [] ⟨[], later⟩ := by
  have some : ¬ taken.reverse.isEmpty = true := by simpa using present
  rw [itemsIn, List.foldl_nil, Assembly.read, if_neg some, Assembly.completeLine,
    List.reverse_reverse]
  exact read_after_line _ _ [] later

/-- A line read through a buffer is the first item found, and leaves the others.  If nothing was
read, nothing is found, and a failure is found last. -/
theorem readLine_cases (number : Nat) (taken held : List UInt8) (script : List Fill) :
    (∃ line buffer, line ≠ [] ∧ readLine taken held script = (.ok line, buffer) ∧
        itemsIn number taken ⟨held, script⟩ =
          Item.ofLine number line :: itemsIn (number + 1) [] buffer) ∨
      (∃ buffer, readLine taken held script = (.ok [], buffer) ∧
        itemsIn number taken ⟨held, script⟩ = []) ∨
      ∃ cause buffer, readLine taken held script = (.error cause, buffer) ∧
        itemsIn number taken ⟨held, script⟩ = [.error (.inputRead number cause)] := by
  -- Either the line ends in the buffer, or the next fill decides, which may carry the line on.
  fun_induction readLine taken held script with
  | case1 taken held line left script cut =>
      obtain ⟨body, unfed, rfl, rfl⟩ := parts_of_cut cut
      exact .inl ⟨_, _, by simp, rfl, itemsIn_of_fed unfed left script number taken⟩
  | case2 taken held uncut =>
      rw [itemsIn_of_unfed (unfed_of_uncut uncut)]
      by_cases present : taken ++ held = []
      · rw [present]
        exact .inr (.inl ⟨_, rfl, rfl⟩)
      · exact .inl ⟨_, _, present, rfl, itemsIn_of_exhausted number present⟩
  | case3 taken held bytes later uncut ih =>
      rw [itemsIn_of_unfed (unfed_of_uncut uncut)]
      exact ih
  | case4 taken held later uncut =>
      rw [itemsIn_of_unfed (unfed_of_uncut uncut)]
      by_cases present : taken ++ held = []
      · rw [present]
        exact .inr (.inl ⟨_, rfl, rfl⟩)
      · exact .inl ⟨_, _, present, rfl, itemsIn_of_ended later number present⟩
  | case5 taken held cause later uncut =>
      rw [itemsIn_of_unfed (unfed_of_uncut uncut)]
      exact .inr (.inr ⟨cause, _, rfl, rfl⟩)

/-! ## 2. One answer -/

/-- A source that gives the first of its items and keeps the others gives them all, one by one. -/
theorem answer_eq_getElem? {next : σ → Option Item × σ} {items : σ → List Item}
    (step : ∀ source, (next source).1 = (items source).head? ∧
      items (next source).2 = (items source).tail)
    (source : σ) (n : Nat) : answer next source n = (items source)[n]? := by
  induction n generalizing source with
  | zero => rw [answer, (step source).1, List.head?_eq_getElem?]
  | succ n ih => rw [answer, ih, (step source).2, List.getElem?_tail]

/-- The items that a source has yet to give. -/
def BufferedLines.items (source : BufferedLines) : List Item :=
  if source.finished then [] else itemsIn (source.count + 1) [] source.buffer

def MappedLines.items (source : MappedLines) : List Item :=
  Item.ofLines (source.count + 1) (physicalLines source.remaining)

theorem next_buffered (source : BufferedLines) :
    source.next.1 = source.items.head? ∧ source.next.2.items = source.items.tail := by
  obtain ⟨⟨held, script⟩, count, finished⟩ := source
  cases finished with
  | true => exact ⟨rfl, rfl⟩
  | false =>
      have items : BufferedLines.items ⟨⟨held, script⟩, count, false⟩ =
        itemsIn (count + 1) [] ⟨held, script⟩ := rfl
      rw [items, BufferedLines.next]
      rcases readLine_cases (count + 1) [] held script with
        ⟨line, buffer, present, read, found⟩ | ⟨buffer, read, found⟩ | ⟨cause, buffer, read, found⟩
      · obtain ⟨byte, rest, rfl⟩ := List.exists_cons_of_ne_nil present
        simp only [read, found]
        exact ⟨rfl, rfl⟩
      · simp only [read, found]
        exact ⟨rfl, rfl⟩
      · simp only [read, found]
        exact ⟨rfl, rfl⟩

theorem next_mapped (source : MappedLines) :
    source.next.1 = source.items.head? ∧ source.next.2.items = source.items.tail := by
  obtain ⟨remaining, count⟩ := source
  rw [MappedLines.items, MappedLines.next]
  split
  · next empty =>
      cases List.isEmpty_iff.1 empty
      exact ⟨rfl, rfl⟩
  · next some =>
      split
      · next line rest cut =>
          obtain ⟨body, unfed, rfl, same⟩ := parts_of_cut cut
          rw [same, physicalLines_of_fed unfed, Item.ofLines_cons]
          exact ⟨rfl, rfl⟩
      · next uncut =>
          have present : remaining ≠ [] := fun empty => some (List.isEmpty_iff.2 empty)
          rw [physicalLines_of_unfed (unfed_of_uncut uncut) present, Item.ofLines_cons]
          exact ⟨rfl, rfl⟩

/-! ## 3. All answers -/

theorem answer_buffered (size : Nat) (steps : List ReadStep) (n : Nat) :
    answer BufferedLines.next (.new size steps) n = (bufferedItems size steps)[n]? :=
  answer_eq_getElem? next_buffered (.new size steps) n

theorem answer_mapped (bytes : List UInt8) (n : Nat) :
    answer MappedLines.next (.new bytes) n = (mappedItems bytes)[n]? :=
  answer_eq_getElem? next_mapped (.new bytes) n

/-! ## 4. Both sources -/

/-- Bytes that arrive in any reads, with any interruptions, through a buffer of any size, give the
items that the bytes give when they are at hand.  After them neither source gives anything. -/
theorem buffered_agrees_mapped {size : Nat} (room : 0 < size) {steps rest : List ReadStep}
    {bytes : List UInt8} (goesOn : ∀ step ∈ steps, step.goesOn = true)
    (delivers : delivered steps = bytes)
    (ended : ∀ step ∈ rest, step = .bytes [] ∨ step = .interrupted) :
    bufferedItems size (steps ++ rest) = mappedItems bytes ∧
      ∀ n, answer BufferedLines.next (.new size (steps ++ rest)) n = (mappedItems bytes)[n]? ∧
        answer MappedLines.next (.new bytes) n = (mappedItems bytes)[n]? := by
  have same : bufferedItems size (steps ++ rest) = mappedItems bytes := by
    rw [bufferedItems_of_goesOn room goesOn ended, delivers]
  refine ⟨same, fun n => ⟨?_, answer_mapped bytes n⟩⟩
  rw [answer_buffered, same]

/-- Reads that cut a letter and a terminator apart, a line that is not UTF-8, and a last line
without a line feed, through a buffer of two bytes. -/
theorem buffered_agrees_mapped_cut :
    (∀ step ∈ [ReadStep.bytes [0xC3], .interrupted, .bytes [0xA9, 0x0D], .interrupted,
        .bytes [0x0A, 0xFF, 0x0A, 0x78]], step.goesOn = true) ∧
      (∀ step ∈ [ReadStep.interrupted, .bytes [], .bytes []],
        step = .bytes [] ∨ step = .interrupted) ∧
      bufferedItems 2 ([.bytes [0xC3], .interrupted, .bytes [0xA9, 0x0D], .interrupted,
          .bytes [0x0A, 0xFF, 0x0A, 0x78]] ++ [.interrupted, .bytes [], .bytes []]) =
        [.ok ⟨1, ['é'], 4⟩, .error (.invalidInput 2 2 ⟨0, some 1⟩), .ok ⟨3, ['x'], 1⟩] := by
  have goesOn : ∀ step ∈ [ReadStep.bytes [0xC3], .interrupted, .bytes [0xA9, 0x0D], .interrupted,
      .bytes [0x0A, 0xFF, 0x0A, 0x78]], step.goesOn = true := by decide
  have ended : ∀ step ∈ [ReadStep.interrupted, .bytes [], .bytes []],
      step = .bytes [] ∨ step = .interrupted := by decide
  refine ⟨goesOn, ended, ?_⟩
  rw [(buffered_agrees_mapped (by decide) goesOn rfl ended).1]
  rfl

end SentenceSpans.Input
