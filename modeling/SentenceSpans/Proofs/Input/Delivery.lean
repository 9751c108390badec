import SentenceSpans.Input.Source

/-!
# The lines of a delivery

The lines found in a delivery are those of its bytes.  A buffer cuts the bytes into chunks, but the
bytes of the line at hand are carried from chunk to chunk, so that neither the cuts nor the
interruptions between the reads leave a trace.

Results:
1. `parts_of_cut` and `unfed_of_uncut`: cutting bytes behind their first line feed.
2. `physicalLines_of_fed` and `physicalLines_of_unfed`: the first line of all.
3. `close_foldl_push`: the items put together byte by byte are those of the lines.
4. `chunks_of_fills`: the fills of a buffer hold the delivered bytes.
5. `bufferedItems_of_goesOn`: the items of a delivery are those of its bytes.
-/

namespace SentenceSpans.Input

/-! ## 1. Cutting behind a line feed -/

theorem parts_of_cut {bytes line left : List UInt8} (cut : cutLine bytes = some (line, left)) :
    ∃ body, lineFeed ∉ body ∧ line = body ++ [lineFeed] ∧ bytes = body ++ lineFeed :: left := by
  fun_induction cutLine bytes generalizing line with
  | case1 => cases cut
  | case2 rest =>
      cases cut
      exact ⟨[], List.not_mem_nil, rfl, rfl⟩
  | case3 byte rest other ih =>
      obtain ⟨⟨start, after⟩, found, same⟩ := Option.map_eq_some_iff.1 cut
      cases same
      obtain ⟨body, unfed, rfl, rfl⟩ := ih found
      exact ⟨byte :: body, List.not_mem_cons_of_ne_of_not_mem (Ne.symm other) unfed, rfl, rfl⟩

theorem unfed_of_uncut {bytes : List UInt8} (uncut : cutLine bytes = none) :
    lineFeed ∉ bytes := by
  fun_induction cutLine bytes with
  | case1 => exact List.not_mem_nil
  | case2 rest => cases uncut
  | case3 byte rest other ih =>
      exact List.not_mem_cons_of_ne_of_not_mem (Ne.symm other) (ih (Option.map_eq_none_iff.1 uncut))

/-! ## 2. First lines -/

theorem physicalLines_of_fed {body : List UInt8} (unfed : lineFeed ∉ body) (left : List UInt8) :
    physicalLines (body ++ lineFeed :: left) = (body ++ [lineFeed]) :: physicalLines left := by
  induction body with
  | nil => exact consByte_lineFeed (physicalLines left)
  | cons byte rest ih =>
      rw [List.cons_append, physicalLines_cons, ih (List.not_mem_of_not_mem_cons unfed),
        consByte_cons (List.ne_of_not_mem_cons unfed).symm]
      rfl

theorem physicalLines_of_unfed {body : List UInt8} (unfed : lineFeed ∉ body) (present : body ≠ []) :
    physicalLines body = [body] := by
  induction body with
  | nil => exact absurd rfl present
  | cons byte rest ih =>
      rw [physicalLines_cons]
      cases rest with
      | nil => exact consByte_nil byte
      | cons next others =>
          rw [ih (List.not_mem_of_not_mem_cons unfed) (List.cons_ne_nil next others),
            consByte_cons (List.ne_of_not_mem_cons unfed).symm]

/-! ## 3. Lines put together -/

theorem foldl_push_of_unfed {body : List UInt8} (unfed : lineFeed ∉ body) (assembly : Assembly) :
    body.foldl Assembly.push assembly =
      ⟨assembly.found, assembly.line, body.reverse ++ assembly.pending⟩ := by
  induction body generalizing assembly with
  | nil => rfl
  | cons byte rest ih =>
      rw [List.foldl_cons, Assembly.push, if_neg (List.ne_of_not_mem_cons unfed).symm,
        ih (List.not_mem_of_not_mem_cons unfed), List.reverse_cons, List.append_assoc]
      rfl

/-- A line feed completes the line at hand. -/
theorem foldl_push_of_fed {body : List UInt8} (unfed : lineFeed ∉ body) (left : List UInt8)
    (assembly : Assembly) :
    (body ++ lineFeed :: left).foldl Assembly.push assembly =
      left.foldl Assembly.push
        ⟨Item.ofLine assembly.line (assembly.pending.reverse ++ (body ++ [lineFeed])) ::
          assembly.found, assembly.line + 1, []⟩ := by
  rw [List.foldl_append, foldl_push_of_unfed unfed, List.foldl_cons, Assembly.push, if_pos rfl,
    Assembly.completeLine, List.reverse_cons, List.reverse_append, List.reverse_reverse,
    List.append_assoc]

/-- Bytes put together are the lines that they form behind the bytes of the line at hand. -/
theorem close_foldl_push (bytes : List UInt8) {assembly : Assembly}
    (unfed : lineFeed ∉ assembly.pending) :
    (bytes.foldl Assembly.push assembly).close =
      assembly.found.reverse ++
        Item.ofLines assembly.line (physicalLines (assembly.pending.reverse ++ bytes)) := by
  obtain ⟨found, number, pending⟩ := assembly
  -- Each line leaves fewer bytes, and the line after it starts without a byte at hand.
  induction bytes generalizing found number pending with
  | nil =>
      rw [List.append_nil, List.foldl_nil, Assembly.close]
      cases pending with
      | nil => exact (List.append_nil _).symm
      | cons byte rest =>
          have reversed : lineFeed ∉ (byte :: rest).reverse := by
            rwa [List.mem_reverse]
          rw [physicalLines_of_unfed reversed (by simp)]
          exact List.reverse_cons
  | cons byte rest ih =>
      rw [List.foldl_cons, Assembly.push]
      split
      · next fed =>
          subst fed
          have reversed : lineFeed ∉ pending.reverse := by
            rwa [List.mem_reverse]
          rw [physicalLines_of_fed reversed, Item.ofLines_cons, Assembly.completeLine,
            ih _ _ _ List.not_mem_nil, List.reverse_cons, List.reverse_cons, List.append_assoc]
          rfl
      · next other =>
          have longer : lineFeed ∉ byte :: pending :=
            List.not_mem_cons_of_ne_of_not_mem (Ne.symm other) unfed
          rw [ih _ _ _ longer, List.reverse_cons, List.append_assoc]
          rfl

theorem mappedItems_eq (bytes : List UInt8) :
    mappedItems bytes = (bytes.foldl Assembly.push .empty).close := by
  have unfed : lineFeed ∉ Assembly.empty.pending := List.not_mem_nil
  exact (close_foldl_push bytes unfed).symm

/-! ## 4. Fills -/

theorem flatten_chopFrom (size room : Nat) (chunk : List UInt8) (done : List (List UInt8))
    (bytes : List UInt8) :
    (chopFrom size room chunk done bytes).flatten =
      done.reverse.flatten ++ (chunk.reverse ++ bytes) := by
  induction bytes generalizing room chunk done with
  | nil =>
      rw [chopFrom, List.append_nil]
      split
      · next empty =>
          rw [List.isEmpty_iff.1 empty]
          exact (List.append_nil _).symm
      · rw [List.reverse_cons, List.flatten_append, List.flatten_singleton]
  | cons byte rest ih =>
      cases room with
      | zero =>
          rw [chopFrom, ih, List.reverse_cons, List.flatten_append, List.flatten_singleton,
            List.append_assoc]
          rfl
      | succ room =>
          rw [chopFrom, ih, List.reverse_cons, List.append_assoc]
          rfl

/-- A delivery that goes on fills a buffer that has room with nothing but its bytes. -/
theorem chunks_of_fills {size : Nat} (room : 0 < size) {steps : List ReadStep}
    (goesOn : ∀ step ∈ steps, step.goesOn = true) :
    ∃ chunks : List (List UInt8), fills size steps = chunks.map Fill.chunk ∧
      chunks.flatten = delivered steps := by
  induction steps with
  | nil => exact ⟨[], rfl, rfl⟩
  | cons step rest ih =>
      obtain ⟨here, later⟩ := List.forall_mem_cons.1 goesOn
      obtain ⟨chunks, filled, same⟩ := ih later
      rw [fills] at filled
      rw [delivered] at same
      rw [fills, delivered, List.flatMap_cons, List.flatMap_cons, filled, ← same]
      cases step with
      | bytes bytes =>
          have some : ¬ (size = 0 ∨ bytes = []) := by
            rintro (none | rfl)
            · omega
            · cases here
          refine ⟨chop size bytes ++ chunks, ?_, ?_⟩
          · rw [fillsOfStep, if_neg some, List.map_append]
          · rw [List.flatten_append, chop, flatten_chopFrom]
            rfl
      | interrupted => exact ⟨chunks, rfl, rfl⟩
      | failure cause => cases here

/-! ## 5. Deliveries -/

/-- Chunks, and then the end of the input again and again. -/
theorem read_chunks (chunks : List (List UInt8)) (ends : Nat) (assembly : Assembly) :
    assembly.read (chunks.map Fill.chunk ++ List.replicate ends .endOfInput) =
      (chunks.flatten.foldl Assembly.push assembly).close := by
  induction chunks generalizing assembly with
  | nil =>
      induction ends generalizing assembly with
      | zero => rfl
      | succ ends ih =>
          rw [List.map_nil, List.nil_append, List.replicate_succ, Assembly.read]
          split
          · rfl
          · next some =>
              exact (ih assembly.completeLine).trans (by
                rw [List.flatten_nil, List.foldl_nil, List.foldl_nil, Assembly.close,
                  Assembly.close, if_neg some]
                rfl)
  | cons chunk rest ih =>
      rw [List.map_cons, List.cons_append, Assembly.read, ih, List.flatten_cons, List.foldl_append]

/-- After the end of the input, reads bring only the end again. -/
theorem ends_of_fills (size : Nat) {steps : List ReadStep}
    (ended : ∀ step ∈ steps, step = .bytes [] ∨ step = .interrupted) :
    ∃ ends, fills size steps = List.replicate ends .endOfInput := by
  induction steps with
  | nil => exact ⟨0, rfl⟩
  | cons step rest ih =>
      obtain ⟨here, later⟩ := List.forall_mem_cons.1 ended
      obtain ⟨ends, filled⟩ := ih later
      rw [fills] at filled
      rw [fills, List.flatMap_cons, filled]
      rcases here with rfl | rfl
      · refine ⟨ends + 1, ?_⟩
        rw [fillsOfStep, if_pos (.inr rfl), List.replicate_succ]
        rfl
      · exact ⟨ends, rfl⟩

/-- Whatever the sizes of buffer and reads, the items are those of the bytes delivered. -/
theorem bufferedItems_of_goesOn {size : Nat} (room : 0 < size) {steps rest : List ReadStep}
    (goesOn : ∀ step ∈ steps, step.goesOn = true)
    (ended : ∀ step ∈ rest, step = .bytes [] ∨ step = .interrupted) :
    bufferedItems size (steps ++ rest) = mappedItems (delivered steps) := by
  obtain ⟨chunks, filled, same⟩ := chunks_of_fills room goesOn
  obtain ⟨ends, quiet⟩ := ends_of_fills size ended
  rw [bufferedItems, mappedItems_eq, fills, List.flatMap_append, ← fills, ← fills, filled, quiet,
    read_chunks, same]

end SentenceSpans.Input
