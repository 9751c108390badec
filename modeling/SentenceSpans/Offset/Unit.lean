/-!
# Offset units

An offset counts the characters before a place, the UTF-16 units they take, or the bytes they take
in UTF-8.

## Main statement

`measure_append`: the size of a text is the sum of the sizes of its parts, in every unit.
-/

namespace SentenceSpans

inductive OffsetUnit where
  /-- Unicode scalar values. -/
  | char
  /-- UTF-16 code units; characters outside the basic plane count twice. -/
  | utf16
  /-- UTF-8 bytes. -/
  | byte
deriving DecidableEq, Repr

namespace OffsetUnit

def name : OffsetUnit → String
  | char => "char"
  | utf16 => "utf16"
  | byte => "byte"

def width : OffsetUnit → Char → Nat
  | char, _ => 1
  | utf16, c => if c.toNat < 0x10000 then 1 else 2
  | byte, c => c.utf8Size

def measure (unit : OffsetUnit) (text : List Char) : Nat :=
  text.foldr (fun c size => unit.width c + size) 0

theorem measure_nil (unit : OffsetUnit) : unit.measure [] = 0 := rfl

theorem measure_cons (unit : OffsetUnit) (c : Char) (text : List Char) :
    unit.measure (c :: text) = unit.width c + unit.measure text := rfl

theorem measure_append (unit : OffsetUnit) (front back : List Char) :
    unit.measure (front ++ back) = unit.measure front + unit.measure back := by
  induction front with
  | nil => rw [List.nil_append, measure_nil, Nat.zero_add]
  | cons c rest ih => rw [List.cons_append, measure_cons, measure_cons, ih, Nat.add_assoc]

/-- No character is empty, in any unit. -/
theorem width_pos (unit : OffsetUnit) (c : Char) : 0 < unit.width c := by
  cases unit with
  | char => exact Nat.one_pos
  | utf16 =>
      rw [width]
      split
      · exact Nat.one_pos
      · exact Nat.two_pos
  | byte => exact Char.utf8Size_pos c

theorem measure_eq_zero_iff {unit : OffsetUnit} {text : List Char} :
    unit.measure text = 0 ↔ text = [] := by
  cases text with
  | nil => simp [measure_nil]
  | cons c rest =>
      have := width_pos unit c
      rw [measure_cons]
      constructor
      · intro zero
        omega
      · intro empty
        cases empty

end OffsetUnit

/-- The number of bytes a text takes in UTF-8. -/
abbrev byteLength (text : List Char) : Nat := OffsetUnit.byte.measure text

theorem byteLength_cons (c : Char) (rest : List Char) :
    byteLength (c :: rest) = c.utf8Size + byteLength rest := rfl

end SentenceSpans
