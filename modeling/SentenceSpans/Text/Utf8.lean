/-!
# UTF-8

Decoding is a state machine over single bytes.  Between characters it waits for a leading byte;
inside a sequence it waits for a continuation byte within bounds that the leading byte sets, which
rules out overlong forms, surrogates and values above U+10FFFF.

## Contents

  * `decode`: the text of a byte list, or the place where it stops being UTF-8.
  * `decodeLossy`: the text of any byte list, with a replacement mark for each malformed part.
  * `encode`: the bytes of a text.
-/

namespace SentenceSpans.Utf8

/-! ## The state machine -/

/-- A sequence that lacks continuation bytes. -/
structure Pending where
  /-- How many continuation bytes follow the next one. -/
  further : Nat
  /-- The least and the greatest continuation byte allowed next. -/
  low : Nat
  high : Nat
  /-- The bits gathered so far. -/
  value : Nat
  /-- How many bytes of the sequence have been read. -/
  seen : Nat
deriving DecidableEq, Repr

inductive Step where
  /-- The byte completes a character. -/
  | emit (c : Char)
  /-- The byte belongs to a sequence that needs more bytes. -/
  | await (pending : Pending)
  /-- No well-formed sequence has this byte here. -/
  | refuse
deriving DecidableEq, Repr

/-- Read the first byte of a sequence. -/
def lead (byte : UInt8) : Step :=
  let n := byte.toNat
  if n < 0x80 then .emit (Char.ofNat n)
  else if n < 0xC2 then .refuse
  else if n < 0xE0 then .await ⟨0, 0x80, 0xBF, n - 0xC0, 1⟩
  else if n < 0xF0 then
    .await ⟨1, if n = 0xE0 then 0xA0 else 0x80, if n = 0xED then 0x9F else 0xBF, n - 0xE0, 1⟩
  else if n < 0xF5 then
    .await ⟨2, if n = 0xF0 then 0x90 else 0x80, if n = 0xF4 then 0x8F else 0xBF, n - 0xF0, 1⟩
  else .refuse

/-- Read a continuation byte, which carries six bits. -/
def Pending.resume (pending : Pending) (byte : UInt8) : Step :=
  let n := byte.toNat
  if pending.low ≤ n ∧ n ≤ pending.high then
    let value := pending.value * 64 + (n - 0x80)
    match pending.further with
    | 0 => .emit (Char.ofNat value)
    | further + 1 => .await ⟨further, 0x80, 0xBF, value, pending.seen + 1⟩
  else .refuse

/-- Read a byte in either state: between characters (`none`) or inside a sequence. -/
def step : Option Pending → UInt8 → Step
  | none, byte => lead byte
  | some pending, byte => pending.resume byte

/-- How many bytes of an open sequence have been read. -/
def seen : Option Pending → Nat
  | none => 0
  | some pending => pending.seen

/-! ## Strict decoding -/

/-- Where a byte list stops being UTF-8. -/
structure Malformed where
  /-- The index of the first byte that belongs to no well-formed sequence. -/
  validUpTo : Nat
  /-- The length of the malformed part, or `none` when the bytes end inside a sequence. -/
  errorLength : Option Nat
deriving DecidableEq, Repr

def Malformed.message (malformed : Malformed) : String :=
  match malformed.errorLength with
  | some length =>
      "invalid utf-8 sequence of " ++ Nat.repr length ++ " bytes from index " ++
        Nat.repr malformed.validUpTo
  | none => "incomplete utf-8 byte sequence from index " ++ Nat.repr malformed.validUpTo

/-- Decode the remaining bytes, where `start` is the index at which the open sequence, or the next
character, starts and `done` holds the characters before it, latest first.

A refused byte ends a malformed part that holds the bytes of the open sequence before it, and that
byte alone when no sequence is open. -/
def decodeFrom (start : Nat) (pending : Option Pending) (done : List Char) :
    List UInt8 → Except Malformed (List Char)
  | [] =>
      match pending with
      | none => .ok done.reverse
      | some _ => .error ⟨start, none⟩
  | byte :: rest =>
      match step pending byte with
      | .emit c => decodeFrom (start + seen pending + 1) none (c :: done) rest
      | .await next => decodeFrom start (some next) done rest
      | .refuse => .error ⟨start, some (max 1 (seen pending))⟩

def decode (bytes : List UInt8) : Except Malformed (List Char) :=
  decodeFrom 0 none [] bytes

/-! ## Lossy decoding -/

def replacement : Char := '\uFFFD'

/-- A refused continuation byte closes the open sequence with one mark and is read afresh. -/
def decodeLossyFrom (pending : Option Pending) (done : List Char) : List UInt8 → List Char
  | [] =>
      match pending with
      | none => done.reverse
      | some _ => (replacement :: done).reverse
  | byte :: rest =>
      match step pending byte with
      | .emit c => decodeLossyFrom none (c :: done) rest
      | .await next => decodeLossyFrom (some next) done rest
      | .refuse =>
          match pending, lead byte with
          | none, _ => decodeLossyFrom none (replacement :: done) rest
          | some _, .emit c => decodeLossyFrom none (c :: replacement :: done) rest
          | some _, .await next => decodeLossyFrom (some next) (replacement :: done) rest
          | some _, .refuse => decodeLossyFrom none (replacement :: replacement :: done) rest

/-- The characters of a byte list, each malformed part shown as one replacement mark. -/
def decodeLossy (bytes : List UInt8) : List Char :=
  decodeLossyFrom none [] bytes

/-! ## Encoding -/

def encode (text : String) : List UInt8 :=
  text.toUTF8.toList

example : decode [0x66, 0xFF] = .error ⟨1, some 1⟩ := rfl
example : decode [0xF0, 0x9F, 0x98, 0x80] = .ok ['😀'] := rfl
example : decode [0xF0, 0x9F, 0x98] = .error ⟨0, none⟩ := rfl
example : decode [0x61, 0xE2, 0x82, 0x28] = .error ⟨1, some 2⟩ := rfl
example : decodeLossy [0x61, 0xE2, 0x82, 0x28, 0xF0] = ['a', '\uFFFD', '(', '\uFFFD'] := by decide

end SentenceSpans.Utf8
