import SentenceSpans.Text.Utf8

/-!
# Decoding and encoding

A byte list decodes to a text exactly when it is the encoding of that text.  Otherwise decoding
stops at the end of the longest prefix that is UTF-8, and no bytes behind move that place, unless
the given ones end inside a sequence and the next one carries it on.

Results:
1. `encode_ofList`: the bytes of a text, character by character; `utf8EncodeChar_of_one` to
   `utf8EncodeChar_of_four`: the bytes of a character.
2. `lead_cases`: what a first byte leads to.
3. `decodeFrom_encoded`: the bytes of characters are read as these characters.
4. `stands_of_await` and `encoded_of_emit`: the bytes read of a sequence, and of its character.
5. `decode_eq_ok_iff` and `isUtf8_iff`: what can be decoded; `decodeFrom_ascii`: ASCII can.
6. `decode_append` and `validUpTo_append`: decoding goes on behind a text, and stays where it
   stopped.
7. `stopsAt_validUpTo`: where decoding stops.
-/

namespace SentenceSpans.Utf8

/-! ## Definitions -/

/-- Bytes that are the encoding of some text. -/
def IsUtf8 (bytes : List UInt8) : Prop := ∃ text : String, encode text = bytes

/-- The first `place` bytes, and no more than these, are UTF-8. -/
structure StopsAt (bytes : List UInt8) (place : Nat) : Prop where
  le : place ≤ bytes.length
  valid : IsUtf8 (bytes.take place)
  longest : ∀ longer, place < longer → longer ≤ bytes.length → ¬ IsUtf8 (bytes.take longer)

/-- The continuation byte for the last six bits of a number. -/
def continuation (bits : Nat) : UInt8 := .ofNat (bits % 64 + 0x80)

/-- A code without its last groups of six bits. -/
def leading (code : Nat) : Nat → Nat
  | 0 => code
  | groups + 1 => leading code groups / 64

/-- The last continuation bytes of a code, one more than `further`. -/
def continuations (code : Nat) : Nat → List UInt8
  | 0 => [continuation code]
  | further + 1 => continuation (leading code (further + 1)) :: continuations code further

/-- The bits gathered so far are the first ones of a code, and the bits of the next continuation
byte are within bounds. -/
structure Pending.Opens (pending : Pending) (code : Nat) : Prop where
  value : leading code (pending.further + 1) = pending.value
  low : pending.low ≤ leading code pending.further % 64 + 0x80
  high : leading code pending.further % 64 + 0x80 ≤ pending.high

/-- The bytes read of an open sequence: each code that it opens is encoded by them and by the
continuation bytes to come. -/
structure Pending.Continues (pending : Pending) (read : List UInt8) : Prop where
  seen : pending.seen = read.length
  low : 0x80 ≤ pending.low
  high : pending.high ≤ 0xBF
  encoded : ∀ code, pending.Opens code →
    String.utf8EncodeChar (.ofNat code) = read ++ continuations code pending.further

/-- The bytes read since the last character. -/
def Stands : Option Pending → List UInt8 → Prop
  | none, read => read = []
  | some pending, read => pending.Continues read

/-- The outcome of decoding when `count` bytes stand in front that hold the given characters. -/
def behind (count : Nat) (text : List Char) :
    Except Malformed (List Char) → Except Malformed (List Char)
  | .ok later => .ok (text ++ later)
  | .error malformed => .error ⟨count + malformed.validUpTo, malformed.errorLength⟩

/-! ## 1. The bytes of a text -/

theorem toList_loop (bytes : ByteArray) (i : Nat) (done : List UInt8) :
    ByteArray.toList.loop bytes i done = done.reverse ++ bytes.data.toList.drop i := by
  fun_induction ByteArray.toList.loop bytes i done with
  | case1 i done more ih =>
      have inside : i < bytes.data.toList.length := more
      rw [ih, List.reverse_cons, List.append_assoc, List.drop_eq_getElem_cons inside]
      have same : bytes.get! i = bytes.data.toList[i] := by
        rw [Array.getElem_toList]
        exact getElem!_pos bytes.data i more
      rw [same]
      rfl
  | case2 i done all =>
      have past : bytes.data.toList.length ≤ i := Nat.le_of_not_lt all
      rw [List.drop_eq_nil_of_le past, List.append_nil]

theorem encode_ofList (text : List Char) :
    encode (String.ofList text) = text.flatMap String.utf8EncodeChar := by
  have bytes : (String.ofList text).toUTF8 = (text.flatMap String.utf8EncodeChar).toByteArray := rfl
  rw [encode, bytes, ByteArray.toList, toList_loop, List.toList_data_toByteArray]
  rfl

/-- A code in the range of characters is that of its character. -/
theorem toNat_ofNat_of_valid {code : Nat}
    (valid : code < 0xD800 ∨ 0xDFFF < code ∧ code < 0x110000) :
    (Char.ofNat code).val.toNat = code := by
  have valid : code.isValidChar := valid
  rw [Char.ofNat, dif_pos valid]
  rfl

theorem utf8EncodeChar_of_one {code : Nat} (below : code < 0x80) :
    String.utf8EncodeChar (.ofNat code) = [.ofNat code] := by
  unfold String.utf8EncodeChar
  rw [toNat_ofNat_of_valid (by omega), if_pos (by omega)]

theorem utf8EncodeChar_of_two {code : Nat} (above : 0x80 ≤ code) (below : code < 0x800) :
    String.utf8EncodeChar (.ofNat code) = .ofNat (code / 64 + 0xC0) :: continuations code 0 := by
  have bits : code / 64 % 0x20 = code / 64 := by omega
  unfold String.utf8EncodeChar
  rw [toNat_ofNat_of_valid (by omega), if_neg (by omega), if_pos (by omega), bits]
  rfl

theorem utf8EncodeChar_of_three {code : Nat} (above : 0x800 ≤ code) (below : code < 0x10000)
    (valid : code < 0xD800 ∨ 0xDFFF < code) :
    String.utf8EncodeChar (.ofNat code) = .ofNat (code / 4096 + 0xE0) :: continuations code 1 := by
  have bits : code / 4096 % 0x10 = code / 4096 := by omega
  unfold String.utf8EncodeChar
  rw [toNat_ofNat_of_valid (by omega), if_neg (by omega), if_neg (by omega), if_pos (by omega),
    bits]
  rfl

theorem utf8EncodeChar_of_four {code : Nat} (above : 0x10000 ≤ code) (below : code < 0x110000) :
    String.utf8EncodeChar (.ofNat code) =
      .ofNat (code / 262144 + 0xF0) :: continuations code 2 := by
  have bits : code / 262144 % 0x08 = code / 262144 := by omega
  have twice : code / 4096 = code / 64 / 64 := by omega
  unfold String.utf8EncodeChar
  rw [toNat_ofNat_of_valid (by omega), if_neg (by omega), if_neg (by omega), if_neg (by omega),
    bits, twice]
  rfl

/-! ## 2. First bytes -/

theorem lead_of_one {byte : UInt8} (ascii : byte.toNat < 0x80) :
    lead byte = .emit (.ofNat byte.toNat) :=
  if_pos ascii

theorem lead_of_two {byte : UInt8} (above : 0xC2 ≤ byte.toNat) (below : byte.toNat < 0xE0) :
    lead byte = .await ⟨0, 0x80, 0xBF, byte.toNat - 0xC0, 1⟩ := by
  dsimp only [lead]
  rw [if_neg (by omega), if_neg (by omega), if_pos below]

theorem lead_of_three {byte : UInt8} (above : 0xE0 ≤ byte.toNat) (below : byte.toNat < 0xF0) :
    lead byte = .await ⟨1, if byte.toNat = 0xE0 then 0xA0 else 0x80,
      if byte.toNat = 0xED then 0x9F else 0xBF, byte.toNat - 0xE0, 1⟩ := by
  dsimp only [lead]
  rw [if_neg (by omega), if_neg (by omega), if_neg (by omega), if_pos below]

theorem lead_of_four {byte : UInt8} (above : 0xF0 ≤ byte.toNat) (below : byte.toNat < 0xF5) :
    lead byte = .await ⟨2, if byte.toNat = 0xF0 then 0x90 else 0x80,
      if byte.toNat = 0xF4 then 0x8F else 0xBF, byte.toNat - 0xF0, 1⟩ := by
  dsimp only [lead]
  rw [if_neg (by omega), if_neg (by omega), if_neg (by omega), if_neg (by omega), if_pos below]

theorem lead_cases (byte : UInt8) :
    byte.toNat < 0x80 ∨ (0xC2 ≤ byte.toNat ∧ byte.toNat < 0xE0) ∨
      (0xE0 ≤ byte.toNat ∧ byte.toNat < 0xF0) ∨ (0xF0 ≤ byte.toNat ∧ byte.toNat < 0xF5) ∨
      lead byte = .refuse := by
  by_cases refused : lead byte = .refuse
  · exact .inr (.inr (.inr (.inr refused)))
  · dsimp only [lead] at refused
    grind

/-! ## 3. From characters to bytes -/

theorem toNat_continuation (bits : Nat) : (continuation bits).toNat = bits % 64 + 0x80 := by
  rw [continuation, UInt8.toNat_ofNat']
  omega

/-- A code that a sequence opens goes on with its next six bits. -/
theorem resume_of_opens {pending : Pending} {code : Nat} (opens : pending.Opens code) :
    pending.resume (continuation (leading code pending.further)) =
      match pending.further with
      | 0 => .emit (.ofNat code)
      | further + 1 =>
          .await ⟨further, 0x80, 0xBF, leading code (further + 1), pending.seen + 1⟩ := by
  obtain ⟨further, low, high, value, seen⟩ := pending
  obtain ⟨same, above, below⟩ := opens
  dsimp only [leading] at same above below
  have gathered :
      value * 64 + (leading code further % 64 + 0x80 - 0x80) = leading code further := by
    omega
  dsimp only [Pending.resume]
  rw [toNat_continuation, if_pos ⟨above, below⟩, gathered]
  cases further with
  | zero => rfl
  | succ further => rfl

/-- The continuation bytes of a code complete a sequence that it opens. -/
theorem decodeFrom_continuations {pending : Pending} {code : Nat} (opens : pending.Opens code)
    (start : Nat) (done : List Char) (rest : List UInt8) :
    decodeFrom start (some pending) done (continuations code pending.further ++ rest) =
      decodeFrom (start + pending.seen + pending.further + 1) none (.ofNat code :: done) rest := by
  obtain ⟨further, low, high, value, seen⟩ := pending
  induction further generalizing low high value seen with
  | zero =>
      have resumed := resume_of_opens opens
      dsimp only [leading] at resumed
      rw [continuations, List.singleton_append, decodeFrom, step, resumed]
      rfl
  | succ further ih =>
      have resumed := resume_of_opens opens
      dsimp only at resumed
      rw [continuations, List.cons_append, decodeFrom, step, resumed]
      have bits : leading code further % 64 < 64 := Nat.mod_lt _ (by decide)
      have next : Pending.Opens ⟨further, 0x80, 0xBF, leading code (further + 1), seen + 1⟩ code :=
        ⟨rfl, by dsimp only; omega, by dsimp only; omega⟩
      refine (ih _ _ _ _ next).trans ?_
      congr 1
      dsimp only
      omega

theorem toNat_ofNat_of_lt {n : Nat} (small : n < 256) : (UInt8.ofNat n).toNat = n := by
  rw [UInt8.toNat_ofNat', Nat.mod_eq_of_lt small]

/-- The first byte of a character of several bytes opens a sequence for its code. -/
theorem exists_lead {code : Nat} (valid : code < 0xD800 ∨ 0xDFFF < code ∧ code < 0x110000)
    (wide : 0x80 ≤ code) :
    ∃ byte pending, lead byte = .await pending ∧ pending.Opens code ∧
      String.utf8EncodeChar (.ofNat code) = byte :: continuations code pending.further := by
  by_cases two : code < 0x800
  · have first : (UInt8.ofNat (code / 64 + 0xC0)).toNat = code / 64 + 0xC0 :=
      toNat_ofNat_of_lt (by omega)
    refine ⟨_, _, lead_of_two (by omega) (by omega), ?_, utf8EncodeChar_of_two wide two⟩
    constructor <;> dsimp only [leading] <;> omega
  · by_cases three : code < 0x10000
    · have first : (UInt8.ofNat (code / 4096 + 0xE0)).toNat = code / 4096 + 0xE0 :=
        toNat_ofNat_of_lt (by omega)
      refine ⟨_, _, lead_of_three (by omega) (by omega), ?_,
        utf8EncodeChar_of_three (by omega) three (by omega)⟩
      constructor <;> dsimp only [leading] <;> (try split) <;> omega
    · have first : (UInt8.ofNat (code / 262144 + 0xF0)).toNat = code / 262144 + 0xF0 :=
        toNat_ofNat_of_lt (by omega)
      refine ⟨_, _, lead_of_four (by omega) (by omega), ?_,
        utf8EncodeChar_of_four (by omega) (by omega)⟩
      constructor <;> dsimp only [leading] <;> (try split) <;> omega

/-- The bytes of a character are read as this character. -/
theorem decodeFrom_character (c : Char) (start : Nat) (done : List Char) (rest : List UInt8) :
    ∃ later, decodeFrom start none done (String.utf8EncodeChar c ++ rest) =
      decodeFrom later none (c :: done) rest := by
  obtain ⟨code, valid, rfl⟩ : ∃ code,
      (code < 0xD800 ∨ 0xDFFF < code ∧ code < 0x110000) ∧ c = .ofNat code :=
    ⟨c.toNat, c.valid, (Char.ofNat_toNat c).symm⟩
  by_cases ascii : code < 0x80
  · have first : (UInt8.ofNat code).toNat = code := toNat_ofNat_of_lt (by omega)
    refine ⟨start + 0 + 1, ?_⟩
    rw [utf8EncodeChar_of_one ascii, List.singleton_append, decodeFrom, step,
      lead_of_one (by omega), first]
    rfl
  · obtain ⟨byte, pending, opened, opens, encoded⟩ := exists_lead valid (Nat.le_of_not_lt ascii)
    refine ⟨start + pending.seen + pending.further + 1, ?_⟩
    rw [encoded, List.cons_append, decodeFrom, step, opened]
    exact decodeFrom_continuations opens start done rest

theorem decodeFrom_encoded (text : List Char) (start : Nat) (done : List Char) :
    decodeFrom start none done (text.flatMap String.utf8EncodeChar) =
      .ok (done.reverse ++ text) := by
  induction text generalizing start done with
  | nil => exact congrArg Except.ok (List.append_nil _).symm
  | cons c rest ih =>
      obtain ⟨later, read⟩ :=
        decodeFrom_character c start done (rest.flatMap String.utf8EncodeChar)
      rw [List.flatMap_cons, read, ih, List.reverse_cons, List.append_assoc]
      rfl

/-! ## 4. From bytes to characters -/

/-- The codes that a first byte opens are encoded with this byte. -/
theorem continues_lead {byte : UInt8} {pending : Pending} (opened : lead byte = .await pending) :
    pending.Continues [byte] := by
  have same : UInt8.ofNat byte.toNat = byte := UInt8.ofNat_toNat
  -- The bounds of the second byte leave out codes that take fewer bytes, and those of no character.
  rcases lead_cases byte with one | ⟨above, below⟩ | ⟨above, below⟩ | ⟨above, below⟩ | refused
  · rw [lead_of_one one] at opened
    cases opened
  · rw [lead_of_two above below] at opened
    cases opened
    refine ⟨rfl, Nat.le_refl _, Nat.le_refl _, ?_⟩
    rintro code ⟨value, low, high⟩
    dsimp only [leading] at value low high
    have first : code / 64 + 0xC0 = byte.toNat := by omega
    rw [utf8EncodeChar_of_two (by omega) (by omega), first, same]
    rfl
  · rw [lead_of_three above below] at opened
    cases opened
    refine ⟨rfl, by dsimp only; split <;> omega, by dsimp only; split <;> omega, ?_⟩
    rintro code ⟨value, low, high⟩
    dsimp only [leading] at value low high
    have wide : 0x800 ≤ code := by
      split at low <;> omega
    have valid : code < 0xD800 ∨ 0xDFFF < code := by
      split at high <;> omega
    have first : code / 4096 + 0xE0 = byte.toNat := by omega
    rw [utf8EncodeChar_of_three wide (by omega) valid, first, same]
    rfl
  · rw [lead_of_four above below] at opened
    cases opened
    refine ⟨rfl, by dsimp only; split <;> omega, by dsimp only; split <;> omega, ?_⟩
    rintro code ⟨value, low, high⟩
    dsimp only [leading] at value low high
    have wide : 0x10000 ≤ code := by
      split at low <;> omega
    have valid : code < 0x110000 := by
      split at high <;> omega
    have first : code / 262144 + 0xF0 = byte.toNat := by omega
    rw [utf8EncodeChar_of_four wide valid, first, same]
    rfl
  · rw [refused] at opened
    cases opened

/-- The codes that a sequence opens once a byte was read are codes that it opened before, with this
byte next. -/
theorem continues_resume {pending next : Pending} {read : List UInt8} {byte : UInt8}
    (continues : pending.Continues read) (opened : pending.resume byte = .await next) :
    next.Continues (read ++ [byte]) := by
  obtain ⟨further, low, high, value, seen⟩ := pending
  obtain ⟨counted, above, below, encoded⟩ := continues
  dsimp only [Pending.resume] at counted above below encoded opened
  split at opened
  · next inside =>
      cases further with
      | zero => cases opened
      | succ further =>
          cases opened
          refine ⟨by rw [List.length_append, counted]; rfl, Nat.le_refl _, Nat.le_refl _, ?_⟩
          rintro code ⟨same, _, _⟩
          dsimp only at same
          have outer : leading code (further + 1 + 1) = leading code (further + 1) / 64 := rfl
          have opens : Pending.Opens ⟨further + 1, low, high, value, seen⟩ code := by
            constructor <;> dsimp only <;> omega
          have bits : continuation (leading code (further + 1)) = byte := by
            rw [← UInt8.toNat_inj, toNat_continuation]
            omega
          rw [encoded code opens, continuations, bits, List.append_assoc]
          rfl
  · cases opened

/-- The last byte of a sequence completes a character, which is encoded by the bytes read. -/
theorem encoded_of_resume {pending : Pending} {read : List UInt8} {byte : UInt8} {c : Char}
    (continues : pending.Continues read) (completed : pending.resume byte = .emit c) :
    String.utf8EncodeChar c = read ++ [byte] := by
  obtain ⟨further, low, high, value, seen⟩ := pending
  obtain ⟨_, above, below, encoded⟩ := continues
  dsimp only [Pending.resume] at above below encoded completed
  split at completed
  · next inside =>
      cases further with
      | succ further => cases completed
      | zero =>
          obtain ⟨code, same⟩ : ∃ code, code = value * 64 + (byte.toNat - 0x80) := ⟨_, rfl⟩
          have opens : Pending.Opens ⟨0, low, high, value, seen⟩ code := by
            constructor <;> dsimp only [leading] <;> omega
          have bits : continuation code = byte := by
            rw [← UInt8.toNat_inj, toNat_continuation]
            omega
          rw [← Step.emit.inj completed, ← same, encoded code opens, continuations, bits]
  · cases completed

theorem stands_nil : Stands none [] := rfl

theorem seen_of_stands {state : Option Pending} {read : List UInt8} (stands : Stands state read) :
    seen state = read.length := by
  cases state with
  | none =>
      cases stands
      rfl
  | some pending => exact Pending.Continues.seen stands

theorem stands_of_await {state : Option Pending} {read : List UInt8} {byte : UInt8}
    {next : Pending} (stands : Stands state read) (opened : step state byte = .await next) :
    Stands (some next) (read ++ [byte]) := by
  cases state with
  | none =>
      cases stands
      exact continues_lead opened
  | some pending => exact continues_resume stands opened

theorem encoded_of_emit {state : Option Pending} {read : List UInt8} {byte : UInt8} {c : Char}
    (stands : Stands state read) (completed : step state byte = .emit c) :
    String.utf8EncodeChar c = read ++ [byte] := by
  cases state with
  | some pending => exact encoded_of_resume stands completed
  | none =>
      cases stands
      have completed : lead byte = .emit c := completed
      rcases lead_cases byte with one | ⟨above, below⟩ | ⟨above, below⟩ | ⟨above, below⟩ | refused
      · rw [lead_of_one one] at completed
        rw [← Step.emit.inj completed, utf8EncodeChar_of_one one, UInt8.ofNat_toNat]
        rfl
      · rw [lead_of_two above below] at completed
        cases completed
      · rw [lead_of_three above below] at completed
        cases completed
      · rw [lead_of_four above below] at completed
        cases completed
      · rw [refused] at completed
        cases completed

theorem encoded_of_decodeFrom {start : Nat} {state : Option Pending} {done text : List Char}
    {read bytes : List UInt8} (stands : Stands state read)
    (decoded : decodeFrom start state done bytes = .ok text) :
    ∃ later, text = done.reverse ++ later ∧
      read ++ bytes = later.flatMap String.utf8EncodeChar := by
  fun_induction decodeFrom start state done bytes generalizing read with
  | case1 start done =>
      cases stands
      cases decoded
      exact ⟨[], (List.append_nil _).symm, rfl⟩
  | case2 start done pending => cases decoded
  | case3 start state done byte rest c completed ih =>
      obtain ⟨later, rfl, encoded⟩ := ih rfl decoded
      refine ⟨c :: later, by rw [List.reverse_cons, List.append_assoc]; rfl, ?_⟩
      rw [List.nil_append] at encoded
      rw [List.flatMap_cons, encoded_of_emit stands completed, ← encoded, List.append_assoc]
      rfl
  | case4 start state done byte rest next opened ih =>
      obtain ⟨later, same, encoded⟩ := ih (stands_of_await stands opened) decoded
      exact ⟨later, same, by rw [← encoded, List.append_assoc]; rfl⟩
  | case5 start state done byte rest refused => cases decoded

/-! ## 5. What can be decoded -/

theorem decode_eq_ok_iff {bytes : List UInt8} {text : List Char} :
    decode bytes = .ok text ↔ encode (String.ofList text) = bytes := by
  rw [encode_ofList]
  constructor
  · intro decoded
    obtain ⟨later, rfl, encoded⟩ := encoded_of_decodeFrom stands_nil decoded
    exact encoded.symm
  · rintro rfl
    exact decodeFrom_encoded text 0 []

theorem isUtf8_iff {bytes : List UInt8} : IsUtf8 bytes ↔ ∃ text, decode bytes = .ok text := by
  constructor
  · rintro ⟨text, encoded⟩
    exact ⟨text.toList, decode_eq_ok_iff.2 (by rw [String.ofList_toList, encoded])⟩
  · rintro ⟨text, decoded⟩
    exact ⟨String.ofList text, decode_eq_ok_iff.1 decoded⟩

theorem not_isUtf8_iff {bytes : List UInt8} :
    ¬ IsUtf8 bytes ↔ ∃ malformed, decode bytes = .error malformed := by
  rw [isUtf8_iff]
  cases decode bytes with
  | ok text => exact ⟨fun none => absurd ⟨text, rfl⟩ none, nofun⟩
  | error malformed => exact ⟨fun _ => ⟨malformed, rfl⟩, fun _ => nofun⟩

theorem decodeFrom_ascii {bytes : List UInt8} (ascii : ∀ byte ∈ bytes, byte.toNat < 0x80)
    (start : Nat) (done : List Char) : ∃ text, decodeFrom start none done bytes = .ok text := by
  induction bytes generalizing start done with
  | nil => exact ⟨_, rfl⟩
  | cons byte rest ih =>
      obtain ⟨one, others⟩ := List.forall_mem_cons.1 ascii
      rw [decodeFrom, step, lead_of_one one]
      exact ih others _ _

/-! ## 6. Bytes behind others -/

theorem decodeFrom_behind (count : Nat) (text : List Char) (start : Nat) (state : Option Pending)
    (done : List Char) (bytes : List UInt8) :
    decodeFrom (count + start) state (done ++ text.reverse) bytes =
      behind count text (decodeFrom start state done bytes) := by
  fun_induction decodeFrom start state done bytes with
  | case1 start done =>
      rw [decodeFrom, List.reverse_append, List.reverse_reverse]
      rfl
  | case2 start done pending => rfl
  | case3 start state done byte rest c completed ih =>
      rw [decodeFrom, completed, ← ih, ← Nat.add_assoc, ← Nat.add_assoc]
      rfl
  | case4 start state done byte rest next opened ih => rw [decodeFrom, opened, ← ih]
  | case5 start state done byte rest refused =>
      rw [decodeFrom, refused]
      rfl

theorem decodeFrom_append {start : Nat} {state : Option Pending} {done text : List Char}
    {read bytes : List UInt8} (stands : Stands state read)
    (decoded : decodeFrom start state done bytes = .ok text) (more : List UInt8) :
    decodeFrom start state done (bytes ++ more) =
      decodeFrom (start + (read ++ bytes).length) none text.reverse more := by
  fun_induction decodeFrom start state done bytes generalizing read with
  | case1 start done =>
      cases stands
      cases decoded
      rw [List.reverse_reverse]
      rfl
  | case2 start done pending => cases decoded
  | case3 start state done byte rest c completed ih =>
      rw [List.cons_append, decodeFrom, completed]
      refine (ih stands_nil decoded).trans ?_
      congr 1
      rw [seen_of_stands stands, List.nil_append, List.length_append, List.length_cons]
      omega
  | case4 start state done byte rest next opened ih =>
      rw [List.cons_append, decodeFrom, opened]
      refine (ih (stands_of_await stands opened) decoded).trans ?_
      rw [List.append_assoc]
      rfl
  | case5 start state done byte rest refused => cases decoded

/-- Behind a text, decoding starts afresh. -/
theorem decode_append {bytes : List UInt8} {text : List Char} (decoded : decode bytes = .ok text)
    (more : List UInt8) : decode (bytes ++ more) = behind bytes.length text (decode more) := by
  rw [decode, decodeFrom_append stands_nil decoded, decode, ← decodeFrom_behind, Nat.zero_add]
  rfl

theorem decodeFrom_append_of_error {start : Nat} {state : Option Pending} {done : List Char}
    {read bytes : List UInt8} {malformed : Malformed} (stands : Stands state read)
    (stopped : decodeFrom start state done bytes = .error malformed) {byte : UInt8}
    (ascii : byte.toNat < 0x80) (more : List UInt8) :
    ∃ later, decodeFrom start state done (bytes ++ byte :: more) = .error later ∧
      later.validUpTo = malformed.validUpTo := by
  fun_induction decodeFrom start state done bytes generalizing read with
  | case1 start done => cases stopped
  | case2 start done pending =>
      cases stopped
      have outside : ¬ (pending.low ≤ byte.toNat ∧ byte.toNat ≤ pending.high) := by
        have low := Pending.Continues.low stands
        omega
      have refused : step (some pending) byte = .refuse := if_neg outside
      rw [List.nil_append, decodeFrom, refused]
      exact ⟨_, rfl, rfl⟩
  | case3 start state done first rest c completed ih =>
      rw [List.cons_append, decodeFrom, completed]
      exact ih stands_nil stopped
  | case4 start state done first rest next opened ih =>
      rw [List.cons_append, decodeFrom, opened]
      exact ih (stands_of_await stands opened) stopped
  | case5 start state done first rest refused =>
      cases stopped
      rw [List.cons_append, decodeFrom, refused]
      exact ⟨_, rfl, rfl⟩

/-- No sequence goes on with an ASCII character, so that decoding stops where it stopped before. -/
theorem validUpTo_append {bytes : List UInt8} {malformed : Malformed}
    (stopped : decode bytes = .error malformed) {byte : UInt8} (ascii : byte.toNat < 0x80)
    (more : List UInt8) :
    ∃ later, decode (bytes ++ byte :: more) = .error later ∧
      later.validUpTo = malformed.validUpTo :=
  decodeFrom_append_of_error stands_nil stopped ascii more

/-! ## 7. Where decoding stops -/

/-- Decoding stops at the start of the open sequence, or behind a text. -/
theorem text_of_decodeFrom {start : Nat} {state : Option Pending} {done : List Char}
    {read bytes : List UInt8} {malformed : Malformed} (stands : Stands state read)
    (stopped : decodeFrom start state done bytes = .error malformed) :
    malformed.validUpTo = start ∨
      ∃ count ≤ bytes.length, malformed.validUpTo = start + read.length + count ∧
        ∃ text, decodeFrom start state done (bytes.take count) = .ok text := by
  -- The end of the last character moves from the start of the bytes to the place in question.
  fun_induction decodeFrom start state done bytes generalizing read with
  | case1 start done => cases stopped
  | case2 start done pending =>
      cases stopped
      exact .inl rfl
  | case3 start state done byte rest c completed ih =>
      right
      rcases ih stands_nil stopped with here | ⟨count, inside, later, text, decoded⟩
      · refine ⟨1, by simp, ?_, (c :: done).reverse, ?_⟩
        · rw [here, seen_of_stands stands]
        · rw [List.take_succ_cons, decodeFrom, completed]
          rfl
      · refine ⟨count + 1, Nat.succ_le_succ inside, ?_, text, ?_⟩
        · rw [later, seen_of_stands stands, List.length_nil]
          omega
        · rw [List.take_succ_cons, decodeFrom, completed]
          exact decoded
  | case4 start state done byte rest next opened ih =>
      rcases ih (stands_of_await stands opened) stopped with
        here | ⟨count, inside, later, text, decoded⟩
      · exact .inl here
      · refine .inr ⟨count + 1, Nat.succ_le_succ inside, ?_, text, ?_⟩
        · rw [later, List.length_append, List.length_singleton]
          omega
        · rw [List.take_succ_cons, decodeFrom, opened]
          exact decoded
  | case5 start state done byte rest refused =>
      cases stopped
      exact .inl rfl

/-- Decoding stops behind the longest prefix that is UTF-8. -/
theorem stopsAt_validUpTo {bytes : List UInt8} {malformed : Malformed}
    (stopped : decode bytes = .error malformed) : StopsAt bytes malformed.validUpTo := by
  have text : malformed.validUpTo ≤ bytes.length ∧ IsUtf8 (bytes.take malformed.validUpTo) := by
    rcases text_of_decodeFrom stands_nil stopped with here | ⟨count, inside, there, text, decoded⟩
    · rw [here, List.take_zero]
      exact ⟨Nat.zero_le _, isUtf8_iff.2 ⟨[], rfl⟩⟩
    · have same : malformed.validUpTo = count := there.trans (Nat.zero_add count)
      rw [same]
      exact ⟨inside, isUtf8_iff.2 ⟨text, decoded⟩⟩
  refine ⟨text.1, text.2, ?_⟩
  intro longer past inside valid
  obtain ⟨more, decoded⟩ := isUtf8_iff.1 valid
  rw [← List.take_append_drop longer bytes, decode_append decoded] at stopped
  cases found : decode (bytes.drop longer) with
  | ok rest =>
      rw [found] at stopped
      cases stopped
  | error later =>
      rw [found] at stopped
      cases stopped
      dsimp only at past
      rw [List.length_take] at past
      omega

end SentenceSpans.Utf8
