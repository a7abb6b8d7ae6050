import VoipSimulator.Python.Json
import VoipSimulator.Python.Struct
import Mathlib.Data.Nat.Bitwise

/-!
# `bytes.decode("utf-8")` and `str.encode("utf-8")`

The console meets UTF-8 in three places: the producer sends
`json.dumps(v).encode("utf-8")`, the consumers read `json.loads(v.decode("utf-8"))`,
and `_parse_packet_headers` reads each header value with
`v.decode("utf-8", errors="replace")`. Encoding is `String.toUTF8`. Decoding
is CPython's `utf8_decode` (`Objects/stringlib/codecs.h`) under the loop of
`unicode_decode_utf8`, which hands every run of bytes that `utf8_decode`
rejects to the error handler: `strict` raises `UnicodeDecodeError` (a
`ValueError`) at the first run, `replace` writes one U+FFFD for each run and
goes on after it.

`utf8Pieces` is that loop with the handler left open: one `utf8Next` a turn,
it cuts the bytes into decoded characters and rejected runs, each with the
bytes it spans. A character is read from its shortest encoding only (no
overlong forms, no surrogates, nothing past U+10FFFF), so strict decoding is
exactly the inverse of encoding (`decode_strict_eq_ok_iff`).
-/

namespace VoipSimulator.Python

set_option autoImplicit false

/-- `IS_CONTINUATION_BYTE(ch)`. -/
def isContinuation (ch : Nat) : Bool := 0x80 ≤ ch && ch < 0xC0

/-- The second byte of a three-byte sequence that `utf8_decode` rejects: not
a continuation byte, below `0xA0` after `0xE0` (an overlong form), or from
`0xA0` on after `0xED` (a surrogate). The truncated and the complete case
spell it differently and test the same. -/
def badSecondOfThree (ch ch2 : Nat) : Bool :=
  !isContinuation ch2 || (if ch2 < 0xA0 then ch = 0xE0 else ch = 0xED)

/-- The second byte of a four-byte sequence that `utf8_decode` rejects: not
a continuation byte, below `0x90` after `0xF0` (an overlong form), or from
`0x90` on after `0xF4` (past U+10FFFF). -/
def badSecondOfFour (ch ch2 : Nat) : Bool :=
  !isContinuation ch2 || (if ch2 < 0x90 then ch = 0xF0 else ch = 0xF4)

/-- A stretch of the bytes as the decoder reads it: one character, or a run
that `utf8_decode` rejects with the reason `unicode_decode_utf8` reports. -/
inductive Utf8Piece
  | char (c : Char) (bytes : List UInt8)
  | invalid (reason : String) (bytes : List UInt8)
  deriving DecidableEq, Repr

/-- The bytes a piece spans. -/
def Utf8Piece.bytes : Utf8Piece → List UInt8
  | .char _ bytes => bytes
  | .invalid _ bytes => bytes

/-- The block of `utf8_decode` for a lead byte from `0xC2` to `0xDF`: one
continuation byte. -/
def readTwo (b : UInt8) (rest : List UInt8) : Utf8Piece × List UInt8 :=
  match rest with
  | [] => (.invalid "unexpected end of data" [b], [])
  | b2 :: rest2 =>
      if !isContinuation b2.toNat then (.invalid "invalid continuation byte" [b], b2 :: rest2)
      else (.char (Char.ofNat ((b.toNat <<< 6) + b2.toNat - ((0xC0 <<< 6) + 0x80))) [b, b2], rest2)

/-- The block for a lead byte from `0xE0` to `0xEF`: two continuation bytes. -/
def readThree (b : UInt8) (rest : List UInt8) : Utf8Piece × List UInt8 :=
  match rest with
  | [] => (.invalid "unexpected end of data" [b], [])
  | [b2] =>
      if badSecondOfThree b.toNat b2.toNat then (.invalid "invalid continuation byte" [b], [b2])
      else (.invalid "unexpected end of data" [b, b2], [])
  | b2 :: b3 :: rest3 =>
      if badSecondOfThree b.toNat b2.toNat then
        (.invalid "invalid continuation byte" [b], b2 :: b3 :: rest3)
      else if !isContinuation b3.toNat then
        (.invalid "invalid continuation byte" [b, b2], b3 :: rest3)
      else
        (.char (Char.ofNat ((b.toNat <<< 12) + (b2.toNat <<< 6) + b3.toNat -
          ((0xE0 <<< 12) + (0x80 <<< 6) + 0x80))) [b, b2, b3], rest3)

/-- The block for a lead byte from `0xF0` to `0xF4`: three continuation
bytes. -/
def readFour (b : UInt8) (rest : List UInt8) : Utf8Piece × List UInt8 :=
  match rest with
  | [] => (.invalid "unexpected end of data" [b], [])
  | [b2] =>
      if badSecondOfFour b.toNat b2.toNat then (.invalid "invalid continuation byte" [b], [b2])
      else (.invalid "unexpected end of data" [b, b2], [])
  | [b2, b3] =>
      if badSecondOfFour b.toNat b2.toNat then (.invalid "invalid continuation byte" [b], [b2, b3])
      else if !isContinuation b3.toNat then (.invalid "invalid continuation byte" [b, b2], [b3])
      else (.invalid "unexpected end of data" [b, b2, b3], [])
  | b2 :: b3 :: b4 :: rest4 =>
      if badSecondOfFour b.toNat b2.toNat then
        (.invalid "invalid continuation byte" [b], b2 :: b3 :: b4 :: rest4)
      else if !isContinuation b3.toNat then
        (.invalid "invalid continuation byte" [b, b2], b3 :: b4 :: rest4)
      else if !isContinuation b4.toNat then
        (.invalid "invalid continuation byte" [b, b2, b3], b4 :: rest4)
      else
        (.char (Char.ofNat ((b.toNat <<< 18) + (b2.toNat <<< 12) + (b3.toNat <<< 6) + b4.toNat -
          ((0xF0 <<< 18) + (0x80 <<< 12) + (0x80 <<< 6) + 0x80))) [b, b2, b3, b4], rest4)

/-- One turn of `unicode_decode_utf8`: the piece `utf8_decode` reads at the
head of the bytes, and the bytes after it. An error's run goes from
`startinpos` to `endinpos`: a sequence cut short by the end of the bytes is
one run, "unexpected end of data", unless a byte already read is invalid; an
invalid continuation byte ends the run before it. -/
def utf8Next (b : UInt8) (rest : List UInt8) : Utf8Piece × List UInt8 :=
  if b.toNat < 0x80 then (.char (Char.ofNat b.toNat) [b], rest)
  else if b.toNat < 0xE0 then
    if b.toNat < 0xC2 then (.invalid "invalid start byte" [b], rest) else readTwo b rest
  else if b.toNat < 0xF0 then readThree b rest
  else if b.toNat < 0xF5 then readFour b rest
  else (.invalid "invalid start byte" [b], rest)

/-- The loop `while (s < end)` of `unicode_decode_utf8`, one piece a turn;
every turn reads at least one byte, so `fuel` of the bytes' length is enough. -/
def utf8Loop : Nat → List UInt8 → List Utf8Piece
  | 0, _ => []
  | _, [] => []
  | fuel + 1, b :: rest => (utf8Next b rest).1 :: utf8Loop fuel (utf8Next b rest).2

/-- The pieces of the whole input. -/
def utf8Pieces (bytes : List UInt8) : List Utf8Piece := utf8Loop bytes.length bytes

/-- `bytes.decode("utf-8", errors="replace")`: one U+FFFD for each rejected run. -/
def decodeReplace (bytes : List UInt8) : String :=
  String.mk ((utf8Pieces bytes).map fun piece =>
    match piece with
    | .char c _ => c
    | .invalid _ _ => '�')

/-- `str(UnicodeDecodeError("utf-8", ..., start, end, reason))` for the run
`bytes` at `start`. -/
def unicodeDecodeErrorText (start : Nat) (reason : String) (bytes : List UInt8) : String :=
  match bytes with
  | [b] =>
      "'utf-8' codec can't decode byte 0x" ++
        String.mk [hexDigits.getD (b.toNat / 16) '0', hexDigits.getD (b.toNat % 16) '0'] ++
        " in position " ++ toString start ++ ": " ++ reason
  | _ =>
      "'utf-8' codec can't decode bytes in position " ++ toString start ++ "-" ++
        toString (start + bytes.length - 1) ++ ": " ++ reason

/-- The strict handler over the pieces, `position` bytes in. -/
def strictPieces (position : Nat) : List Utf8Piece → Except PyException (List Char)
  | [] => .ok []
  | .char c bytes :: rest => (strictPieces (position + bytes.length) rest).map (c :: ·)
  | .invalid reason bytes :: _ => .error (.valueError (unicodeDecodeErrorText position reason bytes))

/-- `bytes.decode("utf-8")`: `UnicodeDecodeError`, a `ValueError`, at the
first rejected run. -/
def decodeStrict (bytes : List UInt8) : Except PyException String :=
  (strictPieces 0 (utf8Pieces bytes)).map String.mk

/-- `s.encode("utf-8")`. -/
def encodeUtf8 (s : String) : List UInt8 := s.data.flatMap String.utf8EncodeChar

/-! ### Bytes as numbers -/

theorem byte_or_to_nat (a b : UInt8) : (a ||| b).toNat = a.toNat ||| b.toNat := BitVec.toNat_or ..

theorem byte_eq_iff (a b : UInt8) : a = b ↔ a.toNat = b.toNat := ⟨congrArg _, UInt8.toNat.inj⟩

theorem to_nat_to_uint8_of_lt (n : Nat) (small : n < 256) : n.toUInt8.toNat = n := by
  rw [to_nat_to_uint8, Nat.mod_eq_of_lt small]

theorem shift_right_to_nat32 (v : UInt32) (k : Nat) (small : k < 32) :
    (v >>> (OfNat.ofNat k : UInt32)).toNat = v.toNat / 2 ^ k := by
  show (v.toBitVec >>> ((OfNat.ofNat k : UInt32).toBitVec % 32)).toNat = _
  simp [BitVec.toNat_ushiftRight, Nat.shiftRight_eq_div_pow, UInt32.toNat]
  rw [Nat.mod_eq_of_lt (by omega : k < 4294967296), Nat.mod_eq_of_lt small]

theorem val_le_iff (c : Char) (k : Nat) (small : k < 4294967296) :
    c.val ≤ (OfNat.ofNat k : UInt32) ↔ c.toNat ≤ k := by
  show c.val.toBitVec.toNat ≤ (OfNat.ofNat k : UInt32).toBitVec.toNat ↔ _
  simp [Nat.mod_eq_of_lt small]
  rfl

/-- A field of `k` bits under lead bits above them. -/
theorem field_or_lead (x k a : Nat) : x &&& (2 ^ k - 1) ||| 2 ^ k * a = 2 ^ k * a + x % 2 ^ k := by
  rw [Nat.and_pow_two_sub_one_eq_mod, Nat.lor_comm,
    ← Nat.mul_add_lt_is_or (Nat.mod_lt _ (Nat.two_pow_pos k))]

/-- The UTF-8 bytes of the code point `n`, as numbers. -/
def utf8Units (n : Nat) : List Nat :=
  if n ≤ 0x7f then [n]
  else if n ≤ 0x7ff then [0xC0 + n / 64, 0x80 + n % 64]
  else if n ≤ 0xffff then [0xE0 + n / 4096, 0x80 + n / 64 % 64, 0x80 + n % 64]
  else [0xF0 + n / 262144, 0x80 + n / 4096 % 64, 0x80 + n / 64 % 64, 0x80 + n % 64]

/-- `String.utf8EncodeChar` in numbers. -/
theorem utf8_encode_char_eq (c : Char) :
    String.utf8EncodeChar c = (utf8Units c.toNat).map Nat.toUInt8 := by
  have two : ∀ x, x &&& UInt8.toNat 31 ||| UInt8.toNat 192 = 192 + x % 32 :=
    fun x => field_or_lead x 5 6
  have three : ∀ x, x &&& UInt8.toNat 15 ||| UInt8.toNat 224 = 224 + x % 16 :=
    fun x => field_or_lead x 4 14
  have four : ∀ x, x &&& UInt8.toNat 7 ||| UInt8.toNat 240 = 240 + x % 8 :=
    fun x => field_or_lead x 3 30
  have tail : ∀ x, x &&& UInt8.toNat 63 ||| UInt8.toNat 128 = 128 + x % 64 :=
    fun x => field_or_lead x 6 2
  have val : c.val.toNat = c.toNat := rfl
  have valid : c.toNat < 0x110000 := by
    have := c.valid
    simp [UInt32.isValidChar, Nat.isValidChar] at this
    omega
  simp only [String.utf8EncodeChar, utf8Units, val_le_iff c _ (by decide : 0x7f < 4294967296),
    val_le_iff c _ (by decide : 0x7ff < 4294967296), val_le_iff c _ (by decide : 0xffff < 4294967296)]
  split_ifs
  all_goals simp only [List.map, List.cons.injEq, byte_eq_iff, byte_or_to_nat, UInt8.and_toNat,
    UInt32.toUInt8, to_nat_to_uint8, shift_right_to_nat32 _ 6 (by decide), shift_right_to_nat32 _ 12 (by decide),
    shift_right_to_nat32 _ 18 (by decide), and_true, val, two, three, four, tail]
  all_goals simp only [Nat.mod_mod_of_dvd _ (by decide : 64 ∣ 256),
    Nat.mod_mod_of_dvd _ (by decide : 32 ∣ 256), Nat.mod_mod_of_dvd _ (by decide : 16 ∣ 256),
    Nat.mod_mod_of_dvd _ (by decide : 8 ∣ 256)]
  all_goals omega

theorem to_nat_of_nat_of_valid {n : Nat} (valid : n < 0xD800 ∨ (0xDFFF < n ∧ n < 0x110000)) :
    (Char.ofNat n).toNat = n := by
  rw [Char.ofNat, dif_pos valid]
  simp [Char.ofNatAux, Char.toNat, UInt32.ofNat', UInt32.toNat]

theorem map_to_uint8_map_to_nat (bytes : List UInt8) : (bytes.map UInt8.toNat).map Nat.toUInt8 = bytes := by
  induction bytes with
  | nil => rfl
  | cons b rest ih =>
      rw [List.map_cons, List.map_cons, ih]
      congr 1
      exact UInt8.toNat.inj (by rw [to_nat_to_uint8]; exact Nat.mod_eq_of_lt b.toBitVec.isLt)

/-! ### One turn -/

/-- A character piece spans exactly its own encoding. -/
def Utf8Piece.Encoded : Utf8Piece → Prop
  | .char c bytes => bytes = String.utf8EncodeChar c
  | .invalid _ _ => True

theorem encoded_of_units (n : Nat) (valid : n < 0xD800 ∨ (0xDFFF < n ∧ n < 0x110000))
    (bytes : List UInt8) (units : utf8Units n = bytes.map UInt8.toNat) :
    (Utf8Piece.char (Char.ofNat n) bytes).Encoded := by
  show bytes = _
  rw [utf8_encode_char_eq, to_nat_of_nat_of_valid valid, units, map_to_uint8_map_to_nat]

theorem is_continuation_iff (ch : Nat) : isContinuation ch = true ↔ 0x80 ≤ ch ∧ ch < 0xC0 := by
  simp [isContinuation]

theorem bad_second_of_three_eq_false (ch ch2 : Nat) :
    badSecondOfThree ch ch2 = false ↔
      0x80 ≤ ch2 ∧ ch2 < 0xC0 ∧ (ch2 < 0xA0 → ch ≠ 0xE0) ∧ (0xA0 ≤ ch2 → ch ≠ 0xED) := by
  unfold badSecondOfThree
  split_ifs <;> simp [isContinuation] <;> omega

theorem bad_second_of_four_eq_false (ch ch2 : Nat) :
    badSecondOfFour ch ch2 = false ↔
      0x80 ≤ ch2 ∧ ch2 < 0xC0 ∧ (ch2 < 0x90 → ch ≠ 0xF0) ∧ (0x90 ≤ ch2 → ch ≠ 0xF4) := by
  unfold badSecondOfFour
  split_ifs <;> simp [isContinuation] <;> omega

theorem bad_second_of_three_of_valid (ch ch2 : Nat) (low : 0x80 ≤ ch2) (high : ch2 < 0xC0)
    (notOverlong : ch2 < 0xA0 → ch ≠ 0xE0) (notSurrogate : 0xA0 ≤ ch2 → ch ≠ 0xED) :
    badSecondOfThree ch ch2 = false :=
  (bad_second_of_three_eq_false ch ch2).mpr ⟨low, high, notOverlong, notSurrogate⟩

theorem bad_second_of_four_of_valid (ch ch2 : Nat) (low : 0x80 ≤ ch2) (high : ch2 < 0xC0)
    (notOverlong : ch2 < 0x90 → ch ≠ 0xF0) (notBeyond : 0x90 ≤ ch2 → ch ≠ 0xF4) :
    badSecondOfFour ch ch2 = false :=
  (bad_second_of_four_eq_false ch ch2).mpr ⟨low, high, notOverlong, notBeyond⟩

/-- A turn that reads a nonempty run from the head of `input`, and a
character only from its own encoding. -/
def ReadsHead (input : List UInt8) (turn : Utf8Piece × List UInt8) : Prop :=
  turn.1.bytes ++ turn.2 = input ∧ turn.1.bytes ≠ [] ∧ turn.1.Encoded

theorem encoded_two (b b2 : UInt8) (lead : 0xC2 ≤ b.toNat) (lead' : b.toNat < 0xE0)
    (second : isContinuation b2.toNat = true) :
    (Utf8Piece.char (Char.ofNat ((b.toNat <<< 6) + b2.toNat - ((0xC0 <<< 6) + 0x80))) [b, b2]).Encoded := by
  rw [is_continuation_iff] at second
  refine encoded_of_units _ (by omega) _ ?_
  rw [utf8Units, if_neg (by omega), if_pos (by omega)]
  simp only [List.map, List.cons.injEq, and_true]
  omega

theorem encoded_three (b b2 b3 : UInt8) (lead : 0xE0 ≤ b.toNat) (lead' : b.toNat < 0xF0)
    (second : badSecondOfThree b.toNat b2.toNat = false) (third : isContinuation b3.toNat = true) :
    (Utf8Piece.char (Char.ofNat ((b.toNat <<< 12) + (b2.toNat <<< 6) + b3.toNat -
      ((0xE0 <<< 12) + (0x80 <<< 6) + 0x80))) [b, b2, b3]).Encoded := by
  rw [bad_second_of_three_eq_false] at second
  rw [is_continuation_iff] at third
  refine encoded_of_units _ (by omega) _ ?_
  rw [utf8Units, if_neg (by omega), if_neg (by omega), if_pos (by omega)]
  simp only [List.map, List.cons.injEq, and_true]
  omega

theorem encoded_four (b b2 b3 b4 : UInt8) (lead : 0xF0 ≤ b.toNat) (lead' : b.toNat < 0xF5)
    (second : badSecondOfFour b.toNat b2.toNat = false) (third : isContinuation b3.toNat = true)
    (fourth : isContinuation b4.toNat = true) :
    (Utf8Piece.char (Char.ofNat ((b.toNat <<< 18) + (b2.toNat <<< 12) + (b3.toNat <<< 6) + b4.toNat -
      ((0xF0 <<< 18) + (0x80 <<< 12) + (0x80 <<< 6) + 0x80))) [b, b2, b3, b4]).Encoded := by
  rw [bad_second_of_four_eq_false] at second
  rw [is_continuation_iff] at third fourth
  refine encoded_of_units _ (by omega) _ ?_
  rw [utf8Units, if_neg (by omega), if_neg (by omega), if_neg (by omega)]
  simp only [List.map, List.cons.injEq, and_true]
  omega

theorem read_two_spec (b : UInt8) (rest : List UInt8) (lead : 0xC2 ≤ b.toNat) (lead' : b.toNat < 0xE0) :
    ReadsHead (b :: rest) (readTwo b rest) := by
  unfold readTwo
  split
  · exact ⟨rfl, List.cons_ne_nil _ _, trivial⟩
  · split_ifs with bad
    · exact ⟨rfl, List.cons_ne_nil _ _, trivial⟩
    · exact ⟨rfl, List.cons_ne_nil _ _, encoded_two _ _ lead lead' (by simpa using bad)⟩

theorem read_three_spec (b : UInt8) (rest : List UInt8) (lead : 0xE0 ≤ b.toNat) (lead' : b.toNat < 0xF0) :
    ReadsHead (b :: rest) (readThree b rest) := by
  unfold readThree
  split
  · exact ⟨rfl, List.cons_ne_nil _ _, trivial⟩
  · split_ifs <;> exact ⟨rfl, List.cons_ne_nil _ _, trivial⟩
  · split_ifs with second third
    · exact ⟨rfl, List.cons_ne_nil _ _, trivial⟩
    · exact ⟨rfl, List.cons_ne_nil _ _, trivial⟩
    · exact ⟨rfl, List.cons_ne_nil _ _,
        encoded_three _ _ _ lead lead' (by simpa using second) (by simpa using third)⟩

theorem read_four_spec (b : UInt8) (rest : List UInt8) (lead : 0xF0 ≤ b.toNat) (lead' : b.toNat < 0xF5) :
    ReadsHead (b :: rest) (readFour b rest) := by
  unfold readFour
  split
  · exact ⟨rfl, List.cons_ne_nil _ _, trivial⟩
  · split_ifs <;> exact ⟨rfl, List.cons_ne_nil _ _, trivial⟩
  · split_ifs <;> exact ⟨rfl, List.cons_ne_nil _ _, trivial⟩
  · split_ifs with second third fourth
    · exact ⟨rfl, List.cons_ne_nil _ _, trivial⟩
    · exact ⟨rfl, List.cons_ne_nil _ _, trivial⟩
    · exact ⟨rfl, List.cons_ne_nil _ _, trivial⟩
    · exact ⟨rfl, List.cons_ne_nil _ _, encoded_four _ _ _ _ lead lead' (by simpa using second)
        (by simpa using third) (by simpa using fourth)⟩

/-- What one turn reads: a nonempty run of the bytes, and a character only
from its own encoding. -/
theorem utf8_next_spec (b : UInt8) (rest : List UInt8) : ReadsHead (b :: rest) (utf8Next b rest) := by
  unfold utf8Next
  split_ifs with ascii two start three four
  · refine ⟨rfl, List.cons_ne_nil _ _, encoded_of_units _ (by omega) _ ?_⟩
    rw [utf8Units, if_pos (by omega)]
    rfl
  · exact ⟨rfl, List.cons_ne_nil _ _, trivial⟩
  · exact read_two_spec b rest (by omega) two
  · exact read_three_spec b rest (by omega) three
  · exact read_four_spec b rest (by omega) four
  · exact ⟨rfl, List.cons_ne_nil _ _, trivial⟩

theorem utf8_next_length (b : UInt8) (rest : List UInt8) : (utf8Next b rest).2.length ≤ rest.length := by
  have spec := utf8_next_spec b rest
  have total := congrArg List.length spec.1
  have nonempty := List.length_pos.mpr spec.2.1
  simp only [List.length_append, List.length_cons] at total
  omega

theorem read_two_encode (n : Nat) (low : 0x7f < n) (high : n ≤ 0x7ff) (rest : List UInt8) :
    readTwo (0xC0 + n / 64).toUInt8 ((0x80 + n % 64).toUInt8 :: rest) =
      (.char (Char.ofNat n) [(0xC0 + n / 64).toUInt8, (0x80 + n % 64).toUInt8], rest) := by
  have second : isContinuation (0x80 + n % 64) = true := (is_continuation_iff _).mpr (by omega)
  simp only [readTwo, to_nat_to_uint8_of_lt _ (by omega : 0xC0 + n / 64 < 256),
    to_nat_to_uint8_of_lt _ (by omega : 0x80 + n % 64 < 256), second, Bool.not_true,
    Bool.false_eq_true, if_false]
  rw [show ((0xC0 + n / 64) <<< 6) + (0x80 + n % 64) - ((0xC0 <<< 6) + 0x80) = n by omega]

theorem read_three_encode (n : Nat) (low : 0x7ff < n) (high : n ≤ 0xffff)
    (valid : n < 0xD800 ∨ 0xDFFF < n) (rest : List UInt8) :
    readThree (0xE0 + n / 4096).toUInt8
        ((0x80 + n / 64 % 64).toUInt8 :: (0x80 + n % 64).toUInt8 :: rest) =
      (.char (Char.ofNat n) [(0xE0 + n / 4096).toUInt8, (0x80 + n / 64 % 64).toUInt8,
        (0x80 + n % 64).toUInt8], rest) := by
  have second : badSecondOfThree (0xE0 + n / 4096) (0x80 + n / 64 % 64) = false :=
    bad_second_of_three_of_valid _ _ (by omega) (by omega) (by omega) (by omega)
  have third : isContinuation (0x80 + n % 64) = true := (is_continuation_iff _).mpr (by omega)
  simp only [readThree, to_nat_to_uint8_of_lt _ (by omega : 0xE0 + n / 4096 < 256),
    to_nat_to_uint8_of_lt _ (by omega : 0x80 + n / 64 % 64 < 256),
    to_nat_to_uint8_of_lt _ (by omega : 0x80 + n % 64 < 256), second, third, Bool.not_true,
    Bool.false_eq_true, if_false]
  rw [show ((0xE0 + n / 4096) <<< 12) + ((0x80 + n / 64 % 64) <<< 6) + (0x80 + n % 64) -
    ((0xE0 <<< 12) + (0x80 <<< 6) + 0x80) = n by omega]

theorem read_four_encode (n : Nat) (low : 0xffff < n) (high : n < 0x110000) (rest : List UInt8) :
    readFour (0xF0 + n / 262144).toUInt8 ((0x80 + n / 4096 % 64).toUInt8 ::
        (0x80 + n / 64 % 64).toUInt8 :: (0x80 + n % 64).toUInt8 :: rest) =
      (.char (Char.ofNat n) [(0xF0 + n / 262144).toUInt8, (0x80 + n / 4096 % 64).toUInt8,
        (0x80 + n / 64 % 64).toUInt8, (0x80 + n % 64).toUInt8], rest) := by
  have second : badSecondOfFour (0xF0 + n / 262144) (0x80 + n / 4096 % 64) = false :=
    bad_second_of_four_of_valid _ _ (by omega) (by omega) (by omega) (by omega)
  have third : isContinuation (0x80 + n / 64 % 64) = true := (is_continuation_iff _).mpr (by omega)
  have fourth : isContinuation (0x80 + n % 64) = true := (is_continuation_iff _).mpr (by omega)
  simp only [readFour, to_nat_to_uint8_of_lt _ (by omega : 0xF0 + n / 262144 < 256),
    to_nat_to_uint8_of_lt _ (by omega : 0x80 + n / 4096 % 64 < 256),
    to_nat_to_uint8_of_lt _ (by omega : 0x80 + n / 64 % 64 < 256),
    to_nat_to_uint8_of_lt _ (by omega : 0x80 + n % 64 < 256), second, third, fourth, Bool.not_true,
    Bool.false_eq_true, if_false]
  rw [show ((0xF0 + n / 262144) <<< 18) + ((0x80 + n / 4096 % 64) <<< 12) +
    ((0x80 + n / 64 % 64) <<< 6) + (0x80 + n % 64) -
    ((0xF0 <<< 18) + (0x80 <<< 12) + (0x80 <<< 6) + 0x80) = n by omega]

/-- One turn reads an encoded character back whole. -/
theorem utf8_next_encode (c : Char) (rest : List UInt8) :
    ∃ b more, String.utf8EncodeChar c = b :: more ∧
      utf8Next b (more ++ rest) = (.char c (b :: more), rest) := by
  have valid : c.toNat < 0xD800 ∨ (0xDFFF < c.toNat ∧ c.toNat < 0x110000) := c.valid
  obtain ⟨b, more, encoded, turn⟩ : ∃ b more, (utf8Units c.toNat).map Nat.toUInt8 = b :: more ∧
      utf8Next b (more ++ rest) = (.char (Char.ofNat c.toNat) (b :: more), rest) := by
    unfold utf8Units
    split_ifs with one two three
    · refine ⟨_, _, rfl, ?_⟩
      rw [utf8Next, to_nat_to_uint8_of_lt _ (by omega), if_pos (by omega)]
      rfl
    · refine ⟨_, _, rfl, ?_⟩
      rw [utf8Next, to_nat_to_uint8_of_lt _ (by omega), if_neg (by omega), if_pos (by omega),
        if_neg (by omega)]
      exact read_two_encode _ (by omega) two rest
    · refine ⟨_, _, rfl, ?_⟩
      rw [utf8Next, to_nat_to_uint8_of_lt _ (by omega), if_neg (by omega), if_neg (by omega),
        if_pos (by omega)]
      exact read_three_encode _ (by omega) three (by omega) rest
    · refine ⟨_, _, rfl, ?_⟩
      rw [utf8Next, to_nat_to_uint8_of_lt _ (by omega), if_neg (by omega), if_neg (by omega),
        if_neg (by omega), if_pos (by omega)]
      exact read_four_encode _ (by omega) (by omega) rest
  rw [Char.ofNat_toNat] at turn
  exact ⟨b, more, by rw [utf8_encode_char_eq, encoded], turn⟩

/-! ### The loop -/

theorem utf8_loop_eq_of_le (fuel fuel' : Nat) (bytes : List UInt8) (enough : bytes.length ≤ fuel)
    (enough' : bytes.length ≤ fuel') : utf8Loop fuel bytes = utf8Loop fuel' bytes := by
  induction fuel generalizing fuel' bytes with
  | zero =>
      rw [List.eq_nil_of_length_eq_zero (Nat.le_zero.mp enough)]
      cases fuel' <;> rfl
  | succ fuel ih =>
      cases bytes with
      | nil => cases fuel' <;> rfl
      | cons b rest =>
          cases fuel' with
          | zero => simp at enough'
          | succ fuel' =>
              have shorter := utf8_next_length b rest
              simp only [List.length_cons] at enough enough'
              simp only [utf8Loop, ih fuel' (utf8Next b rest).2 (by omega) (by omega)]

/-- The loop's turn, as a recursion of the pieces. -/
theorem utf8_pieces_cons (b : UInt8) (rest : List UInt8) :
    utf8Pieces (b :: rest) = (utf8Next b rest).1 :: utf8Pieces (utf8Next b rest).2 := by
  rw [utf8Pieces, List.length_cons, utf8Loop, utf8Pieces,
    utf8_loop_eq_of_le _ _ _ (utf8_next_length b rest) le_rfl]

/-- Induction along the loop: a property of the bytes after each turn. -/
theorem utf8_pieces_induction (motive : List UInt8 → Prop) (nil : motive [])
    (cons : ∀ b rest, motive (utf8Next b rest).2 → motive (b :: rest)) (bytes : List UInt8) :
    motive bytes := by
  suffices all : ∀ n (bytes : List UInt8), bytes.length ≤ n → motive bytes from
    all _ bytes le_rfl
  intro n
  induction n with
  | zero =>
      intro bytes short
      rw [List.eq_nil_of_length_eq_zero (Nat.le_zero.mp short)]
      exact nil
  | succ n ih =>
      intro bytes short
      cases bytes with
      | nil => exact nil
      | cons b rest =>
          have shorter := utf8_next_length b rest
          simp only [List.length_cons] at short
          exact cons b rest (ih _ (by omega))

/-- No byte is lost or read twice: the pieces span the bytes, in order. -/
theorem flat_map_bytes_utf8_pieces (bytes : List UInt8) :
    (utf8Pieces bytes).flatMap Utf8Piece.bytes = bytes := by
  induction bytes using utf8_pieces_induction with
  | nil => rfl
  | cons b rest ih => rw [utf8_pieces_cons, List.flatMap_cons, ih, (utf8_next_spec b rest).1]

theorem encoded_of_mem_utf8_pieces (bytes : List UInt8) :
    ∀ piece ∈ utf8Pieces bytes, piece.Encoded := by
  induction bytes using utf8_pieces_induction with
  | nil => intro piece member; cases member
  | cons b rest ih =>
      rw [utf8_pieces_cons]
      rintro piece (_ | ⟨_, member⟩)
      · exact (utf8_next_spec b rest).2.2
      · exact ih piece member

theorem utf8_pieces_utf8_encode_char_append (c : Char) (rest : List UInt8) :
    utf8Pieces (String.utf8EncodeChar c ++ rest) =
      .char c (String.utf8EncodeChar c) :: utf8Pieces rest := by
  obtain ⟨b, more, encoded, turn⟩ := utf8_next_encode c rest
  rw [encoded, List.cons_append, utf8_pieces_cons, turn]

/-- The characters of a valid prefix are read one by one, and the loop goes
on after them as if from the start. -/
theorem utf8_pieces_flat_map_append (cs : List Char) (rest : List UInt8) :
    utf8Pieces (cs.flatMap String.utf8EncodeChar ++ rest) =
      (cs.map fun c => .char c (String.utf8EncodeChar c)) ++ utf8Pieces rest := by
  induction cs with
  | nil => rfl
  | cons c cs ih =>
      rw [List.flatMap_cons, List.append_assoc, utf8_pieces_utf8_encode_char_append, ih]
      rfl

/-! ### The two handlers -/

theorem strict_pieces_chars_append (cs : List Char) (position : Nat) (more : List Utf8Piece) :
    strictPieces position ((cs.map fun c => .char c (String.utf8EncodeChar c)) ++ more) =
      (strictPieces (position + (cs.flatMap String.utf8EncodeChar).length) more).map (cs ++ ·) := by
  induction cs generalizing position with
  | nil =>
      simp only [List.map_nil, List.nil_append, List.flatMap_nil, List.length_nil, Nat.add_zero]
      cases strictPieces position more <;> rfl
  | cons c cs ih =>
      rw [List.map_cons, List.cons_append, strictPieces, ih, List.flatMap_cons, List.length_append,
        Nat.add_assoc]
      cases strictPieces (position + ((String.utf8EncodeChar c).length +
        (cs.flatMap String.utf8EncodeChar).length)) more <;> rfl

/-- Decoding what `str.encode("utf-8")` wrote gives the string back, under
either handler. -/
theorem decode_strict_encode_utf8 (s : String) : decodeStrict (encodeUtf8 s) = .ok s := by
  rw [decodeStrict, encodeUtf8, ← List.append_nil (s.data.flatMap _), utf8_pieces_flat_map_append,
    strict_pieces_chars_append]
  simp only [utf8Pieces, List.length_nil, utf8Loop, strictPieces, Except.map, List.append_nil]

theorem decode_replace_encode_utf8 (s : String) : decodeReplace (encodeUtf8 s) = s := by
  rw [decodeReplace, encodeUtf8, ← List.append_nil (s.data.flatMap _), utf8_pieces_flat_map_append,
    List.map_append, List.map_map]
  show String.mk (s.data.map (fun c => c) ++ []) = s
  rw [List.map_id', List.append_nil]

/-- The bytes of pieces the strict handler accepts are the encodings of the
characters it returns. -/
theorem flat_map_bytes_of_strict_pieces (pieces : List Utf8Piece) (encoded : ∀ piece ∈ pieces, piece.Encoded)
    (position : Nat) (cs : List Char) (accepted : strictPieces position pieces = .ok cs) :
    pieces.flatMap Utf8Piece.bytes = cs.flatMap String.utf8EncodeChar := by
  induction pieces generalizing position cs with
  | nil =>
      cases accepted
      rfl
  | cons piece rest ih =>
      cases piece with
      | invalid reason bytes => cases accepted
      | char c bytes =>
          cases tail : strictPieces (position + bytes.length) rest with
          | error e => simp [strictPieces, tail, Except.map] at accepted
          | ok ds =>
              simp only [strictPieces, tail, Except.map, Except.ok.injEq] at accepted
              subst accepted
              have own : bytes = String.utf8EncodeChar c := encoded _ (List.mem_cons_self _ _)
              rw [List.flatMap_cons, List.flatMap_cons, own,
                ih (fun piece member => encoded piece (List.mem_cons_of_mem _ member)) _ ds tail]
              rfl

/-- `bytes.decode("utf-8")` succeeds exactly on the UTF-8 encodings of
strings, and returns the string encoded: strict decoding is the inverse of
`str.encode("utf-8")`. -/
theorem decode_strict_eq_ok_iff (bytes : List UInt8) (s : String) :
    decodeStrict bytes = .ok s ↔ bytes = encodeUtf8 s := by
  constructor
  · intro decoded
    cases accepted : strictPieces 0 (utf8Pieces bytes) with
    | error e => simp [decodeStrict, accepted, Except.map] at decoded
    | ok cs =>
        simp only [decodeStrict, accepted, Except.map, Except.ok.injEq] at decoded
        subst decoded
        rw [← flat_map_bytes_utf8_pieces bytes,
          flat_map_bytes_of_strict_pieces _ (encoded_of_mem_utf8_pieces bytes) 0 cs accepted]
        rfl
  · rintro rfl
    exact decode_strict_encode_utf8 s

theorem flat_map_bytes_chars (cs : List Char) :
    (cs.map fun c => Utf8Piece.char c (String.utf8EncodeChar c)).flatMap Utf8Piece.bytes =
      cs.flatMap String.utf8EncodeChar := by
  induction cs with
  | nil => rfl
  | cons c cs ih => rw [List.map_cons, List.flatMap_cons, ih, List.flatMap_cons]; rfl

/-- The strict handler stops at the first rejected run, `position` bytes
plus the encodings of the characters before it in. -/
theorem strict_pieces_error (pieces : List Utf8Piece) (encoded : ∀ piece ∈ pieces, piece.Encoded)
    (position : Nat) (e : PyException) (raised : strictPieces position pieces = .error e) :
    ∃ (cs : List Char) (reason : String) (run : List UInt8) (post : List Utf8Piece),
      pieces = (cs.map fun c => .char c (String.utf8EncodeChar c)) ++ .invalid reason run :: post ∧
        e = .valueError (unicodeDecodeErrorText
          (position + (cs.flatMap String.utf8EncodeChar).length) reason run) := by
  induction pieces generalizing position with
  | nil => cases raised
  | cons piece rest ih =>
      cases piece with
      | invalid reason run =>
          cases raised
          exact ⟨[], reason, run, rest, rfl, rfl⟩
      | char c bytes =>
          have own : bytes = String.utf8EncodeChar c := encoded _ (List.mem_cons_self _ _)
          subst own
          cases tail : strictPieces (position + (String.utf8EncodeChar c).length) rest with
          | ok ds =>
              rw [strictPieces, tail] at raised
              cases raised
          | error first =>
              rw [strictPieces, tail] at raised
              cases raised
              obtain ⟨cs, reason, run, post, split, text⟩ :=
                ih (fun piece member => encoded piece (List.mem_cons_of_mem _ member)) _ tail
              refine ⟨c :: cs, reason, run, post, by rw [split]; rfl, ?_⟩
              rw [text, List.flatMap_cons, List.length_append, Nat.add_assoc]

/-- `bytes.decode("utf-8")` raises exactly at the first run it rejects: the
bytes before it encode a string, and the `UnicodeDecodeError` gives that
string's byte length as the position, the run, and its reason. -/
theorem decode_strict_eq_error_iff (bytes : List UInt8) (e : PyException) :
    decodeStrict bytes = .error e ↔
      ∃ s reason run after, bytes = encodeUtf8 s ++ run ++ after ∧
        (utf8Pieces (run ++ after)).head? = some (.invalid reason run) ∧
        e = .valueError (unicodeDecodeErrorText (encodeUtf8 s).length reason run) := by
  constructor
  · intro raised
    have accepted : strictPieces 0 (utf8Pieces bytes) = .error e := by
      cases h : strictPieces 0 (utf8Pieces bytes) <;> simp_all [decodeStrict, Except.map]
    obtain ⟨cs, reason, run, post, split, text⟩ :=
      strict_pieces_error _ (encoded_of_mem_utf8_pieces bytes) 0 e accepted
    have whole : bytes = cs.flatMap String.utf8EncodeChar ++ (run ++ post.flatMap Utf8Piece.bytes) := by
      conv => lhs; rw [← flat_map_bytes_utf8_pieces bytes, split]
      rw [List.flatMap_append, flat_map_bytes_chars, List.flatMap_cons]
      rfl
    have restart := utf8_pieces_flat_map_append cs (run ++ post.flatMap Utf8Piece.bytes)
    rw [← whole, split] at restart
    have suffix := List.append_cancel_left restart
    refine ⟨String.mk cs, reason, run, post.flatMap Utf8Piece.bytes, ?_, ?_, ?_⟩
    · rw [whole, List.append_assoc]
      rfl
    · rw [← suffix]
      rfl
    · rw [text, Nat.zero_add]
      rfl
  · rintro ⟨s, reason, run, after, rfl, first, rfl⟩
    obtain ⟨post, pieces⟩ : ∃ post, utf8Pieces (run ++ after) = .invalid reason run :: post := by
      cases h : utf8Pieces (run ++ after) with
      | nil => simp [h] at first
      | cons piece post =>
          simp only [h, List.head?_cons, Option.some.injEq] at first
          exact ⟨post, by rw [first]⟩
    rw [decodeStrict, encodeUtf8, List.append_assoc, utf8_pieces_flat_map_append, pieces,
      strict_pieces_chars_append, Nat.zero_add]
    rfl

end VoipSimulator.Python
