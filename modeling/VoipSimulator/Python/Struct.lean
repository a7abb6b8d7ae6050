import VoipSimulator.Python.Dict

/-!
# `struct.pack` with standard sizes

The byte orders `<` and `>` (standard sizes, no padding) with the codes the
pcap generator packs: `B`, `H` and `I` (unsigned, 1, 2 and 4 bytes), `i`
(signed, 4 bytes) and `Ns` (N raw bytes, cut or padded with zeros). A format
string is transcribed as its byte order and its list of codes. A number
outside its code's range, an argument of the wrong kind and a wrong number of
arguments raise `struct.error` with CPython's texts.

The readers at the end are what a consumer of such a layout does; they are not
part of `struct`, and serve the round trips.
-/

namespace VoipSimulator.Python

set_option autoImplicit false

/-- `<` or `>`. -/
inductive ByteOrder
  | little
  | big
  deriving DecidableEq, Repr

inductive FormatCode
  | B
  | H
  | I
  | i
  /-- `Ns`. -/
  | s (count : Nat)
  deriving DecidableEq, Repr

/-- An argument of `struct.pack`. -/
inductive PackArg
  | int (value : Int)
  | bytes (value : List UInt8)
  deriving DecidableEq, Repr

/-- The low `width` bytes of `n`, least significant first. -/
def encodeLE : Nat → Nat → List UInt8
  | 0, _ => []
  | width + 1, n => n.toUInt8 :: encodeLE width (n / 256)

/-- The number whose bytes, least significant first, are `bytes`. -/
def decodeLE : List UInt8 → Nat
  | [] => 0
  | byte :: rest => byte.toNat + 256 * decodeLE rest

def encodeUnsigned (order : ByteOrder) (width n : Nat) : List UInt8 :=
  match order with
  | .little => encodeLE width n
  | .big => (encodeLE width n).reverse

def decodeUnsigned (order : ByteOrder) (bytes : List UInt8) : Nat :=
  match order with
  | .little => decodeLE bytes
  | .big => decodeLE bytes.reverse

/-- `_range_error` of an unsigned code of `width` bytes. -/
def unsignedRangeError (code : String) (width : Nat) : PyException :=
  .structError ("'" ++ code ++ "' format requires 0 <= number <= " ++ toString (256 ^ width - 1))

def packUnsigned (order : ByteOrder) (width : Nat) (error : PyException) (value : Int) :
    Except PyException (List UInt8) :=
  if 0 ≤ value ∧ value < 256 ^ width then .ok (encodeUnsigned order width value.toNat)
  else .error error

/-- One code packing one argument. -/
def FormatCode.pack (order : ByteOrder) : FormatCode → PackArg → Except PyException (List UInt8)
  | .B, .int value =>
      packUnsigned order 1 (.structError "ubyte format requires 0 <= number <= 255") value
  | .H, .int value => packUnsigned order 2 (unsignedRangeError "H" 2) value
  | .I, .int value => packUnsigned order 4 (unsignedRangeError "I" 4) value
  | .i, .int value =>
      if -2 ^ 31 ≤ value ∧ value < 2 ^ 31 then .ok (encodeUnsigned order 4 (value % 2 ^ 32).toNat)
      else .error (.structError "'i' format requires -2147483648 <= number <= 2147483647")
  | .s count, .bytes value => .ok ((value ++ List.replicate count 0).take count)
  | .s _, .int _ => .error (.structError "argument for 's' must be a bytes object")
  | _, .bytes _ => .error (.structError "required argument is not an integer")

def packAll (order : ByteOrder) : List FormatCode → List PackArg → Except PyException (List UInt8)
  | code :: codes, arg :: args => do
      let bytes ← code.pack order arg
      let rest ← packAll order codes args
      return bytes ++ rest
  | _, _ => .ok []

/-- `struct.pack(fmt, *args)` for the format with byte order `order` and codes
`codes`. -/
def structPack (order : ByteOrder) (codes : List FormatCode) (args : List PackArg) :
    Except PyException (List UInt8) :=
  if codes.length = args.length then packAll order codes args
  else .error (.structError ("pack expected " ++ toString codes.length ++
    " items for packing (got " ++ toString args.length ++ ")"))

/-- The bytes of the unsigned fields `(width, value)`, in order. -/
def encodeFields (order : ByteOrder) (fields : List (Nat × Nat)) : List UInt8 :=
  fields.flatMap fun field => encodeUnsigned order field.1 field.2

/-! ### Encoding -/

theorem ok_bind {α β : Type} (a : α) (f : α → Except PyException β) :
    (Except.ok a >>= f) = f a := rfl

theorem error_bind {α β : Type} (e : PyException) (f : α → Except PyException β) :
    (Except.error e >>= f) = .error e := rfl

theorem pure_eq_ok {α : Type} (a : α) : (pure a : Except PyException α) = .ok a := rfl

theorem to_nat_to_uint8 (n : Nat) : n.toUInt8.toNat = n % 256 := by
  simp [Nat.toUInt8, UInt8.ofNat, UInt8.toNat]

@[simp] theorem length_encode_le (width n : Nat) : (encodeLE width n).length = width := by
  induction width generalizing n with
  | zero => rfl
  | succ width ih => simp [encodeLE, ih]

theorem decode_le_encode_le (width n : Nat) : decodeLE (encodeLE width n) = n % 256 ^ width := by
  induction width generalizing n with
  | zero => simp [encodeLE, decodeLE, Nat.mod_one]
  | succ width ih =>
      rw [encodeLE, decodeLE, ih, to_nat_to_uint8, pow_succ', Nat.mod_mul]

@[simp] theorem length_encode_unsigned (order : ByteOrder) (width n : Nat) :
    (encodeUnsigned order width n).length = width := by
  cases order <;> simp [encodeUnsigned]

theorem decode_unsigned_encode_unsigned (order : ByteOrder) (width n : Nat) :
    decodeUnsigned order (encodeUnsigned order width n) = n % 256 ^ width := by
  cases order <;> simp [encodeUnsigned, decodeUnsigned, decode_le_encode_le]

@[simp] theorem encode_fields_nil (order : ByteOrder) : encodeFields order [] = [] := rfl

@[simp] theorem encode_fields_cons (order : ByteOrder) (field : Nat × Nat)
    (fields : List (Nat × Nat)) :
    encodeFields order (field :: fields) =
      encodeUnsigned order field.1 field.2 ++ encodeFields order fields := rfl

theorem encode_fields_append (order : ByteOrder) (fields more : List (Nat × Nat)) :
    encodeFields order (fields ++ more) = encodeFields order fields ++ encodeFields order more :=
  List.flatMap_append _ _ _

/-- A number in range packs as its bytes. -/
theorem pack_unsigned_of_lt (order : ByteOrder) (width : Nat) (error : PyException) (value : Int)
    (nonneg : 0 ≤ value) (fits : value < 256 ^ width) :
    packUnsigned order width error value = .ok (encodeUnsigned order width value.toNat) := by
  simp [packUnsigned, nonneg, fits]

/-! ### Reading -/

/-- Read `count` raw bytes. -/
def readBytes (count : Nat) (bytes : List UInt8) : Option (List UInt8 × List UInt8) :=
  if count ≤ bytes.length then some (bytes.take count, bytes.drop count) else none

/-- Read unsigned fields of the given widths. -/
def readFields (order : ByteOrder) : List Nat → List UInt8 → Option (List Nat × List UInt8)
  | [], bytes => some ([], bytes)
  | width :: widths, bytes => do
      let (field, rest) ← readBytes width bytes
      let (fields, rest) ← readFields order widths rest
      some (decodeUnsigned order field :: fields, rest)

theorem read_bytes_append {count : Nat} (bytes rest : List UInt8) (length : bytes.length = count) :
    readBytes count (bytes ++ rest) = some (bytes, rest) := by
  subst length
  simp [readBytes]

theorem read_bytes_all {count : Nat} (bytes : List UInt8) (length : bytes.length = count) :
    readBytes count bytes = some (bytes, []) := by
  simpa using read_bytes_append bytes [] length

/-- Reading fields back from their bytes gives their values, whatever
follows. -/
theorem read_fields_encode_fields (order : ByteOrder) (fields : List (Nat × Nat))
    (fit : ∀ field ∈ fields, field.2 < 256 ^ field.1) (rest : List UInt8) :
    readFields order (fields.map Prod.fst) (encodeFields order fields ++ rest) =
      some (fields.map Prod.snd, rest) := by
  induction fields with
  | nil => rfl
  | cons field fields ih =>
      have fields_fit : ∀ field ∈ fields, field.2 < 256 ^ field.1 :=
        fun other member => fit other (List.mem_cons_of_mem _ member)
      simp only [List.map_cons, encode_fields_cons, List.append_assoc, readFields,
        read_bytes_append _ _ (length_encode_unsigned order field.1 field.2), Option.bind_eq_bind,
        Option.some_bind, ih fields_fit, decode_unsigned_encode_unsigned,
        Nat.mod_eq_of_lt (fit field (List.mem_cons_self _ _))]

/-- `read_fields_encode_fields` with the widths written out. -/
theorem read_fields_layer (order : ByteOrder) (fields : List (Nat × Nat)) (widths : List Nat)
    (same : fields.map Prod.fst = widths) (fit : ∀ field ∈ fields, field.2 < 256 ^ field.1)
    (rest : List UInt8) :
    readFields order widths (encodeFields order fields ++ rest) =
      some (fields.map Prod.snd, rest) := by
  subst same
  exact read_fields_encode_fields order fields fit rest

end VoipSimulator.Python
