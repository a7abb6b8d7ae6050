import VoipSimulator.Python.Dict
import Mathlib.Data.Nat.Digits

/-!
# Python values as the console receives them

The console reads JSON documents through `json.loads`, so its values are
`None`, booleans, arbitrary-precision integers, floats, strings, lists and
string-keyed dicts. A float is an IEEE 754 double: a finite value
`± significand * 2 ^ exponent`, an infinity or NaN (`json.loads` accepts the
`Infinity` and `NaN` literals and turns overflowing literals such as `1e400`
into infinities).

`float(s)` first maps Unicode white space to a space and Unicode decimal
digits to ASCII digits, as CPython does, then reads the ASCII grammar.
Decimal strings are rounded to the nearest double, ties to even, with
overflow to infinity. `repr` of a finite float is the shortest decimal that
reads back to the same double, in Python's layout.
-/

namespace VoipSimulator.Python

set_option autoImplicit false

inductive PyFloat
  | finite (negative : Bool) (significand : Nat) (exponent : Int)
  | infinity (negative : Bool)
  | nan
  deriving DecidableEq, Repr

/-! ### Rounding to a double -/

/-- The number of binary digits of `n`; zero for zero. -/
def bitLength (n : Nat) : Nat := go n n
where
  go : Nat → Nat → Nat
    | 0, _ => 0
    | fuel + 1, n => if n = 0 then 0 else go fuel (n / 2) + 1

/-- Division of naturals rounded to nearest, ties to even. -/
def divRoundEven (a b : Nat) : Nat :=
  if 2 * (a % b) < b then a / b
  else if b < 2 * (a % b) then a / b + 1
  else if a / b % 2 = 0 then a / b else a / b + 1

/-- `⌊log₂ (num / den)⌋` for positive `num` and `den`. -/
def floorLog2 (num den : Nat) : Int :=
  let guess : Int := (bitLength num : Int) - bitLength den
  if 0 ≤ guess then (if den * 2 ^ guess.toNat ≤ num then guess else guess - 1)
  else (if den ≤ num * 2 ^ (-guess).toNat then guess else guess - 1)

/-- The double nearest to `± num / den`. -/
def roundRational (negative : Bool) (num den : Nat) : PyFloat :=
  if num = 0 then .finite negative 0 0 else
    let unit := max (floorLog2 num den - 52) (-1074)
    let significand :=
      if 0 ≤ unit then divRoundEven num (den * 2 ^ unit.toNat)
      else divRoundEven (num * 2 ^ (-unit).toNat) den
    if 971 < unit ∨ (unit = 971 ∧ 2 ^ 53 ≤ significand) then .infinity negative
    else .finite negative significand unit

/-- The double nearest to `± digits * 10 ^ shift`. Values beyond `10^310` are
past the largest double and values below `10^-330` round to zero; both bounds
only spare the computation of enormous powers. -/
def roundDecimal (negative : Bool) (digits : Nat) (shift : Int) : PyFloat :=
  let magnitude := (toString digits).length + shift
  if digits = 0 ∨ magnitude < -330 then .finite negative 0 0
  else if 310 < magnitude then .infinity negative
  else if 0 ≤ shift then roundRational negative (digits * 10 ^ shift.toNat) 1
  else roundRational negative digits (10 ^ (-shift).toNat)

/-! ### `float(s)` -/

def digitValue (c : Char) : Nat := c.toNat - '0'.toNat

/-- The digits after a first one: `(["_"] digit)*`. -/
def digitTail : List Char → List Nat × List Char
  | '_' :: d :: rest =>
      if d.isDigit then (digitValue d :: (digitTail rest).1, (digitTail rest).2)
      else ([], '_' :: d :: rest)
  | d :: rest =>
      if d.isDigit then (digitValue d :: (digitTail rest).1, (digitTail rest).2)
      else ([], d :: rest)
  | [] => ([], [])

/-- `digitpart ::= digit (["_"] digit)*`. -/
def digitPart : List Char → Option (List Nat × List Char)
  | d :: rest => if d.isDigit then some (digitValue d :: (digitTail rest).1, (digitTail rest).2)
      else none
  | [] => none

def digitsValue (digits : List Nat) : Nat := digits.foldl (fun acc d => 10 * acc + d) 0

/-- `number ::= [digitpart] "." digitpart | digitpart ["."]`: the digits, the
power of ten they are scaled by, and the rest of the text. -/
def parseNumber (cs : List Char) : Option (List Nat × Int × List Char) :=
  match digitPart cs with
  | some (whole, '.' :: afterDot) =>
      match digitPart afterDot with
      | some (fraction, rest) => some (whole ++ fraction, -(fraction.length : Int), rest)
      | none => some (whole, 0, afterDot)
  | some (whole, rest) => some (whole, 0, rest)
  | none =>
      match cs with
      | '.' :: afterDot =>
          (digitPart afterDot).map fun (fraction, rest) => (fraction, -(fraction.length : Int), rest)
      | _ => none

/-- `exponent ::= ("e" | "E") [sign] digitpart`, which must end the text. -/
def parseExponent : List Char → Option Int
  | c :: rest =>
      if c = 'e' ∨ c = 'E' then
        match rest with
        | '+' :: body => (digitPart body).bind fun (ds, tail) =>
            if tail = [] then some (digitsValue ds : Int) else none
        | '-' :: body => (digitPart body).bind fun (ds, tail) =>
            if tail = [] then some (-(digitsValue ds : Int)) else none
        | body => (digitPart body).bind fun (ds, tail) =>
            if tail = [] then some (digitsValue ds : Int) else none
      else none
  | [] => none

/-- `absfloatvalue ::= floatnumber | infinity | nan`, case-insensitive names. -/
def parseAbsFloat (negative : Bool) (cs : List Char) : Option PyFloat :=
  let lower := cs.map Char.toLower
  if lower = "inf".toList ∨ lower = "infinity".toList then some (.infinity negative)
  else if lower = "nan".toList then some .nan
  else match parseNumber cs with
    | some (digits, shift, []) => some (roundDecimal negative (digitsValue digits) shift)
    | some (digits, shift, rest) =>
        (parseExponent rest).map fun exponent =>
          roundDecimal negative (digitsValue digits) (shift + exponent)
    | none => none

/-- `Py_ISSPACE`: the ASCII white space `float` strips. -/
def isSpace (c : Char) : Bool :=
  c = ' ' ∨ c = '\t' ∨ c = '\n' ∨ c = '\r' ∨ c.toNat = 11 ∨ c.toNat = 12

/-- `Py_UNICODE_ISSPACE` above ASCII (Unicode 14.0). -/
def isUnicodeSpace (c : Char) : Bool :=
  c.toNat = 0x85 ∨ c.toNat = 0xA0 ∨ c.toNat = 0x1680 ∨ (0x2000 ≤ c.toNat ∧ c.toNat ≤ 0x200A) ∨
    c.toNat = 0x2028 ∨ c.toNat = 0x2029 ∨ c.toNat = 0x202F ∨ c.toNat = 0x205F ∨ c.toNat = 0x3000

/-- The zeros of the Unicode decimal digit runs above ASCII (Unicode 14.0);
each run holds the ten digits in order. -/
def decimalZeros : List Nat :=
  [1632, 1776, 1984, 2406, 2534, 2662, 2790, 2918, 3046, 3174, 3302, 3430, 3558, 3664, 3792,
    3872, 4160, 4240, 6112, 6160, 6470, 6608, 6784, 6800, 6992, 7088, 7232, 7248, 42528, 43216,
    43264, 43472, 43504, 43600, 44016, 65296, 66720, 68912, 69734, 69872, 69942, 70096, 70384,
    70736, 70864, 71248, 71360, 71472, 71904, 72016, 72784, 73040, 73120, 92768, 92864, 93008,
    120782, 120792, 120802, 120812, 120822, 123200, 123632, 125264, 130032]

/-- `Py_UNICODE_TODECIMAL` above ASCII. -/
def unicodeDecimal (c : Char) : Option Nat :=
  (decimalZeros.find? fun first => first ≤ c.toNat ∧ c.toNat < first + 10).map (c.toNat - ·)

/-- `_PyUnicode_TransformDecimalAndSpaceToASCII`, which `float` applies to a
`str` first: ASCII is kept, Unicode white space becomes a space and a Unicode
decimal digit its ASCII digit; the first other character becomes `?` and
ends the text. -/
def asciiForFloat : List Char → List Char
  | [] => []
  | c :: rest =>
      if c.toNat < 128 then c :: asciiForFloat rest
      else if isUnicodeSpace c then ' ' :: asciiForFloat rest
      else match unicodeDecimal c with
        | some d => Char.ofNat (48 + d) :: asciiForFloat rest
        | none => ['?']

def strip (cs : List Char) : List Char :=
  ((cs.dropWhile isSpace).reverse.dropWhile isSpace).reverse

/-- `floatvalue ::= [sign] absfloatvalue`, between white space. -/
def parseFloatValue (s : String) : Option PyFloat :=
  match strip s.toList with
  | '+' :: body => parseAbsFloat false body
  | '-' :: body => parseAbsFloat true body
  | body => parseAbsFloat false body

/-- `float(s)` for a string `s`. -/
def floatOfString (s : String) : Except PyException PyFloat :=
  match parseFloatValue (String.mk (asciiForFloat s.toList)) with
  | some value => .ok value
  | none => .error (.valueError ("could not convert string to float: '" ++ s ++ "'"))

/-! ### `int(x)` of a float -/

/-- `int(x)`: truncation towards zero. -/
def PyFloat.toInt : PyFloat → Except PyException Int
  | .finite negative significand exponent =>
      let magnitude : Nat :=
        if 0 ≤ exponent then significand * 2 ^ exponent.toNat
        else significand / 2 ^ (-exponent).toNat
      .ok (if negative then -(magnitude : Int) else magnitude)
  | .infinity _ => .error (.overflowError "cannot convert float infinity to integer")
  | .nan => .error (.valueError "cannot convert float NaN to integer")

theorem PyFloat.to_int_error (x : PyFloat) (e : PyException) (raised : x.toInt = .error e) :
    (x = .nan ∧ e = .valueError "cannot convert float NaN to integer") ∨
      ∃ negative, x = .infinity negative ∧
        e = .overflowError "cannot convert float infinity to integer" := by
  cases x with
  | finite => simp [PyFloat.toInt] at raised
  | infinity negative =>
      simp only [PyFloat.toInt, Except.error.injEq] at raised
      exact .inr ⟨negative, rfl, raised.symm⟩
  | nan =>
      simp only [PyFloat.toInt, Except.error.injEq] at raised
      exact .inl ⟨rfl, raised.symm⟩

/-! ### `repr` of a float -/

/-- The value `significand * 2 ^ exponent` as a fraction. -/
def binaryFraction (significand : Nat) (exponent : Int) : Nat × Nat :=
  if 0 ≤ exponent then (significand * 2 ^ exponent.toNat, 1) else (significand, 2 ^ (-exponent).toNat)

/-- `⌊log₁₀ (num / den)⌋` for positive `num` and `den`, by scanning powers of
ten between the bounds every double lies in. -/
def floorLog10 (num den : Nat) : Int :=
  ((List.range 700).map fun k => (k : Int) - 350).foldl
    (fun acc k => if (if 0 ≤ k then den * 10 ^ k.toNat ≤ num else den ≤ num * 10 ^ (-k).toNat)
      then k else acc) (-350)

/-- `num / den` rounded to `precision` significant digits: the digits and
the power of ten of the last one. -/
def roundToPrecision (num den precision : Nat) : Nat × Int :=
  let last := floorLog10 num den - precision + 1
  if 0 ≤ last then (divRoundEven num (den * 10 ^ last.toNat), last)
  else (divRoundEven (num * 10 ^ (-last).toNat) den, last)

/-- `digits * 10 ^ shift` with at most `fuel` trailing zeros of `digits`
moved into `shift`. -/
def dropTrailingZeros : Nat → Nat → Int → Nat × Int
  | 0, digits, shift => (digits, shift)
  | fuel + 1, digits, shift =>
      if 0 < digits ∧ digits % 10 = 0 then dropTrailingZeros fuel (digits / 10) (shift + 1)
      else (digits, shift)

/-- The shortest decimal `digits * 10 ^ shift` that reads back as the
positive double `significand * 2 ^ exponent`. A rounding that carries leaves
a `0` (`9.6e-8` to one digit is `10 * 10 ^ -8`), which `_Py_dg_dtoa` strips;
no candidate has more than 18 digits. -/
def shortestDecimal (significand : Nat) (exponent : Int) : Nat × Int :=
  let (num, den) := binaryFraction significand exponent
  let candidates := (List.range 17).map fun p => roundToPrecision num den (p + 1)
  let (digits, shift) := (candidates.find? fun (digits, shift) =>
    roundDecimal false digits shift = roundRational false num den).getD
    (roundToPrecision num den 17)
  dropTrailingZeros 18 digits shift

/-- Python's layout of `digits * 10 ^ shift` for `repr`: positional between
`1e-4` and `1e16`, with `.0` for integers, else `d.ddde+XX`. -/
def layoutDecimal (digits : Nat) (shift : Int) : String :=
  let text := toString digits
  let point : Int := text.length + shift
  if -4 < point ∧ point ≤ 16 then
    if shift ≥ 0 then text ++ String.mk (List.replicate shift.toNat '0') ++ ".0"
    else if 0 < point then
      String.mk (text.toList.take point.toNat) ++ "." ++ String.mk (text.toList.drop point.toNat)
    else "0." ++ String.mk (List.replicate (-point).toNat '0') ++ text
  else
    let mantissa := match text.toList with
      | [d] => String.mk [d]
      | d :: rest => String.mk [d] ++ "." ++ String.mk rest
      | [] => "0"
    let power := point - 1
    let powerText := toString power.natAbs
    mantissa ++ "e" ++ (if power < 0 then "-" else "+") ++
      (if powerText.length < 2 then "0" ++ powerText else powerText)

def PyFloat.repr : PyFloat → String
  | .finite negative significand exponent =>
      (if negative then "-" else "") ++
        (if significand = 0 then "0.0"
         else layoutDecimal (shortestDecimal significand exponent).1
           (shortestDecimal significand exponent).2)
  | .infinity negative => if negative then "-inf" else "inf"
  | .nan => "nan"

/-- Dropping zeros keeps the value: the digits lose a factor `10 ^ k` that
the shift gains. -/
theorem digits_eq_drop_trailing_zeros_mul (fuel digits : Nat) (shift : Int) :
    ∃ k ≤ fuel, digits = (dropTrailingZeros fuel digits shift).1 * 10 ^ k ∧
      (dropTrailingZeros fuel digits shift).2 = shift + k := by
  induction fuel generalizing digits shift with
  | zero => exact ⟨0, le_rfl, by simp [dropTrailingZeros], by simp [dropTrailingZeros]⟩
  | succ fuel ih =>
      by_cases zero : 0 < digits ∧ digits % 10 = 0
      · obtain ⟨k, le, eq, shifted⟩ := ih (digits / 10) (shift + 1)
        simp only [dropTrailingZeros, if_pos zero]
        refine ⟨k + 1, Nat.succ_le_succ le, ?_, by rw [shifted]; push_cast; ring⟩
        rw [pow_succ, ← mul_assoc, ← eq]
        omega
      · simp only [dropTrailingZeros, if_neg zero]
        exact ⟨0, Nat.zero_le _, (Nat.mul_one _).symm, (add_zero _).symm⟩

/-- With fuel for every digit, no zero is left at the end. -/
theorem drop_trailing_zeros_mod_ne_zero (fuel digits : Nat) (shift : Int) (short : digits < 10 ^ fuel)
    (positive : 0 < digits) : (dropTrailingZeros fuel digits shift).1 % 10 ≠ 0 := by
  induction fuel generalizing digits shift with
  | zero => omega
  | succ fuel ih =>
      by_cases zero : 0 < digits ∧ digits % 10 = 0
      · simp only [dropTrailingZeros, if_pos zero]
        exact ih _ _ (by rw [pow_succ] at short; omega) (by omega)
      · simp only [dropTrailingZeros, if_neg zero]
        omega

set_option maxRecDepth 20000 in
example : PyFloat.repr (.finite false 7555786372591432 (-76)) = "1e-07" := by decide

/-! ### Values -/

inductive PyValue
  | none
  | bool (value : Bool)
  | int (value : Int)
  | float (value : PyFloat)
  | str (value : String)
  | list (items : List PyValue)
  | dict (entries : List (String × PyValue))
  deriving Repr

/-- `repr` of a string. Quotes and backslashes are escaped; other
non-printable characters are left as they are. -/
def reprString (s : String) : String :=
  "'" ++ String.join (s.toList.map fun c =>
    if c = '\'' then "\\'" else if c = '\\' then "\\\\" else String.mk [c]) ++ "'"

mutual
/-- `repr(v)`. -/
def PyValue.repr : PyValue → String
  | .none => "None"
  | .bool true => "True"
  | .bool false => "False"
  | .int value => toString value
  | .float value => value.repr
  | .str value => reprString value
  | .list items => "[" ++ PyValue.reprItems items ++ "]"
  | .dict entries => "\x7b" ++ PyValue.reprEntries entries ++ "\x7d"

def PyValue.reprItems : List PyValue → String
  | [] => ""
  | [item] => item.repr
  | item :: rest => item.repr ++ ", " ++ PyValue.reprItems rest

def PyValue.reprEntries : List (String × PyValue) → String
  | [] => ""
  | [(key, value)] => reprString key ++ ": " ++ value.repr
  | (key, value) :: rest => reprString key ++ ": " ++ value.repr ++ ", " ++ PyValue.reprEntries rest
end

/-- `str(v)`: a string is itself, everything else is its `repr`. -/
def PyValue.toStr : PyValue → String
  | .str value => value
  | value => value.repr

/-- `bool(v)`. -/
def PyValue.truthy : PyValue → Bool
  | .none => false
  | .bool value => value
  | .int value => value ≠ 0
  | .float (.finite _ significand _) => significand ≠ 0
  | .float _ => true
  | .str value => !value.isEmpty
  | .list items => !items.isEmpty
  | .dict entries => !entries.isEmpty

/-- `type(v).__name__`, which `AttributeError` and `TypeError` messages name. -/
def typeName : PyValue → String
  | .none => "NoneType"
  | .bool _ => "bool"
  | .int _ => "int"
  | .float _ => "float"
  | .str _ => "str"
  | .list _ => "list"
  | .dict _ => "dict"

/-- `msg.value if isinstance(msg.value, dict) else {}`, with which both
consumers start. -/
def messageEntries : PyValue → List (String × PyValue)
  | .dict entries => entries
  | _ => []

/-- Whether `hash(v)` succeeds: lists and dicts are unhashable. -/
def PyValue.hashable : PyValue → Bool
  | .list _ => false
  | .dict _ => false
  | _ => true

/-- The `TypeError` of hashing an unhashable value. -/
def unhashable (value : PyValue) : PyException :=
  .typeError ("unhashable type: '" ++ typeName value ++ "'")

/-! ### Integers through `float(str(v))`

`str` of an integer is its decimal digits after an optional minus sign, which
`float` reads back; below `2 ^ 53` in magnitude the nearest double is the
integer itself, so `int` returns it unchanged. -/

theorem digit_char_digit (k : Nat) (small : k < 10) :
    (Nat.digitChar k).isDigit = true ∧ digitValue (Nat.digitChar k) = k := by
  have table : ∀ k, k < 10 → (Nat.digitChar k).isDigit = true ∧ digitValue (Nat.digitChar k) = k := by
    decide
  exact table k small

/-- `Nat.toDigitsCore` writes the decimal digits of `n` in front of `acc`. -/
theorem to_digits_core_digits (fuel : Nat) :
    ∀ (n : Nat) (acc : List Char), n < fuel →
      ∃ ds, Nat.toDigitsCore 10 fuel n acc = ds ++ acc ∧ ds ≠ [] ∧
        (∀ c ∈ ds, c.isDigit = true) ∧ digitsValue (ds.map digitValue) = n := by
  induction fuel with
  | zero => intro n acc bound; omega
  | succ fuel ih =>
      intro n acc bound
      have last := digit_char_digit (n % 10) (Nat.mod_lt _ (by decide))
      by_cases single : n / 10 = 0
      · refine ⟨[Nat.digitChar (n % 10)], by simp [Nat.toDigitsCore, single], by simp, ?_, ?_⟩
        · simpa using last.1
        · simp [digitsValue, last.2]
          omega
      · obtain ⟨ds, written, nonempty, digits, value⟩ :=
          ih (n / 10) (Nat.digitChar (n % 10) :: acc) (by omega)
        refine ⟨ds ++ [Nat.digitChar (n % 10)], ?_, by simp, ?_, ?_⟩
        · simp [Nat.toDigitsCore, single, written]
        · intro c member
          rcases List.mem_append.mp member with inDs | isLast
          · exact digits c inDs
          · rw [List.mem_singleton.mp isLast]
            exact last.1
        · simp only [digitsValue, List.map_append, List.foldl_append, List.map_cons, List.map_nil,
            List.foldl_cons, List.foldl_nil] at value ⊢
          rw [value, last.2]
          omega
theorem digit_bounds {c : Char} (digit : c.isDigit = true) : 48 ≤ c.toNat ∧ c.toNat ≤ 57 := by
  simp only [Char.isDigit, Bool.and_eq_true, decide_eq_true_eq, UInt32.le_def, BitVec.le_def]
    at digit
  exact digit

theorem digit_ne {c d : Char} (digit : c.isDigit = true) (other : d.toNat < 48 ∨ 57 < d.toNat) :
    c ≠ d := by
  rintro rfl
  have := digit_bounds digit
  omega

theorem to_lower_digit {c : Char} (digit : c.isDigit = true) : c.toLower = c := by
  have := digit_bounds digit
  unfold Char.toLower
  simp only
  rw [if_neg (by omega)]

theorem is_space_digit {c : Char} (digit : c.isDigit = true) : isSpace c = false := by
  have := digit_bounds digit
  have other := fun (d : Char) (outside : d.toNat < 48 ∨ 57 < d.toNat) => digit_ne digit outside
  simp only [isSpace, decide_eq_false_iff_not, not_or]
  exact ⟨other ' ' (by decide), other '\t' (by decide), other '\n' (by decide),
    other '\r' (by decide), by omega, by omega⟩

theorem digit_tail_digits (cs : List Char) (digits : ∀ c ∈ cs, c.isDigit = true) :
    digitTail cs = (cs.map digitValue, []) := by
  induction cs with
  | nil => rfl
  | cons c rest ih =>
      have digit := digits c (List.mem_cons_self _ _)
      have tail := ih (fun other member => digits other (List.mem_cons_of_mem _ member))
      have notUnderscore : c ≠ '_' := digit_ne digit (by decide)
      cases rest with
      | nil => simp [digitTail, digit]
      | cons d rest => simp [digitTail, notUnderscore, digit, tail]

theorem digit_part_digits (c : Char) (rest : List Char)
    (digits : ∀ d ∈ c :: rest, d.isDigit = true) :
    digitPart (c :: rest) = some ((c :: rest).map digitValue, []) := by
  have digit := digits c (List.mem_cons_self _ _)
  simp [digitPart, digit,
    digit_tail_digits rest (fun d member => digits d (List.mem_cons_of_mem _ member))]

theorem drop_while_is_space (cs : List Char) (noSpace : ∀ c ∈ cs, isSpace c = false) :
    cs.dropWhile isSpace = cs := by
  cases cs with
  | nil => rfl
  | cons c rest => simp [List.dropWhile, noSpace c (List.mem_cons_self _ _)]

theorem strip_of_no_space (cs : List Char) (noSpace : ∀ c ∈ cs, isSpace c = false) :
    strip cs = cs := by
  rw [strip, drop_while_is_space cs noSpace,
    drop_while_is_space cs.reverse (fun c member => noSpace c (List.mem_reverse.mp member)),
    List.reverse_reverse]

/-- `float` of the decimal digits of `n`, with or without a minus sign. -/
theorem parse_abs_float_digits (negative : Bool) (c : Char) (rest : List Char)
    (digits : ∀ d ∈ c :: rest, d.isDigit = true) :
    parseAbsFloat negative (c :: rest) =
      some (roundDecimal negative (digitsValue ((c :: rest).map digitValue)) 0) := by
  have digit := digits c (List.mem_cons_self _ _)
  have lower : (c :: rest).map Char.toLower = c :: rest := by
    rw [List.map_congr_left (fun d member => to_lower_digit (digits d member)), List.map_id']
  have notI : c ≠ 'i' := digit_ne digit (by decide)
  have notN : c ≠ 'n' := digit_ne digit (by decide)
  simp [parseAbsFloat, lower, notI, notN, parseNumber, digit_part_digits c rest digits]

/-- The characters of `str(n)` for a natural number `n`. -/
theorem to_list_to_string_nat (n : Nat) :
    ∃ c rest, (toString n).toList = c :: rest ∧ (∀ d ∈ c :: rest, d.isDigit = true) ∧
      digitsValue ((c :: rest).map digitValue) = n := by
  obtain ⟨ds, written, nonempty, digits, value⟩ := to_digits_core_digits (n + 1) n [] (by omega)
  obtain ⟨c, rest, rfl⟩ := List.exists_cons_of_ne_nil nonempty
  refine ⟨c, rest, ?_, digits, value⟩
  simpa [Nat.toDigits] using written

/-- `float(str(v))` of an integer reads its digits and its sign. -/
theorem parse_float_value_int (v : Int) :
    parseFloatValue (toString v) = some (roundDecimal (decide (v < 0)) v.natAbs 0) := by
  cases v with
  | ofNat n =>
      obtain ⟨c, rest, text, digits, value⟩ := to_list_to_string_nat n
      have digit := digits c (List.mem_cons_self _ _)
      have notPlus : c ≠ '+' := digit_ne digit (by decide)
      have notMinus : c ≠ '-' := digit_ne digit (by decide)
      have shown : (toString (Int.ofNat n)).toList = c :: rest := text
      have nonneg : ¬ ((n : Int) < 0) := by omega
      rw [parseFloatValue, shown,
        strip_of_no_space _ (fun d member => is_space_digit (digits d member))]
      simp only [List.map_cons] at value
      simp [notPlus, notMinus, parse_abs_float_digits false c rest digits, value, nonneg]
  | negSucc m =>
      obtain ⟨c, rest, text, digits, value⟩ := to_list_to_string_nat (m + 1)
      have shown : (toString (Int.negSucc m)).toList = '-' :: c :: rest := by
        show '-' :: (toString (m + 1)).toList = _
        rw [text]
      have noSpace : ∀ d ∈ '-' :: c :: rest, isSpace d = false := by
        intro d member
        rcases List.mem_cons.mp member with minus | inDigits
        · subst minus
          decide
        · exact is_space_digit (digits d inDigits)
      rw [parseFloatValue, shown, strip_of_no_space _ noSpace]
      simp only [List.map_cons] at value
      simp [parse_abs_float_digits true c rest digits, value, Int.negSucc_lt_zero]

theorem ascii_for_float_of_lt (cs : List Char) (ascii : ∀ c ∈ cs, c.toNat < 128) :
    asciiForFloat cs = cs := by
  induction cs with
  | nil => rfl
  | cons c rest ih =>
      rw [asciiForFloat, if_pos (ascii c (List.mem_cons_self _ _)),
        ih fun d member => ascii d (List.mem_cons_of_mem _ member)]

theorem ascii_for_float_to_string (v : Int) :
    String.mk (asciiForFloat (toString v).toList) = toString v := by
  have digitsAscii : ∀ n : Nat, ∀ d ∈ (toString n).toList, d.toNat < 128 := by
    intro n d member
    obtain ⟨c, rest, text, digits, -⟩ := to_list_to_string_nat n
    rw [text] at member
    have := digit_bounds (digits d member)
    omega
  rw [ascii_for_float_of_lt]
  · rfl
  cases v with
  | ofNat n => exact digitsAscii n
  | negSucc m =>
      intro d member
      change d ∈ '-' :: (toString (m + 1)).toList at member
      rcases List.mem_cons.mp member with rfl | inDigits
      · decide
      · exact digitsAscii (m + 1) d inDigits

/-- `bitLength.go` with enough fuel brackets `n` between powers of two. -/
theorem bit_length_go_spec (fuel : Nat) :
    ∀ n, n ≤ fuel → n < 2 ^ bitLength.go fuel n ∧ (0 < n → 2 ^ (bitLength.go fuel n - 1) ≤ n) := by
  induction fuel with
  | zero =>
      intro n bound
      have zero : n = 0 := by omega
      subst zero
      simp [bitLength.go]
  | succ fuel ih =>
      intro n bound
      by_cases zero : n = 0
      · subst zero
        simp [bitLength.go]
      · obtain ⟨above, below⟩ := ih (n / 2) (by omega)
        simp only [bitLength.go, zero, if_false, Nat.add_sub_cancel, pow_succ]
        constructor
        · omega
        · intro _
          by_cases halfZero : n / 2 = 0
          · have length : bitLength.go fuel (n / 2) = 0 := by
              rw [halfZero]
              cases fuel <;> rfl
            rw [length]
            omega
          · have lower := below (by omega)
            have positive : 0 < bitLength.go fuel (n / 2) := by
              rcases Nat.eq_zero_or_pos (bitLength.go fuel (n / 2)) with none | some
              · rw [none] at above
                omega
              · exact some
            have double : 2 ^ bitLength.go fuel (n / 2) = 2 ^ (bitLength.go fuel (n / 2) - 1) * 2 := by
              rw [← pow_succ, Nat.sub_add_cancel positive]
            omega

theorem bit_length_spec (n : Nat) (positive : 0 < n) :
    2 ^ (bitLength n - 1) ≤ n ∧ n < 2 ^ bitLength n :=
  ⟨(bit_length_go_spec n n le_rfl).2 positive, (bit_length_go_spec n n le_rfl).1⟩

theorem bit_length_pos (n : Nat) (positive : 0 < n) : 0 < bitLength n := by
  have upper := (bit_length_spec n positive).2
  by_contra none
  rw [Nat.eq_zero_of_not_pos none] at upper
  omega

theorem floor_log2_one (n : Nat) (positive : 0 < n) :
    floorLog2 n 1 = (bitLength n : Int) - 1 := by
  have lower := (bit_length_spec n positive).1
  have oneLe := bit_length_pos n positive
  have one : bitLength 1 = 1 := rfl
  have guessNat : ((bitLength n : Int) - 1).toNat = bitLength n - 1 := by omega
  simp only [floorLog2, one, Nat.cast_one, guessNat, Nat.one_mul]
  rw [if_pos (by omega), if_pos lower]

theorem div_round_even_one (a : Nat) : divRoundEven a 1 = a := by
  simp [divRoundEven, Nat.mod_one]

/-- A natural number below `2 ^ 53` is a double: rounding it changes nothing,
and `int` gives it back. -/
theorem to_int_round_rational (negative : Bool) (n : Nat) (small : n < 2 ^ 53) :
    (roundRational negative n 1).toInt = .ok (if negative then -(n : Int) else n) := by
  by_cases zero : n = 0
  · subst zero
    cases negative <;> rfl
  have positive : 0 < n := by omega
  obtain ⟨lower, upper⟩ := bit_length_spec n positive
  have bits : bitLength n ≤ 53 := by
    by_contra more
    have : 2 ^ 53 ≤ 2 ^ (bitLength n - 1) := Nat.pow_le_pow_right (by decide) (by omega)
    omega
  have oneLe := bit_length_pos n positive
  have unit : max (floorLog2 n 1 - 52) (-1074) = (bitLength n : Int) - 53 := by
    rw [floor_log2_one n positive]
    omega
  unfold roundRational
  simp only [zero, if_false, unit]
  by_cases full : bitLength n = 53
  · have noShift : (bitLength n : Int) - 53 = 0 := by omega
    simp [noShift, div_round_even_one, PyFloat.toInt]
  · have negUnit : ¬ (0 ≤ (bitLength n : Int) - 53) := by omega
    have shift : (-((bitLength n : Int) - 53)).toNat = 53 - bitLength n := by omega
    have finite : ¬ (971 < (bitLength n : Int) - 53 ∨ ((bitLength n : Int) - 53 = 971 ∧
        2 ^ 53 ≤ n * 2 ^ (53 - bitLength n))) := by omega
    simp only [negUnit, if_false, shift, div_round_even_one, finite, PyFloat.toInt,
      Nat.mul_div_cancel _ (Nat.two_pow_pos _)]

theorem round_decimal_small (negative : Bool) (n : Nat) (small : n < 2 ^ 53) :
    roundDecimal negative n 0 = roundRational negative n 1 := by
  by_cases zero : n = 0
  · subst zero
    rfl
  have length : (toString n).length ≤ 16 := Nat.repr_length n 16 (by decide) (by omega)
  have notTiny : ¬ (((toString n).length : Int) < -330) := by omega
  have notHuge : ¬ (310 < (toString n).length) := by omega
  simp [roundDecimal, zero, notTiny, notHuge]

/-- `int(float(str(v)))` gives back an integer below `2 ^ 53` in magnitude. -/
theorem float_of_string_int (v : Int) (small : v.natAbs < 2 ^ 53) :
    (floatOfString (toString v)).bind PyFloat.toInt = .ok v := by
  rw [floatOfString, ascii_for_float_to_string, parse_float_value_int, round_decimal_small _ _ small]
  show (roundRational _ _ 1).toInt = _
  rw [to_int_round_rational _ _ small]
  congr 1
  by_cases negative : v < 0
  · rw [decide_eq_true negative, if_pos rfl]
    omega
  · rw [decide_eq_false negative, if_neg Bool.false_ne_true]
    omega

end VoipSimulator.Python
