import VoipSimulator.Python.Json

/-!
# `json.loads`: the scanner, and the round trip with `json.dumps`

`_make_consumer` reads every Kafka record with `json.loads(v.decode("utf-8"))`,
and the producer writes every command with `json.dumps(v)`. `json.loads`
runs CPython's C scanner with the default hooks: `scan_once_unicode`, which
dispatches on the first character of a value, `scanstring_unicode` in strict
mode, `_match_number_unicode`, and the loops of `_parse_array_unicode` and
`_parse_object_unicode`, whose dict keeps a repeated key in its first place
with its last value. `JSONDecoder.decode` skips white space around the value
and reports anything after it as `Extra data`.

The model reads the characters of the text. Two outcomes of Python are out
of its reach, and `jsonLoads` answers `none` for them: a `\uXXXX` escape of a
lone surrogate, which Python keeps as a code point and a Lean string cannot
hold, and a running out of fuel, which with twice the text's length never
happens. Nesting deep enough to raise `RecursionError` is not modelled.
-/

namespace VoipSimulator.Python

set_option autoImplicit false

/-- `IS_WHITESPACE`. -/
def isJsonSpace (c : Char) : Bool := c = ' ' || c = '\t' || c = '\n' || c = '\r'

/-- The white space the scanner skips between tokens. -/
def skipSpace (cs : List Char) : List Char := cs.dropWhile isJsonSpace

/-- How the scanner stops short of a value. -/
inductive ScanError
  /-- `raise_errmsg(msg, pystr, pos)`, or the `StopIteration` of a text that
  starts no value, which `raw_decode` reports as `Expecting value`; `left` is
  the length of the text from `pos` on. -/
  | decode (msg : String) (left : Nat)
  /-- Another exception: `int` of more than 4300 digits. -/
  | raised (error : PyException)
  /-- A `\uXXXX` escape of a lone surrogate. -/
  | loneSurrogate
  /-- The fuel ran out. -/
  | exhausted
  deriving DecidableEq, Repr

/-! ### Strings -/

/-- A hex digit of a `\uXXXX` escape, in either case. -/
def hexValue (c : Char) : Option Nat :=
  if '0' ≤ c ∧ c ≤ '9' then some (c.toNat - '0'.toNat)
  else if 'a' ≤ c ∧ c ≤ 'f' then some (c.toNat - 'a'.toNat + 10)
  else if 'A' ≤ c ∧ c ≤ 'F' then some (c.toNat - 'A'.toNat + 10)
  else none

/-- The code unit of the four hex digits of a `\uXXXX` escape: `c <<= 4; c |= digit`. -/
def hexQuad (a b c d : Char) : Option Nat := do
  let a ← hexValue a
  let b ← hexValue b
  let c ← hexValue c
  let d ← hexValue d
  pure (((a * 16 + b) * 16 + c) * 16 + d)

/-- The character a backslash escape other than `\u` stands for. -/
def simpleEscape : Char → Option Char
  | '"' => some '"'
  | '\\' => some '\\'
  | '/' => some '/'
  | 'b' => some '\x08'
  | 'f' => some '\x0c'
  | 'n' => some '\n'
  | 'r' => some '\r'
  | 't' => some '\t'
  | _ => none

def isHighSurrogate (unit : Nat) : Bool := 0xD800 ≤ unit && unit ≤ 0xDBFF

def isLowSurrogate (unit : Nat) : Bool := 0xDC00 ≤ unit && unit ≤ 0xDFFF

/-- `Py_UNICODE_JOIN_SURROGATES`. -/
def joinSurrogates (high low : Nat) : Nat := 0x10000 + ((high &&& 0x3FF) <<< 10 ||| (low &&& 0x3FF))

/-- The character of a `\uXXXX` escape that is not joined with the next one. -/
def unitChar (unit : Nat) : Except ScanError Char :=
  if isHighSurrogate unit || isLowSurrogate unit then .error .loneSurrogate else .ok (Char.ofNat unit)

/-- `scanstring_unicode` after the opening quote, with the characters read so
far; `begin` is the length of the text from the quote on. A `\uXXXX` escape
needs a character after its four digits, and a high surrogate is joined with
a following `\uXXXX` only when a character follows that one too. -/
def scanString (begin : Nat) : List Char → List Char → Except ScanError (String × List Char)
  | _, [] => .error (.decode "Unterminated string starting at" begin)
  | acc, c :: rest =>
      if c = '"' then .ok (String.mk acc, rest)
      else if c = '\\' then
        match rest with
        | [] => .error (.decode "Unterminated string starting at" begin)
        | 'u' :: a :: b :: c' :: d :: '\\' :: 'u' :: e :: f :: g :: h :: t :: ts =>
            match hexQuad a b c' d with
            | none => .error (.decode "Invalid \\uXXXX escape" rest.length)
            | some unit =>
                if isHighSurrogate unit then
                  match hexQuad e f g h with
                  | none =>
                      .error (.decode "Invalid \\uXXXX escape" ('u' :: e :: f :: g :: h :: t :: ts).length)
                  | some low =>
                      if isLowSurrogate low then
                        scanString begin (acc ++ [Char.ofNat (joinSurrogates unit low)]) (t :: ts)
                      else .error .loneSurrogate
                else
                  match unitChar unit with
                  | .ok char =>
                      scanString begin (acc ++ [char]) ('\\' :: 'u' :: e :: f :: g :: h :: t :: ts)
                  | .error failure => .error failure
        | 'u' :: a :: b :: c' :: d :: t :: ts =>
            match hexQuad a b c' d with
            | none => .error (.decode "Invalid \\uXXXX escape" rest.length)
            | some unit =>
                match unitChar unit with
                | .ok char => scanString begin (acc ++ [char]) (t :: ts)
                | .error failure => .error failure
        | 'u' :: _ => .error (.decode "Invalid \\uXXXX escape" rest.length)
        | e :: tail =>
            match simpleEscape e with
            | some escaped => scanString begin (acc ++ [escaped]) tail
            | none => .error (.decode "Invalid \\escape" (rest.length + 1))
      else if c.toNat ≤ 0x1f then .error (.decode "Invalid control character at" (rest.length + 1))
      else scanString begin (acc ++ [c]) rest

/-! ### Numbers -/

/-- The integer part: `0` alone, or a digit from 1 to 9 and every digit after it. -/
def integerPart : List Char → Option (List Char × List Char)
  | d :: more =>
      if d = '0' then some (['0'], more)
      else if d.isDigit then some (d :: more.takeWhile Char.isDigit, more.dropWhile Char.isDigit)
      else none
  | [] => none

/-- The fraction: a point and at least one digit, or nothing. -/
def fractionPart : List Char → List Char × List Char
  | c :: d :: more =>
      if c = '.' ∧ d.isDigit then ('.' :: d :: more.takeWhile Char.isDigit, more.dropWhile Char.isDigit)
      else ([], c :: d :: more)
  | cs => ([], cs)

/-- The sign of an exponent, if there is one. -/
def exponentSign : List Char → List Char × List Char
  | c :: body => if c = '+' ∨ c = '-' then ([c], body) else ([], c :: body)
  | [] => ([], [])

/-- The exponent: `e` or `E`, a sign, and at least one digit, or nothing. -/
def exponentPart : List Char → List Char × List Char
  | e :: more =>
      if (e = 'e' ∨ e = 'E') ∧ ((exponentSign more).2.takeWhile Char.isDigit).isEmpty = false then
        (e :: (exponentSign more).1 ++ (exponentSign more).2.takeWhile Char.isDigit,
          (exponentSign more).2.dropWhile Char.isDigit)
      else ([], e :: more)
  | [] => ([], [])

/-- The minus sign of a number, if there is one. -/
def numberSign : List Char → List Char × List Char
  | c :: body => if c = '-' then (['-'], body) else ([], c :: body)
  | [] => ([], [])

/-- The `ValueError` of `int` on a text of more than 4300 digits. -/
def intLimitError (digits : Nat) : PyException :=
  .valueError ("Exceeds the limit (4300 digits) for integer string conversion: value has " ++
    toString digits ++ " digits; use sys.set_int_max_str_digits() to increase the limit")

/-- `int` of the number's text when it has neither fraction nor exponent,
`float` of it otherwise. -/
def numberValue (sign whole fraction exponent : List Char) : Except ScanError PyValue :=
  if fraction.isEmpty ∧ exponent.isEmpty then
    if 4300 < whole.length then .error (.raised (intLimitError whole.length))
    else
      let magnitude : Int := digitsValue (whole.map digitValue)
      .ok (.int (if sign.isEmpty then magnitude else -magnitude))
  else
    match floatOfString (String.mk (sign ++ whole ++ fraction ++ exponent)) with
    | .ok value => .ok (.float value)
    | .error e => .error (.raised e)

/-- `_match_number_unicode`: an optional minus sign and the integer part, then
an optional fraction and exponent. -/
def matchNumber (cs : List Char) : Except ScanError (PyValue × List Char) :=
  match integerPart (numberSign cs).2 with
  | none => .error (.decode "Expecting value" cs.length)
  | some (whole, afterWhole) =>
      let fraction := fractionPart afterWhole
      let exponent := exponentPart fraction.2
      (numberValue (numberSign cs).1 whole fraction.1 exponent.1).map fun value => (value, exponent.2)

/-! ### Values -/

/-- The named constants `scan_once_unicode` recognises by their first
character and the characters after it. -/
def jsonConstants : List (List Char × PyValue) :=
  [("null".toList, .none), ("true".toList, .bool true), ("false".toList, .bool false),
    ("NaN".toList, .float .nan), ("Infinity".toList, .float (.infinity false)),
    ("-Infinity".toList, .float (.infinity true))]

/-- A named constant at the front, else a number. -/
def scanConstant (cs : List Char) : Except ScanError (PyValue × List Char) :=
  match jsonConstants.find? (fun constant => constant.1.isPrefixOf cs) with
  | some (name, value) => .ok (value, cs.drop name.length)
  | none => matchNumber cs

mutual
/-- `scan_once_unicode` at the start of a value: its `switch` on the first
character. -/
def scanOnce : Nat → List Char → Except ScanError (PyValue × List Char)
  | 0, _ => .error .exhausted
  | fuel + 1, cs =>
      if cs.head? = some '"' then
        match scanString cs.length [] cs.tail with
        | .ok (s, after) => .ok (.str s, after)
        | .error e => .error e
      else if cs.head? = some '{' then
        if (skipSpace cs.tail).head? = some '}' then .ok (.dict [], (skipSpace cs.tail).tail)
        else parseMembers fuel (skipSpace cs.tail) []
      else if cs.head? = some '[' then
        if (skipSpace cs.tail).head? = some ']' then .ok (.list [], (skipSpace cs.tail).tail)
        else parseItems fuel (skipSpace cs.tail) []
      else scanConstant cs

/-- The loop of `_parse_array_unicode` from an element on. -/
def parseItems : Nat → List Char → List PyValue → Except ScanError (PyValue × List Char)
  | 0, _, _ => .error .exhausted
  | fuel + 1, cs, items =>
      match scanOnce fuel cs with
      | .error e => .error e
      | .ok (value, rest) =>
          match skipSpace rest with
          | ']' :: after => .ok (.list (items ++ [value]), after)
          | ',' :: after => parseItems fuel (skipSpace after) (items ++ [value])
          | other => .error (.decode "Expecting ',' delimiter" other.length)

/-- The loop of `_parse_object_unicode` from a key on; `PyDict_SetItem` keeps
a repeated key in its first place with its last value. -/
def parseMembers : Nat → List Char → List (String × PyValue) → Except ScanError (PyValue × List Char)
  | 0, _, _ => .error .exhausted
  | fuel + 1, cs, entries =>
      match cs with
      | '"' :: afterQuote =>
          match scanString cs.length [] afterQuote with
          | .error e => .error e
          | .ok (key, rest) =>
              match skipSpace rest with
              | ':' :: afterColon =>
                  match scanOnce fuel (skipSpace afterColon) with
                  | .error e => .error e
                  | .ok (value, rest) =>
                      match skipSpace rest with
                      | '}' :: after => .ok (.dict (PyDict.set entries key value), after)
                      | ',' :: after => parseMembers fuel (skipSpace after) (PyDict.set entries key value)
                      | other => .error (.decode "Expecting ',' delimiter" other.length)
              | other => .error (.decode "Expecting ':' delimiter" other.length)
      | other => .error (.decode "Expecting property name enclosed in double quotes" other.length)
end

/-- `loads` refuses a leading byte-order mark; `JSONDecoder.decode` reads one
value between white space. -/
def decodeDocument (fuel : Nat) (cs : List Char) : Except ScanError PyValue :=
  if cs.head? = some (Char.ofNat 0xFEFF) then
    .error (.decode "Unexpected UTF-8 BOM (decode using utf-8-sig)" cs.length)
  else
    match scanOnce fuel (skipSpace cs) with
    | .error e => .error e
    | .ok (value, rest) =>
        match skipSpace rest with
        | [] => .ok value
        | extra => .error (.decode "Extra data" extra.length)

/-- `JSONDecodeError(msg, doc, pos)`, a `ValueError` whose text is
`msg: line L column C (char pos)`. -/
def jsonDecodeError (msg : String) (doc : List Char) (pos : Nat) : PyException :=
  let before := doc.take pos
  .valueError (msg ++ ": line " ++ toString (before.count '\n' + 1) ++ " column " ++
    toString ((before.reverse.takeWhile (· ≠ '\n')).length + 1) ++ " (char " ++ toString pos ++ ")")

/-- `json.loads(s)`, or `none` for the two outcomes the model does not reach. -/
def jsonLoads (s : String) : Option (Except PyException PyValue) :=
  match decodeDocument (2 * s.length + 1) s.toList with
  | .ok value => some (.ok value)
  | .error (.decode msg left) => some (.error (jsonDecodeError msg s.toList (s.length - left)))
  | .error (.raised e) => some (.error e)
  | .error .loneSurrogate => none
  | .error .exhausted => none

/-! ### Reading back a string -/

theorem scan_string_quote (begin : Nat) (acc rest : List Char) :
    scanString begin acc ('"' :: rest) = .ok (String.mk acc, rest) := by
  rw [scanString.eq_def]
  rfl

theorem scan_string_plain (begin : Nat) (acc : List Char) (c : Char) (rest : List Char)
    (notQuote : c ≠ '"') (notBackslash : c ≠ '\\') (printable : 0x1f < c.toNat) :
    scanString begin acc (c :: rest) = scanString begin (acc ++ [c]) rest := by
  rw [scanString.eq_def]
  simp only [if_neg notQuote, if_neg notBackslash, if_neg (Nat.not_le.mpr printable)]

theorem scan_string_unit (begin : Nat) (acc : List Char) (a b c d : Char) (unit : Nat)
    (decoded : hexQuad a b c d = some unit) (single : isHighSurrogate unit = false)
    (more : List Char) (nonempty : more ≠ []) :
    scanString begin acc ('\\' :: 'u' :: a :: b :: c :: d :: more) =
      match unitChar unit with
      | .ok char => scanString begin (acc ++ [char]) more
      | .error failure => .error failure := by
  by_cases pair : ∃ e f g h t ts, more = '\\' :: 'u' :: e :: f :: g :: h :: t :: ts
  · obtain ⟨e, f, g, h, t, ts, rfl⟩ := pair
    rw [scanString, if_neg (by decide), if_pos rfl]
    simp only [decoded, single, Bool.false_eq_true, if_false]
  · obtain ⟨m, ms, rfl⟩ := List.exists_cons_of_ne_nil nonempty
    rw [scanString, if_neg (by decide), if_pos rfl]
    split
    · simp_all
    · simp_all
    · exact fun e f g h t ts first second => pair ⟨e, f, g, h, t, ts, by rw [first, second]⟩

theorem hex_value_hex_digit : ∀ k < 16, hexValue (hexDigits.getD k '0') = some k := by decide

theorem nibble_eq (unit shift : Nat) : unit >>> shift &&& 0xf = unit / 2 ^ shift % 16 := by
  rw [Nat.shiftRight_eq_div_pow, show (0xf : Nat) = 2 ^ 4 - 1 from rfl, Nat.and_pow_two_sub_one_eq_mod]

theorem hex_quad_unicode_escape (unit : Nat) (small : unit < 0x10000) :
    ∃ a b c d, unicodeEscape unit = ['\\', 'u', a, b, c, d] ∧ hexQuad a b c d = some unit := by
  refine ⟨_, _, _, _, rfl, ?_⟩
  have lowest : unit &&& 0xf = unit % 16 := by simpa using nibble_eq unit 0
  simp only [hexQuad, nibble_eq, lowest, hex_value_hex_digit _ (Nat.mod_lt _ (by decide)),
    Option.bind_eq_bind, Option.some_bind]
  congr 1
  omega

theorem char_valid (c : Char) : c.toNat < 0xD800 ∨ (0xDFFF < c.toNat ∧ c.toNat < 0x110000) := c.valid

theorem unit_char_to_nat (c : Char) (small : c.toNat < 0x10000) : unitChar c.toNat = .ok c := by
  have valid := char_valid c
  rw [unitChar, if_neg, Char.ofNat_toNat]
  simp only [isHighSurrogate, isLowSurrogate, Bool.or_eq_true, Bool.and_eq_true, decide_eq_true_eq]
  omega

theorem join_surrogates_to_nat (c : Char) (astral : 0x10000 ≤ c.toNat) :
    joinSurrogates (0xD800 - (0x10000 >>> 10) + (c.toNat >>> 10)) (0xDC00 + (c.toNat &&& 0x3FF)) = c.toNat := by
  have valid := char_valid c
  have mask : ∀ n, n &&& 0x3FF = n % 2 ^ 10 := fun n => Nat.and_pow_two_sub_one_eq_mod n 10
  rw [joinSurrogates, mask, mask, mask, Nat.shiftLeft_eq, Nat.shiftRight_eq_div_pow, mul_comm,
    ← Nat.mul_add_lt_is_or (Nat.mod_lt _ (by decide))]
  omega

theorem scan_string_pair (begin : Nat) (acc : List Char) (a b c d e f g h : Char) (high low : Nat)
    (first : hexQuad a b c d = some high) (isHigh : isHighSurrogate high = true)
    (second : hexQuad e f g h = some low) (isLow : isLowSurrogate low = true)
    (more : List Char) (nonempty : more ≠ []) :
    scanString begin acc ('\\' :: 'u' :: a :: b :: c :: d :: '\\' :: 'u' :: e :: f :: g :: h :: more) =
      scanString begin (acc ++ [Char.ofNat (joinSurrogates high low)]) more := by
  obtain ⟨m, ms, rfl⟩ := List.exists_cons_of_ne_nil nonempty
  rw [scanString, if_neg (by decide), if_pos rfl]
  simp only [first, isHigh, second, isLow, if_true]

theorem scan_string_escaped (begin : Nat) (acc : List Char) (c : Char) (more : List Char)
    (nonempty : more ≠ []) :
    scanString begin acc ((if plainChar c then [c] else escapeUnichar c) ++ more) =
      scanString begin (acc ++ [c]) more := by
  by_cases plain : plainChar c = true
  · rw [if_pos plain, List.singleton_append]
    simp only [plainChar, Bool.and_eq_true, decide_eq_true_eq, bne_iff_ne, ne_eq] at plain
    exact scan_string_plain _ _ _ _ plain.2 plain.1.2 (by omega)
  · have valid := char_valid c
    rw [if_neg plain]
    unfold escapeUnichar
    split
    any_goals (simp [scanString, simpleEscape]; done)
    have offset : (0x10000 >>> 10 : Nat) = 64 := by decide
    have shifted : c.toNat >>> 10 = c.toNat / 1024 := Nat.shiftRight_eq_div_pow _ 10
    have masked : c.toNat &&& 0x3FF = c.toNat % 1024 := Nat.and_pow_two_sub_one_eq_mod _ 10
    by_cases astral : 0x10000 ≤ c.toNat
    · rw [if_pos astral]
      obtain ⟨a, b, c', d, highText, high⟩ :=
        hex_quad_unicode_escape (0xD800 - (0x10000 >>> 10) + (c.toNat >>> 10)) (by omega)
      obtain ⟨e, f, g, h, lowText, low⟩ :=
        hex_quad_unicode_escape (0xDC00 + (c.toNat &&& 0x3FF)) (by omega)
      rw [highText, lowText]
      simp only [List.cons_append, List.nil_append]
      rw [scan_string_pair begin acc a b c' d e f g h _ _ high
          (by simp only [isHighSurrogate, Bool.and_eq_true, decide_eq_true_eq]; omega) low
          (by simp only [isLowSurrogate, Bool.and_eq_true, decide_eq_true_eq]; omega)
          more nonempty, join_surrogates_to_nat c astral, Char.ofNat_toNat]
    · rw [if_neg astral]
      obtain ⟨a, b, c', d, text, decoded⟩ := hex_quad_unicode_escape c.toNat (by omega)
      rw [text]
      simp only [List.cons_append, List.nil_append]
      rw [scan_string_unit begin acc a b c' d _ decoded
        (by simp only [isHighSurrogate, Bool.and_eq_false_iff, decide_eq_false_iff_not]; omega) more
        nonempty, unit_char_to_nat c (by omega)]

/-! ### Reading back a number -/

/-- What follows a value in the text of `json.dumps`: nothing, a separator,
or a closing bracket. -/
def Delimited (rest : List Char) : Prop := ∀ c ∈ rest.head?, c = ',' ∨ c = ']' ∨ c = '}'

theorem take_while_digits_append (xs rest : List Char) (delimited : Delimited rest) :
    (xs ++ rest).takeWhile Char.isDigit = xs.takeWhile Char.isDigit ∧
      (xs ++ rest).dropWhile Char.isDigit = xs.dropWhile Char.isDigit ++ rest := by
  induction xs with
  | nil =>
      cases rest with
      | nil => simp
      | cons r rs =>
          rcases delimited r rfl with rfl | rfl | rfl <;> simp [List.takeWhile, List.dropWhile]
  | cons x xs ih =>
      cases digit : x.isDigit <;> simp [List.takeWhile, List.dropWhile, digit, ih]

theorem integer_part_append (xs rest : List Char) (delimited : Delimited rest) :
    integerPart (xs ++ rest) = (integerPart xs).map fun (whole, after) => (whole, after ++ rest) := by
  cases xs with
  | nil =>
      cases rest with
      | nil => rfl
      | cons r rs => rcases delimited r rfl with rfl | rfl | rfl <;> rfl
  | cons d more =>
      have digits := take_while_digits_append more rest delimited
      by_cases zero : d = '0'
      · simp [integerPart, zero]
      · cases digit : d.isDigit <;> simp [integerPart, zero, digit, digits]

theorem fraction_part_of_head (ys : List Char) (notDot : ys.head? ≠ some '.') :
    fractionPart ys = ([], ys) := by
  match ys, notDot with
  | [], _ => rfl
  | [_], _ => rfl
  | c :: d :: more, notDot => simp_all [fractionPart]

theorem fraction_part_append (xs rest : List Char) (delimited : Delimited rest) :
    fractionPart (xs ++ rest) = ((fractionPart xs).1, (fractionPart xs).2 ++ rest) := by
  have notDot : ∀ ys, ys.head? ≠ some '.' → (ys ++ rest).head? ≠ some '.' := by
    intro ys notDot
    cases ys with
    | nil => cases rest with
      | nil => simp
      | cons r rs => rcases delimited r rfl with rfl | rfl | rfl <;> simp
    | cons y ys => simpa using notDot
  match xs with
  | [] => rw [fraction_part_of_head [] (by simp), fraction_part_of_head _ (notDot [] (by simp))]
  | [c] =>
      by_cases dot : c = '.'
      · subst dot
        cases rest with
        | nil => rfl
        | cons r rs => rcases delimited r rfl with rfl | rfl | rfl <;> simp [fractionPart]
      · rw [fraction_part_of_head [c] (by simpa using dot),
          fraction_part_of_head _ (notDot [c] (by simpa using dot))]
  | c :: d :: more =>
      have digits := take_while_digits_append more rest delimited
      by_cases dot : c = '.' <;> cases digit : d.isDigit <;> simp [fractionPart, dot, digit, digits]

theorem exponent_part_append (xs rest : List Char) (delimited : Delimited rest) :
    exponentPart (xs ++ rest) = ((exponentPart xs).1, (exponentPart xs).2 ++ rest) := by
  cases xs with
  | nil =>
      cases rest with
      | nil => rfl
      | cons r rs => rcases delimited r rfl with rfl | rfl | rfl <;> rfl
  | cons e more =>
      have signed : exponentSign (more ++ rest) =
          ((exponentSign more).1, (exponentSign more).2 ++ rest) := by
        match more, rest, delimited with
        | [], [], _ => rfl
        | [], r :: rs, delimited => rcases delimited r rfl with rfl | rfl | rfl <;> rfl
        | c :: body, rest, _ => by_cases sign : c = '+' ∨ c = '-' <;> simp [exponentSign, sign]
      have digits := take_while_digits_append (exponentSign more).2 rest delimited
      simp only [exponentPart, List.cons_append, signed, digits]
      split_ifs <;> simp

theorem number_sign_append (xs rest : List Char) (nonempty : xs ≠ []) :
    numberSign (xs ++ rest) = ((numberSign xs).1, (numberSign xs).2 ++ rest) := by
  obtain ⟨c, more, rfl⟩ := List.exists_cons_of_ne_nil nonempty
  by_cases minus : c = '-' <;> simp [numberSign, minus]

theorem match_number_append (cs rest : List Char) (value : PyValue) (after : List Char)
    (scanned : matchNumber cs = .ok (value, after)) (delimited : Delimited rest) :
    matchNumber (cs ++ rest) = .ok (value, after ++ rest) := by
  have nonempty : cs ≠ [] := by
    rintro rfl
    simp [matchNumber, numberSign, integerPart] at scanned
  rw [matchNumber, number_sign_append cs rest nonempty, integer_part_append _ rest delimited]
  rw [matchNumber] at scanned
  cases whole : integerPart (numberSign cs).2 with
  | none => simp [whole] at scanned
  | some parts =>
      obtain ⟨digits, afterDigits⟩ := parts
      simp only [whole, Option.map_some'] at scanned ⊢
      rw [fraction_part_append _ rest delimited, exponent_part_append _ rest delimited]
      cases number : numberValue (numberSign cs).1 digits (fractionPart afterDigits).1
          (exponentPart (fractionPart afterDigits).2).1 with
      | error e => simp [number, Except.map] at scanned
      | ok v =>
          simp only [number, Except.map, Except.ok.injEq, Prod.mk.injEq] at scanned ⊢
          exact ⟨scanned.1, by rw [scanned.2]⟩

theorem to_digits_core_head (fuel : Nat) :
    ∀ (n : Nat) (acc : List Char), 0 < n → n < fuel →
      ∃ d ds, Nat.toDigitsCore 10 fuel n acc = d :: ds ∧ d ≠ '0' := by
  induction fuel with
  | zero => intro n acc _ bound; omega
  | succ fuel ih =>
      intro n acc positive bound
      by_cases single : n / 10 = 0
      · have nonzero : ∀ k < 10, 0 < k → Nat.digitChar k ≠ '0' := by decide
        exact ⟨Nat.digitChar (n % 10), acc, by simp [Nat.toDigitsCore, single],
          nonzero (n % 10) (by omega) (by omega)⟩
      · obtain ⟨d, ds, written, nonzero⟩ :=
          ih (n / 10) (Nat.digitChar (n % 10) :: acc) (by omega) (by omega)
        exact ⟨d, ds, by simp [Nat.toDigitsCore, single, written], nonzero⟩

/-- `str(n)` of a positive `n` has no leading zero. -/
theorem to_string_head (n : Nat) (positive : 0 < n) :
    ∃ d ds, (toString n).toList = d :: ds ∧ d ≠ '0' := by
  obtain ⟨d, ds, written, nonzero⟩ := to_digits_core_head (n + 1) n [] positive (by omega)
  exact ⟨d, ds, by simpa [Nat.toDigits] using written, nonzero⟩

theorem digits_value_cons (d : Nat) (ds : List Nat) :
    digitsValue (d :: ds) = d * 10 ^ ds.length + digitsValue ds := by
  have shifted : ∀ (acc : Nat) (ds : List Nat), ds.foldl (fun acc d => 10 * acc + d) acc =
      acc * 10 ^ ds.length + ds.foldl (fun acc d => 10 * acc + d) 0 := by
    intro acc ds
    induction ds generalizing acc with
    | nil => simp
    | cons x xs ih =>
        simp only [List.foldl_cons, List.length_cons, Nat.mul_zero, Nat.zero_add]
        rw [ih, ih x]
        ring
  simp only [digitsValue, List.foldl_cons, Nat.mul_zero, Nat.zero_add]
  exact shifted d ds

theorem digits_value_lt (ds : List Nat) (digits : ∀ d ∈ ds, d < 10) :
    digitsValue ds < 10 ^ ds.length := by
  induction ds with
  | nil => simp [digitsValue]
  | cons d ds ih =>
      have rest := ih (fun e member => digits e (List.mem_cons_of_mem _ member))
      have first := digits d (List.mem_cons_self _ _)
      rw [digits_value_cons, List.length_cons, pow_succ]
      nlinarith

theorem digit_value_lt {c : Char} (digit : c.isDigit = true) : digitValue c < 10 := by
  have := digit_bounds digit
  have zero : '0'.toNat = 48 := rfl
  unfold digitValue
  omega

/-- `str(n)` has at most `k` digits below `10 ^ k`. -/
theorem length_to_string_le (n k : Nat) (positive : 0 < k) (small : n < 10 ^ k) :
    (toString n).length ≤ k := by
  rcases Nat.eq_zero_or_pos n with rfl | nonzeroValue
  · show (toString 0).toList.length ≤ k
    simpa using positive
  obtain ⟨d, ds, text, nonzero⟩ := to_string_head n nonzeroValue
  obtain ⟨c, rest, text', digits, value⟩ := to_list_to_string_nat n
  rw [text, List.cons.injEq] at text'
  obtain ⟨rfl, rfl⟩ := text'
  have leading : 1 ≤ digitValue d := by
    have := digit_bounds (digits d (List.mem_cons_self _ _))
    have : d.toNat ≠ 48 := fun same => nonzero (by rw [← Char.ofNat_toNat d, same])
    have zero : '0'.toNat = 48 := rfl
    unfold digitValue
    omega
  rw [List.map_cons, digits_value_cons, List.length_map] at value
  have power : 10 ^ ds.length ≤ n := by nlinarith
  have short : ds.length < k := by
    by_contra long
    have := Nat.pow_le_pow_right (show 0 < 10 by decide) (Nat.le_of_not_lt long)
    omega
  show (toString n).toList.length ≤ k
  rw [text, List.length_cons]
  omega

theorem integer_part_to_string (n : Nat) :
    integerPart (toString n).toList = some ((toString n).toList, []) := by
  rcases Nat.eq_zero_or_pos n with rfl | positive
  · rfl
  obtain ⟨d, ds, text, nonzero⟩ := to_string_head n positive
  obtain ⟨c, rest, text', digits, -⟩ := to_list_to_string_nat n
  rw [text, List.cons.injEq] at text'
  obtain ⟨rfl, rfl⟩ := text'
  have all : ∀ x ∈ ds, x.isDigit = true := fun x member => digits x (List.mem_cons_of_mem _ member)
  rw [text]
  simp [integerPart, nonzero, digits d (List.mem_cons_self _ _), List.takeWhile_eq_self_iff.mpr all,
    List.dropWhile_eq_nil_iff.mpr all]

/-- The number scanner reads `str(v)` back as `v`. -/
theorem match_number_to_string (v : Int) (small : (toString v.natAbs).length ≤ 4300) :
    matchNumber (toString v).toList = .ok (.int v, []) := by
  cases v with
  | ofNat n =>
      obtain ⟨c, rest, text, digits, value⟩ := to_list_to_string_nat n
      have notMinus : c ≠ '-' := digit_ne (digits c (List.mem_cons_self _ _)) (by decide)
      have shown : (toString (Int.ofNat n)).toList = (toString n).toList := rfl
      have sign : numberSign (toString n).toList = ([], (toString n).toList) := by
        rw [text]
        simp [numberSign, notMinus]
      have short : ¬ 4300 < (toString n).toList.length := Nat.not_lt.mpr small
      rw [shown, matchNumber, sign, integer_part_to_string]
      simp only [fractionPart, exponentPart, numberValue, List.isEmpty_nil, and_self, if_true,
        if_neg short, List.isEmpty_nil, if_true, Except.map]
      rw [← text] at value
      rw [value]
      rfl
  | negSucc m =>
      have shown : (toString (Int.negSucc m)).toList = '-' :: (toString (m + 1)).toList := rfl
      have short : ¬ 4300 < (toString (m + 1)).toList.length := Nat.not_lt.mpr small
      obtain ⟨c, rest, text, digits, value⟩ := to_list_to_string_nat (m + 1)
      rw [shown, matchNumber]
      simp only [numberSign, if_true, integer_part_to_string]
      simp only [fractionPart, exponentPart, numberValue, List.isEmpty_nil, and_self, if_true,
        if_neg short, Except.map]
      rw [← text] at value
      rw [value]
      rfl

theorem match_number_head (cs : List Char) (value : PyValue) (after : List Char)
    (scanned : matchNumber cs = .ok (value, after)) :
    ∃ d rest, d.isDigit = true ∧ (cs = d :: rest ∨ cs = '-' :: d :: rest) := by
  have started : ∀ xs : List Char, (integerPart xs).isSome → ∃ d rest, xs = d :: rest ∧ d.isDigit := by
    intro xs started
    match xs with
    | [] => simp [integerPart] at started
    | d :: rest =>
        refine ⟨d, rest, rfl, ?_⟩
        by_cases zero : d = '0'
        · subst zero; rfl
        · by_contra notDigit
          simp [integerPart, zero, notDigit] at started
  have found : (integerPart (numberSign cs).2).isSome := by
    rw [matchNumber] at scanned
    cases whole : integerPart (numberSign cs).2 with
    | none => simp [whole] at scanned
    | some _ => rfl
  obtain ⟨d, rest, split, digit⟩ := started _ found
  refine ⟨d, rest, digit, ?_⟩
  match cs, split with
  | c :: body, split =>
      by_cases minus : c = '-'
      · subst minus
        simp only [numberSign, if_true] at split
        exact .inr (by rw [split])
      · simp only [numberSign, minus, if_false] at split
        exact .inl split

theorem scan_once_number (fuel : Nat) (cs : List Char) (value : PyValue) (after : List Char)
    (scanned : matchNumber cs = .ok (value, after)) :
    scanOnce (fuel + 1) cs = matchNumber cs := by
  obtain ⟨d, rest, digit, rfl | rfl⟩ := match_number_head cs value after scanned
  all_goals
    have other : ∀ c : Char, c.toNat < 48 ∨ 57 < c.toNat → d ≠ c := fun c outside => digit_ne digit outside
    have quote := other '"' (by decide)
    have brace := other '{' (by decide)
    have bracket := other '[' (by decide)
    have n := (other 'n' (by decide)).symm
    have t := (other 't' (by decide)).symm
    have f := (other 'f' (by decide)).symm
    have nan := (other 'N' (by decide)).symm
    have inf := (other 'I' (by decide)).symm
    have minus := (other '-' (by decide)).symm
    simp [scanOnce, scanConstant, jsonConstants, List.find?, List.isPrefixOf, quote, brace, bracket,
      beq_false_of_ne n, beq_false_of_ne t, beq_false_of_ne f, beq_false_of_ne nan,
      beq_false_of_ne inf, beq_false_of_ne minus]

/-- The escaped characters of a string, up to and past its closing quote. -/
theorem scan_string_encoded (begin : Nat) (cs : List Char) :
    ∀ acc rest : List Char,
      scanString begin acc (cs.flatMap (fun c => if plainChar c then [c] else escapeUnichar c) ++
        '"' :: rest) = .ok (String.mk (acc ++ cs), rest) := by
  induction cs with
  | nil => intro acc rest; simp [scan_string_quote]
  | cons c cs ih =>
      intro acc rest
      rw [List.flatMap_cons, List.append_assoc, scan_string_escaped _ _ _ _ (by simp), ih,
        List.append_assoc, List.singleton_append]

theorem scan_once_str (fuel : Nat) (s : String) (rest : List Char) :
    scanOnce (fuel + 1) ((encodeBasestringAscii s).toList ++ rest) = .ok (.str s, rest) := by
  have text : (encodeBasestringAscii s).toList ++ rest =
      '"' :: (s.toList.flatMap (fun c => if plainChar c then [c] else escapeUnichar c) ++ '"' :: rest) := by
    simp [encodeBasestringAscii]
  rw [text, scanOnce]
  simp [scan_string_encoded]

theorem scan_once_int (fuel : Nat) (v : Int) (small : (toString v.natAbs).length ≤ 4300)
    (rest : List Char)
    (delimited : Delimited rest) :
    scanOnce (fuel + 1) ((toString v).toList ++ rest) = .ok (.int v, rest) := by
  have appended := match_number_append _ rest _ _ (match_number_to_string v small) delimited
  rw [scan_once_number fuel _ _ _ appended, appended, List.nil_append]

end VoipSimulator.Python
