import VoipSimulator.Python.Value

/-!
# `json.dumps` with its default arguments

The streaming endpoints write every item as `json.dumps(item)`, which with its
defaults runs CPython's C encoder: `ensure_ascii` (every character outside
`' '`..`'~'` as a `\uXXXX` escape, astral characters as a surrogate pair),
`allow_nan` (`NaN`, `Infinity`, `-Infinity`), the separators `", "` and
`": "`, and `repr` for integers and finite floats. `jsonDumps` is the text it returns;
`jsonDumpsCall` is the call, which raises where an integer's `repr` does,
past 4300 digits (`json_dumps_call_cases`).

`printable_ascii_json_dumps`: the text is printable ASCII, so it never holds a
line break.
-/

namespace VoipSimulator.Python

set_option autoImplicit false

/-- `Py_hexdigits`. -/
def hexDigits : List Char := "0123456789abcdef".toList

/-- `\u` and the four hex digits of a UTF-16 code unit. -/
def unicodeEscape (unit : Nat) : List Char :=
  ['\\', 'u', hexDigits.getD (unit >>> 12 &&& 0xf) '0', hexDigits.getD (unit >>> 8 &&& 0xf) '0',
    hexDigits.getD (unit >>> 4 &&& 0xf) '0', hexDigits.getD (unit &&& 0xf) '0']

/-- `ascii_escape_unichar`: a character that is not written as it is. -/
def escapeUnichar (c : Char) : List Char :=
  match c with
  | '\\' => ['\\', '\\']
  | '"' => ['\\', '"']
  | '\x08' => ['\\', 'b']
  | '\x0c' => ['\\', 'f']
  | '\n' => ['\\', 'n']
  | '\r' => ['\\', 'r']
  | '\t' => ['\\', 't']
  | c =>
      if 0x10000 ≤ c.toNat then
        unicodeEscape (0xD800 - (0x10000 >>> 10) + (c.toNat >>> 10)) ++
          unicodeEscape (0xDC00 + (c.toNat &&& 0x3FF))
      else unicodeEscape c.toNat

/-- `S_CHAR(c)`: `c >= ' ' && c <= '~' && c != '\\' && c != '"'`. -/
def plainChar (c : Char) : Bool :=
  32 ≤ c.toNat && c.toNat ≤ 126 && c != '\\' && c != '"'

/-- `encode_basestring_ascii(s)`. -/
def encodeBasestringAscii (s : String) : String :=
  String.mk ('"' :: s.toList.flatMap (fun c => if plainChar c then [c] else escapeUnichar c) ++
    ['"'])

/-- `encoder_encode_float` with `allow_nan`. -/
def floatJson : PyFloat → String
  | .finite negative significand exponent => (PyFloat.finite negative significand exponent).repr
  | .infinity false => "Infinity"
  | .infinity true => "-Infinity"
  | .nan => "NaN"

mutual
/-- `json.dumps(v)`. -/
def jsonDumps : PyValue → String
  | .none => "null"
  | .bool true => "true"
  | .bool false => "false"
  | .int value => toString value
  | .float value => floatJson value
  | .str value => encodeBasestringAscii value
  | .list items => "[" ++ jsonItems items ++ "]"
  | .dict entries => "\x7b" ++ jsonEntries entries ++ "\x7d"

def jsonItems : List PyValue → String
  | [] => ""
  | [item] => jsonDumps item
  | item :: rest => jsonDumps item ++ ", " ++ jsonItems rest

def jsonEntries : List (String × PyValue) → String
  | [] => ""
  | [(key, value)] => encodeBasestringAscii key ++ ": " ++ jsonDumps value
  | (key, value) :: rest =>
      encodeBasestringAscii key ++ ": " ++ jsonDumps value ++ ", " ++ jsonEntries rest
end

/-- The `ValueError` of `int.__repr__` on an integer of more than 4300 digits. -/
def intReprError : PyException :=
  .valueError ("Exceeds the limit (4300 digits) for integer string conversion; " ++
    "use sys.set_int_max_str_digits() to increase the limit")

/-- `int.__repr__`, which the encoder calls on every integer. -/
def intRepr (value : Int) : Except PyException String :=
  if 4300 < (toString value.natAbs).length then .error intReprError else .ok (toString value)

mutual
/-- `json.dumps(v)` as a call: the encoder stops at the first integer whose
`repr` raises. -/
def jsonDumpsCall : PyValue → Except PyException String
  | .int value => intRepr value
  | .list items => (fun inner => "[" ++ inner ++ "]") <$> itemsCall items
  | .dict entries => (fun inner => "\x7b" ++ inner ++ "\x7d") <$> entriesCall entries
  | value => .ok (jsonDumps value)

def itemsCall : List PyValue → Except PyException String
  | [] => .ok ""
  | [item] => jsonDumpsCall item
  | item :: rest => do
      let first ← jsonDumpsCall item
      let others ← itemsCall rest
      return first ++ ", " ++ others

def entriesCall : List (String × PyValue) → Except PyException String
  | [] => .ok ""
  | [(key, value)] => (fun text => encodeBasestringAscii key ++ ": " ++ text) <$> jsonDumpsCall value
  | (key, value) :: rest => do
      let text ← jsonDumpsCall value
      let others ← entriesCall rest
      return encodeBasestringAscii key ++ ": " ++ text ++ ", " ++ others
end

mutual
/-- `json.dumps` either returns the text `jsonDumps` or raises the
`ValueError` of an integer's `repr`. -/
theorem json_dumps_call_cases : ∀ value : PyValue,
    jsonDumpsCall value = .ok (jsonDumps value) ∨ jsonDumpsCall value = .error intReprError
  | .int value => by
      unfold jsonDumpsCall intRepr jsonDumps
      split_ifs
      · exact .inr rfl
      · exact .inl rfl
  | .list items => by
      rcases items_call_cases items with written | raised
      · exact .inl (by simp only [jsonDumpsCall, written, jsonDumps]; rfl)
      · exact .inr (by simp only [jsonDumpsCall, raised]; rfl)
  | .dict entries => by
      rcases entries_call_cases entries with written | raised
      · exact .inl (by simp only [jsonDumpsCall, written, jsonDumps]; rfl)
      · exact .inr (by simp only [jsonDumpsCall, raised]; rfl)
  | .none | .bool _ | .float _ | .str _ => .inl rfl

theorem items_call_cases : ∀ items : List PyValue,
    itemsCall items = .ok (jsonItems items) ∨ itemsCall items = .error intReprError
  | [] => .inl rfl
  | [item] => json_dumps_call_cases item
  | item :: next :: rest => by
      rcases json_dumps_call_cases item with first | raised
      · rcases items_call_cases (next :: rest) with others | raised
        · exact .inl (by simp only [itemsCall, first, others, jsonItems]; rfl)
        · exact .inr (by simp only [itemsCall, first, raised]; rfl)
      · exact .inr (by simp only [itemsCall, raised]; rfl)

theorem entries_call_cases : ∀ entries : List (String × PyValue),
    entriesCall entries = .ok (jsonEntries entries) ∨ entriesCall entries = .error intReprError
  | [] => .inl rfl
  | [(key, value)] => by
      rcases json_dumps_call_cases value with text | raised
      · exact .inl (by simp only [entriesCall, text, jsonEntries]; rfl)
      · exact .inr (by simp only [entriesCall, raised]; rfl)
  | (key, value) :: next :: rest => by
      rcases json_dumps_call_cases value with text | raised
      · rcases entries_call_cases (next :: rest) with others | raised
        · exact .inl (by simp only [entriesCall, text, others, jsonEntries]; rfl)
        · exact .inr (by simp only [entriesCall, text, raised]; rfl)
      · exact .inr (by simp only [entriesCall, raised]; rfl)
end

/-! ### Printable ASCII -/

/-- Every character is printable ASCII, `' '` to `'~'`. -/
def PrintableAscii (s : String) : Prop := ∀ c ∈ s.data, 32 ≤ c.toNat ∧ c.toNat ≤ 126

instance (s : String) : Decidable (PrintableAscii s) :=
  inferInstanceAs (Decidable (∀ c ∈ s.data, 32 ≤ c.toNat ∧ c.toNat ≤ 126))

theorem printable_ascii_append {s t : String} :
    PrintableAscii (s ++ t) ↔ PrintableAscii s ∧ PrintableAscii t := by
  simp only [PrintableAscii, String.data_append, List.forall_mem_append]

theorem printable_ascii_mk {cs : List Char} :
    PrintableAscii (String.mk cs) ↔ ∀ c ∈ cs, 32 ≤ c.toNat ∧ c.toNat ≤ 126 := Iff.rfl

theorem printable_ascii_to_string_nat (n : Nat) : PrintableAscii (toString n) := by
  obtain ⟨c, rest, text, digits, -⟩ := to_list_to_string_nat n
  intro d member
  have := digit_bounds (digits d (text ▸ member))
  omega

theorem printable_ascii_to_string_int (value : Int) : PrintableAscii (toString value) := by
  cases value with
  | ofNat n => exact printable_ascii_to_string_nat n
  | negSucc m =>
      show PrintableAscii ("-" ++ toString (m + 1))
      exact printable_ascii_append.mpr ⟨by decide, printable_ascii_to_string_nat (m + 1)⟩

theorem printable_ascii_hex_digit (n : Nat) :
    32 ≤ (hexDigits.getD n '0').toNat ∧ (hexDigits.getD n '0').toNat ≤ 126 := by
  have table : ∀ c ∈ hexDigits, 32 ≤ c.toNat ∧ c.toNat ≤ 126 := by decide
  rw [List.getD_eq_getElem?_getD]
  cases found : hexDigits[n]? with
  | none => decide
  | some c => exact table c (List.getElem?_mem found)

theorem printable_ascii_unicode_escape (unit : Nat) :
    ∀ c ∈ unicodeEscape unit, 32 ≤ c.toNat ∧ c.toNat ≤ 126 := by
  simp only [unicodeEscape, List.mem_cons, List.not_mem_nil, or_false]
  rintro c (rfl | rfl | rfl | rfl | rfl | rfl)
  all_goals first | decide | exact printable_ascii_hex_digit _

theorem printable_ascii_escape_unichar (c : Char) :
    ∀ d ∈ escapeUnichar c, 32 ≤ d.toNat ∧ d.toNat ≤ 126 := by
  unfold escapeUnichar
  split
  any_goals decide
  split
  · intro d member
    rcases List.mem_append.mp member with high | low
    · exact printable_ascii_unicode_escape _ d high
    · exact printable_ascii_unicode_escape _ d low
  · exact printable_ascii_unicode_escape _

theorem printable_ascii_encode_basestring_ascii (s : String) :
    PrintableAscii (encodeBasestringAscii s) := by
  intro d member
  simp only [encodeBasestringAscii, List.cons_append, List.mem_cons, List.mem_append,
    List.mem_flatMap, List.mem_singleton, List.not_mem_nil, or_false] at member
  rcases member with rfl | ⟨c, -, escaped⟩ | rfl
  · decide
  · split at escaped
    · rename_i plain
      simp only [plainChar, Bool.and_eq_true, decide_eq_true_eq] at plain
      rw [List.mem_singleton.mp escaped]
      exact plain.1.1
    · exact printable_ascii_escape_unichar c d escaped
  · decide

theorem printable_ascii_of_subset {cs : List Char} {s : String} (printable : PrintableAscii s)
    (within : ∀ c ∈ cs, c ∈ s.data) : PrintableAscii (String.mk cs) :=
  fun c member => printable c (within c member)

theorem printable_ascii_layout_decimal (digits : Nat) (shift : Int) :
    PrintableAscii (layoutDecimal digits shift) := by
  have text := printable_ascii_to_string_nat digits
  have zeros : ∀ count, PrintableAscii (String.mk (List.replicate count '0')) := by
    intro count c member
    rw [List.eq_of_mem_replicate member]
    decide
  simp only [layoutDecimal]
  split_ifs
  · exact printable_ascii_append.mpr ⟨printable_ascii_append.mpr ⟨text, zeros _⟩, by decide⟩
  · refine printable_ascii_append.mpr ⟨printable_ascii_append.mpr ⟨?_, by decide⟩, ?_⟩
    · exact printable_ascii_of_subset text fun c member => List.mem_of_mem_take member
    · exact printable_ascii_of_subset text fun c member => List.mem_of_mem_drop member
  · exact printable_ascii_append.mpr ⟨printable_ascii_append.mpr ⟨by decide, zeros _⟩, text⟩
  all_goals
    refine printable_ascii_append.mpr ⟨printable_ascii_append.mpr ⟨printable_ascii_append.mpr
      ⟨?_, by decide⟩, by decide⟩, ?_⟩
    · have letters : ∀ c ∈ (toString digits).toList, 32 ≤ c.toNat ∧ c.toNat ≤ 126 := text
      generalize (toString digits).toList = cs at letters ⊢
      match cs, letters with
      | [], _ => decide
      | [d], letters => exact letters
      | d :: e :: rest, letters =>
          show PrintableAscii (String.mk [d] ++ "." ++ String.mk (e :: rest))
          refine printable_ascii_append.mpr ⟨printable_ascii_append.mpr ⟨?_, by decide⟩, ?_⟩
          · exact fun c member => letters c (by simp_all)
          · exact fun c member => letters c (List.mem_cons_of_mem d member)
    · first
        | exact printable_ascii_append.mpr ⟨by decide, printable_ascii_to_string_nat _⟩
        | exact printable_ascii_to_string_nat _

theorem printable_ascii_float_json (x : PyFloat) : PrintableAscii (floatJson x) := by
  cases x with
  | finite negative significand exponent =>
      simp only [floatJson, PyFloat.repr]
      refine printable_ascii_append.mpr ⟨by split_ifs <;> decide, ?_⟩
      split_ifs
      · decide
      · exact printable_ascii_layout_decimal _ _
  | infinity negative => cases negative <;> decide
  | nan => decide

mutual
/-- `json.dumps` writes printable ASCII only. -/
theorem printable_ascii_json_dumps : ∀ value : PyValue, PrintableAscii (jsonDumps value)
  | .none => by decide
  | .bool true => by decide
  | .bool false => by decide
  | .int value => printable_ascii_to_string_int value
  | .float value => printable_ascii_float_json value
  | .str value => printable_ascii_encode_basestring_ascii value
  | .list items => printable_ascii_append.mpr
      ⟨printable_ascii_append.mpr ⟨by decide, printable_ascii_json_items items⟩, by decide⟩
  | .dict entries => printable_ascii_append.mpr
      ⟨printable_ascii_append.mpr ⟨by decide, printable_ascii_json_entries entries⟩, by decide⟩

theorem printable_ascii_json_items : ∀ items : List PyValue, PrintableAscii (jsonItems items)
  | [] => by decide
  | [item] => printable_ascii_json_dumps item
  | item :: next :: rest => printable_ascii_append.mpr
      ⟨printable_ascii_append.mpr ⟨printable_ascii_json_dumps item, by decide⟩,
        printable_ascii_json_items (next :: rest)⟩

theorem printable_ascii_json_entries :
    ∀ entries : List (String × PyValue), PrintableAscii (jsonEntries entries)
  | [] => by decide
  | [(key, value)] => printable_ascii_append.mpr ⟨printable_ascii_append.mpr
      ⟨printable_ascii_encode_basestring_ascii key, by decide⟩, printable_ascii_json_dumps value⟩
  | (key, value) :: next :: rest => printable_ascii_append.mpr ⟨printable_ascii_append.mpr
      ⟨printable_ascii_append.mpr ⟨printable_ascii_append.mpr
        ⟨printable_ascii_encode_basestring_ascii key, by decide⟩, printable_ascii_json_dumps value⟩,
        by decide⟩, printable_ascii_json_entries (next :: rest)⟩
end

end VoipSimulator.Python
