import VoipSimulator.Python.JsonLoads

/-!
# `json.loads` after `json.dumps`

The console's producer writes every command with `json.dumps`, and its
consumers read every record back with `json.loads`. This module proves the
two directions of that pairing over the model of the C scanner:

* `json_loads_json_dumps`: `json.loads(json.dumps(v)) == v` for every value
  `json.loads` itself can return (distinct keys in each dict, at most 4300
  digits in each integer) whose finite floats `float` reads back from their
  `repr`. The scanner reads the text of a value followed by any delimiter,
  and the fuel of twice the text's length is enough for it.
* `json_loads_well_formed`: every value `json.loads` returns is of that kind,
  with any floats: the dict loop keeps one entry per key, and the integer
  limit stops every longer integer. So `json.dumps`, whose `repr` of an
  integer raises past the same limit, never raises on such a value
  (`json_dumps_call_of_json_loads`).
-/

namespace VoipSimulator.Python

set_option autoImplicit false

mutual
/-- Every dict's keys distinct, every integer of at most 4300 digits, and every
float passing `floatOk`. -/
def wellFormed (floatOk : PyFloat → Bool) : PyValue → Bool
  | .int value => decide ((toString value.natAbs).length ≤ 4300)
  | .float value => floatOk value
  | .list items => itemsWellFormed floatOk items
  | .dict entries => decide (PyDict.keys entries).Nodup && entriesWellFormed floatOk entries
  | .none | .bool _ | .str _ => true

def itemsWellFormed (floatOk : PyFloat → Bool) : List PyValue → Bool
  | [] => true
  | item :: rest => wellFormed floatOk item && itemsWellFormed floatOk rest

def entriesWellFormed (floatOk : PyFloat → Bool) : List (String × PyValue) → Bool
  | [] => true
  | (_, value) :: rest => wellFormed floatOk value && entriesWellFormed floatOk rest
end

/-- A float whose `json.dumps` text the scanner reads back as itself: the named
constants, and a finite float that `float` reads back from its `repr`. -/
def floatReadsBack (x : PyFloat) : Bool :=
  match x with
  | .finite _ _ _ =>
      match matchNumber (floatJson x).toList with
      | .ok (.float y, []) => y == x
      | _ => false
  | _ => true

mutual
/-- The fuel the scanner spends on the text of a value: one for the value and
one more for each element. -/
def scanFuel : PyValue → Nat
  | .list items => itemsFuel items + 1
  | .dict entries => entriesFuel entries + 1
  | _ => 1

def itemsFuel : List PyValue → Nat
  | [] => 0
  | item :: rest => scanFuel item + itemsFuel rest + 1

def entriesFuel : List (String × PyValue) → Nat
  | [] => 0
  | (_, value) :: rest => scanFuel value + entriesFuel rest + 1
end

theorem scan_once_float (fuel : Nat) (x : PyFloat) (readsBack : floatReadsBack x = true)
    (rest : List Char) (delimited : Delimited rest) :
    scanOnce (fuel + 1) ((floatJson x).toList ++ rest) = .ok (.float x, rest) := by
  cases x with
  | finite negative significand exponent =>
      have scanned : matchNumber (floatJson (.finite negative significand exponent)).toList =
          .ok (.float (.finite negative significand exponent), []) := by
        simp only [floatReadsBack] at readsBack
        split at readsBack
        · rename_i y scanned
          rw [scanned, eq_of_beq readsBack]
        · contradiction
      have appended := match_number_append _ rest _ _ scanned delimited
      rw [scan_once_number fuel _ _ _ appended, appended, List.nil_append]
  | infinity negative =>
      cases negative <;> simp [floatJson, scanOnce, scanConstant, jsonConstants, List.find?, List.isPrefixOf]
  | nan => simp [floatJson, scanOnce, scanConstant, jsonConstants, List.find?, List.isPrefixOf]

theorem skip_space_of_head (c : Char) (tail : List Char) (notSpace : isJsonSpace c = false) :
    skipSpace (c :: tail) = c :: tail := by
  simp [skipSpace, List.dropWhile, notSpace]

theorem skip_space_space (tail : List Char) : skipSpace (' ' :: tail) = skipSpace tail := by
  simp [skipSpace, List.dropWhile, isJsonSpace]

/-- A character that starts a value's text: no white space and no closing bracket. -/
def opensValue (c : Char) : Bool := !isJsonSpace c && c != ']' && c != '}'

theorem opens_value_digit {c : Char} (digit : c.isDigit = true) : opensValue c = true := by
  have other : ∀ d : Char, d.toNat < 48 ∨ 57 < d.toNat → c ≠ d := fun d outside => digit_ne digit outside
  simp [opensValue, isJsonSpace, other ' ' (by decide), other '\t' (by decide), other '\n' (by decide),
    other '\r' (by decide), other ']' (by decide), other '}' (by decide)]

theorem json_dumps_head (value : PyValue) (wf : wellFormed floatReadsBack value = true) :
    ∃ c tail, (jsonDumps value).toList = c :: tail ∧ opensValue c = true := by
  cases value with
  | none => exact ⟨'n', _, rfl, by decide⟩
  | bool b => cases b with
    | false => exact ⟨'f', _, rfl, by decide⟩
    | true => exact ⟨'t', _, rfl, by decide⟩
  | int v => cases v with
    | ofNat n =>
        obtain ⟨c, rest, text, digits, -⟩ := to_list_to_string_nat n
        exact ⟨c, rest, text, opens_value_digit (digits c (List.mem_cons_self _ _))⟩
    | negSucc m => exact ⟨'-', _, rfl, by decide⟩
  | float x => cases x with
    | finite negative significand exponent =>
        have scanned : matchNumber (floatJson (.finite negative significand exponent)).toList =
            .ok (.float (.finite negative significand exponent), []) := by
          simp only [wellFormed, floatReadsBack] at wf
          split at wf
          · rename_i y scanned
            rw [scanned, eq_of_beq wf]
          · contradiction
        obtain ⟨d, rest, digit, text | text⟩ := match_number_head _ _ _ scanned
        · exact ⟨d, rest, text, opens_value_digit digit⟩
        · exact ⟨'-', d :: rest, text, by decide⟩
    | infinity negative => cases negative with
      | false => exact ⟨'I', _, rfl, by decide⟩
      | true => exact ⟨'-', _, rfl, by decide⟩
    | nan => exact ⟨'N', _, rfl, by decide⟩
  | str s =>
      exact ⟨'"', s.toList.flatMap (fun c => if plainChar c then [c] else escapeUnichar c) ++ ['"'],
        by simp [jsonDumps, encodeBasestringAscii], by decide⟩
  | list items => exact ⟨'[', (jsonItems items).toList ++ [']'], by simp [jsonDumps], by decide⟩
  | dict entries =>
      exact ⟨'\x7b', (jsonEntries entries).toList ++ ['\x7d'], by simp [jsonDumps], by decide⟩

theorem json_items_head (item : PyValue) (more : List PyValue)
    (wf : wellFormed floatReadsBack item = true) :
    ∃ c tail, (jsonItems (item :: more)).toList = c :: tail ∧ opensValue c = true := by
  obtain ⟨c, tail, text, opens⟩ := json_dumps_head item wf
  cases more with
  | nil => exact ⟨c, tail, by simpa [jsonItems] using text, opens⟩
  | cons next more =>
      have text' : (jsonDumps item).data = c :: tail := text
      exact ⟨c, tail ++ ',' :: ' ' :: (jsonItems (next :: more)).toList, by simp [jsonItems, text'],
        opens⟩

theorem set_of_not_mem {V : Type} (d : List (String × V)) (k : String) (v : V)
    (absent : k ∉ PyDict.keys d) : PyDict.set d k v = d ++ [(k, v)] := by
  induction d with
  | nil => rfl
  | cons entry rest ih =>
      obtain ⟨key, value⟩ := entry
      simp only [PyDict.keys_cons, List.mem_cons, not_or] at absent
      simp [PyDict.set, Ne.symm absent.1, ih absent.2]

theorem scan_fuel_pos (value : PyValue) : 0 < scanFuel value := by
  cases value <;> simp [scanFuel]

theorem skip_space_json_dumps (value : PyValue) (wf : wellFormed floatReadsBack value = true)
    (more : List Char) : skipSpace ((jsonDumps value).toList ++ more) = (jsonDumps value).toList ++ more := by
  obtain ⟨c, tail, first, opens⟩ := json_dumps_head value wf
  simp only [opensValue, Bool.and_eq_true, Bool.not_eq_true'] at opens
  rw [first, List.cons_append, skip_space_of_head _ _ opens.1.1]

theorem json_entries_quote (key : String) (value : PyValue) (more : List (String × PyValue))
    (after : List Char) :
    (jsonEntries ((key, value) :: more)).toList ++ after =
      '"' :: ((jsonEntries ((key, value) :: more)).toList.tail ++ after) := by
  cases more <;> simp [jsonEntries, encodeBasestringAscii]

theorem scan_string_key (begin : Nat) (key : String) (tail : List Char) :
    scanString begin [] (key.toList.flatMap (fun c => if plainChar c then [c] else escapeUnichar c) ++
      '"' :: tail) = .ok (key, tail) := by
  rw [scan_string_encoded, List.nil_append]
  rfl

mutual
theorem scan_once_json_dumps : ∀ (value : PyValue) (fuel : Nat) (rest : List Char),
    wellFormed floatReadsBack value = true → scanFuel value ≤ fuel → Delimited rest →
      scanOnce fuel ((jsonDumps value).toList ++ rest) = .ok (value, rest)
  | value, 0, _, _, enough, _ => absurd enough (Nat.not_le.mpr (scan_fuel_pos value))
  | .none, fuel + 1, rest, _, _, _ => by
      simp [jsonDumps, scanOnce, scanConstant, jsonConstants, List.find?, List.isPrefixOf]
  | .bool true, fuel + 1, rest, _, _, _ => by
      simp [jsonDumps, scanOnce, scanConstant, jsonConstants, List.find?, List.isPrefixOf]
  | .bool false, fuel + 1, rest, _, _, _ => by
      simp [jsonDumps, scanOnce, scanConstant, jsonConstants, List.find?, List.isPrefixOf]
  | .int v, fuel + 1, rest, wf, _, delimited =>
      scan_once_int fuel v (by simpa [wellFormed] using wf) rest delimited
  | .float x, fuel + 1, rest, wf, _, delimited => scan_once_float fuel x wf rest delimited
  | .str s, fuel + 1, rest, _, _, _ => scan_once_str fuel s rest
  | .list [], fuel + 1, rest, _, _, _ => by
      simp [jsonDumps, jsonItems, scanOnce, skipSpace, isJsonSpace]
  | .list (item :: more), fuel + 1, rest, wf, enough, _ => by
      simp only [wellFormed] at wf
      obtain ⟨c, tail, first, opens⟩ := json_items_head item more (by simp_all [itemsWellFormed])
      have items := parse_items_json_items (item :: more) (List.cons_ne_nil _ _) fuel rest [] wf
        (by simp only [scanFuel] at enough; omega)
      have first' : (jsonItems (item :: more)).data = c :: tail := first
      simp only [opensValue, Bool.and_eq_true, Bool.not_eq_true', bne_iff_ne, ne_eq] at opens
      rw [first, List.cons_append] at items
      simp [jsonDumps, scanOnce, first', skip_space_of_head _ _ opens.1.1, opens.1.2, items]
  | .dict [], fuel + 1, rest, _, _, _ => by
      simp [jsonDumps, jsonEntries, scanOnce, skipSpace, isJsonSpace]
  | .dict ((key, value) :: more), fuel + 1, rest, wf, enough, _ => by
      simp only [wellFormed, Bool.and_eq_true, decide_eq_true_eq] at wf
      have entries := parse_members_json_entries ((key, value) :: more) (List.cons_ne_nil _ _) fuel
        rest [] wf.1 wf.2 (by simp only [scanFuel] at enough; omega)
      have text : (jsonEntries ((key, value) :: more)).toList ++ '}' :: rest =
          '"' :: ((jsonEntries ((key, value) :: more)).toList.tail ++ '}' :: rest) := by
        cases more <;> simp [jsonEntries, encodeBasestringAscii]
      rw [text] at entries
      have quote : isJsonSpace '"' = false := by decide
      have entries' : parseMembers fuel ('"' :: ((jsonEntries ((key, value) :: more)).data.tail ++
          '}' :: rest)) [] = .ok (.dict ((key, value) :: more), rest) := entries
      have text' : (jsonEntries ((key, value) :: more)).data ++ '}' :: rest =
          '"' :: ((jsonEntries ((key, value) :: more)).data.tail ++ '}' :: rest) := text
      simp [jsonDumps, scanOnce, text', skip_space_of_head _ _ quote, entries']

theorem parse_items_json_items : ∀ (items : List PyValue), items ≠ [] → ∀ (fuel : Nat)
    (rest : List Char) (acc : List PyValue), itemsWellFormed floatReadsBack items = true →
      itemsFuel items ≤ fuel →
      parseItems fuel ((jsonItems items).toList ++ ']' :: rest) acc = .ok (.list (acc ++ items), rest)
  | [], nonempty, _, _, _, _, _ => absurd rfl nonempty
  | _ :: _, _, 0, _, _, _, enough => by simp [itemsFuel] at enough
  | [item], _, fuel + 1, rest, acc, wf, enough => by
      simp only [itemsWellFormed, Bool.and_true] at wf
      have scanned := scan_once_json_dumps item fuel (']' :: rest) wf
        (by simp only [itemsFuel] at enough; omega) (by simp [Delimited])
      have scanned' : scanOnce fuel ((jsonDumps item).data ++ ']' :: rest) = .ok (item, ']' :: rest) :=
        scanned
      simp [jsonItems, parseItems, scanned', skipSpace, isJsonSpace]
  | item :: next :: more, _, fuel + 1, rest, acc, wf, enough => by
      simp only [itemsWellFormed, Bool.and_eq_true] at wf
      have scanned := scan_once_json_dumps item fuel
        (',' :: ' ' :: ((jsonItems (next :: more)).toList ++ ']' :: rest)) wf.1
        (by simp only [itemsFuel] at enough; omega) (by simp [Delimited])
      obtain ⟨c, tail, first, opens⟩ := json_items_head next more wf.2.1
      have following := parse_items_json_items (next :: more) (List.cons_ne_nil _ _) fuel rest
        (acc ++ [item]) (by simp [itemsWellFormed, wf.2]) (by simp only [itemsFuel] at enough ⊢; omega)
      simp only [opensValue, Bool.and_eq_true, Bool.not_eq_true', bne_iff_ne, ne_eq] at opens
      have text : (jsonItems (item :: next :: more)).toList ++ ']' :: rest =
          (jsonDumps item).toList ++ ',' :: ' ' :: ((jsonItems (next :: more)).toList ++ ']' :: rest) := by
        simp [jsonItems]
      rw [text, parseItems, scanned]
      have first' : (jsonItems (next :: more)).data = c :: tail := first
      rw [first, List.cons_append] at following
      have comma : isJsonSpace ',' = false := by decide
      have space : isJsonSpace ' ' = true := by decide
      simp [first', List.dropWhile, opens.1.1, following, skipSpace, comma, space]

theorem parse_members_json_entries : ∀ (entries : List (String × PyValue)), entries ≠ [] →
    ∀ (fuel : Nat) (rest : List Char) (acc : List (String × PyValue)),
      (PyDict.keys (acc ++ entries)).Nodup → entriesWellFormed floatReadsBack entries = true →
      entriesFuel entries ≤ fuel →
      parseMembers fuel ((jsonEntries entries).toList ++ '}' :: rest) acc =
        .ok (.dict (acc ++ entries), rest)
  | [], nonempty, _, _, _, _, _, _ => absurd rfl nonempty
  | _ :: _, _, 0, _, _, _, _, enough => by simp [entriesFuel] at enough
  | [(key, value)], _, fuel + 1, rest, acc, unique, wf, enough => by
      simp only [entriesWellFormed, Bool.and_true] at wf
      have scanned := scan_once_json_dumps value fuel ('}' :: rest) wf
        (by simp only [entriesFuel] at enough; omega) (by simp [Delimited])
      have absent : key ∉ PyDict.keys acc := by
        simp only [PyDict.keys, List.map_append, List.map_cons, List.map_nil] at unique
        exact fun member => (List.nodup_append.mp unique).2.2 member (List.mem_singleton_self key)
      have text : (jsonEntries [(key, value)]).toList ++ '}' :: rest =
          '"' :: (key.toList.flatMap (fun c => if plainChar c then [c] else escapeUnichar c) ++
            '"' :: ':' :: ' ' :: ((jsonDumps value).toList ++ '}' :: rest)) := by
        simp [jsonEntries, encodeBasestringAscii]
      have colon : isJsonSpace ':' = false := by decide
      have close : isJsonSpace '}' = false := by decide
      rw [text, parseMembers]
      simp only [scan_string_key, skip_space_of_head _ _ colon, skip_space_space,
        skip_space_json_dumps value wf, scanned, skip_space_of_head _ _ close, set_of_not_mem _ _ _ absent]
  | (key, value) :: (nextKey, nextValue) :: more, _, fuel + 1, rest, acc, unique, wf, enough => by
      simp only [entriesWellFormed, Bool.and_eq_true] at wf
      have scanned := scan_once_json_dumps value fuel
        (',' :: ' ' :: ((jsonEntries ((nextKey, nextValue) :: more)).toList ++ '}' :: rest)) wf.1
        (by simp only [entriesFuel] at enough; omega) (by simp [Delimited])
      have absent : key ∉ PyDict.keys acc := by
        simp only [PyDict.keys, List.map_append, List.map_cons] at unique
        exact fun member => (List.nodup_append.mp unique).2.2 member (List.mem_cons_self key _)
      have following := parse_members_json_entries ((nextKey, nextValue) :: more) (List.cons_ne_nil _ _)
        fuel rest (acc ++ [(key, value)]) (by simpa using unique)
        (by simp only [entriesWellFormed, Bool.and_eq_true]; exact wf.2)
        (by simp only [entriesFuel] at enough ⊢; omega)
      have text : (jsonEntries ((key, value) :: (nextKey, nextValue) :: more)).toList ++ '}' :: rest =
          '"' :: (key.toList.flatMap (fun c => if plainChar c then [c] else escapeUnichar c) ++
            '"' :: ':' :: ' ' :: ((jsonDumps value).toList ++ ',' :: ' ' ::
              ((jsonEntries ((nextKey, nextValue) :: more)).toList ++ '}' :: rest))) := by
        simp [jsonEntries, encodeBasestringAscii]
      have colon : isJsonSpace ':' = false := by decide
      have comma : isJsonSpace ',' = false := by decide
      have quote : isJsonSpace '"' = false := by decide
      have nextText : skipSpace ((jsonEntries ((nextKey, nextValue) :: more)).toList ++ '}' :: rest) =
          (jsonEntries ((nextKey, nextValue) :: more)).toList ++ '}' :: rest := by
        rw [json_entries_quote, skip_space_of_head _ _ quote]
      rw [text, parseMembers]
      simp only [scan_string_key, skip_space_of_head _ _ colon, skip_space_space,
        skip_space_json_dumps value wf.1, scanned, skip_space_of_head _ _ comma, nextText,
        set_of_not_mem _ _ _ absent, following, List.append_assoc, List.singleton_append]
end

mutual
theorem scan_fuel_le : ∀ value : PyValue, wellFormed floatReadsBack value = true →
    scanFuel value ≤ (jsonDumps value).length
  | .list items, wf => by
      have := items_fuel_le items wf
      simp only [scanFuel, jsonDumps, String.length_append]
      have : "[".length = 1 := rfl
      have : "]".length = 1 := rfl
      omega
  | .dict entries, wf => by
      have := entries_fuel_le entries (by simp only [wellFormed, Bool.and_eq_true] at wf; exact wf.2)
      simp only [scanFuel, jsonDumps, String.length_append]
      have : "\x7b".length = 1 := rfl
      have : "\x7d".length = 1 := rfl
      omega
  | .none, _ => by decide
  | .bool b, _ => by cases b <;> decide
  | .int v, wf => scalar (.int v) rfl wf
  | .float x, wf => scalar (.float x) rfl wf
  | .str s, wf => scalar (.str s) rfl wf
where
  scalar (value : PyValue) (one : scanFuel value = 1) (wf : wellFormed floatReadsBack value = true) :
      scanFuel value ≤ (jsonDumps value).length := by
    obtain ⟨c, tail, first, -⟩ := json_dumps_head value wf
    show scanFuel value ≤ (jsonDumps value).toList.length
    rw [one, first, List.length_cons]
    omega

theorem items_fuel_le : ∀ items : List PyValue, itemsWellFormed floatReadsBack items = true →
    itemsFuel items ≤ (jsonItems items).length + 1
  | [], _ => by simp [itemsFuel]
  | [item], wf => by
      have := scan_fuel_le item (by simpa [itemsWellFormed] using wf)
      simp only [itemsFuel, jsonItems]
      omega
  | item :: next :: more, wf => by
      simp only [itemsWellFormed, Bool.and_eq_true] at wf
      have first := scan_fuel_le item wf.1
      have following := items_fuel_le (next :: more) (by simp [itemsWellFormed, wf.2])
      simp only [itemsFuel, jsonItems, String.length_append] at following ⊢
      have : ", ".length = 2 := rfl
      omega

theorem entries_fuel_le : ∀ entries : List (String × PyValue),
    entriesWellFormed floatReadsBack entries = true → entriesFuel entries ≤ (jsonEntries entries).length + 1
  | [], _ => by simp [entriesFuel]
  | [(key, value)], wf => by
      have := scan_fuel_le value (by simpa [entriesWellFormed] using wf)
      simp only [entriesFuel, jsonEntries, String.length_append]
      omega
  | (key, value) :: (nextKey, nextValue) :: more, wf => by
      simp only [entriesWellFormed, Bool.and_eq_true] at wf
      have first := scan_fuel_le value wf.1
      have following := entries_fuel_le ((nextKey, nextValue) :: more)
        (by simp only [entriesWellFormed, Bool.and_eq_true]; exact wf.2)
      simp only [entriesFuel, jsonEntries, String.length_append] at following ⊢
      have : ": ".length = 2 := rfl
      have : ", ".length = 2 := rfl
      omega
end

/-- `json.loads` reads back what `json.dumps` wrote, for every value whose
dicts have distinct keys, whose integers have at most 4300 digits, and whose
finite floats `float` reads back from their `repr`. -/
theorem json_loads_json_dumps (value : PyValue) (wf : wellFormed floatReadsBack value = true) :
    jsonLoads (jsonDumps value) = some (.ok value) := by
  have scanned := scan_once_json_dumps value (2 * (jsonDumps value).length + 1) [] wf
    (by have := scan_fuel_le value wf; omega) (by simp [Delimited])
  rw [List.append_nil] at scanned
  have skipped := skip_space_json_dumps value wf []
  rw [List.append_nil] at skipped
  obtain ⟨c, tail, first, -⟩ := json_dumps_head value wf
  have printable := printable_ascii_json_dumps value c (by rw [show (jsonDumps value).data = _ from first]; exact List.mem_cons_self _ _)
  have notMark : (jsonDumps value).toList.head? ≠ some (Char.ofNat 0xFEFF) := by
    rw [first]
    intro same
    simp only [List.head?_cons, Option.some.injEq] at same
    rw [same] at printable
    revert printable
    decide
  simp only [jsonLoads, decodeDocument, if_neg notMark, skipped, scanned]
  rfl

/-! ### What `json.loads` returns -/

theorem items_well_formed_append (floatOk : PyFloat → Bool) (items : List PyValue) (value : PyValue) :
    itemsWellFormed floatOk (items ++ [value]) =
      (itemsWellFormed floatOk items && wellFormed floatOk value) := by
  induction items with
  | nil => simp [itemsWellFormed]
  | cons item rest ih => simp [itemsWellFormed, ih, Bool.and_assoc]

theorem entries_well_formed_set (floatOk : PyFloat → Bool) (entries : List (String × PyValue))
    (key : String) (value : PyValue) (wf : entriesWellFormed floatOk entries = true)
    (fresh : wellFormed floatOk value = true) :
    entriesWellFormed floatOk (PyDict.set entries key value) = true := by
  induction entries with
  | nil => simp [PyDict.set, entriesWellFormed, fresh]
  | cons entry rest ih =>
      obtain ⟨k, v⟩ := entry
      simp only [entriesWellFormed, Bool.and_eq_true] at wf
      by_cases same : k = key
      · simp [PyDict.set, same, entriesWellFormed, fresh, wf.2]
      · simp [PyDict.set, same, entriesWellFormed, wf.1, ih wf.2]

theorem integer_part_digits (xs whole after : List Char) (found : integerPart xs = some (whole, after)) :
    whole ≠ [] ∧ ∀ c ∈ whole, c.isDigit = true := by
  match xs with
  | [] => simp [integerPart] at found
  | d :: more =>
      by_cases zero : d = '0'
      · simp only [integerPart, zero, if_true, Option.some.injEq, Prod.mk.injEq] at found
        rw [← found.1]
        simp
      · by_cases digit : d.isDigit = true
        · simp only [integerPart, zero, digit, if_false, if_true, Option.some.injEq,
            Prod.mk.injEq] at found
          rw [← found.1]
          exact ⟨List.cons_ne_nil _ _, fun c member => by
            rcases List.mem_cons.mp member with rfl | inTail
            · exact digit
            · exact List.mem_takeWhile_imp inTail⟩
        · simp [integerPart, zero, digit] at found

theorem number_value_well_formed (sign whole fraction exponent : List Char) (nonempty : whole ≠ [])
    (digits : ∀ c ∈ whole, c.isDigit = true) (value : PyValue)
    (read : numberValue sign whole fraction exponent = .ok value) :
    wellFormed (fun _ => true) value = true := by
  have small : digitsValue (whole.map digitValue) < 10 ^ whole.length := by
    have bound := digits_value_lt (whole.map digitValue) (by
      intro d member
      obtain ⟨c, inWhole, rfl⟩ := List.mem_map.mp member
      exact digit_value_lt (digits c inWhole))
    simpa using bound
  have short := length_to_string_le _ whole.length (List.length_pos.mpr nonempty) small
  unfold numberValue at read
  split_ifs at read with plain long
  · injection read with read
    rw [← read]
    simp only [wellFormed, Int.natAbs_ofNat, decide_eq_true_eq]
    omega
  · injection read with read
    rw [← read]
    simp only [wellFormed, Int.natAbs_neg, Int.natAbs_ofNat, decide_eq_true_eq]
    omega
  · split at read
    · injection read with read
      rw [← read]
      rfl
    · contradiction

/-- Every integer the number scanner returns has at most 4300 digits. -/
theorem match_number_well_formed (cs : List Char) (value : PyValue) (rest : List Char)
    (scanned : matchNumber cs = .ok (value, rest)) : wellFormed (fun _ => true) value = true := by
  rw [matchNumber] at scanned
  cases found : integerPart (numberSign cs).2 with
  | none => simp [found] at scanned
  | some parts =>
      obtain ⟨whole, afterWhole⟩ := parts
      obtain ⟨nonempty, digits⟩ := integer_part_digits _ _ _ found
      simp only [found] at scanned
      cases number : numberValue (numberSign cs).1 whole (fractionPart afterWhole).1
          (exponentPart (fractionPart afterWhole).2).1 with
      | error e => simp [number, Except.map] at scanned
      | ok v =>
          simp only [number, Except.map, Except.ok.injEq, Prod.mk.injEq] at scanned
          rw [← scanned.1]
          exact number_value_well_formed _ _ _ _ nonempty digits v number

theorem scan_constant_well_formed (cs : List Char) (value : PyValue) (rest : List Char)
    (scanned : scanConstant cs = .ok (value, rest)) : wellFormed (fun _ => true) value = true := by
  unfold scanConstant at scanned
  split at scanned
  · rename_i name constant found
    have member := List.mem_of_find?_eq_some found
    simp only [Except.ok.injEq, Prod.mk.injEq] at scanned
    rw [← scanned.1]
    simp only [jsonConstants, List.mem_cons, Prod.mk.injEq, List.mem_singleton,
      List.not_mem_nil, or_false] at member
    rcases member with ⟨-, rfl⟩ | ⟨-, rfl⟩ | ⟨-, rfl⟩ | ⟨-, rfl⟩ | ⟨-, rfl⟩ | ⟨-, rfl⟩ <;> rfl
  · exact match_number_well_formed cs value rest scanned

theorem scan_well_formed (fuel : Nat) :
    (∀ cs value rest, scanOnce fuel cs = .ok (value, rest) → wellFormed (fun _ => true) value = true) ∧
    (∀ cs items value rest, itemsWellFormed (fun _ => true) items = true →
      parseItems fuel cs items = .ok (value, rest) → wellFormed (fun _ => true) value = true) ∧
    (∀ cs entries value rest, (PyDict.keys entries).Nodup →
      entriesWellFormed (fun _ => true) entries = true →
      parseMembers fuel cs entries = .ok (value, rest) → wellFormed (fun _ => true) value = true) := by
  induction fuel with
  | zero => refine ⟨?_, ?_, ?_⟩ <;> intros <;> simp_all [scanOnce, parseItems, parseMembers]
  | succ fuel ih =>
      obtain ⟨values, items, members⟩ := ih
      refine ⟨?_, ?_, ?_⟩
      · intro cs value rest scanned
        rw [scanOnce] at scanned
        split_ifs at scanned
        · split at scanned
          · simp only [Except.ok.injEq, Prod.mk.injEq] at scanned
            rw [← scanned.1]
            rfl
          · contradiction
        · simp only [Except.ok.injEq, Prod.mk.injEq] at scanned
          rw [← scanned.1]
          rfl
        · exact members _ [] value rest List.nodup_nil rfl scanned
        · simp only [Except.ok.injEq, Prod.mk.injEq] at scanned
          rw [← scanned.1]
          rfl
        · exact items _ [] value rest rfl scanned
        · exact scan_constant_well_formed _ _ _ scanned
      · intro cs acc value rest wf scanned
        rw [parseItems] at scanned
        split at scanned
        · contradiction
        · rename_i element after found
          have elementWf := values _ _ _ found
          split at scanned
          · simp only [Except.ok.injEq, Prod.mk.injEq] at scanned
            rw [← scanned.1]
            simp [wellFormed, items_well_formed_append, wf, elementWf]
          · exact items _ _ _ _ (by rw [items_well_formed_append, wf, elementWf]; rfl) scanned
          · contradiction
      · intro cs entries value rest unique wf scanned
        unfold parseMembers at scanned
        split at scanned
        · split at scanned
          · contradiction
          · split at scanned
            · split at scanned
              · contradiction
              · rename_i _ _ _ key _ _ _ _ _ _ element _ found
                have elementWf := values _ _ _ found
                have stillUnique : (PyDict.keys (PyDict.set entries key element)).Nodup :=
                  PyDict.KeysUnique.set unique key element
                have stillWf := entries_well_formed_set _ entries key element wf elementWf
                split at scanned
                · simp only [Except.ok.injEq, Prod.mk.injEq] at scanned
                  rw [← scanned.1]
                  simp only [wellFormed, Bool.and_eq_true, decide_eq_true_eq]
                  exact ⟨stillUnique, stillWf⟩
                · exact members _ _ _ _ stillUnique stillWf scanned
                · contradiction
            · contradiction
        · contradiction

/-- Every value `json.loads` returns has distinct keys in each of its dicts
and at most 4300 digits in each of its integers. -/
theorem json_loads_well_formed (s : String) (value : PyValue) (loaded : jsonLoads s = some (.ok value)) :
    wellFormed (fun _ => true) value = true := by
  have decoded : decodeDocument (2 * s.length + 1) s.toList = .ok value := by
    unfold jsonLoads at loaded
    split at loaded <;> simp_all
  unfold decodeDocument at decoded
  split_ifs at decoded
  split at decoded
  · contradiction
  · rename_i scanned
    split at decoded
    · injection decoded with same
      rw [← same]
      exact (scan_well_formed _).1 _ _ _ scanned
    · contradiction

/-! ### `json.dumps` returns -/

mutual
/-- On a value whose integers have at most 4300 digits, `json.dumps` returns
its text. -/
theorem json_dumps_call_of_well_formed (floatOk : PyFloat → Bool) :
    ∀ value : PyValue, wellFormed floatOk value = true → jsonDumpsCall value = .ok (jsonDumps value)
  | .int value, wf => by
      simp only [wellFormed, decide_eq_true_eq] at wf
      simp only [jsonDumpsCall, intRepr, jsonDumps, if_neg (Nat.not_lt.mpr wf)]
  | .list items, wf => by
      simp only [jsonDumpsCall, items_call_of_well_formed floatOk items wf, jsonDumps]
      rfl
  | .dict entries, wf => by
      rw [wellFormed, Bool.and_eq_true] at wf
      simp only [jsonDumpsCall, entries_call_of_well_formed floatOk entries wf.2, jsonDumps]
      rfl
  | .none, _ | .bool _, _ | .float _, _ | .str _, _ => rfl

theorem items_call_of_well_formed (floatOk : PyFloat → Bool) :
    ∀ items : List PyValue, itemsWellFormed floatOk items = true → itemsCall items = .ok (jsonItems items)
  | [], _ => rfl
  | [item], wf => by
      rw [itemsWellFormed, Bool.and_eq_true] at wf
      exact json_dumps_call_of_well_formed floatOk item wf.1
  | item :: next :: rest, wf => by
      rw [itemsWellFormed, Bool.and_eq_true] at wf
      simp only [itemsCall, json_dumps_call_of_well_formed floatOk item wf.1,
        items_call_of_well_formed floatOk (next :: rest) wf.2, jsonItems]
      rfl

theorem entries_call_of_well_formed (floatOk : PyFloat → Bool) :
    ∀ entries : List (String × PyValue), entriesWellFormed floatOk entries = true →
      entriesCall entries = .ok (jsonEntries entries)
  | [], _ => rfl
  | [(key, value)], wf => by
      rw [entriesWellFormed, Bool.and_eq_true] at wf
      simp only [entriesCall, json_dumps_call_of_well_formed floatOk value wf.1, jsonEntries]
      rfl
  | (key, value) :: next :: rest, wf => by
      rw [entriesWellFormed, Bool.and_eq_true] at wf
      simp only [entriesCall, json_dumps_call_of_well_formed floatOk value wf.1,
        entries_call_of_well_formed floatOk (next :: rest) wf.2, jsonEntries]
      rfl
end

/-- `json.dumps` never raises on what `json.loads` returned. -/
theorem json_dumps_call_of_json_loads (s : String) (value : PyValue) (loaded : jsonLoads s = some (.ok value)) :
    jsonDumpsCall value = .ok (jsonDumps value) :=
  json_dumps_call_of_well_formed _ value (json_loads_well_formed s value loaded)

end VoipSimulator.Python
