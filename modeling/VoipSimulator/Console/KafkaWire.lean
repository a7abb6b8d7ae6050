import VoipSimulator.Python.JsonRoundTrip
import VoipSimulator.Python.Utf8
import VoipSimulator.Console.Command
import VoipSimulator.Console.PacketIngest

/-! The serializers the console configures: `get_producer` writes a key with
`k.encode("utf-8") if k else None` and a value with
`json.dumps(v).encode("utf-8")`, which never raises on a command message
(`json_dumps_call_command_message`); `_make_consumer` reads a value with
`json.loads(v.decode("utf-8"))`; `_parse_packet_headers` reads each header
value with `v.decode("utf-8", errors="replace")`. -/

namespace VoipSimulator.Console

open VoipSimulator.Python

set_option autoImplicit false

def keySerializer (key : String) : Option (List UInt8) :=
  if key.isEmpty then none else some (encodeUtf8 key)

def valueSerializer (value : PyValue) : List UInt8 := encodeUtf8 (jsonDumps value)

/-- The consumers' `value_deserializer`: `json.loads(v.decode("utf-8"))`;
`none` where `json.loads` is outside the model. -/
def valueDeserializer (bytes : List UInt8) : Option (Except PyException PyValue) :=
  match decodeStrict bytes with
  | .ok text => jsonLoads text
  | .error e => some (.error e)

def headerDecoder (bytes : List UInt8) : String := decodeReplace bytes

structure ProducerRecord where
  topic : String
  key : Option (List UInt8)
  value : List UInt8

def commandRecords (request : CommandRequest) (requestId timestamp : String) :
    List ProducerRecord :=
  (sendTopics request.target).map fun topic =>
    ⟨topic, keySerializer request.target, valueSerializer (commandMessage request requestId timestamp)⟩

mutual
/-- The lists and dicts on the deepest path of a value. `json.dumps` and
`json.loads` enter one recursive call per level and raise `RecursionError`
past the interpreter's limit, 1000 by default, less the frames already on
the thread's stack; neither is modelled. -/
def nestingDepth : PyValue → Nat
  | .list items => itemsDepth items + 1
  | .dict entries => entriesDepth entries + 1
  | _ => 0

def itemsDepth : List PyValue → Nat
  | [] => 0
  | item :: rest => max (nestingDepth item) (itemsDepth rest)

def entriesDepth : List (String × PyValue) → Nat
  | [] => 0
  | (_, value) :: rest => max (nestingDepth value) (entriesDepth rest)
end

/-! ### Values -/

/-- Every message the consumers hand to `_handle_packet` and
`_handle_response` has distinct keys in each of its dicts and at most 4300
digits in each of its integers: the dict loop of `json.loads` keeps one
entry per key, and its integer limit raises on every longer integer. -/
theorem value_deserializer_well_formed (bytes : List UInt8) (value : PyValue)
    (read : valueDeserializer bytes = some (.ok value)) : wellFormed (fun _ => true) value = true := by
  unfold valueDeserializer at read
  split at read
  · exact json_loads_well_formed _ value read
  · cases read

theorem repeated_key_read_once :
    valueDeserializer (encodeUtf8 "\x7b\"a\": 1, \"b\": [2], \"a\": 3\x7d") =
        some (.ok (.dict [("a", .int 3), ("b", .list [.int 2])])) ∧
      wellFormed (fun _ => true) (.dict [("a", .int 3), ("b", .list [.int 2])]) = true :=
  have read : valueDeserializer (encodeUtf8 "\x7b\"a\": 1, \"b\": [2], \"a\": 3\x7d") =
      some (.ok (.dict [("a", .int 3), ("b", .list [.int 2])])) := by rfl
  ⟨read, value_deserializer_well_formed _ _ read⟩

/-! ### Commands -/

theorem well_formed_command_message (request : CommandRequest) (requestId timestamp : String)
    (payloadWf : wellFormed floatReadsBack request.payload = true) :
    wellFormed floatReadsBack (commandMessage request requestId timestamp) = true := by
  have payload : wellFormed floatReadsBack
      (if request.payload.truthy then request.payload else .dict []) = true := by
    split_ifs
    · exact payloadWf
    · rfl
  simp only [commandMessage, wellFormed, entriesWellFormed, payload, PyDict.keys, List.map,
    Bool.and_true, Bool.true_and, decide_eq_true_eq]
  decide

theorem json_dumps_call_command_message (request : CommandRequest) (requestId timestamp : String)
    (payloadWf : wellFormed floatReadsBack request.payload = true) :
    jsonDumpsCall (commandMessage request requestId timestamp) =
      .ok (jsonDumps (commandMessage request requestId timestamp)) :=
  json_dumps_call_of_well_formed _ _ (well_formed_command_message request requestId timestamp payloadWf)

/-- Header values that are the UTF-8 of strings reach the record as those
strings: `_parse_packet_headers` files each key's last string under the
envelope or, for an `l.` key, under the label it names. -/
theorem parse_packet_headers_utf8 (pairs : List (String × String)) (nonempty : pairs ≠ []) :
    ∃ parsed, parsePacketHeaders headerDecoder (pairs.map fun pair => (pair.1, encodeUtf8 pair.2)) =
        some parsed ∧
      (∀ key, PyDict.get? parsed.envelope key =
        if isLabelKey key then none else PyDict.get? pairs.reverse key) ∧
      ∀ name, PyDict.get? parsed.headerLabels name = PyDict.get? pairs.reverse (labelKey name) := by
  have decoded : ∀ key, (PyDict.get? (pairs.map fun pair => (pair.1, encodeUtf8 pair.2)).reverse
      key).map headerDecoder = PyDict.get? pairs.reverse key := by
    intro key
    rw [← List.map_reverse, PyDict.get?_map_values, Option.map_map]
    simp only [Function.comp_def, headerDecoder, decode_replace_encode_utf8, Option.map_id']
  obtain ⟨parsed, parsedEq, -, envelope, labels⟩ :=
    parse_packet_headers_lookup headerDecoder (pairs.map fun pair => (pair.1, encodeUtf8 pair.2))
      (by simpa using nonempty)
  exact ⟨parsed, parsedEq, fun key => by rw [envelope, decoded],
    fun name => by rw [labels, decoded]⟩

theorem agent_headers_filed :
    [("l.sip.method", "INVITE"), ("task_id", "tâche-1")] ≠ [] ∧
      ∃ parsed, parsePacketHeaders headerDecoder
          ([("l.sip.method", "INVITE"), ("task_id", "tâche-1")].map
            fun pair => (pair.1, encodeUtf8 pair.2)) = some parsed ∧
        (∀ key, PyDict.get? parsed.envelope key = if isLabelKey key then none else
          PyDict.get? [("l.sip.method", "INVITE"), ("task_id", "tâche-1")].reverse key) ∧
        ∀ name, PyDict.get? parsed.headerLabels name =
          PyDict.get? [("l.sip.method", "INVITE"), ("task_id", "tâche-1")].reverse (labelKey name) :=
  ⟨by decide, parse_packet_headers_utf8 _ (by decide)⟩

end VoipSimulator.Console
