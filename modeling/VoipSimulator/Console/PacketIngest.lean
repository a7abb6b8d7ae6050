import VoipSimulator.Python.Value

/-!
# Building a packet record

`_handle_packet` first turns one consumed message into the record it
publishes and buffers: the message value (an empty dict if it is not a
dict), label headers merged into `labels` with their `l.` prefix stripped,
the other headers under `_envelope`, the receipt time under `_received_at`
and the timestamp normalised to integer milliseconds. The header values are
bytes decoded with `v.decode("utf-8", errors="replace")`; the decoder is a
parameter here, and every result holds whatever it is.
-/

namespace VoipSimulator.Console

open VoipSimulator.Python

set_option autoImplicit false

/-- A Kafka header: its key and its raw value. -/
abbrev Header := String × List UInt8

/-- `k.startswith("l.")`. -/
def isLabelKey (key : String) : Bool := key.toList.take 2 = ['l', '.']

/-- `k[2:]` of a label header key. -/
def stripLabelPrefix (key : String) : String := String.mk (key.toList.drop 2)

/-- The header key that carries label `name`. -/
def labelKey (name : String) : String := String.mk ('l' :: '.' :: name.toList)

theorem is_label_key_label_key (name : String) : isLabelKey (labelKey name) = true := by
  simp [isLabelKey, labelKey]

theorem strip_eq_iff_label_key (key name : String) (labelled : isLabelKey key = true) :
    stripLabelPrefix key = name ↔ key = labelKey name := by
  simp only [isLabelKey, decide_eq_true_eq] at labelled
  have split : key.toList = 'l' :: '.' :: key.toList.drop 2 := by
    conv_lhs => rw [← List.take_append_drop 2 key.toList, labelled]
    rfl
  constructor
  · rintro rfl
    exact String.ext split
  · rintro rfl
    rfl

/-- The two dicts `_parse_packet_headers` returns. -/
structure PacketHeaders where
  envelope : List (String × String)
  headerLabels : List (String × String)

section Build

variable (decode : List UInt8 → String)

/-- `_parse_packet_headers`; `none` is the empty dict returned for a message
without headers. -/
def parsePacketHeaders (headers : List Header) : Option PacketHeaders :=
  if headers.isEmpty then none else
    let decoded := PyDict.ofPairs (headers.map fun header => (header.1, decode header.2))
    some ⟨PyDict.ofPairs (decoded.filter fun entry => !isLabelKey entry.1),
      PyDict.ofPairs ((decoded.filter fun entry => isLabelKey entry.1).map
        fun entry => (stripLabelPrefix entry.1, entry.2))⟩

/-- `packet.setdefault("labels", {}).update(labels)`. -/
def mergeLabels (packet : List (String × PyValue)) (labels : List (String × String)) :
    Except PyException (List (String × PyValue)) :=
  let additions := labels.map fun entry => (entry.1, PyValue.str entry.2)
  match PyDict.get? packet "labels" with
  | none => .ok (PyDict.set packet "labels" (.dict (PyDict.update [] additions)))
  | some (.dict existing) => .ok (PyDict.set packet "labels" (.dict (PyDict.update existing additions)))
  | some other => .error (.attributeError ("'" ++ typeName other ++ "' object has no attribute 'update'"))

/-- `_handle_packet` up to `_received_at`: merge the label headers (when
there are any) and attach the other headers as `_envelope`. -/
def attachHeaders (value : PyValue) (headers : List Header) :
    Except PyException (List (String × PyValue)) := do
  let extra := parsePacketHeaders decode headers
  let packet ← match extra with
    | some parsed =>
        if parsed.headerLabels.isEmpty then pure (messageEntries value)
        else mergeLabels (messageEntries value) parsed.headerLabels
    | none => pure (messageEntries value)
  return PyDict.set packet "_envelope"
    (.dict (((extra.map PacketHeaders.envelope).getD []).map fun entry => (entry.1, .str entry.2)))

end Build

/-- The seconds/milliseconds threshold of `_handle_packet`. -/
def secondsThreshold : Int := 100000000000

/-- The `try` block of the timestamp normalisation: `int(float(str(ts_raw)))`,
scaled by 1000 below the threshold, with a `ValueError` or `TypeError`
falling back to `_received_at`; any other exception escapes. -/
def convertTimestamp (value : PyValue) (receivedAt : Int) : Except PyException Int :=
  match (floatOfString value.toStr).bind PyFloat.toInt with
  | .ok stamp => .ok (if stamp < secondsThreshold then stamp * 1000 else stamp)
  | .error (.valueError _) => .ok receivedAt
  | .error (.typeError _) => .ok receivedAt
  | .error raised => .error raised

/-- The timestamp normalisation of `_handle_packet` on `packet.get("timestamp")`,
which is `None` both for a missing key and for a JSON `null`. -/
def normaliseTimestamp (raw : Option PyValue) (receivedAt : Int) : Except PyException Int :=
  match raw with
  | none => .ok receivedAt
  | some .none => .ok receivedAt
  | some value => convertTimestamp value receivedAt

/-- The record `_handle_packet` publishes to the channel's subscribers and
appends to its ring buffer. -/
def buildRecord (decode : List UInt8 → String) (value : PyValue) (headers : List Header)
    (receivedAt : Int) : Except PyException PyValue := do
  let packet ← attachHeaders decode value headers
  let packet := PyDict.set packet "_received_at" (.int receivedAt)
  let stamp ← normaliseTimestamp (PyDict.get? packet "timestamp") receivedAt
  return .dict (PyDict.set packet "timestamp" (.int stamp))

/-- A header as kafka-python hands it over: the value of a `null` header is
`None`. -/
abbrev RawHeader := String × Option (List UInt8)

/-- The headers `_parse_packet_headers` decodes, or the `AttributeError` of
`v.decode` on the first `None` value. -/
def headerValues : List RawHeader → Except PyException (List Header)
  | [] => .ok []
  | (key, some value) :: rest => (headerValues rest).map ((key, value) :: ·)
  | (_, none) :: _ => .error (.attributeError "'NoneType' object has no attribute 'decode'")

/-- `_handle_packet` up to its fanout, on the headers as consumed. -/
def buildRawRecord (decode : List UInt8 → String) (value : PyValue) (raw : List RawHeader)
    (receivedAt : Int) : Except PyException PyValue := do
  let headers ← headerValues raw
  buildRecord decode value headers receivedAt

/-! ### Which timestamps make `_handle_packet` raise -/

theorem float_of_string_error {s : String} {e : PyException} (raised : floatOfString s = .error e) :
    e = .valueError ("could not convert string to float: '" ++ s ++ "'") := by
  unfold floatOfString at raised
  split at raised
  · cases raised
  · exact (Except.error.inj raised).symm

/-- `str(None)` is `'None'`, which `float` rejects: a `null` timestamp would
fall back to `_received_at` even without its own branch. -/
theorem convert_timestamp_none (receivedAt : Int) :
    convertTimestamp .none receivedAt = .ok receivedAt := rfl

theorem normalise_timestamp_some (raw : PyValue) (receivedAt : Int) :
    normaliseTimestamp (some raw) receivedAt = convertTimestamp raw receivedAt := by
  cases raw with
  | none => exact (convert_timestamp_none receivedAt).symm
  | _ => rfl

/-- The normalisation raises exactly when `float(str(ts_raw))` is an
infinity, and what it raises is the `OverflowError` of `int`, which the
`except (ValueError, TypeError)` does not catch. -/
theorem normalise_timestamp_raises_iff (raw : PyValue) (receivedAt : Int) (e : PyException) :
    normaliseTimestamp (some raw) receivedAt = .error e ↔
      (∃ negative, floatOfString raw.toStr = .ok (.infinity negative)) ∧
        e = .overflowError "cannot convert float infinity to integer" := by
  rw [normalise_timestamp_some]
  unfold convertTimestamp
  cases parsed : floatOfString raw.toStr with
  | error raised =>
      rw [float_of_string_error parsed]
      simp [Except.bind]
  | ok x =>
      cases x with
      | finite => simp [Except.bind, PyFloat.toInt]
      | infinity negative => simp [Except.bind, PyFloat.toInt, eq_comm]
      | nan => simp [Except.bind, PyFloat.toInt]

/-- An integer timestamp below `2 ^ 53` in magnitude passes through
`float(str(ts_raw))` and `int` unchanged; it is taken as seconds and scaled by
1000 exactly when it is below `10 ^ 11`. -/
theorem integer_timestamp_normalised (v : Int) (small : v.natAbs < 2 ^ 53) (receivedAt : Int) :
    normaliseTimestamp (some (.int v)) receivedAt =
      .ok (if v < 100000000000 then v * 1000 else v) := by
  rw [normalise_timestamp_some, convertTimestamp,
    show (PyValue.int v).toStr = toString v from rfl, float_of_string_int v small]
  rfl

theorem seconds_timestamp_scaled :
    (1700000000 : Int).natAbs < 2 ^ 53 ∧
      normaliseTimestamp (some (.int 1700000000)) 0 =
        .ok (if (1700000000 : Int) < 100000000000 then 1700000000 * 1000 else 1700000000) :=
  ⟨by decide, integer_timestamp_normalised 1700000000 (by decide) 0⟩

/-! ### How a message's headers are filed -/

theorem get?_stripped_labels {V : Type} (entries : List (String × V)) (name : String) :
    PyDict.get? ((entries.filter fun entry => isLabelKey entry.1).map
      fun entry => (stripLabelPrefix entry.1, entry.2)) name =
      PyDict.get? entries (labelKey name) := by
  induction entries with
  | nil => rfl
  | cons entry rest ih =>
      obtain ⟨key, value⟩ := entry
      by_cases labelled : isLabelKey key = true
      · simp [List.filter_cons, labelled, strip_eq_iff_label_key key name labelled, ih, eq_comm]
      · have differ : key ≠ labelKey name := fun same =>
          labelled (same ▸ is_label_key_label_key name)
        simp [List.filter_cons, labelled, differ, ih]

theorem get?_eq_none_of_no_labels {V : Type} (entries : List (String × V))
    (unlabelled : ∀ entry ∈ entries, isLabelKey entry.1 = false) (name : String) :
    PyDict.get? entries (labelKey name) = none := by
  rw [PyDict.get?_eq_none_iff]
  intro member
  obtain ⟨entry, inEntries, same⟩ := List.mem_map.mp member
  have labelled := unlabelled entry inEntries
  rw [same, is_label_key_label_key] at labelled
  cases labelled

section Parsed

variable (decode : List UInt8 → String)

/-- The decoded header dict: every key maps to its last value. -/
theorem get?_decoded_headers (headers : List Header) (key : String) :
    PyDict.get? (PyDict.ofPairs (headers.map fun header => (header.1, decode header.2)))
      (key) = (PyDict.get? headers.reverse key).map decode := by
  rw [PyDict.get?_of_pairs, ← List.map_reverse, PyDict.get?_map_values]

theorem parse_packet_headers_lookup (headers : List Header) (nonempty : headers ≠ []) :
    ∃ parsed, parsePacketHeaders decode headers = some parsed ∧
      PyDict.KeysUnique parsed.headerLabels ∧
      (∀ key, PyDict.get? parsed.envelope key =
        if isLabelKey key then none else (PyDict.get? headers.reverse key).map decode) ∧
      ∀ name, PyDict.get? parsed.headerLabels name =
        (PyDict.get? headers.reverse (labelKey name)).map decode := by
  have unique := PyDict.keys_unique_of_pairs
    (headers.map fun header => (header.1, decode header.2))
  have notEmpty : headers.isEmpty = false := by
    cases headers with
    | nil => contradiction
    | cons => rfl
  simp only [parsePacketHeaders, notEmpty]
  refine ⟨_, rfl, PyDict.keys_unique_of_pairs _, ?_, ?_⟩
  · intro key
    simp only [PyDict.get?_of_pairs]
    rw [← List.filter_reverse, PyDict.get?_filter _ (fun key => !isLabelKey key),
      PyDict.get?_reverse _ unique, get?_decoded_headers]
    by_cases labelled : isLabelKey key = true <;> simp [labelled]
  · intro name
    rw [PyDict.get?_of_pairs, ← List.map_reverse, ← List.filter_reverse, get?_stripped_labels,
      PyDict.get?_reverse _ unique, get?_decoded_headers]

theorem header_labels_is_empty_iff (headers : List Header) (parsed : PacketHeaders)
    (parsedEq : parsePacketHeaders decode headers = some parsed) :
    parsed.headerLabels.isEmpty = true ↔ ∀ header ∈ headers, isLabelKey header.1 = false := by
  have nonempty : headers ≠ [] := by
    rintro rfl
    simp [parsePacketHeaders] at parsedEq
  obtain ⟨parsed', parsedEq', -, -, labels⟩ := parse_packet_headers_lookup decode headers nonempty
  rw [parsedEq] at parsedEq'
  cases parsedEq'
  rw [List.isEmpty_iff, PyDict.get?_eq_none_of_nil_iff]
  simp only [labels, Option.map_eq_none']
  constructor
  · intro absent header member
    by_contra labelled
    have named := absent (stripLabelPrefix header.1)
    rw [← (strip_eq_iff_label_key header.1 _ (by simpa using labelled)).mp rfl,
      PyDict.get?_eq_none_iff] at named
    exact named (List.mem_map.mpr ⟨header, List.mem_reverse.mpr member, rfl⟩)
  · intro unlabelled name
    exact get?_eq_none_of_no_labels _ (fun entry member =>
      unlabelled entry (List.mem_reverse.mp member)) name

end Parsed

/-- The label `name` of the message value's own `labels` dict, if any. -/
def originalLabel (value : PyValue) (name : String) : Option PyValue :=
  match PyDict.get? (messageEntries value) "labels" with
  | some (.dict existing) => PyDict.get? existing name
  | _ => none

theorem merge_labels_lookup (value : PyValue) (labels : List (String × String))
    (unique : PyDict.KeysUnique labels)
    (shape : ∀ v, PyDict.get? (messageEntries value) "labels" = some v → ∃ existing, v = .dict existing) :
    ∃ merged, mergeLabels (messageEntries value) labels =
        .ok (PyDict.set (messageEntries value) "labels" (.dict merged)) ∧
      ∀ name, PyDict.get? merged name =
        ((PyDict.get? labels name).map PyValue.str).or (originalLabel value name) := by
  have additions := PyDict.get?_reverse _ (unique.map_values PyValue.str)
  unfold mergeLabels originalLabel
  cases present : PyDict.get? (messageEntries value) "labels" with
  | none =>
      refine ⟨_, rfl, fun name => ?_⟩
      rw [PyDict.get?_update, additions, PyDict.get?_map_values]
      rfl
  | some label =>
      obtain ⟨existing, rfl⟩ := shape label present
      refine ⟨_, rfl, fun name => ?_⟩
      rw [PyDict.get?_update, additions, PyDict.get?_map_values]

theorem get?_reverse_is_some_of_mem {V : Type} {entries : List (String × V)} {entry : String × V}
    (member : entry ∈ entries) : (PyDict.get? entries.reverse entry.1).isSome := by
  rw [← PyDict.mem_keys_iff]
  exact List.mem_map.mpr ⟨entry, List.mem_reverse.mpr member, rfl⟩

private theorem labels_ne_envelope : ("labels" : String) ≠ "_envelope" := by decide

private theorem received_ne_labels : ("_received_at" : String) ≠ "labels" := by decide

private theorem received_ne_envelope : ("_received_at" : String) ≠ "_envelope" := by decide

private theorem timestamp_ne_labels : ("timestamp" : String) ≠ "labels" := by decide

private theorem timestamp_ne_envelope : ("timestamp" : String) ≠ "_envelope" := by decide

private theorem timestamp_ne_received : ("timestamp" : String) ≠ "_received_at" := by decide

/-- The later stages of `_handle_packet` only set `_received_at` and
`timestamp`: the record keeps the filed `labels` and `_envelope`. -/
theorem build_record_keeps_headers (decode : List UInt8 → String) (value : PyValue)
    (headers : List Header) (receivedAt : Int) (packet : List (String × PyValue))
    (attached : attachHeaders decode value headers = .ok packet) (record : PyValue)
    (built : buildRecord decode value headers receivedAt = .ok record) :
    ∃ entries, record = .dict entries ∧
      PyDict.get? entries "labels" = PyDict.get? packet "labels" ∧
      PyDict.get? entries "_envelope" = PyDict.get? packet "_envelope" := by
  simp only [buildRecord, attached, bind, Except.bind] at built
  cases stamped : normaliseTimestamp
      (PyDict.get? (PyDict.set packet "_received_at" (.int receivedAt)) "timestamp") receivedAt with
  | error raised => simp [stamped] at built
  | ok stamp =>
      simp only [stamped, pure, Except.pure, Except.ok.injEq] at built
      subst built
      refine ⟨_, rfl, ?_, ?_⟩
      · rw [PyDict.get?_set_ne _ _ timestamp_ne_labels.symm,
          PyDict.get?_set_ne _ _ received_ne_labels.symm]
      · rw [PyDict.get?_set_ne _ _ timestamp_ne_envelope.symm,
          PyDict.get?_set_ne _ _ received_ne_envelope.symm]

/-- Where a message's headers end up in the packet `_handle_packet` builds:
`_envelope` maps exactly the keys without the `l.` prefix to the decoding of
their last value; `labels` is left as it was when no header has the prefix,
and otherwise is the original labels overridden, for each header `l.` +
`name`, by `name` mapped to the decoding of that header's last value; every
header key lands in exactly one of the two; and the record built from the
packet keeps both fields. -/
structure HeadersFiled (decode : List UInt8 → String) (value : PyValue) (headers : List Header)
    (packet : List (String × PyValue)) (envelope : List (String × PyValue)) : Prop where
  envelope_field : PyDict.get? packet "_envelope" = some (.dict envelope)
  envelope_lookup : ∀ key, PyDict.get? envelope key = if isLabelKey key then none
    else (PyDict.get? headers.reverse key).map fun bytes => .str (decode bytes)
  labels_untouched : (∀ header ∈ headers, isLabelKey header.1 = false) →
    PyDict.get? packet "labels" = PyDict.get? (messageEntries value) "labels"
  labels_merged : (∃ header ∈ headers, isLabelKey header.1 = true) →
    ∃ merged, PyDict.get? packet "labels" = some (.dict merged) ∧
      (∀ name, PyDict.get? merged name =
        ((PyDict.get? headers.reverse (labelKey name)).map fun bytes => .str (decode bytes)).or
          (originalLabel value name)) ∧
      ∀ header ∈ headers, isLabelKey header.1 = true →
        PyDict.get? envelope header.1 = none ∧
          (PyDict.get? merged (stripLabelPrefix header.1)).isSome
  unlabelled_filed : ∀ header ∈ headers, isLabelKey header.1 = false →
    (PyDict.get? envelope header.1).isSome
  record_keeps : ∀ receivedAt record, buildRecord decode value headers receivedAt = .ok record →
    ∃ entries, record = .dict entries ∧
      PyDict.get? entries "labels" = PyDict.get? packet "labels" ∧
      PyDict.get? entries "_envelope" = PyDict.get? packet "_envelope"

/-- For a message value whose `labels` is absent or a dict, filing the
headers never raises and files them as `HeadersFiled` says. -/
theorem handle_packet_files_headers (decode : List UInt8 → String) (value : PyValue)
    (headers : List Header)
    (shape : ∀ v, PyDict.get? (messageEntries value) "labels" = some v →
      ∃ existing, v = .dict existing) :
    ∃ packet envelope, attachHeaders decode value headers = .ok packet ∧
      HeadersFiled decode value headers packet envelope := by
  by_cases empty : headers = []
  · subst empty
    have attached : attachHeaders decode value [] =
        .ok (PyDict.set (messageEntries value) "_envelope" (.dict [])) := by
      simp [attachHeaders, parsePacketHeaders]
      rfl
    refine ⟨_, [], attached, by simp, fun key => ?_, fun _ => ?_, fun ⟨_, member, _⟩ => ?_,
      fun _ member => by simp at member,
      fun receivedAt => build_record_keeps_headers decode value [] receivedAt _ attached⟩
    · by_cases labelled : isLabelKey key = true <;> simp [labelled]
    · rw [PyDict.get?_set_ne _ _ labels_ne_envelope]
    · simp at member
  · obtain ⟨parsed, parsedEq, unique, envelopeLookup, labelLookup⟩ :=
      parse_packet_headers_lookup decode headers empty
    let envelope := parsed.envelope.map fun entry => (entry.1, PyValue.str entry.2)
    have envelopeEq : ∀ key, PyDict.get? envelope key = if isLabelKey key then none
        else (PyDict.get? headers.reverse key).map fun bytes => .str (decode bytes) := by
      intro key
      rw [PyDict.get?_map_values, envelopeLookup]
      by_cases labelled : isLabelKey key = true <;> simp [labelled, Option.map_map,
        Function.comp_def]
    have present : ∀ header ∈ headers, isLabelKey header.1 = false →
        (PyDict.get? envelope header.1).isSome := by
      intro header member unlabelled
      simpa [envelopeEq, unlabelled] using get?_reverse_is_some_of_mem member
    by_cases labelled : ∃ header ∈ headers, isLabelKey header.1 = true
    · have notEmpty : parsed.headerLabels.isEmpty = false := by
        by_contra emptyLabels
        obtain ⟨header, member, isLabel⟩ := labelled
        have none := (header_labels_is_empty_iff decode headers parsed parsedEq).mp
          (by simpa using emptyLabels) header member
        rw [isLabel] at none
        cases none
      obtain ⟨merged, mergedEq, mergedLookup⟩ :=
        merge_labels_lookup value parsed.headerLabels unique shape
      have attached : attachHeaders decode value headers = .ok (PyDict.set
          (PyDict.set (messageEntries value) "labels" (.dict merged)) "_envelope" (.dict envelope)) := by
        simp only [attachHeaders, parsedEq, notEmpty, mergedEq, Option.map_some', Option.getD_some]
        rfl
      have mergedFormula : ∀ name, PyDict.get? merged name =
          ((PyDict.get? headers.reverse (labelKey name)).map fun bytes => .str (decode bytes)).or
            (originalLabel value name) := by
        intro name
        rw [mergedLookup, labelLookup, Option.map_map]
        rfl
      refine ⟨_, envelope, attached, by simp, envelopeEq, fun unlabelled => ?_, fun _ => ?_,
        present, fun receivedAt => build_record_keeps_headers decode value headers receivedAt _ attached⟩
      · obtain ⟨header, member, isLabel⟩ := labelled
        rw [unlabelled header member] at isLabel
        cases isLabel
      · refine ⟨merged, by rw [PyDict.get?_set_ne _ _ labels_ne_envelope]; simp, mergedFormula, ?_⟩
        intro header member isLabel
        refine ⟨by simp [envelopeEq, isLabel], ?_⟩
        have named : labelKey (stripLabelPrefix header.1) = header.1 :=
          ((strip_eq_iff_label_key header.1 _ isLabel).mp rfl).symm
        rw [mergedFormula, named]
        simpa using Or.inl (get?_reverse_is_some_of_mem member)
    · have unlabelled : ∀ header ∈ headers, isLabelKey header.1 = false := by
        intro header member
        by_contra isLabel
        exact labelled ⟨header, member, by simpa using isLabel⟩
      have emptyLabels : parsed.headerLabels.isEmpty = true :=
        (header_labels_is_empty_iff decode headers parsed parsedEq).mpr unlabelled
      have attached : attachHeaders decode value headers =
          .ok (PyDict.set (messageEntries value) "_envelope" (.dict envelope)) := by
        simp only [attachHeaders, parsedEq, emptyLabels, Option.map_some', Option.getD_some]
        rfl
      refine ⟨_, envelope, attached, by simp, envelopeEq, fun _ => ?_, fun found => ?_,
        present, fun receivedAt => build_record_keeps_headers decode value headers receivedAt _ attached⟩
      · rw [PyDict.get?_set_ne _ _ labels_ne_envelope]
      · exact absurd found labelled

/-! ### The fields outside the headers' two -/

/-- Filing the headers raises only where `labels` is neither absent nor a
dict. -/
theorem attach_headers_ok (decode : List UInt8 → String) (value : PyValue) (headers : List Header)
    (shape : ∀ v, PyDict.get? (messageEntries value) "labels" = some v →
      ∃ existing, v = .dict existing) :
    ∃ packet, attachHeaders decode value headers = .ok packet := by
  unfold attachHeaders
  cases parsePacketHeaders decode headers with
  | none => exact ⟨_, rfl⟩
  | some parsed =>
      by_cases empty : parsed.headerLabels.isEmpty = true
      · simp [empty, bind, Except.bind, pure, Except.pure]
      · simp only [empty, Bool.false_eq_true, if_false]
        unfold mergeLabels
        cases present : PyDict.get? (messageEntries value) "labels" with
        | none => exact ⟨_, rfl⟩
        | some label =>
            obtain ⟨existing, rfl⟩ := shape label present
            exact ⟨_, rfl⟩

/-- Filing the headers sets only `labels` and `_envelope`. -/
theorem attach_headers_get?_other (decode : List UInt8 → String) (value : PyValue)
    (headers : List Header) (packet : List (String × PyValue))
    (attached : attachHeaders decode value headers = .ok packet) (key : String)
    (notLabels : key ≠ "labels") (notEnvelope : key ≠ "_envelope") :
    PyDict.get? packet key = PyDict.get? (messageEntries value) key := by
  unfold attachHeaders at attached
  have merged : ∀ labels merged, mergeLabels (messageEntries value) labels = .ok merged →
      PyDict.get? merged key = PyDict.get? (messageEntries value) key := by
    intro labels merged mergedOk
    unfold mergeLabels at mergedOk
    split at mergedOk <;> cases mergedOk <;> exact PyDict.get?_set_ne _ _ notLabels
  cases parsedEq : parsePacketHeaders decode headers with
  | none =>
      simp only [parsedEq, bind, Except.bind, pure, Except.pure, Except.ok.injEq] at attached
      subst attached
      exact PyDict.get?_set_ne _ _ notEnvelope
  | some parsed =>
      by_cases empty : parsed.headerLabels.isEmpty = true
      · simp only [parsedEq, empty, if_true, bind, Except.bind, pure, Except.pure,
          Except.ok.injEq] at attached
        subst attached
        exact PyDict.get?_set_ne _ _ notEnvelope
      · simp only [parsedEq, empty, Bool.false_eq_true, if_false, bind, Except.bind] at attached
        split at attached
        · cases attached
        · rename_i filed mergedOk
          simp only [pure, Except.pure, Except.ok.injEq] at attached
          subst attached
          rw [PyDict.get?_set_ne _ _ notEnvelope, merged _ _ mergedOk]

/-- A message whose `timestamp` reads as an infinite float makes
`_handle_packet` raise `OverflowError` once its headers are filed. -/
theorem build_record_of_infinite_timestamp (decode : List UInt8 → String) (value : PyValue)
    (headers : List Header) (receivedAt : Int)
    (shape : ∀ v, PyDict.get? (messageEntries value) "labels" = some v →
      ∃ existing, v = .dict existing)
    {stamp : PyValue} (found : PyDict.get? (messageEntries value) "timestamp" = some stamp)
    {negative : Bool} (infinite : floatOfString stamp.toStr = .ok (.infinity negative)) :
    buildRecord decode value headers receivedAt =
      .error (.overflowError "cannot convert float infinity to integer") := by
  obtain ⟨packet, attached⟩ := attach_headers_ok decode value headers shape
  have lookup : PyDict.get? (PyDict.set packet "_received_at" (.int receivedAt)) "timestamp" =
      some stamp := by
    rw [PyDict.get?_set_ne _ _ timestamp_ne_received,
      attach_headers_get?_other decode value headers packet attached _ timestamp_ne_labels
        timestamp_ne_envelope, found]
  have raised := (normalise_timestamp_raises_iff stamp receivedAt _).mpr ⟨⟨negative, infinite⟩, rfl⟩
  simp only [buildRecord, attached, lookup, raised, bind, Except.bind]

/-! ### When `_handle_packet` raises -/

/-- Filing the headers raises exactly when a header carries a label and the
message's own `labels` is there but is not a dict: `.update` is looked up on
it. -/
theorem attach_headers_error_iff (decode : List UInt8 → String) (value : PyValue)
    (headers : List Header) (e : PyException) :
    attachHeaders decode value headers = .error e ↔
      (∃ header ∈ headers, isLabelKey header.1 = true) ∧
        ∃ labels, PyDict.get? (messageEntries value) "labels" = some labels ∧
          (∀ existing, labels ≠ .dict existing) ∧
          e = .attributeError ("'" ++ typeName labels ++ "' object has no attribute 'update'") := by
  unfold attachHeaders
  cases parsedEq : parsePacketHeaders decode headers with
  | none =>
      have empty : headers = [] := by
        unfold parsePacketHeaders at parsedEq
        split at parsedEq
        · exact List.isEmpty_iff.mp ‹_›
        · cases parsedEq
      subst empty
      simp [bind, Except.bind, pure, Except.pure]
  | some parsed =>
      have labels_iff := header_labels_is_empty_iff decode headers parsed parsedEq
      by_cases empty : parsed.headerLabels.isEmpty = true
      · have unlabelled := labels_iff.mp empty
        simp only [empty, if_true, bind, Except.bind, pure, Except.pure, reduceCtorEq, false_iff,
          not_and]
        rintro ⟨header, member, labelled⟩
        rw [unlabelled header member] at labelled
        cases labelled
      · have labelled : ∃ header ∈ headers, isLabelKey header.1 = true := by
          by_contra none
          exact empty (labels_iff.mpr fun header member => by simpa [member] using (not_exists.mp none) header)
        simp only [empty, Bool.false_eq_true, if_false, labelled, true_and]
        unfold mergeLabels
        cases present : PyDict.get? (messageEntries value) "labels" with
        | none => simp [bind, Except.bind, pure, Except.pure]
        | some labels =>
            cases labels <;> simp [bind, Except.bind, pure, Except.pure, eq_comm]

/-- The two ways `_handle_packet` raises before its fanout, and only these:
a label header on a message whose `labels` is not a dict raises
`AttributeError`; otherwise a `timestamp` that reads as an infinite float
raises `OverflowError`. Every other message, whatever its value, headers and
timestamp, gives a record. -/
theorem build_record_raises_iff (decode : List UInt8 → String) (value : PyValue)
    (headers : List Header) (receivedAt : Int) (e : PyException) :
    buildRecord decode value headers receivedAt = .error e ↔
      ((∃ header ∈ headers, isLabelKey header.1 = true) ∧
        ∃ labels, PyDict.get? (messageEntries value) "labels" = some labels ∧
          (∀ existing, labels ≠ .dict existing) ∧
          e = .attributeError ("'" ++ typeName labels ++ "' object has no attribute 'update'")) ∨
      ((∀ labels, PyDict.get? (messageEntries value) "labels" = some labels →
          (∃ existing, labels = .dict existing) ∨ ∀ header ∈ headers, isLabelKey header.1 = false) ∧
        ∃ stamp negative, PyDict.get? (messageEntries value) "timestamp" = some stamp ∧
          floatOfString stamp.toStr = .ok (.infinity negative) ∧
          e = .overflowError "cannot convert float infinity to integer") := by
  rw [← attach_headers_error_iff decode value headers e]
  cases attached : attachHeaders decode value headers with
  | error raised =>
      obtain ⟨⟨header, member, labelled⟩, labels, present, notDict, -⟩ :=
        (attach_headers_error_iff decode value headers raised).mp attached
      have built : buildRecord decode value headers receivedAt = .error raised := by
        simp [buildRecord, attached, bind, Except.bind]
      rw [built, Except.error.injEq, Except.error.injEq]
      refine ⟨Or.inl, ?_⟩
      rintro (same | ⟨shape, -⟩)
      · exact same
      · rcases shape labels present with ⟨existing, rfl⟩ | unlabelled
        · exact absurd rfl (notDict existing)
        · rw [unlabelled header member] at labelled
          cases labelled
  | ok packet =>
      have lookup : PyDict.get? (PyDict.set packet "_received_at" (.int receivedAt)) "timestamp" =
          PyDict.get? (messageEntries value) "timestamp" := by
        rw [PyDict.get?_set_ne _ _ timestamp_ne_received, attach_headers_get?_other decode value
          headers packet attached _ timestamp_ne_labels timestamp_ne_envelope]
      have shape : ∀ labels, PyDict.get? (messageEntries value) "labels" = some labels →
          (∃ existing, labels = .dict existing) ∨ ∀ header ∈ headers, isLabelKey header.1 = false := by
        intro labels present
        by_contra neither
        simp only [not_or, not_exists, not_forall, Bool.not_eq_false] at neither
        obtain ⟨notDict, header, member, labelled⟩ := neither
        have raises := (attach_headers_error_iff decode value headers _).mpr
          ⟨⟨header, member, labelled⟩, labels, present, notDict, rfl⟩
        rw [attached] at raises
        cases raises
      simp only [buildRecord, attached, lookup, bind, Except.bind, reduceCtorEq, false_or,
        eq_true shape, true_and]
      cases found : PyDict.get? (messageEntries value) "timestamp" with
      | none => simp [normaliseTimestamp, pure, Except.pure]
      | some stamp =>
          simp only [Option.some.injEq, exists_and_left, exists_eq_left', exists_and_right]
          rw [← normalise_timestamp_raises_iff stamp receivedAt e]
          cases normaliseTimestamp (some stamp) receivedAt <;> simp [pure, Except.pure]

theorem header_values_cases (raw : List RawHeader) :
    (∃ headers, headerValues raw = .ok headers ∧ ∀ key, (key, none) ∉ raw) ∨
      ((∃ key, (key, none) ∈ raw) ∧
        headerValues raw = .error (.attributeError "'NoneType' object has no attribute 'decode'")) := by
  induction raw with
  | nil => exact .inl ⟨[], rfl, fun _ member => by cases member⟩
  | cons header rest ih =>
      obtain ⟨key, value⟩ := header
      cases value with
      | none => exact .inr ⟨⟨key, List.mem_cons_self _ _⟩, rfl⟩
      | some bytes =>
          rcases ih with ⟨headers, decoded, present⟩ | ⟨⟨other, member⟩, raised⟩
          · refine .inl ⟨(key, bytes) :: headers, by simp [headerValues, decoded, Except.map],
              fun other member => ?_⟩
            rcases List.mem_cons.mp member with same | inRest
            · simp at same
            · exact present other inRest
          · exact .inr ⟨⟨other, List.mem_cons_of_mem _ member⟩,
              by simp [headerValues, raised, Except.map]⟩

/-- The three ways `_handle_packet` raises before its fanout, and only these:
a header whose value is `None` raises `AttributeError` at its `decode`;
otherwise, on the decoded headers, a label header on a message whose `labels`
is not a dict raises `AttributeError`, and then a `timestamp` that `float`
reads as infinite raises `OverflowError`. -/
theorem build_raw_record_raises_iff (decode : List UInt8 → String) (value : PyValue)
    (raw : List RawHeader) (receivedAt : Int) (e : PyException) :
    buildRawRecord decode value raw receivedAt = .error e ↔
      ((∃ key, (key, none) ∈ raw) ∧
        e = .attributeError "'NoneType' object has no attribute 'decode'") ∨
      ∃ headers, headerValues raw = .ok headers ∧
        (((∃ header ∈ headers, isLabelKey header.1 = true) ∧
          ∃ labels, PyDict.get? (messageEntries value) "labels" = some labels ∧
            (∀ existing, labels ≠ .dict existing) ∧
            e = .attributeError ("'" ++ typeName labels ++ "' object has no attribute 'update'")) ∨
        ((∀ labels, PyDict.get? (messageEntries value) "labels" = some labels →
            (∃ existing, labels = .dict existing) ∨ ∀ header ∈ headers, isLabelKey header.1 = false) ∧
          ∃ stamp negative, PyDict.get? (messageEntries value) "timestamp" = some stamp ∧
            floatOfString stamp.toStr = .ok (.infinity negative) ∧
            e = .overflowError "cannot convert float infinity to integer")) := by
  rcases header_values_cases raw with ⟨headers, decoded, noNone⟩ | ⟨present, raised⟩
  · simp only [buildRawRecord, decoded, bind, Except.bind]
    rw [build_record_raises_iff]
    constructor
    · exact fun holds => .inr ⟨headers, rfl, holds⟩
    · rintro (⟨⟨key, member⟩, -⟩ | ⟨other, same, holds⟩)
      · exact absurd member (noNone key)
      · cases same
        exact holds
  · simp only [buildRawRecord, raised, bind, Except.bind]
    constructor
    · intro same
      cases same
      exact .inl ⟨present, rfl⟩
    · rintro (⟨-, rfl⟩ | ⟨headers, decoded, -⟩)
      · rfl
      · cases decoded

/-- Latin-1: each byte as the character of that code point. -/
def latin1 (bytes : List UInt8) : String := String.mk (bytes.map fun byte => Char.ofNat byte.toNat)

/-- The spec's scenario: `l.sip.method=INVITE` beside an envelope header, on a
message value that is not a dict. -/
theorem sip_method_header_filed :
    (∀ v, PyDict.get? (messageEntries .none) "labels" = some v → ∃ existing, v = .dict existing) ∧
      ∃ packet envelope, attachHeaders latin1 .none
          [("l.sip.method", [73, 78, 86, 73, 84, 69]), ("task_id", [55])] = .ok packet ∧
        HeadersFiled latin1 .none [("l.sip.method", [73, 78, 86, 73, 84, 69]), ("task_id", [55])]
          packet envelope :=
  have shape : ∀ v, PyDict.get? (messageEntries .none) "labels" = some v →
      ∃ existing, v = .dict existing := by
    intro v found
    cases found
  ⟨shape, handle_packet_files_headers latin1 .none _ shape⟩

end VoipSimulator.Console
