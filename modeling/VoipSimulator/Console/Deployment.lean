import VoipSimulator.Console.KafkaWire

/-! How the console sits between the nodes. `start_background_consumers`
starts one consumer thread per channel of `DATA_TOPICS` and one on
`RESPONSE_TOPIC` (`backgroundConsumers`; the loop of each is `Supervisor`).
`task_template` gives the `task_create` payload that makes a node capture on a
channel and report to Kafka, and `send_command` publishes a command as
`api_command` does, without its checks. `KAFKA_BROKERS` and the random
`INSTANCE_ID` are parameters. -/

namespace VoipSimulator.Console

open VoipSimulator.Python

set_option autoImplicit false

def dataTopics : List (String × String) := [("uas", "otus-uas-logs"), ("uac", "otus-uac-logs")]

def responseTopic : String := "otus-responses"

inductive RecordHandler
  /-- `lambda msg, ch=channel: _handle_packet(ch, msg)`. -/
  | packet (channel : String)
  /-- `_handle_response`. -/
  | response
  deriving DecidableEq, Repr

structure BackgroundConsumer where
  topic : String
  groupId : String
  handler : RecordHandler
  deriving DecidableEq, Repr

/-- The threads `start_background_consumers` starts, in order. -/
def backgroundConsumers (instanceId : String) : List BackgroundConsumer :=
  dataTopics.map (fun entry => ⟨entry.2, "console-" ++ entry.1, .packet entry.1⟩) ++
    [⟨responseTopic, instanceId, .response⟩]

def taskConfig (brokers : List String) (channel : String) : PyValue :=
  let port := if channel = "uas" then "5060" else "5061"
  .dict [("id", .str ("sip-" ++ channel ++ "-capture")),
    ("workers", .int 1),
    ("capture", .dict [("name", .str "afpacket"), ("dispatch_mode", .str "binding"),
      ("interface", .str "eth0"),
      ("bpf_filter", .str ("udp port " ++ port ++ " or (udp and portrange 10000-10200)")),
      ("snap_len", .int 65536)]),
    ("decoder", .dict [("tunnels", .list []), ("ip_reassembly", .bool false)]),
    ("parsers", .list [.dict [("name", .str "sip"), ("config", .dict [])]]),
    ("processors", .list []),
    ("reporters", .list [.dict [("name", .str "kafka"), ("config", .dict [
      ("topic", .str ("otus-" ++ channel ++ "-logs")),
      ("brokers", .list (brokers.map .str)),
      ("serialization", .str "json")])]])]

def taskTemplate (brokers : List String) (channel : String) : Reply :=
  if channel ∉ ["uas", "uac"] then badRequest "invalid channel"
  else ⟨200, .dict [("config", taskConfig brokers channel)]⟩

def getField (value : PyValue) (key : String) : Option PyValue :=
  PyDict.get? (messageEntries value) key

/-- The topics a node publishes its captures to under a `task_create` payload
`{"config": TaskConfig}`: `config.reporters[i].config.topic` of each reporter
named `kafka`. -/
def kafkaReporterTopics (payload : PyValue) : List String :=
  match (getField payload "config").bind (getField · "reporters") with
  | some (.list reporters) => reporters.filterMap fun reporter =>
      match getField reporter "name", (getField reporter "config").bind (getField · "topic") with
      | some (.str "kafka"), some (.str topic) => some topic
      | _, _ => none
  | _ => []

def sendCommandRecords (target command : String) (payload : PyValue) (requestId timestamp : String) :
    List ProducerRecord :=
  (sendTopics target).map fun topic => ⟨topic, keySerializer target, valueSerializer
    (.dict [("version", .str "v1"), ("target", .str target), ("command", .str command),
      ("timestamp", .str timestamp), ("request_id", .str requestId),
      ("payload", if payload.truthy then payload else .dict [])])⟩

/-! ### The template and the consumers -/

theorem task_template_of_channel (brokers : List String) (channel : String)
    (known : channel ∈ ["uas", "uac"]) :
    taskTemplate brokers channel = ⟨200, .dict [("config", taskConfig brokers channel)]⟩ := by
  simp [taskTemplate, known]

theorem kafka_reporter_topics_task_config (brokers : List String) (channel : String) :
    kafkaReporterTopics (.dict [("config", taskConfig brokers channel)]) =
      ["otus-" ++ channel ++ "-logs"] := by
  simp [kafkaReporterTopics, taskConfig, getField, messageEntries, PyDict.get?]

/-- The topic the template's reporter writes to is `DATA_TOPICS[channel]`,
and the one background consumer that reads it is the channel's packet
consumer, whatever the broker list and the instance; a channel without a
template gets none. -/
theorem task_template_reporter_consumed (brokers : List String) (instanceId channel : String) :
    kafkaReporterTopics (taskTemplate brokers channel).body = (PyDict.get? dataTopics channel).toList ∧
      ∀ topic ∈ kafkaReporterTopics (taskTemplate brokers channel).body,
        (backgroundConsumers instanceId).filter (·.topic == topic) =
          [⟨topic, "console-" ++ channel, .packet channel⟩] := by
  by_cases known : channel ∈ ["uas", "uac"]
  · rw [task_template_of_channel brokers channel known, kafka_reporter_topics_task_config]
    simp only [List.mem_cons, List.mem_singleton, List.not_mem_nil, or_false] at known
    rcases known with rfl | rfl <;> exact ⟨rfl, by simp; rfl⟩
  · have unknown := known
    simp only [List.mem_cons, List.mem_singleton, List.not_mem_nil, or_false, not_or] at unknown
    simp [taskTemplate, known, badRequest, kafkaReporterTopics, getField, messageEntries,
      PyDict.get?, dataTopics, Ne.symm unknown.1, Ne.symm unknown.2]

/-! ### The template as a command -/

theorem items_well_formed_strings (floatOk : PyFloat → Bool) (strings : List String) :
    itemsWellFormed floatOk (strings.map .str) = true := by
  induction strings with
  | nil => rfl
  | cons s rest ih => simpa [itemsWellFormed, wellFormed] using ih

theorem well_formed_task_config (brokers : List String) (channel : String) :
    wellFormed floatReadsBack (taskConfig brokers channel) = true := by
  simp only [taskConfig, wellFormed, entriesWellFormed, itemsWellFormed,
    items_well_formed_strings, PyDict.keys, List.map, Bool.and_true, Bool.true_and]
  rfl

/-- The template of a channel, posted back to `api_command` as the payload of
`task_create` to that channel, passes the checks and goes out as one record
on the channel's command topic, keyed by the channel, whose value every
consumer reads back as the command carrying the template whole. -/
theorem task_template_command_reads_back (brokers : List String) (channel requestId timestamp : String)
    (known : channel ∈ ["uas", "uac"]) :
    ∃ request, parseCommand (.dict [("target", .str channel), ("command", .str "task_create"),
        ("payload", (taskTemplate brokers channel).body)]) = .ok (.ok request) ∧
      ∃ value, commandRecords request requestId timestamp =
          [⟨"otus-" ++ channel ++ "-commands", some (encodeUtf8 channel), value⟩] ∧
        valueDeserializer value = some (.ok (.dict [("version", .str "v1"),
          ("target", .str channel), ("command", .str "task_create"),
          ("timestamp", .str timestamp), ("request_id", .str requestId),
          ("payload", (taskTemplate brokers channel).body)])) := by
  rw [task_template_of_channel brokers channel known]
  have wf : wellFormed floatReadsBack (.dict [("version", .str "v1"),
      ("target", .str channel), ("command", .str "task_create"),
      ("timestamp", .str timestamp), ("request_id", .str requestId),
      ("payload", .dict [("config", taskConfig brokers channel)])]) = true := by
    simp only [wellFormed.eq_4, entriesWellFormed, well_formed_task_config]
    rfl
  simp only [List.mem_cons, List.mem_singleton, List.not_mem_nil, or_false] at known
  rcases known with rfl | rfl <;>
  · refine ⟨⟨_, "task_create", _, true, by decide, by decide⟩, rfl, _, rfl, ?_⟩
    rw [valueDeserializer, valueSerializer, decode_strict_encode_utf8]
    exact json_loads_json_dumps _ wf

theorem uac_template_command :
    ("uac" ∈ ["uas", "uac"]) ∧
      ∃ request, parseCommand (.dict [("target", .str "uac"), ("command", .str "task_create"),
          ("payload", (taskTemplate ["kafka:9092"] "uac").body)]) = .ok (.ok request) ∧
        ∃ value, commandRecords request "r-1" "2024-05-01T12:00:00Z" =
            [⟨"otus-" ++ "uac" ++ "-commands", some (encodeUtf8 "uac"), value⟩] ∧
          valueDeserializer value = some (.ok (.dict [("version", .str "v1"),
            ("target", .str "uac"), ("command", .str "task_create"),
            ("timestamp", .str "2024-05-01T12:00:00Z"), ("request_id", .str "r-1"),
            ("payload", (taskTemplate ["kafka:9092"] "uac").body)])) :=
  ⟨by decide, task_template_command_reads_back _ _ _ _ (by decide)⟩

/-! ### `send_command` -/

theorem is_empty_iff_eq_empty (s : String) : s.isEmpty = true ↔ s = "" := by
  rcases s with ⟨_ | ⟨c, rest⟩⟩
  · decide
  · have size := c.utf8Size_pos
    simp only [String.isEmpty, String.endPos, String.utf8ByteSize, String.utf8ByteSize.go,
      beq_iff_eq, String.Pos.ext_iff, String.ext_iff]
    simp
    omega

/-- `send_command` sends what `api_command` sends for every request that
passed the checks; on any other target it sends the command to the `uas`
node's topic, with no key when the target is empty. -/
theorem send_command_records_agree (target command : String) (payload : PyValue)
    (requestId timestamp : String) :
    (∀ request : CommandRequest, request.target = target → request.command = command →
      request.payload = payload →
        sendCommandRecords target command payload requestId timestamp =
          commandRecords request requestId timestamp) ∧
      (target ∉ validTargets →
        (sendCommandRecords target command payload requestId timestamp).map
            (fun record => (record.topic, record.key)) =
          [("otus-uas-commands", if target = "" then none else some (encodeUtf8 target))]) := by
  refine ⟨fun request sameTarget sameCommand samePayload => ?_, fun unknown => ?_⟩
  · subst sameTarget sameCommand samePayload
    rfl
  · simp only [validTargets, List.mem_cons, List.mem_singleton, List.not_mem_nil, or_false,
      not_or] at unknown
    simp [sendCommandRecords, sendTopics, keySerializer, commandTopics, PyDict.get?, unknown.2.2,
      Ne.symm unknown.1, Ne.symm unknown.2.1, ← is_empty_iff_eq_empty]

end VoipSimulator.Console
