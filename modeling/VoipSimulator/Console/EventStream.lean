import VoipSimulator.Python.Json

/-! The generators of `api_stream` and `api_stream_responses` yield
`data: <json>` and a blank line for each item `sub_queue.get(timeout=15)`
returns, and `: heartbeat` and a blank line when the wait ends empty. A
browser's `EventSource` reads that text by the event-stream interpretation of
the HTML standard, modelled as a machine over characters; the `event`, `id`
and `retry` fields and the byte-order mark, which do not touch the data, are
left out. -/

namespace VoipSimulator.Console

open VoipSimulator.Python

set_option autoImplicit false

/-- What the generator yields for one `get`: `data: {json.dumps(packet)}` for
an item, `: heartbeat` for the `queue.Empty` of a wait. -/
def streamChunk : Option PyValue → String
  | some item => "data: " ++ jsonDumps item ++ "\n\n"
  | none => ": heartbeat\n\n"

/-- An `EventSource` client between two characters of the stream. -/
structure EventParser where
  /-- The line read so far. -/
  line : List Char
  /-- The data buffer. -/
  data : List Char
  /-- The last character was a CR, so a LF now ends no line. -/
  afterCR : Bool
  /-- The data of the events dispatched so far. -/
  events : List String

namespace EventParser

def initial : EventParser := ⟨[], [], false, []⟩

def fieldValue : List Char → List Char
  | ':' :: ' ' :: value => value
  | ':' :: value => value
  | _ => []

def dispatch (parser : EventParser) : EventParser :=
  if parser.data.isEmpty then parser
  else { parser with data := [], events := parser.events ++
    [String.mk (if parser.data.getLast? = some '\n' then parser.data.dropLast else parser.data)] }

/-- One line: blank, a comment, or a field named by what comes before its
first colon (the whole line when there is none). -/
def processLine (parser : EventParser) (line : List Char) : EventParser :=
  match line with
  | [] => parser.dispatch
  | ':' :: _ => parser
  | _ =>
      if line.takeWhile (· ≠ ':') = "data".toList then
        { parser with data := parser.data ++ fieldValue (line.dropWhile (· ≠ ':')) ++ ['\n'] }
      else parser

def step (parser : EventParser) (c : Char) : EventParser :=
  if c = '\n' ∧ parser.afterCR then { parser with afterCR := false }
  else if c = '\n' ∨ c = '\r' then
    { parser.processLine parser.line with line := [], afterCR := c = '\r' }
  else { parser with line := parser.line ++ [c], afterCR := false }

def feed (parser : EventParser) (chunk : String) : EventParser := chunk.toList.foldl step parser

theorem foldl_step_plain (cs : List Char) (plain : ∀ c ∈ cs, c ≠ '\n' ∧ c ≠ '\r') :
    ∀ parser : EventParser, parser.afterCR = false →
      cs.foldl step parser = { parser with line := parser.line ++ cs } := by
  induction cs with
  | nil => intro parser _; simp
  | cons c rest ih =>
      intro parser noCR
      obtain ⟨notLF, notCR⟩ := plain c (List.mem_cons_self _ _)
      rw [List.foldl_cons, ih (fun d member => plain d (List.mem_cons_of_mem _ member))] <;>
        simp [step, notLF, notCR, noCR]

theorem feed_heartbeat (events : List String) :
    feed ⟨[], [], false, events⟩ (streamChunk none) = ⟨[], [], false, events⟩ := rfl

/-- An item is one `data` line, which its JSON text never breaks, and the
blank line that dispatches it. -/
theorem feed_item (events : List String) (item : PyValue) :
    feed ⟨[], [], false, events⟩ (streamChunk (some item)) =
      ⟨[], [], false, events ++ [jsonDumps item]⟩ := by
  have plain : ∀ c ∈ ("data: " ++ jsonDumps item).data, c ≠ '\n' ∧ c ≠ '\r' := by
    intro c member
    have printable := printable_ascii_append.mpr ⟨(by decide : PrintableAscii "data: "),
      printable_ascii_json_dumps item⟩ c member
    constructor <;> (rintro rfl; simp at printable)
  have prefixed : ("data: " ++ jsonDumps item).data =
      'd' :: 'a' :: 't' :: 'a' :: ':' :: ' ' :: (jsonDumps item).data := rfl
  have text : (streamChunk (some item)).toList =
      ("data: " ++ jsonDumps item).data ++ ['\n', '\n'] := rfl
  rw [feed, text, List.foldl_append, foldl_step_plain _ plain _ rfl, prefixed]
  simp [step, processLine, dispatch, fieldValue, List.takeWhile, List.dropWhile]

theorem foldl_feed_chunks (outputs : List (Option PyValue)) (events : List String) :
    (outputs.map streamChunk).foldl feed ⟨[], [], false, events⟩ =
      ⟨[], [], false, events ++ (outputs.filterMap id).map jsonDumps⟩ := by
  induction outputs generalizing events with
  | nil => simp
  | cons output rest ih =>
      cases output with
      | none => simpa only [List.map_cons, List.foldl_cons, feed_heartbeat] using ih events
      | some item => simp [feed_item, ih]

end EventParser

def clientEvents (chunks : List String) : List String :=
  (chunks.foldl EventParser.feed EventParser.initial).events

/-- Whatever a stream's generator read, items or empty waits, its client
dispatches one event per item, in the order read, whose data is
`json.dumps(item)`, and nothing for a heartbeat. -/
theorem client_reads_each_item (outputs : List (Option PyValue)) :
    clientEvents (outputs.map streamChunk) = (outputs.filterMap id).map jsonDumps := by
  simp [clientEvents, EventParser.initial, EventParser.foldl_feed_chunks]

end VoipSimulator.Console
