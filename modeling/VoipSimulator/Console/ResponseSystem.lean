import VoipSimulator.Console.Command
import VoipSimulator.Console.Fanout

/-! The `api_command` handlers and the response consumer thread share
`pending_responses` under `pending_lock`, each handler's single-slot
`resp_queue`, and `response_sse_subscribers` under `sse_lock`. A step is one
lock section or one queue operation, so every interleaving of the threads is
a run. A handler's `request_id` is a string no earlier handler holds, and its
30 s `get` may time out whenever its queue is empty. The consumer's pop and
its put are separate steps, so a `get` can time out between them:
`ObservedSystem` records what each handler had been sent when that happened. -/

namespace VoipSimulator.Console

open VoipSimulator.Python

set_option autoImplicit false

def responseStreamMaxsize : Nat := 100

theorem response_stream_maxsize_pos : 0 < responseStreamMaxsize := by decide

/-- Where a handler thread is once its request passed the checks. -/
inductive HandlerPhase
  /-- Sending and flushing the command. -/
  | publishing
  /-- Blocked in `resp_queue.get(timeout=RESPONSE_TIMEOUT_S)`. -/
  | waiting
  /-- About to pop its waiter under `pending_lock`, then return `outcome`. -/
  | cleaningUp (outcome : Outcome)
  | returned (outcome : Outcome)
  /-- An exception other than `KafkaError` escaped the publish. -/
  | raised (error : PyException)

def HandlerPhase.holdsEntry : HandlerPhase → Bool
  | .returned _ => false
  | _ => true

def HandlerPhase.answered : HandlerPhase → Bool
  | .returned (.answered _) => true
  | _ => false

def HandlerPhase.timedOut : HandlerPhase → Bool
  | .cleaningUp .timedOut => true
  | .returned .timedOut => true
  | _ => false

structure Handler where
  requestId : String
  request : CommandRequest
  /-- `resp_queue = queue.Queue(maxsize=1)`. -/
  respQueue : BoundedQueue PyValue
  phase : HandlerPhase

inductive ConsumerPhase
  | idle
  /-- The waiter (a handler's index) was popped; `put_nowait` is next. -/
  | delivering (response : PyValue) (waiter : Option Nat)
  /-- The fanout under `sse_lock` is next. -/
  | broadcasting (response : PyValue)

/-- The state the handlers and the response consumer share. A handler's
queue is named by the handler's index, which `pending_responses` maps to. -/
structure CommandSystem where
  handlers : List Handler
  pending : List (String × Nat)
  consumer : ConsumerPhase
  responses : Feed PyValue

inductive SystemEvent
  /-- A request reaches `api_command`; `requestId` is what `uuid4` returns. -/
  | begin (body : PyValue) (requestId : String)
  | publish (handler : Nat) (outcome : Except PyException Unit)
  | getReturns (handler : Nat)
  | getTimesOut (handler : Nat)
  | cleanup (handler : Nat)
  /-- The consumer takes the next response message. -/
  | consume (value : PyValue) (receivedAt : Int)
  | deliver
  | broadcast
  /-- `api_stream_responses` opens a stream. -/
  | subscribe
  | read (stream : Nat)
  | close (stream : Nat)

def emptySlot : BoundedQueue PyValue := BoundedQueue.empty 1 Nat.one_pos

def afterPublish (request : CommandRequest) : Except PyException Unit → HandlerPhase
  | .ok () => if request.registers then .waiting else .returned .accepted
  | .error (.kafkaError message) => .cleaningUp (.publishFailed message)
  | .error other => .raised other

def requestIdOf (value : PyValue) : PyValue :=
  (PyDict.get? (messageEntries value) "request_id").getD (.str "")

def annotate (value : PyValue) (receivedAt : Int) : PyValue :=
  .dict (PyDict.set (messageEntries value) "_received_at" (.int receivedAt))

/-- `pending_responses.pop(rid, None)`: an empty dict gives the default
before hashing (`_PyDict_Pop`); otherwise only a string can equal a key, and
an unhashable `rid` raises. -/
def popWaiter (pending : List (String × Nat)) (rid : PyValue) :
    Except PyException (Option Nat × List (String × Nat)) :=
  if pending.isEmpty then .ok (none, pending)
  else if rid.hashable then
    match rid with
    | .str key => .ok (PyDict.pop pending key)
    | _ => .ok (none, pending)
  else .error (unhashable rid)

def isUuidText (text : String) : Bool :=
  text.length = 36 && text.toList.enum.all fun (position, c) =>
    if position = 8 ∨ position = 13 ∨ position = 18 ∨ position = 23 then c = '-'
    else c.isDigit || ('a' ≤ c && c ≤ 'f')

def ConsumerPhase.inFlightFor (consumer : ConsumerPhase) (index : Nat) : Option PyValue :=
  match consumer with
  | .delivering response (some waiter) => if waiter = index then some response else none
  | _ => none

def ConsumerPhase.inFlight : ConsumerPhase → List PyValue
  | .idle => []
  | .delivering response _ => [response]
  | .broadcasting response => [response]

def Answers (response : PyValue) (requestId : String) : Prop :=
  PyDict.get? (messageEntries response) "request_id" = some (.str requestId)

theorem pop_waiter_cases (pending : List (String × Nat)) (rid : PyValue) :
    (rid.hashable = false ∧ pending ≠ [] ∧ popWaiter pending rid = .error (unhashable rid)) ∨
      (∃ key, rid = .str key ∧ popWaiter pending rid = .ok (PyDict.pop pending key)) ∨
      ((∀ key, rid ≠ .str key) ∧ popWaiter pending rid = .ok (none, pending)) := by
  unfold popWaiter
  cases pending with
  | nil =>
      simp only [List.isEmpty_nil, if_true]
      cases rid with
      | str key => exact .inr (.inl ⟨key, rfl, rfl⟩)
      | _ => exact .inr (.inr ⟨fun _ same => (nomatch same), trivial⟩)
  | cons entry rest =>
      simp only [List.isEmpty_cons, Bool.false_eq_true, if_false]
      cases hashed : rid.hashable
      · exact .inl ⟨rfl, List.cons_ne_nil _ _, rfl⟩
      · simp only [if_true]
        split
        · exact .inr (.inl ⟨_, rfl, rfl⟩)
        · rename_i notStr
          exact .inr (.inr ⟨fun key same => notStr key same, rfl⟩)

theorem is_uuid_text_ne_empty {text : String} (uuid : isUuidText text = true) : text ≠ "" := by
  rintro rfl
  cases uuid

/-- The annotated response carries the `request_id` its waiter was popped by,
unless that was the default `""`. -/
theorem answers_annotate {value : PyValue} {key : String} (receivedAt : Int)
    (rid : requestIdOf value = .str key) (named : key ≠ "") :
    Answers (annotate value receivedAt) key := by
  unfold Answers annotate
  unfold requestIdOf at rid
  rw [messageEntries, PyDict.get?_set_ne _ _ (by decide)]
  cases found : PyDict.get? (messageEntries value) "request_id" with
  | none =>
      rw [found, Option.getD_none, PyValue.str.injEq] at rid
      exact absurd rid.symm named
  | some id =>
      rw [found, Option.getD_some] at rid
      rw [rid]

namespace CommandSystem

def initial : CommandSystem := ⟨[], [], .idle, Feed.initial⟩

def setHandler (system : CommandSystem) (index : Nat) (handler : Handler) : CommandSystem :=
  { system with handlers := system.handlers.set index handler }

def begin (system : CommandSystem) (body : PyValue) (requestId : String) :
    Option CommandSystem :=
  match parseCommand body with
  | .ok (.ok request) =>
      if !isUuidText requestId || system.handlers.any fun handler => handler.requestId == requestId
      then none
      else some { system with
        handlers := system.handlers ++ [⟨requestId, request, emptySlot, .publishing⟩]
        pending := if request.registers then
            PyDict.set system.pending requestId system.handlers.length
          else system.pending }
  | _ => some system

def publish (system : CommandSystem) (index : Nat) (outcome : Except PyException Unit) :
    Option CommandSystem :=
  match system.handlers[index]? with
  | some handler =>
      match handler.phase with
      | .publishing => some (system.setHandler index
          { handler with phase := afterPublish handler.request outcome })
      | _ => none
  | none => none

def getReturns (system : CommandSystem) (index : Nat) : Option CommandSystem :=
  match system.handlers[index]? with
  | some handler =>
      match handler.phase, handler.respQueue.getNowait with
      | .waiting, .ok (response, rest) => some (system.setHandler index
          { handler with respQueue := rest, phase := .returned (.answered response) })
      | _, _ => none
  | none => none

def getTimesOut (system : CommandSystem) (index : Nat) : Option CommandSystem :=
  match system.handlers[index]? with
  | some handler =>
      match handler.phase with
      | .waiting => if handler.respQueue.items.isEmpty then
          some (system.setHandler index { handler with phase := .cleaningUp .timedOut })
          else none
      | _ => none
  | none => none

def cleanup (system : CommandSystem) (index : Nat) : Option CommandSystem :=
  match system.handlers[index]? with
  | some handler =>
      match handler.phase with
      | .cleaningUp outcome => some { system.setHandler index
          { handler with phase := .returned outcome } with
          pending := (PyDict.pop system.pending handler.requestId).2 }
      | _ => none
  | none => none

/-- `_handle_response` up to the pop under `pending_lock`. An unhashable
`request_id` raises there, and the message is dropped. -/
def consume (system : CommandSystem) (value : PyValue) (receivedAt : Int) :
    Option CommandSystem :=
  match system.consumer with
  | .idle =>
      match popWaiter system.pending (requestIdOf value) with
      | .ok (waiter, pending) =>
          some { system with pending, consumer := .delivering (annotate value receivedAt) waiter }
      | .error _ => some system
  | _ => none

def putResponse (system : CommandSystem) (index : Nat) (response : PyValue) : CommandSystem :=
  match system.handlers[index]? with
  | some handler =>
      match handler.respQueue.putNowait response with
      | .ok next => system.setHandler index { handler with respQueue := next }
      | .error _ => system
  | none => system

def deliver (system : CommandSystem) : Option CommandSystem :=
  match system.consumer with
  | .delivering response (some index) =>
      some { system.putResponse index response with consumer := .broadcasting response }
  | .delivering response none => some { system with consumer := .broadcasting response }
  | _ => none

def broadcast (system : CommandSystem) : Option CommandSystem :=
  match system.consumer with
  | .broadcasting response => (system.responses.fanout response).toOption.map
      fun responses => { system with responses, consumer := .idle }
  | _ => none

def step (system : CommandSystem) : SystemEvent → Option CommandSystem
  | .begin body requestId => system.begin body requestId
  | .publish index outcome => system.publish index outcome
  | .getReturns index => system.getReturns index
  | .getTimesOut index => system.getTimesOut index
  | .cleanup index => system.cleanup index
  | .consume value receivedAt => system.consume value receivedAt
  | .deliver => system.deliver
  | .broadcast => system.broadcast
  | .subscribe => some { system with
      responses := system.responses.subscribe responseStreamMaxsize response_stream_maxsize_pos }
  | .read q => (system.responses.step responseStreamMaxsize response_stream_maxsize_pos (.read q)).map
      fun responses => { system with responses }
  | .close q => (system.responses.step responseStreamMaxsize response_stream_maxsize_pos (.close q)).map
      fun responses => { system with responses }

def run (events : List SystemEvent) : Option CommandSystem :=
  events.foldlM step initial

end CommandSystem

/-! ### How a handler comes to have raised -/

theorem CommandSystem.mem_set_handler {system : CommandSystem} {index : Nat} {updated : Handler}
    {handler : Handler} (member : handler ∈ (system.setHandler index updated).handlers) :
    handler ∈ system.handlers ∨ handler = updated :=
  List.mem_or_eq_of_mem_set member

/-- A handler is in `raised` only if it was before the step, or the step is
its publish raising something other than `KafkaError`. -/
theorem CommandSystem.raised_of_step {system next : CommandSystem} {event : SystemEvent}
    (stepped : system.step event = some next) {handler : Handler} (member : handler ∈ next.handlers)
    {error : PyException} (raisedPhase : handler.phase = .raised error) :
    (∃ old ∈ system.handlers, old.phase = .raised error) ∨
      ∃ index, event = .publish index (.error error) ∧ ∀ message, error ≠ .kafkaError message := by
  have kept : handler ∈ system.handlers → (∃ old ∈ system.handlers, old.phase = .raised error) ∨
      ∃ index, event = .publish index (.error error) ∧ ∀ message, error ≠ .kafkaError message :=
    fun old => .inl ⟨handler, old, raisedPhase⟩
  cases event with
  | begin body requestId =>
      simp only [step, begin] at stepped
      split at stepped
      · split at stepped
        · cases stepped
        · cases stepped
          rcases List.mem_append.mp member with old | new
          · exact kept old
          · rw [List.mem_singleton] at new
            subst new
            cases raisedPhase
      · cases stepped
        exact kept member
  | publish index outcome =>
      simp only [step, publish] at stepped
      split at stepped
      · split at stepped
        · cases stepped
          rcases mem_set_handler member with old | updated
          · exact kept old
          · subst updated
            refine .inr ⟨index, ?_⟩
            unfold afterPublish at raisedPhase
            split at raisedPhase
            · split at raisedPhase <;> cases raisedPhase
            · cases raisedPhase
            · rename_i other notKafka
              cases raisedPhase
              exact ⟨rfl, fun message same => notKafka message same⟩
        · cases stepped
      · cases stepped
  | getReturns index =>
      simp only [step, getReturns] at stepped
      split at stepped
      · split at stepped
        · cases stepped
          rcases mem_set_handler member with old | updated
          · exact kept old
          · subst updated
            cases raisedPhase
        · cases stepped
      · cases stepped
  | getTimesOut index =>
      simp only [step, getTimesOut] at stepped
      split at stepped
      · split at stepped
        · split at stepped
          · cases stepped
            rcases mem_set_handler member with old | updated
            · exact kept old
            · subst updated
              cases raisedPhase
          · cases stepped
        · cases stepped
      · cases stepped
  | cleanup index =>
      simp only [step, cleanup] at stepped
      split at stepped
      · split at stepped
        · cases stepped
          rcases mem_set_handler member with old | updated
          · exact kept old
          · subst updated
            cases raisedPhase
        · cases stepped
      · cases stepped
  | consume value receivedAt =>
      simp only [step, consume] at stepped
      split at stepped
      · split at stepped <;> cases stepped <;> exact kept member
      · cases stepped
  | deliver =>
      simp only [step, deliver] at stepped
      split at stepped
      · rename_i response waiter _
        cases stepped
        simp only [putResponse] at member
        split at member
        · split at member
          · rcases mem_set_handler member with old | updated
            · exact kept old
            · rename_i old found _ _ _
              subst updated
              exact .inl ⟨old, List.getElem?_mem found, raisedPhase⟩
          · exact kept member
        · exact kept member
      · cases stepped
        exact kept member
      · cases stepped
  | broadcast =>
      simp only [step, broadcast] at stepped
      split at stepped
      · obtain ⟨_, -, rfl⟩ := Option.map_eq_some'.mp stepped
        exact kept member
      · cases stepped
  | subscribe =>
      cases stepped
      exact kept member
  | read q =>
      obtain ⟨_, -, rfl⟩ := Option.map_eq_some'.mp stepped
      exact kept member
  | close q =>
      obtain ⟨_, -, rfl⟩ := Option.map_eq_some'.mp stepped
      exact kept member

/-- Over a run whose publishes succeed or raise `KafkaError`, no handler has
raised. -/
theorem CommandSystem.not_raised_of_run (events : List SystemEvent) (system : CommandSystem)
    (reached : run events = some system)
    (kafkaOnly : ∀ index error, SystemEvent.publish index (.error error) ∈ events →
      ∃ message, error = .kafkaError message) :
    ∀ handler ∈ system.handlers, ∀ error, handler.phase ≠ .raised error :=
  foldlm_invariant_of_forall step (fun system => ∀ handler ∈ system.handlers, ∀ error,
      handler.phase ≠ .raised error) (· ∈ events)
    (fun state event next member clean stepped handler present error raisedPhase => by
      rcases raised_of_step stepped present raisedPhase with ⟨old, oldMember, oldRaised⟩ |
        ⟨index, rfl, notKafka⟩
      · exact clean old oldMember error oldRaised
      · obtain ⟨message, same⟩ := kafkaOnly index error member
        exact notKafka message same)
    events initial system (fun _ member => member) (fun _ none => by cases none) reached

/-! ### What an observer records -/

/-- What an observer records about one handler; none of it is state of the
code. -/
structure HandlerRecord where
  /-- The first response with the handler's `request_id` consumed since the
  handler began. -/
  firstAnswer : Option PyValue
  /-- The response whose consumption popped the handler's waiter. -/
  popped : Option PyValue
  /-- The `put_nowait` calls on the handler's queue. -/
  puts : Nat
  /-- `firstAnswer` and `puts` when the handler's `get` timed out. -/
  atTimeout : Option (Option PyValue × Nat)

def HandlerRecord.fresh : HandlerRecord := ⟨none, none, 0, none⟩

/-- A system together with one record per handler, the operations performed
on the response feed, and the responses the consumer took without raising. -/
structure ObservedSystem where
  system : CommandSystem
  records : List HandlerRecord
  feedLog : List (FeedEvent PyValue)
  received : List PyValue

namespace ObservedSystem

def noteAnswer (handlers : List Handler) (records : List HandlerRecord) (key : String)
    (response : PyValue) (waiter : Option Nat) : List HandlerRecord :=
  records.mapIdx fun index record =>
    if handlers[index]?.map Handler.requestId = some key then
      { record with
        firstAnswer := record.firstAnswer.or (some response)
        popped := if waiter = some index then some response else record.popped }
    else record

def noteRecords (before : CommandSystem) (records : List HandlerRecord) :
    SystemEvent → List HandlerRecord
  | .begin body _ =>
      match parseCommand body with
      | .ok (.ok _) => records ++ [HandlerRecord.fresh]
      | _ => records
  | .getTimesOut index => records.modify
      (fun record => { record with atTimeout := some (record.firstAnswer, record.puts) }) index
  | .consume value receivedAt =>
      match requestIdOf value, popWaiter before.pending (requestIdOf value) with
      | .str key, .ok (waiter, _) =>
          noteAnswer before.handlers records key (annotate value receivedAt) waiter
      | _, _ => records
  | .deliver =>
      match before.consumer with
      | .delivering _ (some index) =>
          records.modify (fun record => { record with puts := record.puts + 1 }) index
      | _ => records
  | _ => records

def feedEventsOf (before : CommandSystem) : SystemEvent → List (FeedEvent PyValue)
  | .broadcast =>
      match before.consumer with
      | .broadcasting response => [.publish response]
      | _ => []
  | .subscribe => [.subscribe]
  | .read q => [.read q]
  | .close q => [.close q]
  | _ => []

def receivedBy (before : CommandSystem) : SystemEvent → List PyValue
  | .consume value receivedAt =>
      match popWaiter before.pending (requestIdOf value) with
      | .ok _ => [annotate value receivedAt]
      | .error _ => []
  | _ => []

def initial : ObservedSystem := ⟨CommandSystem.initial, [], [], []⟩

def step (observed : ObservedSystem) (event : SystemEvent) : Option ObservedSystem :=
  (observed.system.step event).map fun system =>
    ⟨system, noteRecords observed.system observed.records event,
      observed.feedLog ++ feedEventsOf observed.system event,
      observed.received ++ receivedBy observed.system event⟩

def run (events : List SystemEvent) : Option ObservedSystem :=
  events.foldlM step initial

theorem run_system (events : List SystemEvent) :
    (run events).map system = CommandSystem.run events :=
  foldlm_map_of_step _ _ system (fun observed event => by simp [step, Option.map_map,
    Function.comp_def]) events initial

/-! ### The invariant -/

/-- What holds of handler `index` of an observed system, where `entry` is
`pending_responses.get(request_id)` and `inFlight` the response the consumer
is about to put into its queue. `registered` and `once` carry the
single-delivery argument: the entry exists exactly while the handler is
registered, has not returned and has had no answer, and the entry, the
consumer's pending put and the puts made are together at most one. -/
structure HandlerInvariant (index : Nat) (handler : Handler) (record : HandlerRecord)
    (entry : Option Nat) (inFlight : Option PyValue) : Prop where
  uuid : isUuidText handler.requestId = true
  slot : handler.respQueue.maxsize = 1
  registered : entry = some index ↔
    handler.request.registers = true ∧ handler.phase.holdsEntry = true ∧ record.firstAnswer = none
  once : (if entry = some index then 1 else 0) + (if inFlight.isSome then 1 else 0) + record.puts ≤ 1
  in_flight : ∀ response, inFlight = some response → record.popped = some response
  popped_first : ∀ response, record.popped = some response → record.firstAnswer = some response
  answers_own : ∀ response, record.firstAnswer = some response → Answers response handler.requestId
  put_popped : 0 < record.puts → record.popped.isSome
  queued : handler.respQueue.items =
    if record.puts = 0 ∨ handler.phase.answered = true then [] else record.popped.toList
  answered : ∀ response, handler.phase = .returned (.answered response) →
    record.popped = some response ∧ record.atTimeout = none ∧ 0 < record.puts
  timeout : ∀ first puts, record.atTimeout = some (first, puts) →
    puts = 0 ∧ (first = none ∨ (first = record.firstAnswer ∧ first = record.popped))
  timed_out : handler.phase.timedOut = true → record.atTimeout.isSome
  before_get : handler.phase = .publishing ∨ handler.phase = .waiting → record.atTimeout = none
  early : handler.phase = .publishing ∨ handler.phase = .waiting →
    handler.request.registers = true → record.popped = record.firstAnswer
  waiting_registers : handler.phase = .waiting → handler.request.registers = true
  cleaning : ∀ response, handler.phase ≠ .cleaningUp (.answered response)

structure SystemInvariant (observed : ObservedSystem) : Prop where
  records_length : observed.records.length = observed.system.handlers.length
  ids_unique : (observed.system.handlers.map Handler.requestId).Nodup
  pending_unique : PyDict.KeysUnique observed.system.pending
  pending_owner : ∀ key index, PyDict.get? observed.system.pending key = some index →
    ∃ handler, observed.system.handlers[index]? = some handler ∧ handler.requestId = key
  waiter_bound : ∀ response index, observed.system.consumer = .delivering response (some index) →
    index < observed.system.handlers.length
  handlers : ∀ index handler record, observed.system.handlers[index]? = some handler →
    observed.records[index]? = some record →
    HandlerInvariant index handler record (PyDict.get? observed.system.pending handler.requestId)
      (observed.system.consumer.inFlightFor index)
  feed_log : Feed.run responseStreamMaxsize response_stream_maxsize_pos observed.feedLog =
    some observed.system.responses
  received : observed.feedLog.flatMap FeedEvent.published ++ observed.system.consumer.inFlight =
    observed.received

theorem system_invariant_initial : SystemInvariant ObservedSystem.initial :=
  ⟨rfl, List.nodup_nil, List.nodup_nil, (fun _ _ found => by cases found),
    (fun _ _ idle => by cases idle), (fun _ _ _ found => by cases found), rfl, rfl⟩

section Lookup

variable {α β : Type}

theorem map_set_of_eq (f : α → β) {l : List α} {index : Nat} {old : α} (new : α)
    (found : l[index]? = some old) (same : f new = f old) : (l.set index new).map f = l.map f := by
  apply List.ext_getElem?
  intro other
  simp only [List.getElem?_map, List.getElem?_set]
  split
  · rename_i here
    subst here
    have bound : index < l.length := (List.getElem?_eq_some_iff.mp found).1
    simp [bound, found, same]
  · rfl

theorem index_unique {handlers : List Handler} (unique : (handlers.map Handler.requestId).Nodup)
    {i j : Nat} {first second : Handler} (atFirst : handlers[i]? = some first)
    (atSecond : handlers[j]? = some second) (same : first.requestId = second.requestId) :
    i = j := by
  have bound : i < (handlers.map Handler.requestId).length := by
    simpa using (List.getElem?_eq_some_iff.mp atFirst).1
  exact List.getElem?_inj bound unique (by simp [List.getElem?_map, atFirst, atSecond, same])

end Lookup

/-! ### One handler, event by event -/

section HandlerSteps

variable {index : Nat} {handler : Handler} {record : HandlerRecord} {entry : Option Nat}
  {inFlight : Option PyValue}

theorem HandlerInvariant.of_phase (inv : HandlerInvariant index handler record entry inFlight)
    (phase : HandlerPhase) (holds : phase.holdsEntry = handler.phase.holdsEntry ∨
      handler.request.registers = false)
    (answered : phase.answered = false) (timedOut : phase.timedOut = false)
    (notAnswered : ∀ response, phase ≠ .returned (.answered response))
    (early : phase = .publishing ∨ phase = .waiting → handler.phase = .publishing)
    (registers : phase = .waiting → handler.request.registers = true)
    (cleaning : ∀ response, phase ≠ .cleaningUp (.answered response))
    (notAnsweredBefore : handler.phase.answered = false) :
    HandlerInvariant index { handler with phase } record entry inFlight := by
  obtain ⟨uuid, slot, registered, once, inFlightEq, poppedFirst, own, putPopped, queued, -,
    timeout, -, beforeGet, earlyBefore, -, -⟩ := inv
  refine ⟨uuid, slot, ?_, once, inFlightEq, poppedFirst, own, putPopped, ?_,
    fun response same => absurd same (notAnswered response), timeout,
    fun flagged => by simp [timedOut] at flagged, ?_, ?_, registers, cleaning⟩
  · rcases holds with same | unregistered
    · simpa [same] using registered
    · simpa [unregistered] using registered
  · simpa [answered, notAnsweredBefore] using queued
  · intro now
    exact beforeGet (.inl (early now))
  · intro now
    exact earlyBefore (.inl (early now))

theorem HandlerInvariant.publish (inv : HandlerInvariant index handler record entry inFlight)
    (publishing : handler.phase = .publishing) (outcome : Except PyException Unit) :
    HandlerInvariant index { handler with phase := afterPublish handler.request outcome } record
      entry inFlight := by
  have before : handler.phase.answered = false := by rw [publishing]; rfl
  unfold afterPublish
  split
  · cases registers : handler.request.registers
    · exact inv.of_phase _ (.inr registers) rfl rfl (fun _ same => by cases same)
        (fun now => by rcases now with now | now <;> cases now) (fun now => by cases now)
        (fun _ same => by cases same) before
    · exact inv.of_phase _ (.inl (by rw [publishing]; rfl)) rfl rfl
        (fun _ same => by cases same) (fun _ => publishing) (fun _ => registers)
        (fun _ same => by cases same) before
  · exact inv.of_phase _ (.inl (by rw [publishing]; rfl)) rfl rfl (fun _ same => by cases same)
      (fun now => by rcases now with now | now <;> cases now) (fun now => by cases now)
      (fun _ same => by cases same) before
  · exact inv.of_phase _ (.inl (by rw [publishing]; rfl)) rfl rfl (fun _ same => by cases same)
      (fun now => by rcases now with now | now <;> cases now) (fun now => by cases now)
      (fun _ same => by cases same) before

theorem HandlerInvariant.get_returns (inv : HandlerInvariant index handler record entry inFlight)
    (waiting : handler.phase = .waiting) {response : PyValue} {rest : BoundedQueue PyValue}
    (taken : handler.respQueue.getNowait = .ok (response, rest)) :
    HandlerInvariant index { handler with respQueue := rest, phase := .returned (.answered response) }
      record entry inFlight := by
  obtain ⟨uuid, slot, registered, once, inFlightEq, poppedFirst, own, putPopped, queued, answered,
    timeout, timedOut, beforeGet, early, waitingRegisters, cleaning⟩ := inv
  rw [waiting] at queued
  simp only [HandlerPhase.answered, Bool.false_eq_true, or_false] at queued
  have front : handler.respQueue.items ≠ [] := by
    intro empty
    rw [BoundedQueue.get_nowait_of_nil _ empty] at taken
    cases taken
  have put : record.puts ≠ 0 := fun none => front (by rw [queued, if_pos none])
  obtain ⟨popped, poppedEq⟩ := Option.isSome_iff_exists.mp (putPopped (Nat.pos_of_ne_zero put))
  rw [if_neg put, poppedEq] at queued
  rw [BoundedQueue.get_nowait_of_cons _ queued] at taken
  obtain ⟨rfl, rfl⟩ := Prod.mk.inj (Except.ok.inj taken)
  have noEntry : entry ≠ some index := fun present => by
    rw [if_pos present] at once
    omega
  refine ⟨uuid, slot, ?_, once, inFlightEq, poppedFirst, own, putPopped, ?_, ?_, timeout,
    (fun flagged => by cases flagged), (fun early => by simp at early),
    (fun early => by simp at early), (fun waiting => by cases waiting), fun _ same => by cases same⟩
  · simpa [HandlerPhase.holdsEntry] using noEntry
  · simp [HandlerPhase.answered, queued]
  · intro _ same
    cases same
    exact ⟨poppedEq, beforeGet (.inr waiting), Nat.pos_of_ne_zero put⟩

theorem HandlerInvariant.get_times_out (inv : HandlerInvariant index handler record entry inFlight)
    (waiting : handler.phase = .waiting) (empty : handler.respQueue.items = []) :
    HandlerInvariant index { handler with phase := .cleaningUp .timedOut }
      { record with atTimeout := some (record.firstAnswer, record.puts) } entry inFlight := by
  obtain ⟨uuid, slot, registered, once, inFlightEq, poppedFirst, own, putPopped, queued, answered,
    timeout, timedOut, beforeGet, early, waitingRegisters, cleaning⟩ := inv
  rw [waiting] at registered queued
  simp only [HandlerPhase.answered, Bool.false_eq_true, or_false] at queued
  have noPut : record.puts = 0 := by
    by_contra put
    obtain ⟨popped, poppedEq⟩ :=
      Option.isSome_iff_exists.mp (putPopped (Nat.pos_of_ne_zero put))
    rw [empty, if_neg put, poppedEq] at queued
    cases queued
  have same := early (.inr waiting) (waitingRegisters waiting)
  refine ⟨uuid, slot, by simpa [HandlerPhase.holdsEntry] using registered, once, inFlightEq,
    poppedFirst, own, putPopped, by simpa [HandlerPhase.answered, noPut] using empty,
    (fun _ same => by cases same), ?_, fun _ => rfl, (fun early => by simp at early),
    (fun early => by simp at early), (fun waiting => by cases waiting), fun _ same => by cases same⟩
  intro first puts snapshot
  cases snapshot
  exact ⟨noPut, .inr ⟨rfl, same.symm⟩⟩

theorem HandlerInvariant.cleanup (inv : HandlerInvariant index handler record entry inFlight)
    {outcome : Outcome} (cleaning : handler.phase = .cleaningUp outcome) :
    HandlerInvariant index { handler with phase := .returned outcome } record none inFlight := by
  obtain ⟨uuid, slot, registered, once, inFlightEq, poppedFirst, own, putPopped, queued, answered,
    timeout, timedOut, beforeGet, early, waitingRegisters, notAnswered⟩ := inv
  have notAnswer : ∀ response, outcome ≠ .answered response := fun response same =>
    notAnswered response (by rw [cleaning, same])
  have flagged : (HandlerPhase.returned outcome).answered = (HandlerPhase.cleaningUp outcome).answered := by
    cases outcome with
    | answered response => exact absurd rfl (notAnswer response)
    | _ => rfl
  rw [cleaning] at queued timedOut
  refine ⟨uuid, slot, by simp [HandlerPhase.holdsEntry], ?_, inFlightEq, poppedFirst, own, putPopped,
    by rw [flagged]; exact queued, ?_, timeout, ?_, (fun early => by simp at early),
    (fun early => by simp at early), (fun waiting => by cases waiting), fun _ same => by cases same⟩
  · simp only [reduceCtorEq, if_false, zero_add] at once ⊢
    split at once <;> omega
  · intro response same
    cases same
    exact absurd rfl (notAnswer response)
  · intro timed
    apply timedOut
    cases outcome <;> first | rfl | simp [HandlerPhase.timedOut] at timed

theorem HandlerInvariant.deliver {response : PyValue}
    (inv : HandlerInvariant index handler record entry (some response)) :
    ∃ room, handler.respQueue.putNowait response = .ok (handler.respQueue.append response room) ∧
      HandlerInvariant index { handler with respQueue := handler.respQueue.append response room }
        { record with puts := record.puts + 1 } entry none := by
  obtain ⟨uuid, slot, registered, once, inFlightEq, poppedFirst, own, putPopped, queued, answered,
    timeout, timedOut, beforeGet, early, waitingRegisters, cleaning⟩ := inv
  have popped := inFlightEq response rfl
  simp only [Option.isSome_some, if_true] at once
  have noPut : record.puts = 0 := by omega
  have noEntry : entry ≠ some index := fun present => by
    rw [if_pos present] at once
    omega
  have notAnswered : handler.phase.answered = false := by
    cases phase : handler.phase with
    | returned outcome =>
        cases outcome with
        | answered response' => exact absurd (answered response' phase).2.2 (by omega)
        | _ => rfl
    | _ => rfl
  have empty : handler.respQueue.items = [] := by simpa [noPut] using queued
  have room : handler.respQueue.items.length < handler.respQueue.maxsize := by
    rw [empty, slot]
    decide
  refine ⟨room, BoundedQueue.put_nowait_of_lt _ _ room, uuid, slot, registered, ?_,
    (fun _ none => by cases none), poppedFirst, own, fun _ => by simp [popped], ?_,
    fun response' phase => ?_, timeout, timedOut, beforeGet, early, waitingRegisters, cleaning⟩
  · simp only [Option.isSome_none, Bool.false_eq_true, if_false, noEntry]
    omega
  · simp [empty, notAnswered, popped]
  · obtain ⟨poppedEq, snapshot, _⟩ := answered response' phase
    exact ⟨poppedEq, snapshot, by omega⟩

/-- A response with the handler's id pops its entry: it is the handler's
first answer and the consumer's next put. -/
theorem HandlerInvariant.popped {response : PyValue}
    (inv : HandlerInvariant index handler record (some index) none)
    (own : Answers response handler.requestId) :
    HandlerInvariant index handler
      { record with firstAnswer := record.firstAnswer.or (some response), popped := some response }
      none (some response) := by
  obtain ⟨uuid, slot, registered, once, -, poppedFirst, -, putPopped, queued, answered,
    timeout, timedOut, beforeGet, early, waitingRegisters, cleaning⟩ := inv
  obtain ⟨-, -, noAnswer⟩ := registered.mp rfl
  have noPopped : record.popped = none := by
    cases popped : record.popped with
    | none => rfl
    | some earlier => simp [poppedFirst earlier popped] at noAnswer
  simp only [if_true, Option.isSome_none, Bool.false_eq_true, if_false] at once
  have noPut : record.puts = 0 := by omega
  refine ⟨uuid, slot, by simp [noAnswer], by simp [noPut], fun _ same => by simpa using same,
    fun _ same => by simpa [noAnswer] using same, fun _ same => by
      simp only [noAnswer, Option.none_or, Option.some.injEq] at same
      exact same ▸ own, by simp [noPut],
    by simpa [noPut] using queued, ?_, ?_, timedOut, beforeGet, by simp [noAnswer],
    waitingRegisters, cleaning⟩
  · intro earlier phase
    simp [(answered earlier phase).1] at noPopped
  · intro first puts snapshot
    obtain ⟨zero, before⟩ := timeout first puts snapshot
    refine ⟨zero, .inl ?_⟩
    rcases before with none | ⟨same, -⟩
    · exact none
    · rw [same, noAnswer]

/-- A response with the handler's id that finds no entry only becomes its
first answer, if it has none. -/
theorem HandlerInvariant.late {response : PyValue}
    (inv : HandlerInvariant index handler record none none)
    (own : Answers response handler.requestId) :
    HandlerInvariant index handler
      { record with firstAnswer := record.firstAnswer.or (some response) } none none := by
  obtain ⟨uuid, slot, registered, once, inFlightEq, poppedFirst, ownBefore, putPopped, queued,
    answered, timeout, timedOut, beforeGet, early, waitingRegisters, cleaning⟩ := inv
  have unregistered := registered.not.mp (by simp)
  refine ⟨uuid, slot, ?_, once, inFlightEq, fun popped same => by
      simp [poppedFirst popped same], ?_, putPopped, queued, answered, ?_, timedOut, beforeGet,
    ?_, waitingRegisters, cleaning⟩
  · simp only [reduceCtorEq, false_iff, not_and]
    intro _ _ none
    cases first : record.firstAnswer <;> simp [first] at none
  · intro answer same
    cases first : record.firstAnswer with
    | none =>
        simp only [first, Option.none_or, Option.some.injEq] at same
        exact same ▸ own
    | some earlier =>
        simp only [first, Option.or_some, Option.some.injEq] at same
        exact same ▸ ownBefore earlier first
  · intro first puts snapshot
    obtain ⟨zero, before⟩ := timeout first puts snapshot
    refine ⟨zero, ?_⟩
    rcases before with none | ⟨same, poppedSame⟩
    · exact .inl none
    · cases answer : record.firstAnswer with
      | none => exact .inl (same.trans answer)
      | some earlier => exact .inr ⟨by simp [same, answer], poppedSame⟩
  · intro early' registers
    have answeredBefore : record.firstAnswer ≠ none := fun none =>
      unregistered ⟨registers, by rcases early' with phase | phase <;> simp [phase,
        HandlerPhase.holdsEntry], none⟩
    obtain ⟨earlier, answer⟩ := Option.ne_none_iff_exists'.mp answeredBefore
    rw [early early' registers, answer]
    rfl

theorem handler_invariant_begin (index : Nat) (requestId : String) (request : CommandRequest)
    (uuid : isUuidText requestId = true) :
    HandlerInvariant index ⟨requestId, request, emptySlot, .publishing⟩ HandlerRecord.fresh
      (if request.registers then some index else none) none := by
  refine ⟨uuid, rfl, ?_, ?_, (fun _ none => by cases none), (fun _ none => by cases none),
    (fun _ none => by cases none), (fun zero => by cases zero), rfl, (fun _ phase => by cases phase),
    (fun _ _ none => by cases none), (fun flagged => by cases flagged), fun _ => rfl,
    fun _ _ => rfl, (fun waiting => by cases waiting), (fun _ phase => by cases phase)⟩
  · cases request.registers <;> simp [HandlerPhase.holdsEntry, HandlerRecord.fresh]
  · cases request.registers <;> simp [HandlerRecord.fresh]

end HandlerSteps

/-! ### The whole system, event by event -/

theorem get_elem?_set_of_found {α : Type} {l : List α} {index : Nat} {old : α}
    (found : l[index]? = some old) (new : α) (other : Nat) :
    (l.set index new)[other]? = if index = other then some new else l[other]? := by
  have bound := (List.getElem?_eq_some_iff.mp found).1
  simp [List.getElem?_set, bound]

/-- A step that changes one handler, keeping its id, and its record, and at
most the consumer's position, keeps the invariant once the handler's own part
holds and no other handler's pending put changes. -/
theorem SystemInvariant.update {observed : ObservedSystem} (inv : SystemInvariant observed)
    {index : Nat} {handler : Handler} (found : observed.system.handlers[index]? = some handler)
    (handler' : Handler) (sameId : handler'.requestId = handler.requestId)
    {records' : List HandlerRecord} {record' : HandlerRecord}
    (recordsLength : records'.length = observed.records.length)
    (atIndex : records'[index]? = some record')
    (others : ∀ other, other ≠ index → records'[other]? = observed.records[other]?)
    (consumer : ConsumerPhase)
    (inFlightOthers : ∀ other, other ≠ index →
      consumer.inFlightFor other = observed.system.consumer.inFlightFor other)
    (waiterBound : ∀ response other, consumer = .delivering response (some other) →
      other < observed.system.handlers.length)
    (account : observed.feedLog.flatMap FeedEvent.published ++ consumer.inFlight =
      observed.received)
    (holds : HandlerInvariant index handler' record'
      (PyDict.get? observed.system.pending handler.requestId) (consumer.inFlightFor index)) :
    SystemInvariant ⟨{ observed.system.setHandler index handler' with consumer }, records',
      observed.feedLog, observed.received⟩ := by
  obtain ⟨lengthEq, unique, pendingUnique, owner, -, each, feedLog, -⟩ := inv
  have lookup := get_elem?_set_of_found found handler'
  refine ⟨by simp [CommandSystem.setHandler, recordsLength, lengthEq], ?_, pendingUnique, ?_,
    fun response waiter delivering => by
      simpa [CommandSystem.setHandler] using waiterBound response waiter delivering, ?_, feedLog,
    account⟩
  · simpa [CommandSystem.setHandler, map_set_of_eq _ handler' found sameId] using unique
  · intro key other atKey
    obtain ⟨owned, atOther, ownedId⟩ := owner key other atKey
    by_cases here : index = other
    · subst here
      rw [found] at atOther
      cases atOther
      exact ⟨handler', by simp [CommandSystem.setHandler, lookup], sameId.trans ownedId⟩
    · exact ⟨owned, by simp [CommandSystem.setHandler, lookup, here, atOther], ownedId⟩
  · intro other handler'' record'' atHandler atRecord
    simp only [CommandSystem.setHandler, lookup] at atHandler
    by_cases here : index = other
    · subst here
      simp only [if_true, Option.some.injEq] at atHandler
      rw [atIndex, Option.some.injEq] at atRecord
      subst atHandler atRecord
      simpa [sameId] using holds
    · rw [if_neg here] at atHandler
      rw [others other (Ne.symm here)] at atRecord
      simpa [inFlightOthers other (Ne.symm here)] using
        each other handler'' record'' atHandler atRecord

theorem SystemInvariant.record_of_handler {observed : ObservedSystem}
    (inv : SystemInvariant observed) {index : Nat} {handler : Handler}
    (found : observed.system.handlers[index]? = some handler) :
    ∃ record, observed.records[index]? = some record := by
  have bound : index < observed.records.length := by
    rw [inv.records_length]
    exact (List.getElem?_eq_some_iff.mp found).1
  exact ⟨_, List.getElem?_eq_getElem bound⟩

theorem SystemInvariant.publish {observed next : ObservedSystem} (inv : SystemInvariant observed)
    {index : Nat} {outcome : Except PyException Unit}
    (stepped : observed.step (.publish index outcome) = some next) : SystemInvariant next := by
  obtain ⟨after, published, rfl⟩ := Option.map_eq_some'.mp stepped
  simp only [CommandSystem.step, CommandSystem.publish] at published
  split at published
  · rename_i handler found
    split at published
    · rename_i publishing
      cases published
      obtain ⟨record, atRecord⟩ := inv.record_of_handler found
      simpa [noteRecords, feedEventsOf, receivedBy] using inv.update found
        { handler with phase := afterPublish handler.request outcome } rfl rfl atRecord
        (fun _ _ => rfl) observed.system.consumer (fun _ _ => rfl) inv.waiter_bound inv.received
        ((inv.handlers index handler record found atRecord).publish publishing outcome)
    · cases published
  · cases published

theorem SystemInvariant.get_returns {observed next : ObservedSystem}
    (inv : SystemInvariant observed) {index : Nat}
    (stepped : observed.step (.getReturns index) = some next) : SystemInvariant next := by
  obtain ⟨after, returned, rfl⟩ := Option.map_eq_some'.mp stepped
  simp only [CommandSystem.step, CommandSystem.getReturns] at returned
  split at returned
  · rename_i handler found
    split at returned
    · rename_i response rest waiting taken
      cases returned
      obtain ⟨record, atRecord⟩ := inv.record_of_handler found
      simpa [noteRecords, feedEventsOf, receivedBy] using inv.update found
        { handler with respQueue := rest, phase := .returned (.answered response) } rfl rfl atRecord
        (fun _ _ => rfl) observed.system.consumer (fun _ _ => rfl) inv.waiter_bound inv.received
        ((inv.handlers index handler record found atRecord).get_returns waiting taken)
    · cases returned
  · cases returned

theorem SystemInvariant.get_times_out {observed next : ObservedSystem}
    (inv : SystemInvariant observed) {index : Nat}
    (stepped : observed.step (.getTimesOut index) = some next) : SystemInvariant next := by
  obtain ⟨after, timed, rfl⟩ := Option.map_eq_some'.mp stepped
  simp only [CommandSystem.step, CommandSystem.getTimesOut] at timed
  split at timed
  · rename_i handler found
    split at timed
    · rename_i waiting
      split at timed
      · rename_i empty
        cases timed
        obtain ⟨record, atRecord⟩ := inv.record_of_handler found
        let noted := fun record : HandlerRecord =>
          { record with atTimeout := some (record.firstAnswer, record.puts) }
        simpa [noteRecords, feedEventsOf, receivedBy] using inv.update found
          { handler with phase := .cleaningUp .timedOut } rfl
          (List.length_modify _ _ _)
          (show (observed.records.modify noted index)[index]? = some (noted record) by
            simp [List.getElem?_modify, atRecord])
          (fun other differ => by simp [List.getElem?_modify, Ne.symm differ])
          observed.system.consumer (fun _ _ => rfl) inv.waiter_bound inv.received
          ((inv.handlers index handler record found atRecord).get_times_out waiting
            (by simpa using empty))
      · cases timed
    · cases timed
  · cases timed

/-- A step that touches only the consumer's position and the response feed
keeps the invariant when no handler's pending put changes. -/
theorem SystemInvariant.of_consumer {observed : ObservedSystem} (inv : SystemInvariant observed)
    (consumer : ConsumerPhase) (responses : Feed PyValue) (feedLog : List (FeedEvent PyValue))
    (received : List PyValue)
    (inFlightEq : ∀ index, consumer.inFlightFor index = observed.system.consumer.inFlightFor index)
    (waiterBound : ∀ response index, consumer = .delivering response (some index) →
      index < observed.system.handlers.length)
    (feedRun : Feed.run responseStreamMaxsize response_stream_maxsize_pos feedLog = some responses)
    (account : feedLog.flatMap FeedEvent.published ++ consumer.inFlight = received) :
    SystemInvariant ⟨{ observed.system with consumer, responses }, observed.records, feedLog,
      received⟩ := by
  obtain ⟨lengthEq, unique, pendingUnique, owner, -, each, -, -⟩ := inv
  exact ⟨lengthEq, unique, pendingUnique, owner, waiterBound,
    fun index handler record atHandler atRecord => by
      simpa [inFlightEq index] using each index handler record atHandler atRecord,
    feedRun, account⟩

theorem feed_run_append (events : List (FeedEvent PyValue)) (feed next : Feed PyValue)
    (event : FeedEvent PyValue)
    (reached : Feed.run responseStreamMaxsize response_stream_maxsize_pos events = some feed)
    (stepped : feed.step responseStreamMaxsize response_stream_maxsize_pos event = some next) :
    Feed.run responseStreamMaxsize response_stream_maxsize_pos (events ++ [event]) = some next := by
  rw [Feed.run, List.foldlM_append]
  simp only [Feed.run] at reached
  simp [reached, stepped]

theorem SystemInvariant.broadcast {observed next : ObservedSystem}
    (inv : SystemInvariant observed) (stepped : observed.step .broadcast = some next) :
    SystemInvariant next := by
  obtain ⟨after, broadcast, rfl⟩ := Option.map_eq_some'.mp stepped
  simp only [CommandSystem.step, CommandSystem.broadcast] at broadcast
  split at broadcast
  · rename_i response broadcasting
    obtain ⟨responses, published, rfl⟩ := Option.map_eq_some'.mp broadcast
    have fanned : observed.system.responses.fanout response = .ok responses := by
      cases fanout : observed.system.responses.fanout response <;>
        simp [fanout, Except.toOption] at published
      rw [published]
    have account := inv.received
    rw [broadcasting] at account
    simpa [noteRecords, feedEventsOf, broadcasting, receivedBy] using
      inv.of_consumer .idle responses (observed.feedLog ++ [.publish response]) observed.received
        (fun index => by simp [ConsumerPhase.inFlightFor, broadcasting])
        (fun _ _ idle => by cases idle)
        (feed_run_append _ _ _ _ inv.feed_log (by simp [Feed.step, fanned, Except.toOption]))
        (by simpa [FeedEvent.published, ConsumerPhase.inFlight] using account)
  · cases broadcast

theorem SystemInvariant.stream {observed next : ObservedSystem} (inv : SystemInvariant observed)
    {event : SystemEvent} {feedEvent : FeedEvent PyValue}
    (streamEvent : event = .subscribe ∧ feedEvent = .subscribe ∨
      (∃ q, event = .read q ∧ feedEvent = .read q) ∨ ∃ q, event = .close q ∧ feedEvent = .close q)
    (stepped : observed.step event = some next) : SystemInvariant next := by
  obtain ⟨after, streamed, rfl⟩ := Option.map_eq_some'.mp stepped
  have performed : ∃ responses, observed.system.responses.step responseStreamMaxsize
      response_stream_maxsize_pos feedEvent = some responses ∧
      after = { observed.system with responses } := by
    rcases streamEvent with ⟨rfl, rfl⟩ | ⟨q, rfl, rfl⟩ | ⟨q, rfl, rfl⟩
    · exact ⟨_, rfl, (Option.some.inj streamed).symm⟩
    · obtain ⟨responses, found, rfl⟩ := Option.map_eq_some'.mp streamed
      exact ⟨responses, found, rfl⟩
    · obtain ⟨responses, found, rfl⟩ := Option.map_eq_some'.mp streamed
      exact ⟨responses, found, rfl⟩
  obtain ⟨responses, found, rfl⟩ := performed
  have logged : feedEventsOf observed.system event = [feedEvent] ∧ receivedBy observed.system event = [] ∧
      noteRecords observed.system observed.records event = observed.records ∧
      feedEvent.published = [] := by
    rcases streamEvent with ⟨rfl, rfl⟩ | ⟨q, rfl, rfl⟩ | ⟨q, rfl, rfl⟩ <;>
      exact ⟨rfl, rfl, rfl, rfl⟩
  obtain ⟨logEq, receivedEq, recordsEq, unpublished⟩ := logged
  rw [logEq, receivedEq, recordsEq, List.append_nil]
  exact inv.of_consumer observed.system.consumer responses _ _ (fun _ => rfl) inv.waiter_bound
    (feed_run_append _ _ _ _ inv.feed_log found)
    (by simpa [unpublished] using inv.received)

theorem SystemInvariant.deliver {observed next : ObservedSystem} (inv : SystemInvariant observed)
    (stepped : observed.step .deliver = some next) : SystemInvariant next := by
  obtain ⟨after, delivered, rfl⟩ := Option.map_eq_some'.mp stepped
  simp only [CommandSystem.step, CommandSystem.deliver] at delivered
  have account := inv.received
  split at delivered
  · rename_i response index delivering
    cases delivered
    obtain ⟨handler, found⟩ : ∃ handler, observed.system.handlers[index]? = some handler :=
      ⟨_, List.getElem?_eq_getElem (inv.waiter_bound response index delivering)⟩
    obtain ⟨record, atRecord⟩ := inv.record_of_handler found
    have own := inv.handlers index handler record found atRecord
    simp only [delivering, ConsumerPhase.inFlightFor, if_true] at own
    obtain ⟨room, put, holds⟩ := own.deliver
    have putEq : observed.system.putResponse index response = observed.system.setHandler index
        { handler with respQueue := handler.respQueue.append response room } := by
      simp [CommandSystem.putResponse, found, put]
    let noted := fun record : HandlerRecord => { record with puts := record.puts + 1 }
    rw [delivering] at account
    simpa [putEq, noteRecords, delivering, feedEventsOf, receivedBy] using inv.update found
      { handler with respQueue := handler.respQueue.append response room } rfl
      (List.length_modify _ _ _)
      (show (observed.records.modify noted index)[index]? = some (noted record) by
        simp [List.getElem?_modify, atRecord])
      (fun other differ => by simp [List.getElem?_modify, Ne.symm differ])
      (.broadcasting response)
      (fun other differ => by simp [ConsumerPhase.inFlightFor, delivering, Ne.symm differ])
      (fun _ _ broadcasting => by cases broadcasting)
      (by simpa [ConsumerPhase.inFlight] using account) holds
  · rename_i response delivering
    cases delivered
    rw [delivering] at account
    simpa [noteRecords, delivering, feedEventsOf, receivedBy] using
      inv.of_consumer (.broadcasting response) observed.system.responses observed.feedLog
        observed.received (fun other => by simp [ConsumerPhase.inFlightFor, delivering])
        (fun _ _ broadcasting => by cases broadcasting) inv.feed_log
        (by simpa [ConsumerPhase.inFlight] using account)
  · cases delivered

theorem SystemInvariant.cleanup {observed next : ObservedSystem} (inv : SystemInvariant observed)
    {index : Nat} (stepped : observed.step (.cleanup index) = some next) :
    SystemInvariant next := by
  obtain ⟨after, cleaned, rfl⟩ := Option.map_eq_some'.mp stepped
  simp only [CommandSystem.step, CommandSystem.cleanup] at cleaned
  split at cleaned
  · rename_i handler found
    split at cleaned
    · rename_i outcome cleaning
      cases cleaned
      simp only [noteRecords, feedEventsOf, receivedBy, List.append_nil, CommandSystem.setHandler]
      obtain ⟨lengthEq, unique, pendingUnique, owner, bound, each, feedLog, account⟩ := inv
      have lookup := get_elem?_set_of_found found { handler with phase := .returned outcome }
      have gone := PyDict.get?_pop_self _ handler.requestId pendingUnique
      refine ⟨by simpa using lengthEq,
        by rw [map_set_of_eq _ { handler with phase := .returned outcome } found rfl]; exact unique,
        pendingUnique.pop _, ?_, by simpa using bound, ?_, feedLog, account⟩
      · intro key other atKey
        have differ : key ≠ handler.requestId := fun same => by
          rw [same, gone] at atKey
          cases atKey
        rw [PyDict.get?_pop_ne _ differ] at atKey
        obtain ⟨owned, atOther, ownedId⟩ := owner key other atKey
        by_cases here : index = other
        · subst here
          rw [found] at atOther
          cases atOther
          exact absurd ownedId.symm differ
        · exact ⟨owned, by simp [lookup, here, atOther], ownedId⟩
      · intro other handler' record atHandler atRecord
        simp only [lookup] at atHandler
        by_cases here : index = other
        · subst here
          simp only [if_true, Option.some.injEq] at atHandler
          subst atHandler
          simpa [gone] using (each index handler record found atRecord).cleanup cleaning
        · rw [if_neg here] at atHandler
          have differ : handler'.requestId ≠ handler.requestId := fun same =>
            here (index_unique unique found atHandler same.symm)
          rw [PyDict.get?_pop_ne _ differ]
          exact each other handler' record atHandler atRecord
    · cases cleaned
  · cases cleaned

theorem SystemInvariant.begin {observed next : ObservedSystem} (inv : SystemInvariant observed)
    {body : PyValue} {requestId : String}
    (stepped : observed.step (.begin body requestId) = some next) : SystemInvariant next := by
  obtain ⟨after, begun, rfl⟩ := Option.map_eq_some'.mp stepped
  simp only [CommandSystem.step, CommandSystem.begin] at begun
  cases parsed : parseCommand body with
  | error raised =>
      rw [parsed] at begun
      cases begun
      simpa [noteRecords, parsed, feedEventsOf, receivedBy] using inv
  | ok result =>
      cases result with
      | error reply =>
          rw [parsed] at begun
          cases begun
          simpa [noteRecords, parsed, feedEventsOf, receivedBy] using inv
      | ok request =>
          rw [parsed] at begun
          simp only [Bool.or_eq_true, Bool.not_eq_true', List.any_eq_true, beq_iff_eq] at begun
          split at begun
          · cases begun
          · rename_i fresh
            cases begun
            simp only [noteRecords, parsed, feedEventsOf, receivedBy, List.append_nil]
            obtain ⟨lengthEq, unique, pendingUnique, owner, bound, each, feedLog, account⟩ := inv
            have uuid : isUuidText requestId = true := by
              by_contra notUuid
              exact fresh (.inl (by simpa using notUuid))
            have unused : ∀ handler ∈ observed.system.handlers, handler.requestId ≠ requestId :=
              fun handler member same => fresh (.inr ⟨handler, member, same⟩)
            have absent : PyDict.get? observed.system.pending requestId = none := by
              cases found : PyDict.get? observed.system.pending requestId with
              | none => rfl
              | some index =>
                  obtain ⟨handler, atIndex, same⟩ := owner requestId index found
                  exact absurd same (unused handler (List.getElem?_mem atIndex))
            have keep : ∀ key, key ≠ requestId →
                PyDict.get? (if request.registers then PyDict.set observed.system.pending requestId
                  observed.system.handlers.length else observed.system.pending) key =
                PyDict.get? observed.system.pending key := by
              intro key differ
              split
              · exact PyDict.get?_set_ne _ _ differ
              · rfl
            have old : ∀ index, index < observed.system.handlers.length →
                (observed.system.handlers ++ [⟨requestId, request, emptySlot, .publishing⟩])[index]? =
                  observed.system.handlers[index]? := fun index bound =>
              List.getElem?_append_left bound
            refine ⟨by simp [lengthEq], ?_, ?_, ?_, ?_, ?_, feedLog, account⟩
            · simpa using List.nodup_append.mpr ⟨unique, List.nodup_singleton _,
                List.disjoint_singleton.mpr fun member => by
                  obtain ⟨handler, member', same⟩ := List.mem_map.mp member
                  exact unused handler member' same⟩
            · split
              · exact pendingUnique.set _ _
              · exact pendingUnique
            · intro key index atKey
              by_cases differ : key = requestId
              · subst differ
                split at atKey
                · simp only [PyDict.get?_set_self, Option.some.injEq] at atKey
                  subst atKey
                  exact ⟨_, List.getElem?_concat_length _ _, rfl⟩
                · rw [absent] at atKey
                  cases atKey
              · rw [keep key differ] at atKey
                obtain ⟨handler, atIndex, same⟩ := owner key index atKey
                exact ⟨handler, by rw [old index (List.getElem?_eq_some_iff.mp atIndex).1, atIndex],
                  same⟩
            · intro response index delivering
              have := bound response index delivering
              simp only [List.length_append, List.length_singleton]
              omega
            · intro index handler record atHandler atRecord
              rw [List.getElem?_append] at atHandler atRecord
              rw [lengthEq] at atRecord
              split at atHandler
              · rename_i below
                rw [if_pos below] at atRecord
                have differ : handler.requestId ≠ requestId :=
                  unused handler (List.getElem?_mem atHandler)
                rw [keep _ differ]
                exact each index handler record atHandler atRecord
              · rename_i above
                rw [if_neg above] at atRecord
                have here : index = observed.system.handlers.length := by
                  by_contra beyond
                  have : index - observed.system.handlers.length ≠ 0 := by omega
                  simp [List.getElem?_cons, this] at atHandler
                subst here
                simp only [Nat.sub_self, List.getElem?_cons_zero, Option.some.injEq] at atHandler atRecord
                subst atHandler atRecord
                have entryEq : PyDict.get? (if request.registers then PyDict.set
                    observed.system.pending requestId observed.system.handlers.length
                    else observed.system.pending) requestId =
                    if request.registers then some observed.system.handlers.length else none := by
                  split <;> simp [absent]
                have idle : observed.system.consumer.inFlightFor observed.system.handlers.length =
                    none := by
                  cases consumer : observed.system.consumer with
                  | delivering response waiter =>
                      cases waiter with
                      | none => rfl
                      | some waiter =>
                          have := bound response waiter consumer
                          simp only [ConsumerPhase.inFlightFor]
                          rw [if_neg (by omega)]
                  | _ => rfl
                rw [entryEq, idle]
                exact handler_invariant_begin _ requestId request uuid

theorem SystemInvariant.consume {observed next : ObservedSystem} (inv : SystemInvariant observed)
    {value : PyValue} {receivedAt : Int}
    (stepped : observed.step (.consume value receivedAt) = some next) : SystemInvariant next := by
  obtain ⟨after, consumed, rfl⟩ := Option.map_eq_some'.mp stepped
  simp only [CommandSystem.step, CommandSystem.consume] at consumed
  split at consumed
  · rename_i idle
    have account := inv.received
    rw [idle] at account
    rcases pop_waiter_cases observed.system.pending (requestIdOf value) with
      ⟨unhashed, -, popped⟩ | ⟨key, rid, popped⟩ | ⟨notStr, popped⟩
    · rw [popped] at consumed
      cases consumed
      have notKey : ∀ key, requestIdOf value ≠ .str key := fun key same => by
        rw [same] at unhashed
        cases unhashed
      simpa [noteRecords, popped, feedEventsOf, receivedBy, unhashed] using inv
    · rw [popped] at consumed
      cases consumed
      simp only [noteRecords, feedEventsOf, receivedBy, List.append_nil]
      rw [popped, rid]
      simp only [PyValue.hashable, if_true]
      obtain ⟨lengthEq, unique, pendingUnique, owner, -, each, feedLog, -⟩ := inv
      have gone := PyDict.get?_pop_self _ key pendingUnique
      have waiterOwned : ∀ index, PyDict.get? observed.system.pending key = some index →
          ∃ handler, observed.system.handlers[index]? = some handler ∧ handler.requestId = key :=
        owner key
      refine ⟨by simp [noteAnswer, lengthEq], unique, pendingUnique.pop _, ?_, ?_, ?_, feedLog,
        by simpa [ConsumerPhase.inFlight] using account⟩
      · intro other index atOther
        have differ : other ≠ key := fun same => by
          rw [same, gone] at atOther
          cases atOther
        rw [PyDict.get?_pop_ne _ differ] at atOther
        exact owner other index atOther
      · intro response index delivering
        simp only [ConsumerPhase.delivering.injEq, PyDict.pop_fst] at delivering
        obtain ⟨handler, atIndex, -⟩ := waiterOwned index delivering.2
        exact (List.getElem?_eq_some_iff.mp atIndex).1
      · intro index handler record' atHandler atRecord
        simp only [noteAnswer, List.getElem?_mapIdx, atHandler, Option.map_some'] at atRecord
        obtain ⟨record, atOld, rfl⟩ := Option.map_eq_some'.mp atRecord
        have old := each index handler record atHandler atOld
        rw [idle] at old
        simp only [ConsumerPhase.inFlightFor, PyDict.pop_fst] at old ⊢
        by_cases named : handler.requestId = key
        · subst named
          have own := answers_annotate receivedAt rid (is_uuid_text_ne_empty old.uuid)
          rw [if_pos rfl, gone]
          by_cases popping : PyDict.get? observed.system.pending handler.requestId = some index
          · rw [popping] at old ⊢
            simpa using old.popped own
          · have absent : PyDict.get? observed.system.pending handler.requestId = none := by
              cases found : PyDict.get? observed.system.pending handler.requestId with
              | none => rfl
              | some other =>
                  obtain ⟨owned, atOther, ownedId⟩ := waiterOwned other found
                  have same := index_unique unique atOther atHandler ownedId
                  exact absurd (same ▸ found) popping
            rw [absent] at old ⊢
            simpa using old.late own
        · rw [if_neg (by simpa using named), PyDict.get?_pop_ne _ named]
          cases waiterEq : PyDict.get? observed.system.pending key with
          | none => exact old
          | some waiter =>
              have differ : waiter ≠ index := fun same => by
                obtain ⟨owned, atOther, ownedId⟩ := waiterOwned waiter waiterEq
                rw [same, atHandler] at atOther
                cases atOther
                exact named ownedId
              simpa [differ] using old
    · rw [popped] at consumed
      cases consumed
      simpa [noteRecords, popped, feedEventsOf, receivedBy, notStr] using
        inv.of_consumer (.delivering (annotate value receivedAt) none) observed.system.responses
          observed.feedLog (observed.received ++ [annotate value receivedAt])
          (fun index => by simp [ConsumerPhase.inFlightFor, idle])
          (fun _ _ delivering => by cases delivering)
          inv.feed_log (by simpa [ConsumerPhase.inFlight] using account)
  · cases consumed

theorem SystemInvariant.step {observed next : ObservedSystem} (inv : SystemInvariant observed)
    {event : SystemEvent} (stepped : observed.step event = some next) : SystemInvariant next := by
  cases event with
  | begin body requestId => exact inv.begin stepped
  | publish index outcome => exact inv.publish stepped
  | getReturns index => exact inv.get_returns stepped
  | getTimesOut index => exact inv.get_times_out stepped
  | cleanup index => exact inv.cleanup stepped
  | consume value receivedAt => exact inv.consume stepped
  | deliver => exact inv.deliver stepped
  | broadcast => exact inv.broadcast stepped
  | subscribe => exact inv.stream (.inl ⟨rfl, rfl⟩) stepped
  | read q => exact inv.stream (.inr (.inl ⟨q, rfl, rfl⟩)) stepped
  | close q => exact inv.stream (.inr (.inr ⟨q, rfl, rfl⟩)) stepped

theorem system_invariant_run (events : List SystemEvent) (observed : ObservedSystem)
    (reached : run events = some observed) : SystemInvariant observed :=
  foldlm_invariant _ _ (fun _ _ _ inv stepped => inv.step stepped) events initial observed
    system_invariant_initial reached

theorem run_of_system_run (events : List SystemEvent) (system : CommandSystem)
    (reached : CommandSystem.run events = some system) :
    ∃ observed, run events = some observed ∧ observed.system = system := by
  have projected := run_system events
  rw [reached] at projected
  exact Option.map_eq_some'.mp projected

end ObservedSystem

end VoipSimulator.Console
