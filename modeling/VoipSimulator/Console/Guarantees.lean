import VoipSimulator.Console.PacketChannel
import VoipSimulator.Console.ResponseSystem

/-!
# What a handler gets back

Consequences of the response-system invariant for `api_command`'s callers:
the waiter map keeps one entry per waiting handler and never lets a queue
see a second put; a handler answers with the first response carrying its id;
and, because the consumer's pop and its put are separate steps, a `get` can
time out after the pop and before the put, so a response consumed in time
can still end in a 504. A message whose `request_id` cannot be hashed is
dropped before its fanout. The three subscriber feeds keep their guarantee
over the runs of the code that drives them.
-/

namespace VoipSimulator.Console

open VoipSimulator.Python

set_option autoImplicit false

/-! ### Schedules of one request -/

/-- A `uuid4` text. -/
def sampleRequestId : String := "123e4567-e89b-42d3-a456-426614174000"

/-- A response naming `sampleRequestId`. -/
def sampleResponse : PyValue := .dict [("request_id", .str sampleRequestId)]

/-- The empty body's request (`uas`, `task_list`, waited), answered: the
consumer pops, puts and fans out before the handler's `get`. -/
def answeredSchedule : List SystemEvent :=
  [.begin (.dict []) sampleRequestId, .publish 0 (.ok ()), .consume sampleResponse 0, .deliver,
    .broadcast, .getReturns 0]

/-- The same request when the handler's `get` times out after the consumer's
pop and before its put. -/
def racedSchedule : List SystemEvent :=
  [.begin (.dict []) sampleRequestId, .publish 0 (.ok ()), .consume sampleResponse 0,
    .getTimesOut 0, .deliver, .broadcast, .cleanup 0]

/-- The same request when its send raises an exception other than
`KafkaError`. -/
def failedSendSchedule : List SystemEvent :=
  [.begin (.dict []) sampleRequestId, .publish 0 (.error (.valueError "send failed"))]

/-! ### The waiter map -/

/-- The waiter map's guarantee in a state reached by a run, with the
observer's records: `pending_responses` maps a `request_id` only to the
single-slot queue of the handler that created it, and holds it exactly while
that handler waits on a targeted request, has not returned, and no response
with its id has been consumed since it registered; a returned handler leaves
no entry; each queue gets at most one `put_nowait`, which never finds it
full; and a response a handler returns carries its own `request_id`. -/
structure WaiterMapGuarantee (system : CommandSystem) (records : List HandlerRecord) : Prop where
  owner : ∀ key (index : Nat), PyDict.get? system.pending key = some index →
    ∃ handler, system.handlers[index]? = some handler ∧ handler.requestId = key ∧
      handler.respQueue.maxsize = 1
  live : ∀ (index : Nat) handler (record : HandlerRecord), system.handlers[index]? = some handler →
    records[index]? = some record →
    (PyDict.get? system.pending handler.requestId = some index ↔
      handler.request.registers = true ∧
        (handler.phase = .publishing ∨ handler.phase = .waiting ∨
          ∃ outcome, handler.phase = .cleaningUp outcome) ∧
        record.firstAnswer = none)
  exits : ∀ handler ∈ system.handlers, ∀ outcome, handler.phase = .returned outcome →
    PyDict.get? system.pending handler.requestId = none
  puts_le_one : ∀ (index : Nat) (record : HandlerRecord), records[index]? = some record →
    record.puts ≤ 1
  put_fits : ∀ response (index : Nat) handler, system.consumer = .delivering response (some index) →
    system.handlers[index]? = some handler →
    ∃ room, handler.respQueue.putNowait response = .ok (handler.respQueue.append response room)
  own_id : ∀ handler ∈ system.handlers, ∀ response,
    handler.phase = .returned (.answered response) → Answers response handler.requestId

theorem ObservedSystem.SystemInvariant.record_of_member {observed : ObservedSystem}
    (inv : ObservedSystem.SystemInvariant observed) {handler : Handler}
    (member : handler ∈ observed.system.handlers) :
    ∃ index record, observed.system.handlers[index]? = some handler ∧
      observed.records[index]? = some record ∧
      ObservedSystem.HandlerInvariant index handler record
        (PyDict.get? observed.system.pending handler.requestId)
        (observed.system.consumer.inFlightFor index) := by
  obtain ⟨index, found⟩ := List.mem_iff_getElem?.mp member
  obtain ⟨record, atRecord⟩ := inv.record_of_handler found
  exact ⟨index, record, found, atRecord, inv.handlers index handler record found atRecord⟩

theorem waiter_map_guarantee (events : List SystemEvent) (system : CommandSystem)
    (reached : CommandSystem.run events = some system)
    (kafkaOnly : ∀ index error, SystemEvent.publish index (.error error) ∈ events →
      ∃ message, error = .kafkaError message) :
    ∃ observed, ObservedSystem.run events = some observed ∧ observed.system = system ∧
      WaiterMapGuarantee system observed.records := by
  obtain ⟨observed, observedRun, rfl⟩ := ObservedSystem.run_of_system_run events system reached
  have inv := ObservedSystem.system_invariant_run events observed observedRun
  have clean := CommandSystem.not_raised_of_run events observed.system reached kafkaOnly
  have exit : ∀ handler ∈ observed.system.handlers, ∀ outcome,
      handler.phase = .returned outcome →
      PyDict.get? observed.system.pending handler.requestId = none := by
    intro handler member outcome returned
    obtain ⟨index, record, found, -, holds⟩ := inv.record_of_member member
    cases entry : PyDict.get? observed.system.pending handler.requestId with
    | none => rfl
    | some other =>
        obtain ⟨owned, atOther, ownedId⟩ := inv.pending_owner _ other entry
        have same := ObservedSystem.index_unique inv.ids_unique atOther found ownedId
        subst same
        have registered := holds.registered.mp entry
        simp [returned, HandlerPhase.holdsEntry] at registered
  refine ⟨observed, observedRun, rfl, ⟨?_, ?_, exit, ?_, ?_, ?_⟩⟩
  · intro key index entry
    obtain ⟨handler, found, named⟩ := inv.pending_owner key index entry
    obtain ⟨record, atRecord⟩ := inv.record_of_handler found
    exact ⟨handler, found, named, (inv.handlers index handler record found atRecord).slot⟩
  · intro index handler record found atRecord
    rw [(inv.handlers index handler record found atRecord).registered]
    have notRaised := clean handler (List.getElem?_mem found)
    cases phase : handler.phase with
    | raised error => exact absurd phase (notRaised error)
    | _ => simp [HandlerPhase.holdsEntry]
  · intro index record atRecord
    obtain ⟨handler, found⟩ : ∃ handler, observed.system.handlers[index]? = some handler := by
      have bound := (List.getElem?_eq_some_iff.mp atRecord).1
      rw [inv.records_length] at bound
      exact ⟨_, List.getElem?_eq_getElem bound⟩
    have once := (inv.handlers index handler record found atRecord).once
    omega
  · intro response index handler delivering found
    obtain ⟨record, atRecord⟩ := inv.record_of_handler found
    have holds := inv.handlers index handler record found atRecord
    simp only [delivering, ConsumerPhase.inFlightFor, if_true] at holds
    obtain ⟨room, put, -⟩ := holds.deliver
    exact ⟨room, put⟩
  · intro handler member response returned
    obtain ⟨index, record, -, -, holds⟩ := inv.record_of_member member
    exact holds.answers_own response (holds.popped_first response (holds.answered response returned).1)

theorem raced_schedule_waiter_map :
    ∃ system, CommandSystem.run racedSchedule = some system ∧
      ∃ observed, ObservedSystem.run racedSchedule = some observed ∧ observed.system = system ∧
        WaiterMapGuarantee system observed.records := by
  obtain ⟨system, reached⟩ : ∃ system, CommandSystem.run racedSchedule = some system := ⟨_, rfl⟩
  exact ⟨system, reached, waiter_map_guarantee racedSchedule system reached
    (fun index error member => by simp [racedSchedule] at member)⟩

/-- A handler whose publish raised something other than `KafkaError` never
pops its waiter: on a request that registers, the waiter stays in
`pending_responses` exactly until a response with its `request_id` is
consumed, whatever the other threads do. -/
theorem raised_handler_keeps_waiter (events : List SystemEvent) (system : CommandSystem)
    (reached : CommandSystem.run events = some system) (index : Nat) (handler : Handler)
    (found : system.handlers[index]? = some handler) (error : PyException)
    (raised : handler.phase = .raised error) (registers : handler.request.registers = true) :
    ∃ observed record, ObservedSystem.run events = some observed ∧ observed.system = system ∧
      observed.records[index]? = some record ∧
      (PyDict.get? system.pending handler.requestId = some index ↔ record.firstAnswer = none) := by
  obtain ⟨observed, observedRun, rfl⟩ := ObservedSystem.run_of_system_run events system reached
  have inv := ObservedSystem.system_invariant_run events observed observedRun
  obtain ⟨record, atRecord⟩ := inv.record_of_handler found
  refine ⟨observed, record, observedRun, rfl, atRecord, ?_⟩
  rw [(inv.handlers index handler record found atRecord).registered, registers, raised]
  simp [HandlerPhase.holdsEntry]

/-- The empty body's request whose send raises `ValueError`. -/
theorem failed_send_keeps_waiter :
    ∃ system handler, CommandSystem.run failedSendSchedule = some system ∧
      system.handlers[0]? = some handler ∧ handler.phase = .raised (.valueError "send failed") ∧
      handler.request.registers = true ∧
      ∃ observed record, ObservedSystem.run failedSendSchedule = some observed ∧
        observed.system = system ∧ observed.records[0]? = some record ∧
        (PyDict.get? system.pending handler.requestId = some 0 ↔ record.firstAnswer = none) :=
  ⟨_, _, rfl, rfl, rfl, rfl, raised_handler_keeps_waiter failedSendSchedule _ rfl 0 _ rfl _ rfl rfl⟩

/-! ### What a handler answers -/

/-- How a handler's outcome follows the responses consumed since it began:
an answered handler returns the first of them and its `get` never timed out;
a timed-out one found, when its `get` gave up, either none of them or only the
first one popped and not yet put; and while a handler waits, its queue holds
the first answer once the consumer has put it there. -/
structure ResponseRouting (system : CommandSystem) (records : List HandlerRecord) : Prop where
  answered : ∀ (index : Nat) handler (record : HandlerRecord) response,
    system.handlers[index]? = some handler → records[index]? = some record →
    handler.phase = .returned (.answered response) →
    record.firstAnswer = some response ∧ record.atTimeout = none
  timed_out : ∀ (index : Nat) handler (record : HandlerRecord),
    system.handlers[index]? = some handler → records[index]? = some record →
    handler.phase.timedOut = true →
    ∃ first, record.atTimeout = some (first, 0) ∧
      (first = none ∨ (first = record.firstAnswer ∧ first = record.popped))
  waiting : ∀ (index : Nat) handler (record : HandlerRecord),
    system.handlers[index]? = some handler → records[index]? = some record →
    handler.phase = .waiting →
    handler.respQueue.items = if record.puts = 0 then [] else record.firstAnswer.toList

theorem response_routing_guarantee (events : List SystemEvent) (observed : ObservedSystem)
    (reached : ObservedSystem.run events = some observed) :
    ResponseRouting observed.system observed.records := by
  have inv := ObservedSystem.system_invariant_run events observed reached
  refine ⟨?_, ?_, ?_⟩
  · intro index handler record response found atRecord returned
    have holds := inv.handlers index handler record found atRecord
    obtain ⟨popped, never, -⟩ := holds.answered response returned
    exact ⟨holds.popped_first response popped, never⟩
  · intro index handler record found atRecord timedOut
    have holds := inv.handlers index handler record found atRecord
    obtain ⟨⟨first, puts⟩, atTimeout⟩ := Option.isSome_iff_exists.mp (holds.timed_out timedOut)
    obtain ⟨rfl, window⟩ := holds.timeout first puts atTimeout
    exact ⟨first, atTimeout, window⟩
  · intro index handler record found atRecord waiting
    have holds := inv.handlers index handler record found atRecord
    rw [holds.queued, holds.early (.inr waiting) (holds.waiting_registers waiting), waiting]
    simp [HandlerPhase.answered]

theorem answered_schedule_routing :
    ∃ observed, ObservedSystem.run answeredSchedule = some observed ∧
      ResponseRouting observed.system observed.records := by
  obtain ⟨observed, reached⟩ : ∃ observed, ObservedSystem.run answeredSchedule = some observed :=
    ⟨_, rfl⟩
  exact ⟨observed, reached, response_routing_guarantee answeredSchedule observed reached⟩

/-- The response naming the request is consumed, and pops the waiter, before
the handler's `get` gives up; the `get` still times out, because the
consumer's `put_nowait` comes after it. The handler answers 504 and the
response ends in the queue nobody reads. -/
theorem consumed_response_times_out :
    ∃ observed handler record response,
      ObservedSystem.run racedSchedule = some observed ∧
      observed.system.handlers = [handler] ∧ observed.records = [record] ∧
      handler.request.registers = true ∧
      record.firstAnswer = some response ∧ record.atTimeout = some (some response, 0) ∧
      handler.phase = .returned .timedOut ∧ handler.respQueue.items = [response] ∧
      (Outcome.timedOut.reply handler.requestId).status = 504 :=
  ⟨_, _, _, _, rfl, rfl, rfl, rfl, rfl, rfl, rfl, rfl, rfl⟩

/-! ### The response consumer -/

/-- While some waiter is registered, a message whose `request_id` is a list
or an object makes `pending_responses.pop` hash it and raise `TypeError`,
which `_consumer_loop` logs: the step leaves the whole state as it was, so no
waiter is served and no response subscriber is offered the message. -/
theorem unhashable_request_id_dropped (system : CommandSystem) (value : PyValue)
    (receivedAt : Int) (idle : system.consumer = .idle) (waiting : system.pending ≠ [])
    (unhashableId : (requestIdOf value).hashable = false) :
    popWaiter system.pending (requestIdOf value) = .error (unhashable (requestIdOf value)) ∧
      system.step (.consume value receivedAt) = some system ∧
      ObservedSystem.receivedBy system (.consume value receivedAt) = [] := by
  have raised : popWaiter system.pending (requestIdOf value) =
      .error (unhashable (requestIdOf value)) := by
    rcases pop_waiter_cases system.pending (requestIdOf value) with
      ⟨-, -, popped⟩ | ⟨key, rid, -⟩ | ⟨-, popped⟩
    · exact popped
    · rw [rid] at unhashableId
      cases unhashableId
    · simp [popWaiter, List.isEmpty_iff, waiting, unhashableId] at popped
  refine ⟨raised, ?_, by simp [ObservedSystem.receivedBy, raised]⟩
  simp only [CommandSystem.step, CommandSystem.consume, idle, raised]

/-- `{"request_id": []}` while the empty body's request waits for its response. -/
theorem list_request_id_dropped :
    ∃ system, CommandSystem.run [.begin (.dict []) sampleRequestId] = some system ∧
      system.consumer = .idle ∧ system.pending ≠ [] ∧
      (requestIdOf (.dict [("request_id", .list [])])).hashable = false ∧
      popWaiter system.pending (.list []) = .error (.typeError "unhashable type: 'list'") ∧
      system.step (.consume (.dict [("request_id", .list [])]) 0) = some system ∧
      ObservedSystem.receivedBy system (.consume (.dict [("request_id", .list [])]) 0) = [] :=
  ⟨_, rfl, rfl, List.cons_ne_nil _ _, rfl, unhashable_request_id_dropped _
    (.dict [("request_id", .list [])]) 0 rfl (List.cons_ne_nil _ _) rfl⟩

theorem CommandSystem.run_append (events more : List SystemEvent) :
    CommandSystem.run (events ++ more) =
      (CommandSystem.run events).bind (more.foldlM CommandSystem.step) := by
  simp only [CommandSystem.run, List.foldlM_append]
  rfl

/-- A registered waiter's queue is empty and has room for one: its entry, the
consumer's pending put and the puts made are together at most one. -/
theorem ObservedSystem.SystemInvariant.waiter_empty {observed : ObservedSystem}
    (inv : ObservedSystem.SystemInvariant observed) {key : String} {index : Nat}
    (entry : PyDict.get? observed.system.pending key = some index) :
    ∃ handler, observed.system.handlers[index]? = some handler ∧
      handler.respQueue.items = [] ∧ handler.respQueue.maxsize = 1 := by
  obtain ⟨handler, found, rfl⟩ := inv.pending_owner key index entry
  obtain ⟨record, atRecord⟩ := inv.record_of_handler found
  have holds := inv.handlers index handler record found atRecord
  have once := holds.once
  rw [entry, if_pos rfl] at once
  have noPuts : record.puts = 0 := by omega
  exact ⟨handler, found, by rw [holds.queued, if_pos (.inl noPuts)], holds.slot⟩

/-- `_handle_response` on a message whose `request_id` can be hashed, from
any reachable state where the consumer is between messages: its steps run to
the end; the waiter registered under a string id is removed and its queue
then holds exactly the annotated response; and the fanout offers that
response to the response subscribers without raising. -/
theorem hashable_response_handled (events : List SystemEvent) (system : CommandSystem)
    (reached : CommandSystem.run events = some system) (idle : system.consumer = .idle)
    (value : PyValue) (receivedAt : Int) (hashableId : (requestIdOf value).hashable = true) :
    ∃ after,
      CommandSystem.run (events ++ [.consume value receivedAt, .deliver, .broadcast]) = some after ∧
      after.consumer = .idle ∧
      system.responses.fanout (annotate value receivedAt) = .ok after.responses ∧
      ∀ key, requestIdOf value = .str key →
        PyDict.get? after.pending key = none ∧
        ∀ index, PyDict.get? system.pending key = some index →
          after.handlers[index]?.map (fun handler => handler.respQueue.items) =
            some [annotate value receivedAt] := by
  obtain ⟨observed, observedRun, rfl⟩ := ObservedSystem.run_of_system_run events system reached
  have inv := ObservedSystem.system_invariant_run events observed observedRun
  obtain ⟨feedObserved, -, -, guarantee⟩ := feed_run_guarantee _ _ _ _ inv.feed_log
  obtain ⟨responses, fanned⟩ : ∃ responses,
      observed.system.responses.fanout (annotate value receivedAt) = .ok responses :=
    ⟨_, guarantee.fanout_eq _⟩
  simp only [CommandSystem.run_append, reached, Option.bind_some, List.foldlM_cons,
    List.foldlM_nil, CommandSystem.step, CommandSystem.consume, idle]
  rcases pop_waiter_cases observed.system.pending (requestIdOf value) with
    ⟨unhashed, -, -⟩ | ⟨key, rid, popped⟩ | ⟨notStr, popped⟩
  · rw [hashableId] at unhashed
    cases unhashed
  · have removed := PyDict.get?_pop_self _ key inv.pending_unique
    cases entry : PyDict.get? observed.system.pending key with
    | none =>
        refine ⟨{ observed.system with
          pending := (PyDict.pop observed.system.pending key).2, responses := responses,
          consumer := .idle }, ?_, rfl, fanned, fun other same => ?_⟩
        · simp [idle, popped, entry, CommandSystem.deliver, CommandSystem.broadcast, fanned,
            Except.toOption]
        · rw [rid, PyValue.str.injEq] at same
          subst same
          exact ⟨removed, fun index found => by simp [entry] at found⟩
    | some index =>
        obtain ⟨handler, found, empty, slot⟩ := inv.waiter_empty entry
        have room : handler.respQueue.items.length < handler.respQueue.maxsize := by
          rw [empty, slot]
          decide
        refine ⟨{ observed.system.setHandler index
            { handler with respQueue := handler.respQueue.append (annotate value receivedAt) room } with
          pending := (PyDict.pop observed.system.pending key).2, responses := responses,
          consumer := .idle },
          ?_, rfl, fanned, fun other same => ?_⟩
        · simp [idle, popped, entry, CommandSystem.deliver, CommandSystem.broadcast, fanned,
            Except.toOption, CommandSystem.putResponse, found, BoundedQueue.put_nowait_of_lt _ _ room,
            CommandSystem.setHandler]
        · rw [rid, PyValue.str.injEq] at same
          subst same
          refine ⟨removed, fun other found' => ?_⟩
          obtain rfl : index = other := Option.some.inj (entry.symm.trans found')
          have bound : index < observed.system.handlers.length :=
            (List.getElem?_eq_some_iff.mp found).1
          simp [CommandSystem.setHandler, bound, empty]
  · refine ⟨{ observed.system with responses, consumer := .idle }, ?_, rfl, fanned,
      fun key same => absurd same (notStr key)⟩
    simp [idle, popped, CommandSystem.deliver, CommandSystem.broadcast, fanned, Except.toOption]

theorem sample_response_handled :
    ∃ system, CommandSystem.run (answeredSchedule.take 2) = some system ∧
      system.consumer = .idle ∧ (requestIdOf sampleResponse).hashable = true ∧
      ∃ after, CommandSystem.run (answeredSchedule.take 2 ++
          [.consume sampleResponse 0, .deliver, .broadcast]) = some after ∧
        after.consumer = .idle ∧
        system.responses.fanout (annotate sampleResponse 0) = .ok after.responses ∧
        ∀ key, requestIdOf sampleResponse = .str key →
          PyDict.get? after.pending key = none ∧
          ∀ index, PyDict.get? system.pending key = some index →
            after.handlers[index]?.map (fun handler => handler.respQueue.items) =
              some [annotate sampleResponse 0] :=
  ⟨_, rfl, rfl, rfl,
    hashable_response_handled (answeredSchedule.take 2) _ rfl rfl sampleResponse 0 rfl⟩

/-! ### The three subscriber feeds -/

theorem Channel.run_append (decode : List UInt8 → String) (events more : List ChannelEvent) :
    Channel.run decode (events ++ more) =
      (Channel.run decode events).bind (more.foldlM (Channel.step decode)) := by
  simp only [Channel.run, List.foldlM_append]
  rfl

end VoipSimulator.Console
