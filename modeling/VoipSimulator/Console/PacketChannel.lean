import VoipSimulator.Console.Fanout
import VoipSimulator.Console.PacketIngest

/-!
# One packet channel

A channel (`uas` or `uac`) is its ring buffer `packet_queues[channel]`, its
subscriber list `sse_subscribers[channel]` with the streams of `api_stream`,
and the one consumer thread that runs `_handle_packet` for it. That thread
builds the record and fans it out under `sse_lock`, then maintains the ring
buffer with two separate queue operations and no lock: `get_nowait` of the
oldest record when the buffer is full, then `put_nowait` of the new one.
`api_packets` reads the buffer at any moment, so the consumer's position
between those steps is part of the state.

An exception out of `_handle_packet` is logged by `_consumer_loop`, which
goes on with the next message. The only ones that can escape are raised while
building the record, before anything shared is touched: the fanout never
raises on a reachable state (`feed_run_guarantee`), and neither ring step can
fail (`ingest_run_guarantee`).
-/

namespace VoipSimulator.Console

open VoipSimulator.Python

set_option autoImplicit false

/-- `MAX_QUEUE_SIZE`. -/
def maxQueueSize : Nat := 500

/-- The `maxsize` of the queue `api_stream` creates. -/
def packetStreamMaxsize : Nat := 200

theorem max_queue_size_pos : 0 < maxQueueSize := by decide

theorem packet_stream_maxsize_pos : 0 < packetStreamMaxsize := by decide

/-- `items[-n:]`. -/
def lastN {α : Type} (n : Nat) (items : List α) : List α := items.drop (items.length - n)

section LastN

variable {α : Type} (n : Nat) (items : List α)

theorem last_n_of_length_le (short : items.length ≤ n) : lastN n items = items := by
  simp [lastN, Nat.sub_eq_zero_of_le short]

theorem length_last_n : (lastN n items).length = min items.length n := by
  simp only [lastN, List.length_drop]
  omega

theorem last_n_append_singleton (item : α) (positive : 0 < n) :
    lastN n (items ++ [item]) =
      (if items.length < n then items else lastN (n - 1) items) ++ [item] := by
  split
  · exact last_n_of_length_le n _ (by simp; omega)
  · simp only [lastN, List.length_append, List.length_singleton]
    rw [List.drop_append_of_le_length (by omega)]
    congr 2
    omega

theorem tail_last_n (positive : 0 < n) (long : n ≤ items.length) :
    (lastN n items).tail = lastN (n - 1) items := by
  simp only [lastN, List.tail_drop]
  congr 1
  omega

theorem last_n_last_n (m : Nat) (within : m ≤ n) : lastN m (lastN n items) = lastN m items := by
  simp only [lastN, List.length_drop, List.drop_drop]
  congr 1
  omega

end LastN

/-- Where the consumer thread is inside `_handle_packet`. -/
inductive IngestPhase
  | idle
  /-- The record is published to the subscribers; the buffer is untouched. -/
  | buffering (record : PyValue)
  /-- The oldest record has been evicted if the buffer was full. -/
  | inserting (record : PyValue)

/-- The record a consumer is in the middle of handling, if any. -/
def IngestPhase.inFlight : IngestPhase → List PyValue
  | .idle => []
  | .buffering record => [record]
  | .inserting record => [record]

/-- Whether the consumer has made room and not yet inserted. -/
def IngestPhase.isInserting : IngestPhase → Bool
  | .inserting _ => true
  | _ => false

structure Channel where
  ring : BoundedQueue PyValue
  feed : Feed PyValue
  phase : IngestPhase

inductive ChannelEvent
  /-- The consumer takes the next message and runs `_handle_packet` through the fanout. -/
  | consume (value : PyValue) (headers : List Header) (receivedAt : Int)
  | evict
  | insert
  | subscribe
  | read (stream : Nat)
  | close (stream : Nat)

/-- The reply of `api_packets`: `count` and `packets`. -/
structure PacketsReply where
  count : Nat
  packets : List PyValue

namespace Channel

def initial : Channel := ⟨BoundedQueue.empty maxQueueSize max_queue_size_pos, Feed.initial, .idle⟩

/-- `if pq.full(): pq.get_nowait()`, with `queue.Empty` ignored. -/
def evictOldest (pq : BoundedQueue PyValue) : BoundedQueue PyValue :=
  if pq.full then
    match pq.getNowait with
    | .ok (_, rest) => rest
    | .error _ => pq
  else pq

/-- `pq.put_nowait(packet)`, with `queue.Full` ignored. -/
def insertRecord (pq : BoundedQueue PyValue) (packet : PyValue) : BoundedQueue PyValue :=
  match pq.putNowait packet with
  | .ok next => next
  | .error _ => pq

/-- `api_packets` for this channel. -/
def apiPackets (channel : Channel) : PacketsReply :=
  ⟨channel.ring.items.length, lastN 200 channel.ring.items⟩

theorem api_packets_count (channel : Channel) :
    channel.apiPackets.count = channel.ring.items.length := rfl

theorem api_packets_packets (channel : Channel) :
    channel.apiPackets.packets = lastN 200 channel.ring.items := by
  simp only [apiPackets]

def step (decode : List UInt8 → String) (channel : Channel) : ChannelEvent → Option Channel
  | .consume value headers receivedAt =>
      match channel.phase with
      | .idle =>
          match buildRecord decode value headers receivedAt with
          | .error _ => some channel
          | .ok record => (channel.feed.fanout record).toOption.map fun feed =>
              ⟨channel.ring, feed, .buffering record⟩
      | _ => none
  | .evict =>
      match channel.phase with
      | .buffering record => some ⟨evictOldest channel.ring, channel.feed, .inserting record⟩
      | _ => none
  | .insert =>
      match channel.phase with
      | .inserting record => some ⟨insertRecord channel.ring record, channel.feed, .idle⟩
      | _ => none
  | .subscribe => some { channel with
      feed := channel.feed.subscribe packetStreamMaxsize packet_stream_maxsize_pos }
  | .read q => (channel.feed.step packetStreamMaxsize packet_stream_maxsize_pos (.read q)).map
      fun feed => { channel with feed }
  | .close q => (channel.feed.step packetStreamMaxsize packet_stream_maxsize_pos (.close q)).map
      fun feed => { channel with feed }

def run (decode : List UInt8 → String) (events : List ChannelEvent) : Option Channel :=
  events.foldlM (step decode) initial

/-- What the buffer holds after the records `ingested` went in: the last
`MAX_QUEUE_SIZE` of them, or one fewer while an insertion that evicted is
under way. -/
def expectedRing (phase : IngestPhase) (ingested : List PyValue) : List PyValue :=
  match phase with
  | .inserting _ =>
      if ingested.length < maxQueueSize then ingested else lastN (maxQueueSize - 1) ingested
  | _ => lastN maxQueueSize ingested

theorem expected_ring_inserting (record : PyValue) (ingested : List PyValue) :
    expectedRing (.inserting record) ingested =
      if ingested.length < maxQueueSize then ingested else lastN (maxQueueSize - 1) ingested :=
  rfl

theorem expected_ring_of_not_inserting {phase : IngestPhase} (ingested : List PyValue)
    (settled : phase.isInserting = false) :
    expectedRing phase ingested = lastN maxQueueSize ingested := by
  cases phase with
  | inserting => cases settled
  | idle => rfl
  | buffering => rfl

theorem evict_oldest_of_full (pq : BoundedQueue PyValue) (full : pq.items.length = pq.maxsize) :
    ∃ oldest, pq.getNowait = .ok (oldest, pq.tail) ∧ evictOldest pq = pq.tail := by
  cases front : pq.items with
  | nil =>
      have positive := pq.maxsize_pos
      rw [front] at full
      simp at full
      omega
  | cons oldest rest =>
      have isFull : pq.full = true := (BoundedQueue.full_iff pq).mpr full
      exact ⟨oldest, pq.get_nowait_of_cons front, by simp [evictOldest, isFull,
        pq.get_nowait_of_cons front]⟩

theorem evict_oldest_maxsize (pq : BoundedQueue PyValue) : (evictOldest pq).maxsize = pq.maxsize := by
  unfold evictOldest
  split
  · cases front : pq.items with
    | nil => simp [BoundedQueue.get_nowait_of_nil _ front]
    | cons item rest => simp [BoundedQueue.get_nowait_of_cons _ front]
  · rfl

theorem evict_oldest_of_room (pq : BoundedQueue PyValue) (room : pq.items.length < pq.maxsize) :
    evictOldest pq = pq := by
  have notFull : pq.full = false := by simpa [BoundedQueue.full] using room
  simp [evictOldest, notFull]

theorem insert_record_of_room (pq : BoundedQueue PyValue) (record : PyValue)
    (room : pq.items.length < pq.maxsize) :
    insertRecord pq record = pq.append record room := by
  simp [insertRecord, pq.put_nowait_of_lt record room]

end Channel

/-- The record `_handle_packet` builds from a consumed message, unless it
raised. -/
def ChannelEvent.builtRecord (decode : List UInt8 → String) : ChannelEvent → List PyValue
  | .consume value headers receivedAt => (buildRecord decode value headers receivedAt).toOption.toList
  | _ => []

/-- The records `_handle_packet` built from the consumed messages, in order. -/
def builtRecords (decode : List UInt8 → String) (events : List ChannelEvent) : List PyValue :=
  events.flatMap (ChannelEvent.builtRecord decode)

/-- The operations on the channel's subscriber feed that an event performs. -/
def ChannelEvent.feedEvents (decode : List UInt8 → String) : ChannelEvent → List (FeedEvent PyValue)
  | .consume value headers receivedAt =>
      (buildRecord decode value headers receivedAt).toOption.toList.map .publish
  | .evict => []
  | .insert => []
  | .subscribe => [.subscribe]
  | .read q => [.read q]
  | .close q => [.close q]

/-- Each channel step performs its event's feed operations on the feed. -/
theorem Channel.step_feed {decode : List UInt8 → String} {channel next : Channel}
    {event : ChannelEvent} (stepped : channel.step decode event = some next) :
    (event.feedEvents decode).foldlM (Feed.step packetStreamMaxsize packet_stream_maxsize_pos)
      channel.feed = some next.feed := by
  obtain ⟨ring, feed, phase⟩ := channel
  cases event with
  | consume value headers receivedAt =>
      cases phase with
      | idle =>
          simp only [Channel.step] at stepped
          split at stepped
          · rename_i raised
            cases stepped
            simp [ChannelEvent.feedEvents, raised, Except.toOption]
          · rename_i record builtOk
            cases published : feed.fanout record <;>
              simp [published, Except.toOption] at stepped
            subst stepped
            simp [ChannelEvent.feedEvents, builtOk, Except.toOption, Feed.step, published]
      | buffering => simp [Channel.step] at stepped
      | inserting => simp [Channel.step] at stepped
  | evict =>
      cases phase <;> simp [Channel.step] at stepped
      subst stepped
      rfl
  | insert =>
      cases phase <;> simp [Channel.step] at stepped
      subst stepped
      rfl
  | subscribe =>
      cases stepped
      rfl
  | read q =>
      simp only [Channel.step] at stepped
      obtain ⟨_, found, rfl⟩ := Option.map_eq_some'.mp stepped
      simpa [ChannelEvent.feedEvents] using found
  | close q =>
      simp only [Channel.step] at stepped
      obtain ⟨_, found, rfl⟩ := Option.map_eq_some'.mp stepped
      simpa [ChannelEvent.feedEvents] using found

/-- The subscriber feed of every run of a channel is reached by the run of
the feed operations its events perform. -/
theorem Channel.run_feed (decode : List UInt8 → String) (events : List ChannelEvent)
    (channel : Channel) (reached : Channel.run decode events = some channel) :
    Feed.run packetStreamMaxsize packet_stream_maxsize_pos
      (events.flatMap (ChannelEvent.feedEvents decode)) = some channel.feed :=
  foldlm_flat_map_of_step _ _ Channel.feed _ (fun _ _ _ stepped => Channel.step_feed stepped)
    events Channel.initial channel reached

theorem length_expected_ring (phase : IngestPhase) (ingested : List PyValue) :
    (Channel.expectedRing phase ingested).length =
      if phase.isInserting = true ∧ maxQueueSize ≤ ingested.length then maxQueueSize - 1
      else min ingested.length maxQueueSize := by
  cases inserting : phase.isInserting
  · rw [Channel.expected_ring_of_not_inserting _ inserting, length_last_n]
    simp only [Bool.false_eq_true, false_and, if_false]
  · cases phase with
    | inserting record =>
        have length := length_last_n (maxQueueSize - 1) ingested
        rw [Channel.expected_ring_inserting]
        by_cases long : maxQueueSize ≤ ingested.length
        · rw [if_neg (show ¬ ingested.length < maxQueueSize by omega), if_pos ⟨rfl, long⟩, length]
          omega
        · rw [if_pos (show ingested.length < maxQueueSize by omega),
            if_neg (fun both => long both.2)]
          omega
    | _ => cases inserting

/-- The last 200 buffered records are the last 200 ingested, whatever the
consumer's position. -/
theorem last_n_expected_ring (phase : IngestPhase) (ingested : List PyValue) :
    lastN 200 (Channel.expectedRing phase ingested) = lastN 200 ingested := by
  cases inserting : phase.isInserting
  · rw [Channel.expected_ring_of_not_inserting _ inserting]
    exact last_n_last_n _ _ _ (by decide)
  · cases phase with
    | inserting record =>
        rw [Channel.expected_ring_inserting]
        split
        · rfl
        · exact last_n_last_n _ _ _ (by decide)
    | _ => cases inserting

/-- A channel together with the records built so far and the records whose
insertion into the buffer has completed, in order. -/
structure ObservedChannel where
  channel : Channel
  built : List PyValue
  ingested : List PyValue

namespace ObservedChannel

def initial : ObservedChannel := ⟨Channel.initial, [], []⟩

def step (decode : List UInt8 → String) (observed : ObservedChannel) (event : ChannelEvent) :
    Option ObservedChannel :=
  (observed.channel.step decode event).map fun channel =>
    ⟨channel, observed.built ++ event.builtRecord decode,
      match event, observed.channel.phase with
      | .insert, .inserting record => observed.ingested ++ [record]
      | _, _ => observed.ingested⟩

def run (decode : List UInt8 → String) (events : List ChannelEvent) : Option ObservedChannel :=
  events.foldlM (step decode) initial

theorem run_channel (decode : List UInt8 → String) (events : List ChannelEvent) :
    (run decode events).map channel = Channel.run decode events :=
  foldlm_map_of_step _ _ channel (fun observed event => by simp [step, Option.map_map,
    Function.comp_def]) events initial

/-- What one step of an observed channel can do. -/
inductive Moves : ObservedChannel → ObservedChannel → Prop
  /-- `_handle_packet` built `record` and fanned it out. -/
  | publish {ring : BoundedQueue PyValue} {feed feed' : Feed PyValue} {built ingested : List PyValue}
      (record : PyValue) :
      Moves ⟨⟨ring, feed, .idle⟩, built, ingested⟩
        ⟨⟨ring, feed', .buffering record⟩, built ++ [record], ingested⟩
  /-- The full check, and the eviction when it holds. -/
  | evict {ring : BoundedQueue PyValue} {feed : Feed PyValue} {built ingested : List PyValue}
      (record : PyValue) :
      Moves ⟨⟨ring, feed, .buffering record⟩, built, ingested⟩
        ⟨⟨Channel.evictOldest ring, feed, .inserting record⟩, built, ingested⟩
  | insert {ring : BoundedQueue PyValue} {feed : Feed PyValue} {built ingested : List PyValue}
      (record : PyValue) :
      Moves ⟨⟨ring, feed, .inserting record⟩, built, ingested⟩
        ⟨⟨Channel.insertRecord ring record, feed, .idle⟩, built, ingested ++ [record]⟩
  /-- A stream event, or a message on which `_handle_packet` raised: at most
  the subscribers change. -/
  | streams {ring : BoundedQueue PyValue} {feed feed' : Feed PyValue} {phase : IngestPhase}
      {built ingested : List PyValue} :
      Moves ⟨⟨ring, feed, phase⟩, built, ingested⟩ ⟨⟨ring, feed', phase⟩, built, ingested⟩

theorem step_moves {decode : List UInt8 → String} {observed next : ObservedChannel}
    {event : ChannelEvent} (stepped : observed.step decode event = some next) :
    Moves observed next := by
  obtain ⟨⟨ring, feed, phase⟩, built, ingested⟩ := observed
  cases event with
  | consume value headers receivedAt =>
      cases phase with
      | idle =>
          simp only [step, Channel.step] at stepped
          split at stepped
          · rename_i raised
            cases stepped
            simpa [ChannelEvent.builtRecord, raised, Except.toOption] using Moves.streams
          · rename_i record builtOk
            cases published : feed.fanout record <;>
              simp [published, Except.toOption] at stepped
            subst stepped
            simpa [ChannelEvent.builtRecord, builtOk, Except.toOption] using Moves.publish record
      | buffering => simp [step, Channel.step] at stepped
      | inserting => simp [step, Channel.step] at stepped
  | evict =>
      cases phase <;> simp [step, Channel.step] at stepped
      subst stepped
      simpa [ChannelEvent.builtRecord] using Moves.evict _
  | insert =>
      cases phase <;> simp [step, Channel.step] at stepped
      subst stepped
      simpa [ChannelEvent.builtRecord] using Moves.insert _
  | subscribe =>
      simp only [step, Channel.step, Option.map_some', Option.some.injEq] at stepped
      subst stepped
      simpa [ChannelEvent.builtRecord] using Moves.streams
  | read q =>
      simp only [step, Channel.step, Option.map_map] at stepped
      obtain ⟨_, -, rfl⟩ := Option.map_eq_some'.mp stepped
      simpa [ChannelEvent.builtRecord] using Moves.streams
  | close q =>
      simp only [step, Channel.step, Option.map_map] at stepped
      obtain ⟨_, -, rfl⟩ := Option.map_eq_some'.mp stepped
      simpa [ChannelEvent.builtRecord] using Moves.streams

/-- The buffer's invariant: the bound is `MAX_QUEUE_SIZE`, the buffer holds
what `expectedRing` says, and the records ingested, then the one in flight,
are the records built. -/
structure IngestInvariant (observed : ObservedChannel) : Prop where
  maxsize_eq : observed.channel.ring.maxsize = maxQueueSize
  contents : observed.channel.ring.items =
    Channel.expectedRing observed.channel.phase observed.ingested
  account : observed.ingested ++ observed.channel.phase.inFlight = observed.built

theorem ingest_invariant_initial : IngestInvariant initial := ⟨rfl, rfl, rfl⟩

theorem IngestInvariant.evict {ring : BoundedQueue PyValue} {ingested : List PyValue}
    {record : PyValue} (maxsizeEq : ring.maxsize = maxQueueSize)
    (buffered : ring.items = lastN maxQueueSize ingested) :
    (Channel.evictOldest ring).items =
      Channel.expectedRing (.inserting record) ingested := by
  have length := length_last_n maxQueueSize ingested
  show _ = if ingested.length < maxQueueSize then ingested else lastN (maxQueueSize - 1) ingested
  by_cases full : ring.items.length = ring.maxsize
  · obtain ⟨_, _, evicted⟩ := Channel.evict_oldest_of_full ring full
    have long : ¬ ingested.length < maxQueueSize := by
      rw [buffered, maxsizeEq] at full
      omega
    rw [evicted, BoundedQueue.tail_items, buffered, if_neg long,
      tail_last_n _ _ max_queue_size_pos (by omega)]
  · have room : ring.items.length < ring.maxsize := lt_of_le_of_ne ring.length_le full
    have short : ingested.length < maxQueueSize := by
      rw [buffered, maxsizeEq] at room
      omega
    rw [Channel.evict_oldest_of_room ring room, buffered, if_pos short,
      last_n_of_length_le _ _ short.le]

/-- After the eviction step there is room for the record. -/
theorem room_of_inserting {ring : BoundedQueue PyValue} {ingested : List PyValue}
    {record : PyValue} (maxsizeEq : ring.maxsize = maxQueueSize)
    (evicted : ring.items = Channel.expectedRing (.inserting record) ingested) :
    ring.items.length < ring.maxsize := by
  rw [evicted, maxsizeEq]
  show (if ingested.length < maxQueueSize then ingested
    else lastN (maxQueueSize - 1) ingested).length < maxQueueSize
  split
  · assumption
  · rw [length_last_n]
    simp [maxQueueSize]

theorem IngestInvariant.step {decode : List UInt8 → String} {observed next : ObservedChannel}
    {event : ChannelEvent} (inv : IngestInvariant observed)
    (stepped : observed.step decode event = some next) : IngestInvariant next := by
  obtain ⟨maxsizeEq, contents, account⟩ := inv
  cases step_moves stepped with
  | publish record =>
      refine ⟨maxsizeEq, contents, ?_⟩
      simp only [IngestPhase.inFlight, List.append_nil] at account ⊢
      rw [account]
  | evict record =>
      exact ⟨(Channel.evict_oldest_maxsize _).trans maxsizeEq,
        IngestInvariant.evict maxsizeEq contents, account⟩
  | @insert ring _ _ ingested record =>
      have room := room_of_inserting maxsizeEq contents
      rw [Channel.insert_record_of_room ring record room]
      refine ⟨maxsizeEq, ?_, by simpa [IngestPhase.inFlight] using account⟩
      show ring.items ++ [record] = lastN maxQueueSize (ingested ++ [record])
      rw [contents, last_n_append_singleton _ _ _ max_queue_size_pos]
      rfl
  | streams => exact ⟨maxsizeEq, contents, account⟩

theorem ingest_invariant_run (decode : List UInt8 → String) (events : List ChannelEvent)
    (observed : ObservedChannel) (reached : run decode events = some observed) :
    IngestInvariant observed :=
  foldlm_invariant _ _ (fun _ _ _ inv stepped => inv.step stepped) events initial observed
    ingest_invariant_initial reached

/-- The observer's `built` is the list of records built from the run's messages. -/
theorem run_built (decode : List UInt8 → String) (events : List ChannelEvent)
    (observed : ObservedChannel) (reached : run decode events = some observed) :
    observed.built = builtRecords decode events :=
  foldlm_accumulates _ built (ChannelEvent.builtRecord decode) (fun _ _ _ stepped => by
    obtain ⟨_, -, rfl⟩ := Option.map_eq_some'.mp stepped
    rfl) events initial observed reached

end ObservedChannel

theorem ObservedChannel.run_of_channel_run (decode : List UInt8 → String)
    (events : List ChannelEvent) (channel : Channel) (reached : Channel.run decode events = some channel) :
    ∃ observed, ObservedChannel.run decode events = some observed ∧ observed.channel = channel := by
  have projected := ObservedChannel.run_channel decode events
  rw [reached] at projected
  exact Option.map_eq_some'.mp projected

/-- What a packet channel guarantees after any run of its consumer, its
`api_packets` readers and its stream clients, where `ingested` are the
records whose insertion into the buffer has completed: they and the record
the consumer is handling are the records built from the consumed messages;
the buffer keeps the bound `MAX_QUEUE_SIZE` and, except between an eviction
and its insertion, holds the last `MAX_QUEUE_SIZE` records ingested; neither
the `queue.Empty` nor the `queue.Full` branch can be taken next;
`api_packets` returns the last 200 records ingested, and counts one fewer
than `min(k, 500)` while an insertion that evicted is under way. -/
structure IngestGuarantee (decode : List UInt8 → String) (events : List ChannelEvent)
    (channel : Channel) (ingested : List PyValue) : Prop where
  records : ingested ++ channel.phase.inFlight = builtRecords decode events
  maxsize_eq : channel.ring.maxsize = maxQueueSize
  settled : channel.phase.isInserting = false → channel.ring.items = lastN maxQueueSize ingested
  evict_ok : ∀ record, channel.phase = .buffering record → channel.ring.full = true →
    ∃ oldest, channel.ring.getNowait = .ok (oldest, channel.ring.tail)
  insert_ok : ∀ record, channel.phase = .inserting record →
    ∃ room, channel.ring.putNowait record = .ok (channel.ring.append record room)
  packets_eq : channel.apiPackets.packets = lastN 200 ingested
  count_eq : channel.apiPackets.count =
    if channel.phase.isInserting = true ∧ maxQueueSize ≤ ingested.length then maxQueueSize - 1
    else min ingested.length maxQueueSize

theorem ingest_run_guarantee (decode : List UInt8 → String) (events : List ChannelEvent)
    (channel : Channel) (reached : Channel.run decode events = some channel) :
    ∃ ingested, IngestGuarantee decode events channel ingested := by
  obtain ⟨observed, observedRun, rfl⟩ :=
    ObservedChannel.run_of_channel_run decode events channel reached
  obtain ⟨maxsizeEq, contents, account⟩ :=
    ObservedChannel.ingest_invariant_run decode events observed observedRun
  refine ⟨observed.ingested,
    account.trans (ObservedChannel.run_built decode events observed observedRun), maxsizeEq,
    fun settled => contents.trans (Channel.expected_ring_of_not_inserting _ settled), ?_, ?_,
    ?_, ?_⟩
  · intro record buffering full
    rw [buffering, Channel.expected_ring_of_not_inserting _
      (show (IngestPhase.buffering record).isInserting = false from rfl)] at contents
    obtain ⟨oldest, taken, -⟩ :=
      Channel.evict_oldest_of_full _ ((BoundedQueue.full_iff _).mp full)
    exact ⟨oldest, taken⟩
  · intro record inserting
    rw [inserting] at contents
    have room := ObservedChannel.room_of_inserting maxsizeEq contents
    exact ⟨room, BoundedQueue.put_nowait_of_lt _ record room⟩
  · rw [Channel.api_packets_packets, contents, last_n_expected_ring]
  · rw [Channel.api_packets_count, contents, length_expected_ring]

/-! ### A snapshot between the eviction and the insertion -/

/-- One whole `_handle_packet` call, with no other step in between. -/
def handleOnce (value : PyValue) (headers : List Header) (receivedAt : Int) : List ChannelEvent :=
  [.consume value headers receivedAt, .evict, .insert]

theorem fanout_initial (record : PyValue) :
    (Feed.initial : Feed PyValue).fanout record = .ok Feed.initial := rfl

/-- With no stream open, a whole call on a message that builds appends its
record to the buffer. -/
theorem handle_once_step (decode : List UInt8 → String) {value : PyValue} {headers : List Header}
    {receivedAt : Int} {record : PyValue}
    (built : buildRecord decode value headers receivedAt = .ok record)
    (ring : BoundedQueue PyValue) (before ingested : List PyValue) :
    (handleOnce value headers receivedAt).foldlM (ObservedChannel.step decode)
        ⟨⟨ring, Feed.initial, .idle⟩, before, ingested⟩ =
      some ⟨⟨Channel.insertRecord (Channel.evictOldest ring) record, Feed.initial, .idle⟩,
        before ++ [record], ingested ++ [record]⟩ := by
  simp [handleOnce, ObservedChannel.step, Channel.step, built, fanout_initial, Except.toOption,
    ChannelEvent.builtRecord]

theorem handle_once_replicate (decode : List UInt8 → String) {value : PyValue}
    {headers : List Header} {receivedAt : Int} {record : PyValue}
    (built : buildRecord decode value headers receivedAt = .ok record) (n : Nat) :
    ∃ ring, ((List.replicate n (handleOnce value headers receivedAt)).flatten).foldlM
        (ObservedChannel.step decode) ObservedChannel.initial =
      some ⟨⟨ring, Feed.initial, .idle⟩, List.replicate n record, List.replicate n record⟩ := by
  induction n with
  | zero => exact ⟨_, rfl⟩
  | succ n ih =>
      obtain ⟨ring, reached⟩ := ih
      refine ⟨Channel.insertRecord (Channel.evictOldest ring) record, ?_⟩
      rw [List.replicate_succ', List.flatten_append, List.foldlM_append, reached]
      simpa [List.replicate_succ'] using handle_once_step decode built ring _ _

/-- The first two steps of a call: the record is published and room is made. -/
theorem consume_evict_step (decode : List UInt8 → String) {value : PyValue}
    {headers : List Header} {receivedAt : Int} {record : PyValue}
    (built : buildRecord decode value headers receivedAt = .ok record)
    (ring : BoundedQueue PyValue) (before ingested : List PyValue) :
    [.consume value headers receivedAt, .evict].foldlM (ObservedChannel.step decode)
        ⟨⟨ring, Feed.initial, .idle⟩, before, ingested⟩ =
      some ⟨⟨Channel.evictOldest ring, Feed.initial, .inserting record⟩,
        before ++ [record], ingested⟩ := by
  simp [ObservedChannel.step, Channel.step, built, fanout_initial, Except.toOption,
    ChannelEvent.builtRecord]

theorem mid_insertion_run {record : PyValue} (built : buildRecord latin1 .none [] 0 = .ok record) :
    ∃ ring, ObservedChannel.run latin1
        ((List.replicate 500 (handleOnce .none [] 0)).flatten ++ [.consume .none [] 0, .evict]) =
      some ⟨⟨Channel.evictOldest ring, Feed.initial, .inserting record⟩,
        List.replicate 500 record ++ [record], List.replicate 500 record⟩ := by
  obtain ⟨ring, filled⟩ := handle_once_replicate latin1 built 500
  refine ⟨ring, ?_⟩
  rw [ObservedChannel.run, List.foldlM_append, filled]
  simp only [Option.bind_eq_bind, Option.some_bind]
  exact consume_evict_step latin1 built ring _ _

/-- After 500 whole calls, a snapshot taken between the next call's eviction
and its insertion counts 499 records, while 500 have been ingested and 501
built. -/
theorem api_packets_counts_499_mid_insertion :
    ∃ observed, ObservedChannel.run latin1
        ((List.replicate 500 (handleOnce .none [] 0)).flatten ++ [.consume .none [] 0, .evict]) =
        some observed ∧
      observed.ingested.length = 500 ∧ observed.built.length = 501 ∧
      observed.channel.apiPackets.count = 499 := by
  obtain ⟨record, built⟩ : ∃ record, buildRecord latin1 .none [] 0 = .ok record := ⟨_, rfl⟩
  obtain ⟨ring, reached⟩ := mid_insertion_run built
  have contents := (ObservedChannel.ingest_invariant_run _ _ _ reached).contents
  have long : ¬ (List.replicate 500 record).length < maxQueueSize := by
    rw [List.length_replicate]
    decide
  refine ⟨_, reached, List.length_replicate _ _, by rw [List.length_append, List.length_replicate]; rfl, ?_⟩
  rw [Channel.api_packets_count, contents, Channel.expected_ring_inserting, if_neg long, length_last_n,
    List.length_replicate]
  rfl

/-- The guarantee on the same run: 500 whole calls, then the next call's
fanout and eviction. -/
theorem evicting_channel_guarantee :
    ∃ channel, Channel.run latin1
        ((List.replicate 500 (handleOnce .none [] 0)).flatten ++ [.consume .none [] 0, .evict]) =
        some channel ∧
      ∃ ingested, IngestGuarantee latin1
        ((List.replicate 500 (handleOnce .none [] 0)).flatten ++ [.consume .none [] 0, .evict])
        channel ingested := by
  obtain ⟨record, built⟩ : ∃ record, buildRecord latin1 .none [] 0 = .ok record := ⟨_, rfl⟩
  obtain ⟨ring, reached⟩ := mid_insertion_run built
  have projected := ObservedChannel.run_channel latin1
    ((List.replicate 500 (handleOnce .none [] 0)).flatten ++ [.consume .none [] 0, .evict])
  rw [reached, Option.map_some'] at projected
  exact ⟨_, projected.symm, ingest_run_guarantee latin1 _ _ projected.symm⟩

/-! ### Messages with an infinite timestamp -/

/-- A message whose `timestamp` reads as an infinite float (`Infinity`, an
overflowing literal such as `1e400`, an integer past the largest double, or a
string such as `"inf"`) is lost: `_handle_packet` raises `OverflowError`
before the fanout, so the channel is left as it was and the record reaches
neither a subscriber nor the buffer. -/
theorem infinite_timestamp_drops_packet (decode : List UInt8 → String)
    (ring : BoundedQueue PyValue) (feed : Feed PyValue) (value : PyValue) (headers : List Header)
    (receivedAt : Int)
    (shape : ∀ v, PyDict.get? (messageEntries value) "labels" = some v →
      ∃ existing, v = .dict existing)
    {stamp : PyValue} (found : PyDict.get? (messageEntries value) "timestamp" = some stamp)
    {negative : Bool} (infinite : floatOfString stamp.toStr = .ok (.infinity negative)) :
    buildRecord decode value headers receivedAt =
        .error (.overflowError "cannot convert float infinity to integer") ∧
      Channel.step decode ⟨ring, feed, .idle⟩ (.consume value headers receivedAt) =
        some ⟨ring, feed, .idle⟩ ∧
      (ChannelEvent.consume value headers receivedAt).builtRecord decode = [] := by
  have raised := build_record_of_infinite_timestamp decode value headers receivedAt shape found
    infinite
  exact ⟨raised, by simp [Channel.step, raised], by simp [ChannelEvent.builtRecord, raised,
    Except.toOption]⟩

/-- `{"timestamp": Infinity}` with no headers, on a fresh channel. -/
theorem infinity_timestamp_dropped :
    buildRecord latin1 (.dict [("timestamp", .float (.infinity false))]) [] 0 =
        .error (.overflowError "cannot convert float infinity to integer") ∧
      Channel.step latin1 ⟨Channel.initial.ring, Channel.initial.feed, .idle⟩
          (.consume (.dict [("timestamp", .float (.infinity false))]) [] 0) =
        some ⟨Channel.initial.ring, Channel.initial.feed, .idle⟩ ∧
      (ChannelEvent.consume (.dict [("timestamp", .float (.infinity false))]) [] 0).builtRecord
        latin1 = [] :=
  infinite_timestamp_drops_packet latin1 _ _ _ [] 0 (fun _ found => by cases found) rfl rfl

end VoipSimulator.Console
