import VoipSimulator.Python.Queue

/-!
# Server-sent-event fanout

`_handle_packet` and `_handle_response` end with the same loop over a
subscriber list (`sse_subscribers[channel]` or `response_sse_subscribers`):
`put_nowait` into every registered queue, collect the queues that raised
`queue.Full`, then `remove` each of them. `api_stream` and
`api_stream_responses` append a fresh queue and run a generator that reads it
until the client goes away, whose `finally` removes the queue if it is still
registered. This module models that shared loop once, as `Feed.fanout`, with
the streams as a heap indexed by the order in which they were opened: the
subscriber list holds indices, as the Python list holds queue objects.

Every step holds `sse_lock` or touches one queue under that queue's own lock,
so each event below is one atomic step; a client read that falls between two
`put_nowait` calls of one fanout touches only its own queue and commutes with
the others.
-/

namespace VoipSimulator.Console

open VoipSimulator.Python

set_option autoImplicit false

/-- One stream: the queue its endpoint created and whether its generator is
still running. -/
structure Stream (α : Type) where
  queue : BoundedQueue α
  running : Bool

structure Feed (α : Type) where
  subscribers : List Nat
  streams : List (Stream α)

inductive FeedEvent (α : Type)
  | subscribe
  | publish (item : α)
  | read (stream : Nat)
  | close (stream : Nat)

/-- The item an event publishes, if any. -/
def FeedEvent.published {α : Type} : FeedEvent α → List α
  | .publish item => [item]
  | _ => []

namespace Feed

variable {α : Type}

def initial : Feed α := ⟨[], []⟩

/-- The `sub_queue` of `api_stream` (200) or `api_stream_responses` (100),
appended to the subscriber list under `sse_lock`. -/
def subscribe (feed : Feed α) (maxsize : Nat) (positive : 0 < maxsize) : Feed α :=
  ⟨feed.subscribers ++ [feed.streams.length],
    feed.streams ++ [⟨BoundedQueue.empty maxsize positive, true⟩]⟩

/-- One turn of `for q in subscribers`: `q.put_nowait(item)`, and
`dead.append(q)` on `queue.Full`. -/
def offerTo (item : α) (acc : List (Stream α) × List Nat) (q : Nat) :
    List (Stream α) × List Nat :=
  match acc.1[q]? with
  | none => acc
  | some stream =>
      match stream.queue.putNowait item with
      | .ok queue => (acc.1.set q { stream with queue }, acc.2)
      | .error _ => (acc.1, acc.2 ++ [q])

/-- The fanout of `_handle_packet` and `_handle_response`. -/
def fanout (feed : Feed α) (item : α) : Except PyException (Feed α) := do
  let (streams, dead) := feed.subscribers.foldl (offerTo item) (feed.streams, [])
  let subscribers ← dead.foldlM listRemove feed.subscribers
  return ⟨subscribers, streams⟩

/-- One `sub_queue.get(timeout=15)` of a generator: the oldest item, or
nothing when the wait ends in a heartbeat. -/
def read (feed : Feed α) (q : Nat) : Feed α × Option α :=
  match feed.streams[q]? with
  | none => (feed, none)
  | some stream =>
      match stream.queue.getNowait with
      | .ok (item, queue) => (⟨feed.subscribers, feed.streams.set q { stream with queue }⟩, some item)
      | .error _ => (feed, none)

/-- The generator's `finally`: remove `sub_queue` if it is still registered. -/
def close (feed : Feed α) (q : Nat) : Feed α :=
  ⟨if q ∈ feed.subscribers then feed.subscribers.erase q else feed.subscribers,
    feed.streams.modify (fun stream => { stream with running := false }) q⟩

/-- Whether stream `q` exists and its generator still runs. -/
def running (feed : Feed α) (q : Nat) : Bool :=
  (feed.streams[q]?.map Stream.running).getD false

/-- One step of a feed. Reads and closes belong to a running generator. -/
def step (maxsize : Nat) (positive : 0 < maxsize) (feed : Feed α) :
    FeedEvent α → Option (Feed α)
  | .subscribe => some (feed.subscribe maxsize positive)
  | .publish item => (feed.fanout item).toOption
  | .read q => if feed.running q then some (feed.read q).1 else none
  | .close q => if feed.running q then some (feed.close q) else none

def run (maxsize : Nat) (positive : 0 < maxsize) (events : List (FeedEvent α)) :
    Option (Feed α) :=
  events.foldlM (step maxsize positive) initial

/-! ### One fanout -/

/-- What `put_nowait` leaves in one stream; a full queue is left as it is. -/
def offerStream (item : α) (stream : Stream α) : Stream α :=
  match stream.queue.putNowait item with
  | .ok queue => { stream with queue }
  | .error _ => stream

/-- Whether stream `q` exists and its queue is full. -/
def fullAt (streams : List (Stream α)) (q : Nat) : Bool :=
  (streams[q]?.map fun stream => stream.queue.full).getD false

theorem offer_stream_of_full {item : α} {stream : Stream α} (full : stream.queue.full = true) :
    offerStream item stream = stream := by
  rw [BoundedQueue.full_iff] at full
  simp [offerStream, BoundedQueue.put_nowait_of_full _ _ full.ge]

theorem offer_stream_of_room {item : α} {stream : Stream α}
    (room : stream.queue.items.length < stream.queue.maxsize) :
    offerStream item stream = { stream with queue := stream.queue.append item room } := by
  simp [offerStream, BoundedQueue.put_nowait_of_lt _ _ room]

private theorem set_eq_modify {β : Type} {l : List β} {q : Nat} {x : β} (f : β → β)
    (at_q : l[q]? = some x) : l.set q (f x) = l.modify f q := by
  apply List.ext_getElem?
  intro n
  rw [List.getElem?_set, List.getElem?_modify]
  by_cases same : q = n
  · subst same
    simp [at_q, (List.getElem?_eq_some_iff.mp at_q).1]
  · simp [same]

theorem modify_eq_self_of {β : Type} {l : List β} {q : Nat} (f : β → β)
    (fixed : ∀ x, l[q]? = some x → f x = x) : l.modify f q = l := by
  apply List.ext_getElem?
  intro n
  rw [List.getElem?_modify]
  by_cases same : q = n
  · subst same
    cases at_q : l[q]? with
    | none => rfl
    | some x => simp [fixed x at_q]
  · simp [same]

theorem offer_to_eq (item : α) (streams : List (Stream α)) (dead : List Nat) (q : Nat) :
    offerTo item (streams, dead) q =
      (streams.modify (offerStream item) q, if fullAt streams q then dead ++ [q] else dead) := by
  unfold offerTo
  cases at_q : streams[q]? with
  | none =>
      have fixed : ∀ x, streams[q]? = some x → offerStream item x = x := by
        intro x same
        rw [at_q] at same
        cases same
      simp [fullAt, at_q, modify_eq_self_of _ fixed]
  | some stream =>
      by_cases room : stream.queue.items.length < stream.queue.maxsize
      · have notFull : stream.queue.full = false := by simpa [BoundedQueue.full] using room
        rw [← set_eq_modify _ at_q, offer_stream_of_room room]
        simp [BoundedQueue.put_nowait_of_lt _ _ room, fullAt, at_q, notFull]
      · have full : stream.queue.full = true := by simpa [BoundedQueue.full] using room
        have fixed : ∀ x, streams[q]? = some x → offerStream item x = x := by
          intro x same
          rw [at_q] at same
          cases same
          exact offer_stream_of_full full
        rw [modify_eq_self_of _ fixed]
        simp [BoundedQueue.put_nowait_of_full _ _ (Nat.not_lt.mp room), fullAt, at_q, full]

/-- The offer loop over a duplicate-free subscriber list puts `item` into
every registered queue with room and marks exactly the full ones dead. -/
theorem foldl_offer_to (item : α) (subscribers : List Nat) (unique : subscribers.Nodup)
    (streams : List (Stream α)) (dead : List Nat) :
    subscribers.foldl (offerTo item) (streams, dead) =
      (streams.mapIdx fun i stream => if i ∈ subscribers then offerStream item stream else stream,
        dead ++ subscribers.filter (fullAt streams)) := by
  induction subscribers generalizing streams dead with
  | nil =>
      simp only [List.foldl_nil, List.not_mem_nil, if_false, List.filter_nil, List.append_nil]
      exact Prod.ext (List.ext_getElem? fun n => by simp [List.getElem?_mapIdx]) rfl
  | cons q rest ih =>
      obtain ⟨fresh, restUnique⟩ := List.nodup_cons.mp unique
      rw [List.foldl_cons, offer_to_eq, ih restUnique]
      have others : ∀ p ∈ rest, fullAt (streams.modify (offerStream item) q) p = fullAt streams p := by
        intro p member
        have differ : q ≠ p := by
          rintro rfl
          exact fresh member
        simp [fullAt, List.getElem?_modify, differ]
      apply Prod.ext
      · apply List.ext_getElem?
        intro n
        simp only [List.getElem?_mapIdx, List.getElem?_modify, List.mem_cons]
        by_cases same : q = n
        · subst same
          cases streams[q]? <;> simp [fresh]
        · cases streams[n]? <;> simp [same, Ne.symm same]
      · rw [List.filter_congr others, List.filter_cons]
        split <;> simp

theorem foldlm_list_remove (dead subscribers : List Nat) (unique : subscribers.Nodup)
    (deadUnique : dead.Nodup) (registered : ∀ q ∈ dead, q ∈ subscribers) :
    dead.foldlM listRemove subscribers = .ok (subscribers.filter fun q => q ∉ dead) := by
  induction dead generalizing subscribers with
  | nil => simp; rfl
  | cons q rest ih =>
      obtain ⟨fresh, restUnique⟩ := List.nodup_cons.mp deadUnique
      have stillRegistered : ∀ p ∈ rest, p ∈ subscribers.erase q := by
        intro p member
        have differ : p ≠ q := by
          rintro rfl
          exact fresh member
        exact (List.mem_erase_of_ne differ).mpr (registered p (List.mem_cons_of_mem q member))
      rw [List.foldlM_cons, list_remove_of_mem (registered q (List.mem_cons_self q rest))]
      simp only [bind, Except.bind]
      rw [ih _ (unique.erase q) restUnique stillRegistered, unique.erase_eq_filter, List.filter_filter]
      congr 1
      apply List.filter_congr
      intro p _
      by_cases same : p = q <;> by_cases later : p ∈ rest <;> simp [same, later]

/-- One fanout over a duplicate-free subscriber list never raises: it puts
`item` into every registered queue with room and removes exactly the
registered queues that were full. -/
theorem fanout_eq (feed : Feed α) (item : α) (unique : feed.subscribers.Nodup) :
    feed.fanout item =
      .ok ⟨feed.subscribers.filter (fun q => !fullAt feed.streams q),
        feed.streams.mapIdx fun i stream =>
          if i ∈ feed.subscribers then offerStream item stream else stream⟩ := by
  have deadUnique : (feed.subscribers.filter (fullAt feed.streams)).Nodup := unique.filter _
  simp only [fanout, foldl_offer_to item _ unique, List.nil_append]
  rw [foldlm_list_remove _ _ unique deadUnique (fun q member => (List.mem_filter.mp member).1)]
  simp only [bind, Except.bind, pure, Except.pure]
  congr 2
  apply List.filter_congr
  intro q member
  simp [member]

theorem read_of_cons (feed : Feed α) {q : Nat} {stream : Stream α} {item : α} {rest : List α}
    (at_q : feed.streams[q]? = some stream) (front : stream.queue.items = item :: rest) :
    feed.read q = (⟨feed.subscribers, feed.streams.set q { stream with queue := stream.queue.tail }⟩,
      some item) := by
  simp [read, at_q, BoundedQueue.get_nowait_of_cons _ front]

theorem read_of_nil (feed : Feed α) {q : Nat} {stream : Stream α}
    (at_q : feed.streams[q]? = some stream) (empty : stream.queue.items = []) :
    feed.read q = (feed, none) := by
  simp [read, at_q, BoundedQueue.get_nowait_of_nil _ empty]

theorem mem_close_subscribers (feed : Feed α) (q i : Nat) (unique : feed.subscribers.Nodup) :
    i ∈ (feed.close q).subscribers ↔ i ∈ feed.subscribers ∧ i ≠ q := by
  unfold close
  split
  · rw [unique.mem_erase_iff, and_comm]
  · constructor
    · intro member
      exact ⟨member, fun same => by simp_all⟩
    · exact And.left

theorem running_stream (feed : Feed α) {q : Nat} (isRunning : feed.running q = true) :
    ∃ stream, feed.streams[q]? = some stream := by
  cases atQ : feed.streams[q]? with
  | none => simp [running, atQ] at isRunning
  | some stream => exact ⟨stream, rfl⟩

end Feed

/-! ### Runs -/

/-- A property kept by every step holds after every run. -/
theorem foldlm_invariant {σ ε : Type} (step : σ → ε → Option σ) (holds : σ → Prop)
    (kept : ∀ state event next, holds state → step state event = some next → holds next) :
    ∀ (events : List ε) (state final : σ), holds state →
      events.foldlM step state = some final → holds final := by
  intro events
  induction events with
  | nil =>
      intro state final start reached
      cases reached
      exact start
  | cons event rest ih =>
      intro state final start reached
      rw [List.foldlM_cons] at reached
      cases next : step state event with
      | none => simp [next] at reached
      | some next' =>
          simp only [next, Option.bind_eq_bind, Option.some_bind] at reached
          exact ih next' final (kept state event next' start next) reached

/-- A run of a step function that projects onto another step function
projects onto the corresponding run. -/
theorem foldlm_map_of_step {σ τ ε : Type} (step : σ → ε → Option σ) (base : τ → ε → Option τ)
    (project : σ → τ) (commute : ∀ state event, (step state event).map project =
      base (project state) event) :
    ∀ (events : List ε) (state : σ),
      (events.foldlM step state).map project = events.foldlM base (project state) := by
  intro events
  induction events with
  | nil => intro state; rfl
  | cons event rest ih =>
      intro state
      have one := commute state event
      simp only [List.foldlM_cons]
      cases next : step state event with
      | none =>
          rw [next] at one
          simp only [Option.map_none'] at one
          simp [← one]
      | some next' =>
          rw [next] at one
          simp only [Option.map_some'] at one
          simp [← one, ih]

/-- A property kept by every step of the events a run may contain holds after
every run of such events. -/
theorem foldlm_invariant_of_forall {σ ε : Type} (step : σ → ε → Option σ) (holds : σ → Prop)
    (allowed : ε → Prop)
    (kept : ∀ state event next, allowed event → holds state → step state event = some next →
      holds next) :
    ∀ (events : List ε) (state final : σ), (∀ event ∈ events, allowed event) → holds state →
      events.foldlM step state = some final → holds final := by
  intro events
  induction events with
  | nil =>
      intro state final _ start reached
      cases reached
      exact start
  | cons event rest ih =>
      intro state final permitted start reached
      rw [List.foldlM_cons] at reached
      obtain ⟨next, stepped, reached⟩ := Option.bind_eq_some.mp reached
      exact ih next final (fun other member => permitted other (List.mem_cons_of_mem _ member))
        (kept state event next (permitted event (List.mem_cons_self _ _)) start stepped) reached

/-- A step function each of whose steps performs a list of steps of another
projects, run for run, onto the run of the concatenated lists. -/
theorem foldlm_flat_map_of_step {σ τ ε δ : Type} (step : σ → ε → Option σ)
    (base : τ → δ → Option τ) (project : σ → τ) (expand : ε → List δ)
    (simulates : ∀ state event next, step state event = some next →
      (expand event).foldlM base (project state) = some (project next)) :
    ∀ (events : List ε) (state final : σ), events.foldlM step state = some final →
      (events.flatMap expand).foldlM base (project state) = some (project final) := by
  intro events
  induction events with
  | nil =>
      intro state final reached
      cases reached
      rfl
  | cons event rest ih =>
      intro state final reached
      rw [List.foldlM_cons] at reached
      obtain ⟨next, stepped, reached⟩ := Option.bind_eq_some.mp reached
      rw [List.flatMap_cons, List.foldlM_append, simulates state event next stepped]
      exact ih next final reached

/-- A field that every step extends by what its event contributes holds,
after a run, what the run's events contribute. -/
theorem foldlm_accumulates {σ ε β : Type} (step : σ → ε → Option σ) (acc : σ → List β)
    (out : ε → List β) (appends : ∀ state event next, step state event = some next →
      acc next = acc state ++ out event) :
    ∀ (events : List ε) (state final : σ), events.foldlM step state = some final →
      acc final = acc state ++ events.flatMap out := by
  intro events
  induction events with
  | nil =>
      intro state final reached
      cases reached
      simp
  | cons event rest ih =>
      intro state final reached
      rw [List.foldlM_cons] at reached
      obtain ⟨next, stepped, reached⟩ := Option.bind_eq_some.mp reached
      rw [ih next final reached, appends state event next stepped, List.flatMap_cons,
        List.append_assoc]

/-! ### What each stream receives -/

/-- What an observer of a feed records about one stream; none of it is state
of the code. `delivered` is what the generator yielded as `data:` events;
`start` and `stop` count the feed's publishes before the stream was
registered and before it left the subscriber list. -/
structure StreamRecord (α : Type) where
  start : Nat
  stop : Option Nat
  delivered : List α

/-- A feed together with its publishes and one record per stream. -/
structure ObservedFeed (α : Type) where
  feed : Feed α
  published : List α
  records : List (StreamRecord α)

/-- The publishes a stream has received: from its registration to its
departure, or to now. -/
def window {α : Type} (published : List α) (record : StreamRecord α) : List α :=
  (published.drop record.start).take (record.stop.getD published.length - record.start)

section Window

variable {α : Type} {published : List α} {record : StreamRecord α}

theorem window_of_registered (registered : record.stop = none) :
    window published record = published.drop record.start := by
  simp [window, registered]

theorem window_append_of_registered (item : α) (registered : record.stop = none)
    (started : record.start ≤ published.length) :
    window (published ++ [item]) record = window published record ++ [item] := by
  rw [window_of_registered registered, window_of_registered registered,
    List.drop_append_of_le_length started]

theorem window_append_of_stopped (item : α) {count : Nat} (stopped : record.stop = some count)
    (within : count ≤ published.length) :
    window (published ++ [item]) record = window published record := by
  simp only [window, stopped, Option.getD_some]
  rw [List.drop_append_eq_append_drop, List.take_append_of_le_length (by simp; omega)]

theorem window_stop_now (registered : record.stop = none) :
    window published { record with stop := some published.length } = window published record := by
  simp [window, registered]

end Window

/-- What holds of every stream of an observed feed: its queue has the
endpoint's bound, it is registered exactly until its departure, and what its
client read followed by what is still queued is the window of publishes
between its registration and its departure. -/
structure StreamInvariant {α : Type} (maxsize : Nat) (published : List α) (registered : Prop)
    (stream : Stream α) (record : StreamRecord α) : Prop where
  maxsize_eq : stream.queue.maxsize = maxsize
  start_le : record.start ≤ record.stop.getD published.length
  stop_le : record.stop.getD published.length ≤ published.length
  registered_iff : registered ↔ record.stop = none
  received : record.delivered ++ stream.queue.items = window published record

namespace ObservedFeed

variable {α : Type}

def initial : ObservedFeed α := ⟨Feed.initial, [], []⟩

/-- Stamp the streams that left the subscriber list in a step. -/
def depart (before after : List Nat) (count : Nat) (records : List (StreamRecord α)) :
    List (StreamRecord α) :=
  records.mapIdx fun i record =>
    if i ∈ before ∧ i ∉ after then { record with stop := some count } else record

def step (maxsize : Nat) (positive : 0 < maxsize) (observed : ObservedFeed α) :
    FeedEvent α → Option (ObservedFeed α)
  | .subscribe =>
      some ⟨observed.feed.subscribe maxsize positive, observed.published,
        observed.records ++ [⟨observed.published.length, none, []⟩]⟩
  | .publish item =>
      (observed.feed.fanout item).toOption.map fun feed =>
        ⟨feed, observed.published ++ [item],
          depart observed.feed.subscribers feed.subscribers observed.published.length
            observed.records⟩
  | .read q =>
      if observed.feed.running q then
        some ⟨(observed.feed.read q).1, observed.published,
          observed.records.modify (fun record =>
            { record with delivered := record.delivered ++ (observed.feed.read q).2.toList }) q⟩
      else none
  | .close q =>
      if observed.feed.running q then
        some ⟨observed.feed.close q, observed.published,
          depart observed.feed.subscribers (observed.feed.close q).subscribers
            observed.published.length observed.records⟩
      else none

def run (maxsize : Nat) (positive : 0 < maxsize) (events : List (FeedEvent α)) :
    Option (ObservedFeed α) :=
  events.foldlM (step maxsize positive) initial

theorem step_feed (maxsize : Nat) (positive : 0 < maxsize) (observed : ObservedFeed α)
    (event : FeedEvent α) :
    (observed.step maxsize positive event).map feed =
      observed.feed.step maxsize positive event := by
  cases event with
  | subscribe => rfl
  | publish item =>
      simp only [step, Feed.step]
      cases observed.feed.fanout item <;> rfl
  | read q => simp only [step, Feed.step]; split <;> rfl
  | close q => simp only [step, Feed.step]; split <;> rfl

/-- The invariant of every observed run of a feed whose endpoint creates
queues of `maxsize`. -/
structure Invariant (maxsize : Nat) (observed : ObservedFeed α) : Prop where
  unique : observed.feed.subscribers.Nodup
  registered_lt : ∀ q ∈ observed.feed.subscribers, q < observed.feed.streams.length
  length_eq : observed.records.length = observed.feed.streams.length
  streams : ∀ i stream record, observed.feed.streams[i]? = some stream →
    observed.records[i]? = some record →
    StreamInvariant maxsize observed.published (i ∈ observed.feed.subscribers) stream record

theorem invariant_initial (maxsize : Nat) : Invariant maxsize (initial : ObservedFeed α) :=
  ⟨List.nodup_nil, by simp [initial, Feed.initial], rfl, by simp [initial, Feed.initial]⟩

private theorem get_elem?_append_singleton {β : Type} (l : List β) (a : β) (i : Nat) :
    (l ++ [a])[i]? = if i < l.length then l[i]? else if i = l.length then some a else none := by
  split
  · exact List.getElem?_append_left ‹_›
  · rw [List.getElem?_append_right (by omega)]
    split
    · subst_vars
      simp
    · have beyond : 0 < i - l.length := by omega
      simp [List.getElem?_cons, Nat.pos_iff_ne_zero.mp beyond]

theorem Invariant.subscribe {maxsize : Nat} (positive : 0 < maxsize) {observed : ObservedFeed α}
    (inv : Invariant maxsize observed) :
    Invariant maxsize ⟨observed.feed.subscribe maxsize positive, observed.published,
      observed.records ++ [⟨observed.published.length, none, []⟩]⟩ := by
  have fresh : observed.feed.streams.length ∉ observed.feed.subscribers :=
    fun member => Nat.lt_irrefl _ (inv.registered_lt _ member)
  refine ⟨?_, ?_, by simp [Feed.subscribe, inv.length_eq], ?_⟩
  · exact List.nodup_append.mpr
      ⟨inv.unique, List.nodup_singleton _, List.disjoint_singleton.mpr fresh⟩
  · intro q member
    simp only [Feed.subscribe, List.mem_append, List.mem_singleton, List.length_append,
      List.length_singleton] at member ⊢
    rcases member with registered | rfl
    · exact Nat.lt_succ_of_lt (inv.registered_lt q registered)
    · exact Nat.lt_succ_self _
  · intro i stream record atStream atRecord
    simp only [Feed.subscribe, get_elem?_append_singleton, inv.length_eq] at atStream atRecord ⊢
    by_cases old : i < observed.feed.streams.length
    · rw [if_pos old] at atStream atRecord
      have differ : i ≠ observed.feed.streams.length := by omega
      simpa [differ] using inv.streams i stream record atStream atRecord
    · rw [if_neg old] at atStream atRecord
      by_cases new : i = observed.feed.streams.length
      · rw [if_pos new] at atStream atRecord
        cases atStream
        cases atRecord
        exact ⟨rfl, le_refl _, le_refl _, by simp [new], by simp [window]⟩
      · rw [if_neg new] at atStream
        cases atStream

theorem Invariant.publish {maxsize : Nat} {positive : 0 < maxsize} {observed next : ObservedFeed α}
    {item : α} (inv : Invariant maxsize observed)
    (stepped : observed.step maxsize positive (.publish item) = some next) :
    Invariant maxsize next := by
  simp only [step, Feed.fanout_eq _ _ inv.unique, Except.toOption, Option.map_some',
    Option.some.injEq] at stepped
  subst stepped
  refine ⟨inv.unique.filter _, ?_, by simp [depart, inv.length_eq], ?_⟩
  · intro q member
    simpa using inv.registered_lt q (List.mem_filter.mp member).1
  · intro i stream' record' atStream atRecord
    simp only [List.getElem?_mapIdx, depart, Option.map_eq_some'] at atStream atRecord
    obtain ⟨stream, atOld, rfl⟩ := atStream
    obtain ⟨record, atOldRecord, rfl⟩ := atRecord
    have old := inv.streams i stream record atOld atOldRecord
    have fullEq : Feed.fullAt observed.feed.streams i = stream.queue.full := by
      simp [Feed.fullAt, atOld]
    have stays : i ∈ observed.feed.subscribers.filter (fun q => !Feed.fullAt observed.feed.streams q)
        ↔ i ∈ observed.feed.subscribers ∧ stream.queue.full = false := by
      simp [fullEq]
    have counted := old.stop_le
    by_cases registered : i ∈ observed.feed.subscribers
    · have open_ : record.stop = none := old.registered_iff.mp registered
      have started := old.start_le
      simp only [open_, Option.getD_none] at started
      by_cases full : stream.queue.full = true
      · have leaves : i ∉ observed.feed.subscribers.filter
            (fun q => !Feed.fullAt observed.feed.streams q) := by simp [stays, full]
        simp only [registered, leaves, not_false_eq_true, and_self, if_true,
          Feed.offer_stream_of_full full]
        refine ⟨old.maxsize_eq, by simpa using started, by simp, by simp [leaves], ?_⟩
        rw [window_append_of_stopped item rfl (le_refl _), window_stop_now open_, old.received]
      · have room : stream.queue.items.length < stream.queue.maxsize := by
          simpa [BoundedQueue.full] using full
        have remains : i ∈ observed.feed.subscribers.filter
            (fun q => !Feed.fullAt observed.feed.streams q) := by simp [stays, registered, full]
        simp only [registered, remains, not_true_eq_false, and_false, if_false, if_true,
          Feed.offer_stream_of_room room]
        refine ⟨old.maxsize_eq, by simp [open_]; omega, by simp [open_], by simp [remains, open_], ?_⟩
        rw [window_append_of_registered item open_ started, ← old.received]
        simp
    · have leaves : i ∉ observed.feed.subscribers.filter
          (fun q => !Feed.fullAt observed.feed.streams q) := by simp [stays, registered]
      obtain ⟨count, stopped⟩ := Option.ne_none_iff_exists'.mp
        (fun none => registered (old.registered_iff.mpr none))
      simp only [stopped, Option.getD_some] at counted
      simp only [registered, false_and, if_false]
      refine ⟨old.maxsize_eq, by simpa [stopped] using old.start_le, by simp [stopped]; omega,
        by simp [leaves, stopped], ?_⟩
      rw [window_append_of_stopped item stopped counted, old.received]

theorem Invariant.read {maxsize : Nat} {positive : 0 < maxsize} {observed next : ObservedFeed α}
    {q : Nat} (inv : Invariant maxsize observed)
    (stepped : observed.step maxsize positive (.read q) = some next) :
    Invariant maxsize next := by
  simp only [step] at stepped
  split at stepped
  case isFalse => cases stepped
  case isTrue isRunning =>
  cases stepped
  obtain ⟨stream, atQ⟩ := observed.feed.running_stream isRunning
  cases front : stream.queue.items with
  | nil =>
      rw [Feed.read_of_nil _ atQ front]
      simpa [Feed.modify_eq_self_of] using inv
  | cons item rest =>
      rw [Feed.read_of_cons _ atQ front]
      refine ⟨inv.unique, by simpa using inv.registered_lt, by simp [inv.length_eq], ?_⟩
      intro i stream' record' atStream atRecord
      simp only [List.getElem?_set, List.getElem?_modify] at atStream atRecord ⊢
      by_cases same : q = i
      · subst same
        have bound : q < observed.feed.streams.length := (List.getElem?_eq_some_iff.mp atQ).1
        simp only [if_true, bound, Option.some.injEq] at atStream
        obtain ⟨record, atOldRecord⟩ : ∃ record, observed.records[q]? = some record := by
          cases h : observed.records[q]? with
          | none => simp [h] at atRecord
          | some record => exact ⟨record, rfl⟩
        simp only [atOldRecord, if_true, Option.map_eq_map, Option.map_some',
          Option.some.injEq] at atRecord
        subst atStream atRecord
        have old := inv.streams q stream record atQ atOldRecord
        refine ⟨old.maxsize_eq, old.start_le, old.stop_le, old.registered_iff, ?_⟩
        simpa [window, front] using old.received
      · simp only [same, if_false] at atStream atRecord
        have unchanged : observed.records[i]? = some record' := by
          simpa using atRecord
        exact inv.streams i stream' record' atStream unchanged

theorem Invariant.close {maxsize : Nat} {positive : 0 < maxsize} {observed next : ObservedFeed α}
    {q : Nat} (inv : Invariant maxsize observed)
    (stepped : observed.step maxsize positive (.close q) = some next) :
    Invariant maxsize next := by
  simp only [step] at stepped
  split at stepped
  case isFalse => cases stepped
  case isTrue =>
  cases stepped
  have members := observed.feed.mem_close_subscribers q
  refine ⟨?_, ?_, by simp [depart, Feed.close, inv.length_eq], ?_⟩
  · unfold Feed.close
    split
    · exact inv.unique.erase q
    · exact inv.unique
  · intro i member
    simpa [Feed.close] using inv.registered_lt i ((members i inv.unique).mp member).1
  · intro i stream' record' atStream atRecord
    simp only [Feed.close, List.getElem?_modify, Option.map_eq_map,
      Option.map_eq_some'] at atStream
    simp only [depart, List.getElem?_mapIdx, Option.map_eq_some'] at atRecord
    obtain ⟨stream, atOld, rfl⟩ := atStream
    obtain ⟨record, atOldRecord, rfl⟩ := atRecord
    have old := inv.streams i stream record atOld atOldRecord
    have registeredNow := members i inv.unique
    by_cases departs : i ∈ observed.feed.subscribers ∧ i ∉ (observed.feed.close q).subscribers
    · have open_ : record.stop = none := old.registered_iff.mp departs.1
      have started := old.start_le
      simp only [open_, Option.getD_none] at started
      simp only [departs, not_false_eq_true, and_self, if_true]
      refine ⟨by split <;> exact old.maxsize_eq, by simpa using started, by simp,
        by simp [departs.2], ?_⟩
      rw [window_stop_now open_, ← old.received]
      split <;> rfl
    · simp only [departs, if_false]
      have sameMembership : i ∈ (observed.feed.close q).subscribers ↔
          i ∈ observed.feed.subscribers := by
        constructor
        · exact fun member => (registeredNow.mp member).1
        · intro member
          by_contra absent
          exact departs ⟨member, absent⟩
      refine ⟨by split <;> exact old.maxsize_eq, old.start_le, old.stop_le,
        sameMembership.trans old.registered_iff, ?_⟩
      split <;> exact old.received

theorem Invariant.step {maxsize : Nat} {positive : 0 < maxsize} {observed next : ObservedFeed α}
    {event : FeedEvent α} (inv : Invariant maxsize observed)
    (stepped : observed.step maxsize positive event = some next) : Invariant maxsize next := by
  cases event with
  | subscribe =>
      cases stepped
      exact inv.subscribe positive
  | publish item => exact inv.publish stepped
  | read q => exact inv.read stepped
  | close q => exact inv.close stepped

theorem invariant_run (maxsize : Nat) (positive : 0 < maxsize) (events : List (FeedEvent α))
    (observed : ObservedFeed α) (reached : run maxsize positive events = some observed) :
    Invariant maxsize observed :=
  foldlm_invariant _ _ (fun _ _ _ inv stepped => inv.step stepped) events initial observed
    (invariant_initial maxsize) reached

/-- Observing a run changes nothing in it: the feed of every observed run is
the feed of the run of the code. -/
theorem run_feed (maxsize : Nat) (positive : 0 < maxsize) (events : List (FeedEvent α)) :
    (run maxsize positive events).map feed = Feed.run maxsize positive events :=
  foldlm_map_of_step _ _ feed (step_feed maxsize positive) events initial

theorem run_of_feed_run (maxsize : Nat) (positive : 0 < maxsize) (events : List (FeedEvent α))
    (feed : Feed α) (reached : Feed.run maxsize positive events = some feed) :
    ∃ observed, run maxsize positive events = some observed ∧ observed.feed = feed := by
  have projected := run_feed maxsize positive events
  rw [reached] at projected
  cases observedRun : run maxsize positive events with
  | none => simp [observedRun] at projected
  | some observed =>
      rw [observedRun] at projected
      exact ⟨observed, rfl, Option.some.inj projected⟩

/-- The observer's `published` is the list of the run's publishes. -/
theorem run_published (maxsize : Nat) (positive : 0 < maxsize) (events : List (FeedEvent α))
    (observed : ObservedFeed α) (reached : run maxsize positive events = some observed) :
    observed.published = events.flatMap FeedEvent.published :=
  foldlm_accumulates _ published FeedEvent.published (fun state event next stepped => by
    cases event with
    | subscribe => cases stepped; simp [FeedEvent.published]
    | publish item =>
        obtain ⟨_, -, rfl⟩ := Option.map_eq_some'.mp stepped
        rfl
    | read q =>
        simp only [step] at stepped
        split at stepped <;> cases stepped
        simp [FeedEvent.published]
    | close q =>
        simp only [step] at stepped
        split at stepped <;> cases stepped
        simp [FeedEvent.published]) events initial observed reached

end ObservedFeed

/-- The fanout guarantee after a run of a feed whose endpoint creates queues
of `maxsize`: the subscriber list never holds a queue twice, so the next
fanout never raises; that fanout puts the item into exactly the registered
queues with room and drops exactly the full ones; every stream has its
record; every queue keeps the endpoint's bound; and what a stream's client
has read, followed by what is still queued, is exactly the run of publishes
from its registration up to its departure (the first publish that found it
full, or its close), or up to now while it is registered; so the client has
read a prefix of that run, in order. -/
structure FeedGuarantee {α : Type} (maxsize : Nat) (feed : Feed α) (observed : ObservedFeed α) :
    Prop where
  observes : observed.feed = feed
  unique : feed.subscribers.Nodup
  fanout_eq : ∀ item, feed.fanout item =
    .ok ⟨feed.subscribers.filter (fun q => !Feed.fullAt feed.streams q),
      feed.streams.mapIdx fun i stream =>
        if i ∈ feed.subscribers then Feed.offerStream item stream else stream⟩
  recorded : observed.records.length = feed.streams.length
  streams : ∀ i stream record, feed.streams[i]? = some stream → observed.records[i]? = some record →
    stream.queue.maxsize = maxsize ∧ stream.queue.items.length ≤ maxsize ∧
    (i ∈ feed.subscribers ↔ record.stop = none) ∧
    record.delivered ++ stream.queue.items = window observed.published record ∧
    record.delivered <+: window observed.published record

theorem feed_run_guarantee {α : Type} (maxsize : Nat) (positive : 0 < maxsize)
    (events : List (FeedEvent α)) (feed : Feed α)
    (reached : Feed.run maxsize positive events = some feed) :
    ∃ observed : ObservedFeed α, ObservedFeed.run maxsize positive events = some observed ∧
      observed.published = events.flatMap FeedEvent.published ∧
      FeedGuarantee maxsize feed observed := by
  obtain ⟨observed, observedRun, projected⟩ :=
    ObservedFeed.run_of_feed_run maxsize positive events feed reached
  have inv := ObservedFeed.invariant_run maxsize positive events observed observedRun
  subst projected
  refine ⟨observed, observedRun, ObservedFeed.run_published _ _ _ _ observedRun,
    ⟨rfl, inv.unique, fun item => Feed.fanout_eq _ item inv.unique, inv.length_eq, ?_⟩⟩
  intro i stream record atStream atRecord
  have account := inv.streams i stream record atStream atRecord
  exact ⟨account.maxsize_eq, account.maxsize_eq ▸ stream.queue.length_le, account.registered_iff,
    account.received, account.received ▸ List.prefix_append _ _⟩

end VoipSimulator.Console
