import VoipSimulator.Console.Fanout

/-! The `while True` of `_start_packet_consumer` and `_start_response_consumer`
around `_consumer_loop`: make a consumer, poll it, hand every record to the
handler, whose exceptions `_consumer_loop` logs. An exception out of
`_make_consumer` or `consumer.poll` goes to the `except` clause, which sleeps
5 s; only then does the `finally` clause close the consumer, if one was made,
and the loop starts over. The two functions differ only in their topic, group
and handler (`backgroundConsumers`), so one machine models both. -/

namespace VoipSimulator.Console

open VoipSimulator.Python

set_option autoImplicit false

/-- Where a consumer thread's loop is. -/
inductive SupervisorPhase
  | connecting
  | polling (consumer : Nat)
  /-- In `time.sleep(5)`; `consumer` is what the `finally` clause will close. -/
  | backingOff (consumer : Option Nat)
  deriving DecidableEq, Repr

def SupervisorPhase.holding : SupervisorPhase → Option Nat
  | .connecting => none
  | .polling consumer => some consumer
  | .backingOff consumer => consumer

def SupervisorPhase.isBackingOff : SupervisorPhase → Bool
  | .backingOff _ => true
  | _ => false

/-- A consumer thread: consumer `n` is the `n`-th that `_make_consumer`
returned, and `closed` lists the consumers `close` was called on. -/
structure Supervisor (α : Type) where
  phase : SupervisorPhase
  made : Nat
  closed : List Nat
  handled : List α
  connects : Nat
  faults : Nat
  backoffs : Nat

inductive SupervisorEvent (α : Type)
  | connect (outcome : Except PyException Unit)
  | poll (outcome : Except PyException (List α))
  | wake

def SupervisorEvent.delivered {α : Type} : SupervisorEvent α → List α
  | .poll (.ok batch) => batch
  | _ => []

namespace Supervisor

variable {α : Type}

def initial : Supervisor α := ⟨.connecting, 0, [], [], 0, 0, 0⟩

def step (s : Supervisor α) : SupervisorEvent α → Option (Supervisor α)
  | .connect outcome =>
      match s.phase, outcome with
      | .connecting, .ok () =>
          some { s with phase := .polling s.made, made := s.made + 1, connects := s.connects + 1 }
      | .connecting, .error _ =>
          some { s with phase := .backingOff none, connects := s.connects + 1, faults := s.faults + 1 }
      | _, _ => none
  | .poll outcome =>
      match s.phase, outcome with
      | .polling _, .ok batch => some { s with handled := s.handled ++ batch }
      | .polling consumer, .error _ =>
          some { s with phase := .backingOff (some consumer), faults := s.faults + 1 }
      | _, _ => none
  | .wake =>
      match s.phase with
      | .backingOff consumer =>
          some { s with
            phase := .connecting, closed := s.closed ++ consumer.toList, backoffs := s.backoffs + 1 }
      | _ => none

def run (events : List (SupervisorEvent α)) : Option (Supervisor α) :=
  events.foldlM step initial

structure Invariant (s : Supervisor α) : Prop where
  closed_nodup : s.closed.Nodup
  closed_lt : ∀ c ∈ s.closed, c < s.made
  holding_open : ∀ c, s.phase.holding = some c → c < s.made ∧ c ∉ s.closed
  others_closed : ∀ c < s.made, s.phase.holding ≠ some c → c ∈ s.closed
  connects_eq : s.connects = s.backoffs + if s.phase = .connecting then 0 else 1
  faults_eq : s.faults = s.backoffs + if s.phase.isBackingOff then 1 else 0

theorem invariant_initial : Invariant (initial : Supervisor α) :=
  ⟨List.nodup_nil, fun _ member => absurd member (List.not_mem_nil _), fun _ held => (by cases held),
    fun _ below => absurd below (Nat.not_lt_zero _), rfl, rfl⟩

/-- Every call the loop makes, whatever it returns or raises, takes it on:
no phase is terminal. -/
theorem step_is_some (s : Supervisor α) :
    (s.phase = .connecting → ∀ outcome, (s.step (.connect outcome)).isSome) ∧
      (∀ consumer, s.phase = .polling consumer → ∀ outcome, (s.step (.poll outcome)).isSome) ∧
      (∀ consumer, s.phase = .backingOff consumer → (s.step .wake).isSome) := by
  refine ⟨fun phase outcome => ?_, fun consumer phase outcome => ?_, fun consumer phase => ?_⟩ <;>
    simp only [step, phase] <;> (try cases outcome) <;> rfl

theorem Invariant.step {s next : Supervisor α} (inv : Invariant s) {event : SupervisorEvent α}
    (stepped : s.step event = some next) : Invariant next := by
  obtain ⟨nodup, closedLt, holdingOpen, othersClosed, connectsEq, faultsEq⟩ := inv
  cases event with
  | connect outcome =>
      simp only [Supervisor.step] at stepped
      split at stepped <;> cases stepped
      · rename_i connecting
        rw [connecting] at holdingOpen othersClosed connectsEq faultsEq
        refine ⟨nodup, fun c member => Nat.lt_succ_of_lt (closedLt c member), ?_, ?_, ?_, ?_⟩
        · intro c held
          cases held
          exact ⟨Nat.lt_succ_self _, fun member => Nat.lt_irrefl _ (closedLt _ member)⟩
        · intro c below other
          have older : c < s.made :=
            Nat.lt_of_le_of_ne (Nat.le_of_lt_succ below) fun same => other (by subst same; rfl)
          exact othersClosed c older (by simp [SupervisorPhase.holding])
        all_goals simp_all [SupervisorPhase.isBackingOff]
      · rename_i _ connecting
        rw [connecting] at holdingOpen othersClosed connectsEq faultsEq
        refine ⟨nodup, closedLt, fun c held => (by cases held), ?_, ?_, ?_⟩
        · exact fun c below _ => othersClosed c below (by simp [SupervisorPhase.holding])
        all_goals simp_all [SupervisorPhase.isBackingOff]
  | poll outcome =>
      simp only [Supervisor.step] at stepped
      split at stepped <;> cases stepped
      · exact ⟨nodup, closedLt, holdingOpen, othersClosed, connectsEq, faultsEq⟩
      · rename_i consumer _ polling
        rw [polling] at holdingOpen othersClosed connectsEq faultsEq
        exact ⟨nodup, closedLt, holdingOpen, othersClosed, by simpa using connectsEq,
          by simp_all [SupervisorPhase.isBackingOff]⟩
  | wake =>
      simp only [Supervisor.step] at stepped
      split at stepped <;> cases stepped
      rename_i consumer backingOff
      rw [backingOff] at holdingOpen othersClosed connectsEq faultsEq
      refine ⟨?_, ?_, fun c held => (by cases held), ?_, ?_, ?_⟩
      · cases consumer with
        | none => simpa using nodup
        | some c =>
            exact List.nodup_append.mpr ⟨nodup, List.nodup_singleton c,
              fun d member same => by
                simp only [Option.toList_some, List.mem_singleton] at same
                exact (holdingOpen c rfl).2 (same ▸ member)⟩
      · intro c member
        rcases List.mem_append.mp member with old | new
        · exact closedLt c old
        · cases consumer with
          | none => cases new
          | some held =>
              simp only [Option.toList_some, List.mem_singleton] at new
              exact new ▸ (holdingOpen held rfl).1
      · intro c below _
        by_cases current : consumer = some c
        · subst current
          simp
        · exact List.mem_append_left _ (othersClosed c below current)
      all_goals simp_all [SupervisorPhase.isBackingOff]

theorem invariant_run (events : List (SupervisorEvent α)) (s : Supervisor α)
    (reached : run events = some s) : Invariant s :=
  foldlm_invariant _ _ (fun _ _ _ inv stepped => inv.step stepped) events initial s
    invariant_initial reached

theorem run_handled (events : List (SupervisorEvent α)) (s : Supervisor α)
    (reached : run events = some s) : s.handled = events.flatMap SupervisorEvent.delivered :=
  (foldlm_accumulates _ handled SupervisorEvent.delivered (fun s event next stepped => by
    cases event <;> simp only [Supervisor.step] at stepped <;> split at stepped <;> cases stepped <;>
      simp [SupervisorEvent.delivered]) events initial s reached).trans (List.nil_append _)

end Supervisor

/-- Over every run of a consumer thread: the consumers it made other than
the one it holds were each closed exactly once, so at most one is open; a
consumer whose poll raised stays open through the 5 s sleep and is closed
after it; each `_make_consumer` but the first comes after a backoff, and each
fault is followed by exactly one; and the handler was given exactly the
records of the successful polls, in order. -/
theorem supervisor_run_guarantee {α : Type} (events : List (SupervisorEvent α)) (s : Supervisor α)
    (reached : Supervisor.run events = some s) :
    s.closed.Nodup ∧
      (∀ c < s.made, c ∉ s.closed ↔ s.phase.holding = some c) ∧
      (∀ c, s.phase = .backingOff (some c) → c < s.made ∧ c ∉ s.closed) ∧
      s.connects = s.backoffs + (if s.phase = .connecting then 0 else 1) ∧
      s.faults = s.backoffs + (if s.phase.isBackingOff then 1 else 0) ∧
      s.handled = events.flatMap SupervisorEvent.delivered := by
  have inv := Supervisor.invariant_run events s reached
  refine ⟨inv.closed_nodup, fun c below => ⟨fun notClosed => ?_, fun held => (inv.holding_open c held).2⟩,
    fun c backingOff => inv.holding_open c (by simp [backingOff, SupervisorPhase.holding]),
    inv.connects_eq, inv.faults_eq, Supervisor.run_handled events s reached⟩
  by_contra other
  exact notClosed (inv.others_closed c below other)

/-- A poll that hands over two records and then raises, a `_make_consumer`
that raises, and a second consumer that polls one record. -/
theorem reconnecting_thread_guarantee :
    ∃ s, Supervisor.run ([.connect (.ok ()), .poll (.ok [1, 2]), .poll (.error (.kafkaError "poll")),
        .wake, .connect (.error (.kafkaError "NoBrokersAvailable")), .wake, .connect (.ok ()),
        .poll (.ok [3])] : List (SupervisorEvent Nat)) = some s ∧
      s.closed.Nodup ∧
      (∀ c < s.made, c ∉ s.closed ↔ s.phase.holding = some c) ∧
      (∀ c, s.phase = .backingOff (some c) → c < s.made ∧ c ∉ s.closed) ∧
      s.connects = s.backoffs + (if s.phase = .connecting then 0 else 1) ∧
      s.faults = s.backoffs + (if s.phase.isBackingOff then 1 else 0) ∧
      s.handled = ([.connect (.ok ()), .poll (.ok [1, 2]), .poll (.error (.kafkaError "poll")),
        .wake, .connect (.error (.kafkaError "NoBrokersAvailable")), .wake, .connect (.ok ()),
        .poll (.ok [3])] : List (SupervisorEvent Nat)).flatMap SupervisorEvent.delivered :=
  ⟨_, rfl, supervisor_run_guarantee _ _ rfl⟩

end VoipSimulator.Console
