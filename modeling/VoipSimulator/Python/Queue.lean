import VoipSimulator.Python.Dict

/-!
# `queue.Queue` with a positive `maxsize`

Every queue the console creates has a positive bound: the per-channel ring
buffers (500), the packet stream queues (200), the response stream queues
(100) and the single-slot waiter queues (1). The structure carries the bound
that `put_nowait` keeps, so no queue over its bound can be built. Only the
non-blocking operations are defined here; a blocking `get(timeout=...)` is a
step of the system that owns the queue.
-/

namespace VoipSimulator.Python

set_option autoImplicit false

structure BoundedQueue (α : Type) where
  maxsize : Nat
  items : List α
  maxsize_pos : 0 < maxsize
  length_le : items.length ≤ maxsize

namespace BoundedQueue

variable {α : Type}

/-- `queue.Queue(maxsize=maxsize)`. -/
def empty (maxsize : Nat) (positive : 0 < maxsize) : BoundedQueue α :=
  ⟨maxsize, [], positive, Nat.zero_le _⟩

/-- `q.full()`, which is `0 < maxsize <= qsize()` in the library. -/
def full (q : BoundedQueue α) : Bool := q.maxsize ≤ q.items.length

/-- The queue after appending `item` where there is room. -/
def append (q : BoundedQueue α) (item : α) (room : q.items.length < q.maxsize) :
    BoundedQueue α :=
  ⟨q.maxsize, q.items ++ [item], q.maxsize_pos, by
    simp only [List.length_append, List.length_singleton]
    omega⟩

/-- `q.put_nowait(item)`. -/
def putNowait (q : BoundedQueue α) (item : α) : Except PyException (BoundedQueue α) :=
  if room : q.items.length < q.maxsize then .ok (q.append item room) else .error .queueFull

/-- The queue after removing its oldest item. -/
def tail (q : BoundedQueue α) : BoundedQueue α :=
  ⟨q.maxsize, q.items.tail, q.maxsize_pos, by
    have bound := q.length_le
    simp only [List.length_tail]
    omega⟩

/-- `q.get_nowait()`. -/
def getNowait (q : BoundedQueue α) : Except PyException (α × BoundedQueue α) :=
  match q.items with
  | [] => .error .queueEmpty
  | item :: _ => .ok (item, q.tail)

@[simp] theorem empty_items (maxsize : Nat) (positive : 0 < maxsize) :
    (empty maxsize positive : BoundedQueue α).items = [] := rfl

@[simp] theorem empty_maxsize (maxsize : Nat) (positive : 0 < maxsize) :
    (empty maxsize positive : BoundedQueue α).maxsize = maxsize := rfl

@[simp] theorem append_items (q : BoundedQueue α) (item : α) (room : q.items.length < q.maxsize) :
    (q.append item room).items = q.items ++ [item] := rfl

@[simp] theorem append_maxsize (q : BoundedQueue α) (item : α)
    (room : q.items.length < q.maxsize) : (q.append item room).maxsize = q.maxsize := rfl

@[simp] theorem tail_items (q : BoundedQueue α) : q.tail.items = q.items.tail := rfl

@[simp] theorem tail_maxsize (q : BoundedQueue α) : q.tail.maxsize = q.maxsize := rfl

theorem full_iff (q : BoundedQueue α) : q.full = true ↔ q.items.length = q.maxsize := by
  have bound := q.length_le
  simp only [full, decide_eq_true_eq]
  omega

theorem put_nowait_of_lt (q : BoundedQueue α) (item : α) (room : q.items.length < q.maxsize) :
    q.putNowait item = .ok (q.append item room) := by
  simp [putNowait, room]

theorem put_nowait_of_full (q : BoundedQueue α) (item : α) (full : q.maxsize ≤ q.items.length) :
    q.putNowait item = .error .queueFull := by
  simp [putNowait, Nat.not_lt.mpr full]

theorem get_nowait_of_cons (q : BoundedQueue α) {item : α} {rest : List α}
    (front : q.items = item :: rest) : q.getNowait = .ok (item, q.tail) := by
  simp [getNowait, front]

theorem get_nowait_of_nil (q : BoundedQueue α) (empty : q.items = []) :
    q.getNowait = .error .queueEmpty := by
  simp [getNowait, empty]

theorem ext_items {q r : BoundedQueue α} (maxsize : q.maxsize = r.maxsize)
    (items : q.items = r.items) : q = r := by
  cases q
  cases r
  simp_all

end BoundedQueue

end VoipSimulator.Python
