import Mathlib.Data.List.Nodup
import Mathlib.Algebra.Group.Int

/-!
# Python dictionaries, lists and exceptions

The console keeps all of its shared state in Python dictionaries and lists.
A dictionary is modelled as its insertion-ordered list of entries: lookup
takes the first entry with the key, assignment replaces that entry in place
or appends a new one, and `pop` removes it. Python dictionaries never hold a
key twice; `KeysUnique` is that fact, kept by every update below.
-/

namespace VoipSimulator.Python

set_option autoImplicit false

/-- The exceptions the modelled code raises, catches or lets escape. -/
inductive PyException
  | valueError (message : String)
  | typeError (message : String)
  | overflowError (message : String)
  | attributeError (message : String)
  | queueFull
  | queueEmpty
  | kafkaError (message : String)
  | structError (message : String)
  deriving DecidableEq, Repr

namespace PyDict

variable {K V : Type} [DecidableEq K]

/-- `d.get(k)`: the value of the first entry with key `k`. -/
def get? : List (K × V) → K → Option V
  | [], _ => none
  | (key, value) :: rest, k => if key = k then some value else get? rest k

/-- `d[k] = v`: an existing key keeps its position, a new key is appended. -/
def set : List (K × V) → K → V → List (K × V)
  | [], k, v => [(k, v)]
  | (key, value) :: rest, k, v =>
      if key = k then (k, v) :: rest else (key, value) :: set rest k v

/-- `d.pop(k, None)`: the removed value, if any, and the dictionary after. -/
def pop : List (K × V) → K → Option V × List (K × V)
  | [], _ => (none, [])
  | (key, value) :: rest, k =>
      if key = k then (some value, rest)
      else ((pop rest k).1, (key, value) :: (pop rest k).2)

/-- `d.update(other)`: assign every entry of `other` in order. -/
def update (d other : List (K × V)) : List (K × V) :=
  other.foldl (fun acc entry => set acc entry.1 entry.2) d

/-- A dict display or comprehension over `pairs`: later pairs override
earlier ones with the same key. -/
def ofPairs (pairs : List (K × V)) : List (K × V) := update [] pairs

def keys (d : List (K × V)) : List K := d.map Prod.fst

def KeysUnique (d : List (K × V)) : Prop := (keys d).Nodup

omit [DecidableEq K] in
@[simp] theorem keys_nil : keys ([] : List (K × V)) = [] := rfl

omit [DecidableEq K] in
@[simp] theorem keys_cons (key : K) (value : V) (rest : List (K × V)) :
    keys ((key, value) :: rest) = key :: keys rest := rfl

@[simp] theorem get?_nil (k : K) : get? ([] : List (K × V)) k = none := rfl

@[simp] theorem get?_cons (key k : K) (value : V) (rest : List (K × V)) :
    get? ((key, value) :: rest) k = if key = k then some value else get? rest k := rfl

theorem get?_append (front back : List (K × V)) (k : K) :
    get? (front ++ back) k = (get? front k).or (get? back k) := by
  induction front with
  | nil => rfl
  | cons entry rest ih =>
      obtain ⟨key, value⟩ := entry
      by_cases same : key = k <;> simp [same, ih]

@[simp] theorem get?_set_self (d : List (K × V)) (k : K) (v : V) :
    get? (set d k v) k = some v := by
  induction d with
  | nil => simp [set]
  | cons entry rest ih =>
      obtain ⟨key, value⟩ := entry
      by_cases same : key = k <;> simp [set, same, ih]

theorem get?_set_ne (d : List (K × V)) {k k' : K} (v : V) (other : k' ≠ k) :
    get? (set d k v) k' = get? d k' := by
  induction d with
  | nil => simp [set, Ne.symm other]
  | cons entry rest ih =>
      obtain ⟨key, value⟩ := entry
      by_cases same : key = k
      · subst same
        simp [set, Ne.symm other]
      · simp [set, same, ih]

theorem get?_set (d : List (K × V)) (k k' : K) (v : V) :
    get? (set d k v) k' = if k = k' then some v else get? d k' := by
  by_cases same : k = k'
  · subst same; simp
  · simp [same, get?_set_ne d v (Ne.symm same)]

/-- After `update`, a key maps to its last value in `other`, else to its
old value. -/
theorem get?_update (d other : List (K × V)) (k : K) :
    get? (update d other) k = (get? other.reverse k).or (get? d k) := by
  induction other generalizing d with
  | nil => rfl
  | cons entry rest ih =>
      obtain ⟨key, value⟩ := entry
      simp only [update, List.foldl_cons] at ih ⊢
      rw [ih, List.reverse_cons, get?_append, get?_set, Option.or_assoc]
      by_cases same : key = k <;> simp [same]

theorem get?_of_pairs (pairs : List (K × V)) (k : K) :
    get? (ofPairs pairs) k = get? pairs.reverse k := by
  simp [ofPairs, get?_update]

theorem mem_keys_iff (d : List (K × V)) (k : K) : k ∈ keys d ↔ (get? d k).isSome := by
  induction d with
  | nil => simp [keys]
  | cons entry rest ih =>
      obtain ⟨key, value⟩ := entry
      by_cases same : key = k
      · simp [same]
      · simp [same, ih, Ne.symm same]

theorem get?_eq_none_iff (d : List (K × V)) (k : K) : get? d k = none ↔ k ∉ keys d := by
  rw [mem_keys_iff, Option.not_isSome_iff_eq_none]

theorem keys_set_of_mem (d : List (K × V)) (k : K) (v : V) (present : k ∈ keys d) :
    keys (set d k v) = keys d := by
  induction d with
  | nil => simp [keys] at present
  | cons entry rest ih =>
      obtain ⟨key, value⟩ := entry
      by_cases same : key = k
      · simp [set, same]
      · have inRest : k ∈ keys rest := by
          simpa [Ne.symm same] using present
        simpa [set, same] using ih inRest

theorem keys_set_of_not_mem (d : List (K × V)) (k : K) (v : V) (absent : k ∉ keys d) :
    keys (set d k v) = keys d ++ [k] := by
  induction d with
  | nil => rfl
  | cons entry rest ih =>
      obtain ⟨key, value⟩ := entry
      have other : key ≠ k := fun same => absent (by simp [same])
      have notInRest : k ∉ keys rest := fun inRest => absent (by simp [inRest])
      simpa [set, other] using ih notInRest

theorem KeysUnique.set {d : List (K × V)} (unique : KeysUnique d) (k : K) (v : V) :
    KeysUnique (set d k v) := by
  by_cases present : k ∈ keys d
  · rw [KeysUnique, keys_set_of_mem d k v present]
    exact unique
  · rw [KeysUnique, keys_set_of_not_mem d k v present]
    exact List.nodup_append.mpr ⟨unique, List.nodup_singleton k,
      List.disjoint_singleton.mpr present⟩

@[simp] theorem pop_fst (d : List (K × V)) (k : K) : (pop d k).1 = get? d k := by
  induction d with
  | nil => rfl
  | cons entry rest ih =>
      obtain ⟨key, value⟩ := entry
      by_cases same : key = k <;> simp [pop, same, ih]

theorem keys_pop (d : List (K × V)) (k : K) (unique : KeysUnique d) :
    keys (pop d k).2 = (keys d).erase k := by
  induction d with
  | nil => rfl
  | cons entry rest ih =>
      obtain ⟨key, value⟩ := entry
      have restUnique : KeysUnique rest := (List.nodup_cons.mp unique).2
      by_cases same : key = k
      · simp [pop, same]
      · simp [pop, same, List.erase_cons, ih restUnique]

theorem KeysUnique.pop {d : List (K × V)} (unique : KeysUnique d) (k : K) :
    KeysUnique (pop d k).2 := by
  rw [KeysUnique, keys_pop d k unique]
  exact unique.erase k

theorem get?_pop_self (d : List (K × V)) (k : K) (unique : KeysUnique d) :
    get? (pop d k).2 k = none := by
  rw [get?_eq_none_iff, keys_pop d k unique]
  exact unique.not_mem_erase

theorem get?_pop_ne (d : List (K × V)) {k k' : K} (other : k' ≠ k) :
    get? (pop d k).2 k' = get? d k' := by
  induction d with
  | nil => rfl
  | cons entry rest ih =>
      obtain ⟨key, value⟩ := entry
      by_cases same : key = k
      · subst same
        simp [pop, Ne.symm other]
      · simp [pop, same, ih]

theorem get?_filter (d : List (K × V)) (p : K → Bool) (k : K) :
    get? (d.filter fun entry => p entry.1) k = if p k then get? d k else none := by
  induction d with
  | nil => simp
  | cons entry rest ih =>
      obtain ⟨key, value⟩ := entry
      by_cases keep : p key
      · by_cases same : key = k
        · subst same; simp [List.filter_cons, keep]
        · simp [List.filter_cons, keep, same, ih]
      · have differ : p k = true → key ≠ k := fun kept same => by simp_all
        by_cases kept : p k <;> simp_all [List.filter_cons]

theorem get?_map_values {W : Type} (d : List (K × V)) (f : V → W) (k : K) :
    get? (d.map fun entry => (entry.1, f entry.2)) k = (get? d k).map f := by
  induction d with
  | nil => rfl
  | cons entry rest ih =>
      obtain ⟨key, value⟩ := entry
      by_cases same : key = k <;> simp [same, ih]

omit [DecidableEq K] in
theorem KeysUnique.map_values {W : Type} {d : List (K × V)} (unique : KeysUnique d) (f : V → W) :
    KeysUnique (d.map fun entry => (entry.1, f entry.2)) := by
  simpa [KeysUnique, keys, List.map_map, Function.comp_def] using unique

theorem get?_eq_none_of_nil_iff (d : List (K × V)) : d = [] ↔ ∀ k, get? d k = none := by
  constructor
  · rintro rfl k
    rfl
  · intro absent
    cases d with
    | nil => rfl
    | cons entry rest =>
        obtain ⟨key, value⟩ := entry
        have found := absent key
        simp at found

theorem KeysUnique.update {d : List (K × V)} (unique : KeysUnique d) (other : List (K × V)) :
    KeysUnique (update d other) := by
  induction other generalizing d with
  | nil => exact unique
  | cons entry rest ih => exact ih (unique.set entry.1 entry.2)

theorem keys_unique_of_pairs (pairs : List (K × V)) : KeysUnique (ofPairs pairs) :=
  KeysUnique.update (show KeysUnique ([] : List (K × V)) from List.nodup_nil) pairs

omit [DecidableEq K] in
theorem KeysUnique.filter {d : List (K × V)} (unique : KeysUnique d) (p : K × V → Bool) :
    KeysUnique (d.filter p) := by
  induction d with
  | nil => exact List.nodup_nil
  | cons entry rest ih =>
      obtain ⟨key, value⟩ := entry
      obtain ⟨fresh, restUnique⟩ := List.nodup_cons.mp unique
      have notInFiltered : key ∉ keys (rest.filter p) := fun member => by
        obtain ⟨entry', inFilter, same⟩ := List.mem_map.mp member
        exact fresh (List.mem_map.mpr ⟨entry', (List.mem_filter.mp inFilter).1, same⟩)
      by_cases keep : p (key, value)
      · simp only [List.filter_cons, keep, if_true]
        exact List.nodup_cons.mpr ⟨notInFiltered, ih restUnique⟩
      · simp only [List.filter_cons, keep]
        exact ih restUnique

/-- With unique keys, the order of entries does not matter for lookup. -/
theorem get?_reverse (d : List (K × V)) (unique : KeysUnique d) (k : K) :
    get? d.reverse k = get? d k := by
  induction d with
  | nil => rfl
  | cons entry rest ih =>
      obtain ⟨key, value⟩ := entry
      obtain ⟨fresh, restUnique⟩ := List.nodup_cons.mp unique
      rw [List.reverse_cons, get?_append, ih restUnique]
      by_cases same : key = k
      · subst same
        simp [(get?_eq_none_iff rest key).mpr fresh]
      · simp [same]

end PyDict

/-- `xs.remove(x)`: drop the first occurrence, or raise `ValueError`. -/
def listRemove {α : Type} [DecidableEq α] (xs : List α) (x : α) : Except PyException (List α) :=
  if x ∈ xs then .ok (xs.erase x) else .error (.valueError "list.remove(x): x not in list")

theorem list_remove_of_mem {α : Type} [DecidableEq α] {xs : List α} {x : α} (present : x ∈ xs) :
    listRemove xs x = .ok (xs.erase x) := by
  simp [listRemove, present]

end VoipSimulator.Python
