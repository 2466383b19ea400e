import Mathlib.Data.List.Basic

/-!
# Maps, sets and errors of the library

The runner keeps its tables in `HashMap<String, _>` and `HashSet<String>`.  Only `get`,
`contains`, `insert` and (for the named volumes) a full iteration are ever used, so both are
modelled by their entries, with an `insert` that replaces the entry of the same key.
`HashMap.get_insert` and `HashSet.contains_insert` are all that later proofs need of them.

`DockerTestError` is declared outside the modelled sources; its variants are the ones the
modelled code builds, each with its message.  Code of the source that can panic returns
`Except String (...)` in the model: the outer `error` is the panic and carries its payload,
the inner value is the `Result` the Rust function returns.
-/

namespace Dockertest

/-- A `HashMap<String, V>`, by its entries; no key has two. -/
structure HashMap (V : Type) where
  entries : List (String × V)
  nodup : (entries.map Prod.fst).Nodup
deriving DecidableEq

namespace HashMap

variable {V : Type}

instance [Repr V] : Repr (HashMap V) := ⟨fun m n => reprPrec m.entries n⟩

def empty : HashMap V := ⟨[], List.nodup_nil⟩

def get (m : HashMap V) (k : String) : Option V := m.entries.lookup k

def containsKey (m : HashMap V) (k : String) : Bool := (m.get k).isSome

theorem nodup_insert (m : HashMap V) (k : String) (v : V) :
    (((k, v) :: m.entries.filter (fun e => e.1 != k)).map Prod.fst).Nodup := by
  refine List.nodup_cons.2 ⟨by simp, ?_⟩
  exact m.nodup.sublist ((List.filter_sublist _).map _)

/-- `insert` replaces the value of a key already present. -/
def insert (m : HashMap V) (k : String) (v : V) : HashMap V :=
  ⟨(k, v) :: m.entries.filter (fun e => e.1 != k), nodup_insert m k v⟩

theorem lookup_filter_ne (l : List (String × V)) {k k' : String} (h : k' ≠ k) :
    (l.filter (fun e => e.1 != k)).lookup k' = l.lookup k' := by
  induction l with
  | nil => rfl
  | cons e l ih =>
    obtain ⟨a, b⟩ := e
    by_cases ha : a = k
    · subst ha
      have : (k' == a) = false := by simpa using h
      simp [List.filter_cons, List.lookup_cons, this, ih]
    · by_cases hk : k' = a <;> simp [List.filter_cons, ha, List.lookup_cons, hk, ih]

@[simp] theorem get_empty (k : String) : (empty : HashMap V).get k = none := rfl

@[simp] theorem get_insert (m : HashMap V) (k k' : String) (v : V) :
    (m.insert k v).get k' = if k' = k then some v else m.get k' := by
  by_cases h : k' = k
  · subst h; simp [get, insert, List.lookup_cons]
  · simp only [get, insert, List.lookup_cons, h, ite_false]
    rw [show (k' == k) = false by simpa using h]
    exact lookup_filter_ne _ h

theorem mem_iff_lookup : ∀ (l : List (String × V)), (l.map Prod.fst).Nodup →
    ∀ k v, ((k, v) ∈ l ↔ l.lookup k = some v)
  | [], _ => by simp
  | (a, b) :: l, hn => by
    intro k v
    rw [List.map_cons, List.nodup_cons] at hn
    by_cases hk : k = a
    · subst hk
      have : (k, v) ∉ l := fun h => hn.1 (List.mem_map.2 ⟨_, h, rfl⟩)
      simp [this, eq_comm]
    · have : (k == a) = false := by simpa using hk
      simp [List.lookup_cons, hk, this, mem_iff_lookup l hn.2]

theorem mem_entries_iff (m : HashMap V) (k : String) (v : V) :
    (k, v) ∈ m.entries ↔ m.get k = some v :=
  mem_iff_lookup m.entries m.nodup k v

@[simp] theorem containsKey_iff (m : HashMap V) (k : String) :
    m.containsKey k = true ↔ ∃ v, m.get k = some v := by
  simp [containsKey, Option.isSome_iff_exists]

end HashMap

/-- A `HashSet<String>`, by its elements. -/
structure HashSet where
  elems : List String
deriving Repr, DecidableEq

namespace HashSet

def empty : HashSet := ⟨[]⟩

def contains (s : HashSet) (k : String) : Bool := s.elems.contains k

def insert (s : HashSet) (k : String) : HashSet := if s.contains k then s else ⟨k :: s.elems⟩

@[simp] theorem contains_empty (k : String) : empty.contains k = false := rfl

@[simp] theorem contains_insert (s : HashSet) (k k' : String) :
    (s.insert k).contains k' = (k' = k || s.contains k') := by
  unfold insert contains
  split <;> by_cases h : k' = k <;> simp_all

end HashSet

/-- The errors the modelled code returns (`DockerTestError` of the crate root). -/
inductive DockerTestError where
  | daemon (msg : String)
  | startup (msg : String)
  | processing (msg : String)
  | testBody (msg : String)
  | hostPort (msg : String)
  | logWriteError (msg : String)
deriving Repr, DecidableEq

end Dockertest
