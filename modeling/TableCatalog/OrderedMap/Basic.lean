/-!
# `OrderedMap`: a finite map that remembers the order in which its keys arrived

Everything the catalog holds is a map whose order is part of its meaning: environments, the
tables of an environment, the columns of a table. One type serves them all. Its entries are a
list of pairs whose keys are pairwise different, and two operations build every other one:

    insert   writes one key: a new key goes to the end, a known key keeps its place
             and takes the new value
    overlay  writes every entry of a second map into the first, in the second map's order

So a map answers "first position, last value" whatever the sequence of writes was. The list is
the view: `toList` is the whole content, and the small lemmas below say what each operation does
to it. Looking up is a linear scan; the maps are as long as a reference page.
-/

set_option autoImplicit false

namespace TableCatalog

universe u v w

/-- A list of key and value pairs in which no key occurs twice. -/
structure OrderedMap (κ : Type u) (α : Type v) where
  /-- The entries, oldest key first. -/
  toList : List (κ × α)
  /-- No key occurs twice. -/
  nodupKeys : (toList.map Prod.fst).Nodup
deriving DecidableEq

namespace OrderedMap

variable {κ : Type u} {α : Type v} {β : Type w}

@[ext]
theorem ext {m n : OrderedMap κ α} (h : m.toList = n.toList) : m = n := by
  cases m; cases n; cases h; rfl

def empty : OrderedMap κ α := ⟨[], List.nodup_nil⟩

instance : Inhabited (OrderedMap κ α) := ⟨empty⟩

/-- The keys, oldest first. -/
def keys (m : OrderedMap κ α) : List κ := m.toList.map Prod.fst

def values (m : OrderedMap κ α) : List α := m.toList.map Prod.snd

def size (m : OrderedMap κ α) : Nat := m.toList.length

section Write

variable [DecidableEq κ]

/-- Write one key into a list of entries: in place if the key is there, else at the end. -/
def put (k : κ) (a : α) : List (κ × α) → List (κ × α)
  | [] => [(k, a)]
  | e :: es => if e.1 = k then (e.1, a) :: es else e :: put k a es

/-- Writing a key leaves the keys as they are, or adds the one that was missing at the end. -/
theorem map_fst_put (k : κ) (a : α) (es : List (κ × α)) :
    (put k a es).map Prod.fst =
      if k ∈ es.map Prod.fst then es.map Prod.fst else es.map Prod.fst ++ [k] := by
  induction es with
  | nil => simp [put]
  | cons e es ih =>
    by_cases h : e.1 = k
    · simp [put, h]
    · have h' : ¬ k = e.1 := fun hk => h hk.symm
      simp only [put, h, if_false, List.map_cons, ih, List.mem_cons, h', false_or]
      split <;> simp

theorem nodup_put {k : κ} {a : α} {es : List (κ × α)} (h : (es.map Prod.fst).Nodup) :
    ((put k a es).map Prod.fst).Nodup := by
  rw [map_fst_put]
  split
  · exact h
  · next hk =>
    refine List.nodup_append.2 ⟨h, by simp, ?_⟩
    intro x hx y hy hxy
    simp only [List.mem_singleton] at hy
    exact hk (hy ▸ hxy ▸ hx)

/-- Write one key: a new key goes to the end, a known one keeps its place. -/
def insert (m : OrderedMap κ α) (k : κ) (a : α) : OrderedMap κ α :=
  ⟨put k a m.toList, nodup_put m.nodupKeys⟩

/-- Write every entry of `n` into `m`, in `n`'s order. -/
def overlay (m n : OrderedMap κ α) : OrderedMap κ α :=
  n.toList.foldl (fun acc e => acc.insert e.1 e.2) m

/-- Write a list of pairs, from left to right, into the empty map. -/
def ofList (es : List (κ × α)) : OrderedMap κ α :=
  es.foldl (fun acc e => acc.insert e.1 e.2) empty

def get? (m : OrderedMap κ α) (k : κ) : Option α :=
  (m.toList.find? fun e => e.1 = k).map Prod.snd

@[simp]
theorem toList_insert (m : OrderedMap κ α) (k : κ) (a : α) :
    (m.insert k a).toList = put k a m.toList := rfl

end Write

/-- Change every value, keeping keys and order. -/
def mapValues (f : α → β) (m : OrderedMap κ α) : OrderedMap κ β :=
  ⟨m.toList.map fun e => (e.1, f e.2), by simpa [Function.comp_def] using m.nodupKeys⟩

@[simp] theorem toList_empty : (empty : OrderedMap κ α).toList = [] := rfl

@[simp]
theorem toList_mapValues (f : α → β) (m : OrderedMap κ α) :
    (m.mapValues f).toList = m.toList.map fun e => (e.1, f e.2) := rfl

end OrderedMap

end TableCatalog
