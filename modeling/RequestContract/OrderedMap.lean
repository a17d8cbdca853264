/-!
# Maps that remember the order of their keys

An `OrderedMap` is a list of entries with distinct keys. Putting a value under a key that is
already there replaces the value where it stands; a new key goes to the end. So the keys stand in
the order in which they first came, whatever is put under them later.
-/

namespace RequestContract

variable {α β : Type}

/-! ### Entries -/

/-- The entries with `v` under the key `k`: in its old place if the key is there, else at the
end. -/
def putEntry (k : String) (v : α) : List (String × α) → List (String × α)
  | [] => [(k, v)]
  | e :: es => if e.1 = k then (k, v) :: es else e :: putEntry k v es

@[simp] theorem putEntry_nil (k : String) (v : α) : putEntry k v [] = [(k, v)] := rfl

theorem keys_putEntry (k : String) (v : α) (es : List (String × α)) :
    (putEntry k v es).map Prod.fst
      = if k ∈ es.map Prod.fst then es.map Prod.fst else es.map Prod.fst ++ [k] := by
  induction es with
  | nil => simp
  | cons e es ih =>
    by_cases h : e.1 = k
    · simp [putEntry, h]
    · have h' : ¬ k = e.1 := fun hk => h hk.symm
      simp only [putEntry, h, if_false, List.map_cons, List.mem_cons, h', false_or, ih]
      split <;> simp

theorem nodup_keys_putEntry (k : String) (v : α) {es : List (String × α)}
    (h : (es.map Prod.fst).Nodup) : ((putEntry k v es).map Prod.fst).Nodup := by
  rw [keys_putEntry]
  split
  · exact h
  · rename_i hk
    refine List.nodup_append.2 ⟨h, by simp, fun a ha b hb => ?_⟩
    rw [List.mem_singleton.1 hb]
    exact fun hab => hk (hab ▸ ha)

theorem lookup_putEntry_self (k : String) (v : α) (es : List (String × α)) :
    (putEntry k v es).lookup k = some v := by
  induction es with
  | nil => simp
  | cons e es ih =>
    obtain ⟨l, w⟩ := e
    by_cases h : l = k
    · simp [putEntry, h]
    · have h' : (k == l) = false := by simpa using fun hk : k = l => h hk.symm
      simp [putEntry, h, List.lookup_cons, h', ih]

theorem lookup_putEntry_of_ne {k l : String} (h : l ≠ k) (v : α) (es : List (String × α)) :
    (putEntry k v es).lookup l = es.lookup l := by
  have hk : (l == k) = false := by simpa using h
  induction es with
  | nil => simp [List.lookup_cons, hk]
  | cons e es ih =>
    obtain ⟨m, w⟩ := e
    by_cases hm : m = k
    · simp [putEntry, hm, List.lookup_cons, hk]
    · simp [putEntry, hm, List.lookup_cons, ih]

/-! ### The map -/

/-- Entries in the order of their keys' first coming. -/
structure OrderedMap (α : Type) where
  /-- The entries, oldest key first. -/
  entries : List (String × α)
  /-- No key has two entries. -/
  nodup : (entries.map Prod.fst).Nodup

namespace OrderedMap

/-- The map without entries. -/
def empty : OrderedMap α := ⟨[], List.nodup_nil⟩

instance : Inhabited (OrderedMap α) := ⟨empty⟩

/-- The keys, oldest first. -/
def keys (m : OrderedMap α) : List String := m.entries.map Prod.fst

/-- The number of entries. -/
def size (m : OrderedMap α) : Nat := m.entries.length

/-- Whether there is no entry. -/
def isEmpty (m : OrderedMap α) : Bool := m.entries.isEmpty

/-- The value under a key. -/
def get? (m : OrderedMap α) (k : String) : Option α := m.entries.lookup k

/-- Whether a key has an entry. -/
def contains (m : OrderedMap α) (k : String) : Bool := (m.get? k).isSome

/-- Puts a value under a key. -/
def insert (m : OrderedMap α) (k : String) (v : α) : OrderedMap α :=
  ⟨putEntry k v m.entries, nodup_keys_putEntry k v m.nodup⟩

/-- Puts entries one after the other. -/
def ofList (es : List (String × α)) : OrderedMap α :=
  es.foldl (fun m e => m.insert e.1 e.2) empty

/-- The entries that `f` gives a value for, with that value, in the same order. -/
def filterMap (f : String → α → Option β) (m : OrderedMap α) : OrderedMap β where
  entries := m.entries.filterMap fun e => (f e.1 e.2).map (e.1, ·)
  nodup := by
    have h : ((m.entries.filterMap fun e => (f e.1 e.2).map (e.1, ·)).map Prod.fst).Sublist
        (m.entries.map Prod.fst) := by
      induction m.entries with
      | nil => simp
      | cons e es ih =>
        cases hf : f e.1 e.2 with
        | none => simpa [hf] using ih.trans (List.sublist_cons_self _ _)
        | some v => simpa [hf] using ih
    exact h.nodup m.nodup

/-- Two maps with the same values under the same keys, in whatever order. -/
def sameEntries [BEq α] (m n : OrderedMap α) : Bool :=
  m.size == n.size && m.entries.all fun e =>
    match n.get? e.1 with
    | some v => e.2 == v
    | none => false

instance [BEq α] : BEq (OrderedMap α) := ⟨sameEntries⟩

@[simp] theorem keys_empty : (empty : OrderedMap α).keys = [] := rfl

@[simp] theorem get?_empty (k : String) : (empty : OrderedMap α).get? k = none := rfl

theorem keys_insert (m : OrderedMap α) (k : String) (v : α) :
    (m.insert k v).keys = if k ∈ m.keys then m.keys else m.keys ++ [k] :=
  keys_putEntry k v m.entries

@[simp] theorem get?_insert_self (m : OrderedMap α) (k : String) (v : α) :
    (m.insert k v).get? k = some v := lookup_putEntry_self k v m.entries

theorem get?_insert_of_ne {k l : String} (h : l ≠ k) (m : OrderedMap α) (v : α) :
    (m.insert k v).get? l = m.get? l := lookup_putEntry_of_ne h v m.entries

end OrderedMap

end RequestContract
