import Mathlib.Data.List.Nodup
import Mathlib.Tactic.Lemma
import RequestContract.Json.Basic

/-!
# Entries with distinct keys

The entries of an ordered map and the members of a JSON object are lists of pairs with distinct
keys. In such a list looking a key up and finding the pair in the list are the same, so it does not
matter which of the two an argument starts from.
-/

namespace RequestContract

variable {α β : Type}

/-! ### Looking up -/

lemma mem_of_lookup_eq_some {es : List (String × α)} {k : String} {v : α}
    (h : es.lookup k = some v) : (k, v) ∈ es := by
  obtain ⟨l₁, l₂, rfl, _⟩ := List.lookup_eq_some_iff.mp h
  exact List.mem_append_right l₁ List.mem_cons_self

lemma lookup_isNone_iff {es : List (String × α)} {k : String} :
    (es.lookup k).isNone = true ↔ k ∉ es.map Prod.fst := by
  rw [Option.isNone_iff_eq_none, List.lookup_eq_none_iff, List.mem_map]
  constructor
  · rintro h ⟨e, he, rfl⟩
    simpa using h e he
  · intro h e he
    simpa using fun hk => h ⟨e, he, hk.symm⟩

lemma lookup_eq_some_iff_mem {es : List (String × α)} (h : (es.map Prod.fst).Nodup)
    {k : String} {v : α} : es.lookup k = some v ↔ (k, v) ∈ es := by
  refine ⟨mem_of_lookup_eq_some, fun hm => ?_⟩
  cases hl : es.lookup k with
  | none =>
    have hk := lookup_isNone_iff.mp (Option.isNone_iff_eq_none.mpr hl)
    exact absurd (List.mem_map_of_mem hm) hk
  | some w =>
    have hw := List.inj_on_of_nodup_map h (mem_of_lookup_eq_some hl) hm rfl
    rw [(Prod.mk.inj hw).2]

/-- Entries that are kept under their keys keep the order of the keys. -/
lemma sublist_map_filterMap {γ : Type} {f : α → Option β} (key : α → γ) (key' : β → γ)
    (hf : ∀ a b, f a = some b → key' b = key a) (l : List α) :
    ((l.filterMap f).map key').Sublist (l.map key) := by
  induction l with
  | nil => exact .slnil
  | cons a l ih =>
    cases hb : f a with
    | none =>
      rw [List.filterMap_cons_none hb]
      exact ih.cons _
    | some b =>
      rw [List.filterMap_cons_some hb, List.map_cons, List.map_cons, hf a b hb]
      exact ih.cons_cons _

/-! ### Ordered maps -/

lemma mem_of_mem_putEntry {k : String} {v : α} {es : List (String × α)} {e : String × α}
    (h : e ∈ putEntry k v es) : e = (k, v) ∨ e ∈ es := by
  induction es with
  | nil => exact .inl (List.mem_singleton.mp h)
  | cons e' es ih =>
    rw [putEntry] at h
    split at h
    · rcases List.mem_cons.mp h with h | h
      · exact .inl h
      · exact .inr (List.mem_cons_of_mem e' h)
    · rcases List.mem_cons.mp h with rfl | h
      · exact .inr List.mem_cons_self
      · exact (ih h).imp_right (List.mem_cons_of_mem e')

lemma putEntry_of_not_mem {k : String} {es : List (String × α)}
    (h : k ∉ es.map Prod.fst) (v : α) : putEntry k v es = es ++ [(k, v)] := by
  induction es with
  | nil => simp
  | cons e es ih =>
    simp only [List.map_cons, List.mem_cons, not_or] at h
    obtain ⟨hk, hks⟩ := h
    simp [putEntry, Ne.symm hk, ih hks]

namespace OrderedMap

lemma get?_eq_some_iff {m : OrderedMap α} {k : String} {v : α} :
    m.get? k = some v ↔ (k, v) ∈ m.entries :=
  lookup_eq_some_iff_mem m.nodup

lemma get?_eq_none_iff {m : OrderedMap α} {k : String} : m.get? k = none ↔ k ∉ m.keys := by
  rw [← Option.isNone_iff_eq_none]
  exact lookup_isNone_iff

lemma contains_iff {m : OrderedMap α} {k : String} : m.contains k = true ↔ k ∈ m.keys := by
  rw [contains, Option.isSome_iff_ne_none, Ne, get?_eq_none_iff, not_not]

lemma mem_keys_iff {m : OrderedMap α} {k : String} : k ∈ m.keys ↔ ∃ v, m.get? k = some v := by
  rw [← contains_iff, contains, Option.isSome_iff_exists]

lemma entries_insert_of_not_mem {m : OrderedMap α} {k : String} (h : k ∉ m.keys) (v : α) :
    (m.insert k v).entries = m.entries ++ [(k, v)] := putEntry_of_not_mem h v

lemma get?_filterMap (m : OrderedMap α) (f : String → α → Option β) (k : String) :
    (m.filterMap f).get? k = (m.get? k).bind (f k) := by
  apply Option.ext
  intro y
  rw [get?_eq_some_iff, Option.bind_eq_some_iff]
  simp only [get?_eq_some_iff]
  simp only [filterMap, List.mem_filterMap, Option.map_eq_some_iff]
  constructor
  · rintro ⟨⟨k, x⟩, hx, y, hy, heq⟩
    cases heq
    exact ⟨x, hx, hy⟩
  · rintro ⟨x, hx, hy⟩
    exact ⟨(k, x), hx, y, hy, rfl⟩

end OrderedMap

/-! ### Objects -/

namespace Json

lemma distinctKeysItems_iff {vs : List Json} :
    DistinctKeysItems vs ↔ ∀ v ∈ vs, DistinctKeys v := by
  induction vs with
  | nil => simp [DistinctKeysItems]
  | cons v vs ih => simp [DistinctKeysItems, ih]

lemma distinctKeysMembers_iff {ms : List (String × Json)} :
    DistinctKeysMembers ms ↔ ∀ m ∈ ms, DistinctKeys m.2 := by
  induction ms with
  | nil => simp [DistinctKeysMembers]
  | cons m ms ih => simp [DistinctKeysMembers, ih]

lemma DistinctKeys.item {items : List Json} (h : (array items).DistinctKeys) {v : Json}
    (hv : v ∈ items) : v.DistinctKeys := by
  rw [DistinctKeys] at h
  exact distinctKeysItems_iff.mp h v hv

lemma DistinctKeys.keys {ms : List (String × Json)} (h : (object ms).DistinctKeys) :
    (ms.map Prod.fst).Nodup := by
  rw [DistinctKeys] at h
  exact h.1

lemma DistinctKeys.member {ms : List (String × Json)} (h : (object ms).DistinctKeys) {k : String}
    {v : Json} (hm : (k, v) ∈ ms) : v.DistinctKeys := by
  rw [DistinctKeys] at h
  exact distinctKeysMembers_iff.mp h.2 (k, v) hm

end Json

end RequestContract
