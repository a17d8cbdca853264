import Mathlib.Data.List.Nodup
import RequestContract.Proofs.Request

/-!
# Drafts and the values that they write

A draft without faults writes a value: item by item and member by member, in the same order.
`Draft.Writes` says so without going through `Draft.read`, which puts the members of an object into
a map and so loses the first of two values under one key. If no object of the draft repeats a key,
reading loses nothing: `Draft.writes_of_read`.
-/

namespace RequestContract

namespace Json

lemma endOk_eq_ok_iff {e : Option Fault} {u : Unit} : endOk e = .ok u ↔ e = none := by
  cases e <;> simp

namespace Draft

/-! ### Writing a value -/

mutual

/-- The draft is without faults, and this is its value. -/
inductive Writes : Draft → Json → Prop
  | null : Writes .null .null
  | bool (b : Bool) : Writes (.bool b) (.bool b)
  | number {l : NumberLiteral} {n : Number} (h : l.value = .ok n) : Writes (.number l) (.number n)
  | string {l : StringLiteral} {t : String} (h : l.value = .ok t) : Writes (.string l) (.string t)
  | array {ds : List Draft} {vs : List Json} (h : WritesItems ds vs) :
      Writes (.array ds none) (.array vs)
  | object {ds : List (StringLiteral × Draft)} {ms : List (String × Json)}
      (h : WritesMembers ds ms) : Writes (.object ds none) (.object ms)

inductive WritesItems : List Draft → List Json → Prop
  | nil : WritesItems [] []
  | cons {d : Draft} {v : Json} {ds : List Draft} {vs : List Json} (h : Writes d v)
      (hs : WritesItems ds vs) : WritesItems (d :: ds) (v :: vs)

/-- The drafts write the members one by one, a key that comes twice included. -/
inductive WritesMembers : List (StringLiteral × Draft) → List (String × Json) → Prop
  | nil : WritesMembers [] []
  | cons {l : StringLiteral} {k : String} {d : Draft} {v : Json}
      {ds : List (StringLiteral × Draft)} {ms : List (String × Json)} (hk : l.value = .ok k)
      (h : Writes d v) (hs : WritesMembers ds ms) : WritesMembers ((l, d) :: ds) ((k, v) :: ms)

end

lemma WritesItems.length_eq {ds : List Draft} {vs : List Json} (h : WritesItems ds vs) :
    ds.length = vs.length := by
  induction ds generalizing vs with
  | nil =>
    cases h
    rfl
  | cons d ds ih =>
    cases h with
    | cons _ hs => simp [ih hs]

/-! ### No repeated keys -/

mutual

/-- No object of the draft has a key twice, however the key is written. -/
def DistinctKeys : Draft → Prop
  | .array ds _ => DistinctKeysItems ds
  | .object ds _ => (ds.map fun d => d.1.value).Nodup ∧ DistinctKeysMembers ds
  | _ => True

def DistinctKeysItems : List Draft → Prop
  | [] => True
  | d :: ds => DistinctKeys d ∧ DistinctKeysItems ds

def DistinctKeysMembers : List (StringLiteral × Draft) → Prop
  | [] => True
  | (_, d) :: ds => DistinctKeys d ∧ DistinctKeysMembers ds

end

mutual

/-- What is read is what is written, unless a key is repeated. -/
lemma writes_of_read {d : Draft} {v : Json} (hd : d.DistinctKeys) (h : d.read = .ok v) :
    d.Writes v := by
  match d with
  | .null =>
    cases h
    exact .null
  | .bool b =>
    cases h
    exact .bool b
  | .number l =>
    obtain ⟨n, hn, rfl⟩ := map_eq_ok_iff.mp h
    exact .number hn
  | .string l =>
    obtain ⟨t, ht, rfl⟩ := map_eq_ok_iff.mp h
    exact .string ht
  | .array ds e =>
    rw [DistinctKeys] at hd
    obtain ⟨vs, hvs, rfl⟩ := map_eq_ok_iff.mp h
    obtain ⟨rfl, hw⟩ := writesItems_of_readItems hd hvs
    exact .array hw
  | .object ds e =>
    rw [DistinctKeys] at hd
    obtain ⟨ms, hms, rfl⟩ := map_eq_ok_iff.mp h
    obtain ⟨rfl, ws, rfl, hw⟩ := writesMembers_of_readMembers (by simpa using hd.1) hd.2 hms
    exact .object hw
  | .fault f => cases h

lemma writesItems_of_readItems {e : Option Fault} {ds : List Draft} {vs : List Json}
    (hd : DistinctKeysItems ds) (h : readItems e ds = .ok vs) :
    e = none ∧ WritesItems ds vs := by
  match ds with
  | [] =>
    obtain ⟨_, he, rfl⟩ := map_eq_ok_iff.mp h
    exact ⟨endOk_eq_ok_iff.mp he, .nil⟩
  | d :: ds =>
    rw [DistinctKeysItems] at hd
    obtain ⟨v, hv, h⟩ := bind_eq_ok_iff.mp h
    obtain ⟨vs, hvs, h⟩ := bind_eq_ok_iff.mp h
    cases h
    obtain ⟨he, hw⟩ := writesItems_of_readItems hd.2 hvs
    exact ⟨he, .cons (writes_of_read hd.1 hv) hw⟩

/-- A member whose key has not come before goes to the end of those read so far. -/
lemma writesMembers_of_readMembers {e : Option Fault} {soFar ms : List (String × Json)}
    {ds : List (StringLiteral × Draft)}
    (hk : ((soFar.map fun m => (.ok m.1 : Except Fault String))
      ++ ds.map fun d => d.1.value).Nodup)
    (hd : DistinctKeysMembers ds) (h : readMembers e soFar ds = .ok ms) :
    e = none ∧ ∃ ws, ms = soFar ++ ws ∧ WritesMembers ds ws := by
  match ds with
  | [] =>
    obtain ⟨_, he, rfl⟩ := map_eq_ok_iff.mp h
    exact ⟨endOk_eq_ok_iff.mp he, [], (List.append_nil _).symm, .nil⟩
  | (l, d) :: ds =>
    rw [DistinctKeysMembers] at hd
    obtain ⟨k, hl, h⟩ := bind_eq_ok_iff.mp h
    obtain ⟨v, hv, h⟩ := bind_eq_ok_iff.mp h
    have hnew : k ∉ soFar.map Prod.fst := by
      intro hm
      obtain ⟨m, hmem, rfl⟩ := List.mem_map.mp hm
      rw [List.map_cons, hl, List.nodup_append] at hk
      exact hk.2.2 _ (List.mem_map_of_mem hmem) _ List.mem_cons_self rfl
    rw [List.map_cons, hl] at hk
    rw [putEntry_of_not_mem hnew] at h
    obtain ⟨he, ws, rfl, hw⟩ := writesMembers_of_readMembers (by simpa using hk) hd.2 h
    exact ⟨he, (k, v) :: ws, by simp, .cons hl (writes_of_read hd.1 hv) hw⟩

end

/-! ### What is written, read -/

mutual

/-- What is written is read, if the value has no repeated key. -/
lemma Writes.read_eq {d : Draft} {v : Json} (h : d.Writes v) (hv : v.DistinctKeys) :
    d.read = .ok v := by
  match d with
  | .null =>
    cases h
    rfl
  | .bool b =>
    cases h
    rfl
  | .number l =>
    cases h with
    | number hn => exact map_eq_ok_iff.mpr ⟨_, hn, rfl⟩
  | .string l =>
    cases h with
    | string ht => exact map_eq_ok_iff.mpr ⟨_, ht, rfl⟩
  | .array ds e =>
    cases h with
    | array hs =>
      rw [Json.DistinctKeys] at hv
      exact map_eq_ok_iff.mpr ⟨_, hs.readItems_eq hv, rfl⟩
  | .object ds e =>
    cases h with
    | object hs =>
      rw [Json.DistinctKeys] at hv
      exact map_eq_ok_iff.mpr ⟨_, hs.readMembers_eq (by simpa using hv.1) hv.2, rfl⟩
  | .fault f => cases h

lemma WritesItems.readItems_eq {ds : List Draft} {vs : List Json} (h : WritesItems ds vs)
    (hv : Json.DistinctKeysItems vs) : readItems none ds = .ok vs := by
  match ds with
  | [] =>
    cases h
    rfl
  | d :: ds =>
    cases h with
    | cons hd hs =>
      rw [Json.DistinctKeysItems] at hv
      rw [readItems, hd.read_eq hv.1, hs.readItems_eq hv.2]
      rfl

lemma WritesMembers.readMembers_eq {soFar ms : List (String × Json)}
    {ds : List (StringLiteral × Draft)} (h : WritesMembers ds ms)
    (hk : ((soFar ++ ms).map Prod.fst).Nodup) (hv : Json.DistinctKeysMembers ms) :
    readMembers none soFar ds = .ok (soFar ++ ms) := by
  match ds with
  | [] =>
    cases h
    rw [List.append_nil]
    rfl
  | (l, d) :: ds =>
    cases h with
    | @cons _ k _ v _ ms hl hd hs =>
      rw [Json.DistinctKeysMembers] at hv
      have hnew : k ∉ soFar.map Prod.fst := by
        intro hm
        rw [List.map_append, List.nodup_append] at hk
        exact hk.2.2 k hm k List.mem_cons_self rfl
      have hrest : readMembers none (soFar ++ [(k, v)]) ds = .ok (soFar ++ [(k, v)] ++ ms) :=
        hs.readMembers_eq (by simpa using hk) hv.2
      rw [readMembers, hl, hd.read_eq hv.1]
      show readMembers none (putEntry k v soFar) ds = _
      rw [putEntry_of_not_mem hnew, hrest, List.append_assoc, List.singleton_append]

end

lemma WritesMembers.map_value {ds : List (StringLiteral × Draft)} {ms : List (String × Json)}
    (h : WritesMembers ds ms) :
    (ds.map fun d => d.1.value) = ms.map fun m => (.ok m.1 : Except Fault String) := by
  induction ds generalizing ms with
  | nil =>
    cases h
    rfl
  | cons d ds ih =>
    cases h with
    | cons hl _ hs => rw [List.map_cons, List.map_cons, hl, ih hs]

mutual

lemma Writes.distinctKeys {d : Draft} {v : Json} (h : d.Writes v) (hv : v.DistinctKeys) :
    d.DistinctKeys := by
  match d with
  | .null | .bool _ | .number _ | .string _ | .fault _ => trivial
  | .array ds e =>
    cases h with
    | array hs => exact hs.distinctKeysItems hv
  | .object ds e =>
    cases h with
    | @object _ ms hs =>
      rw [Json.DistinctKeys] at hv
      refine ⟨?_, hs.distinctKeysMembers hv.2⟩
      have hok : Function.Injective (Except.ok : String → Except Fault String) :=
        fun _ _ => Except.ok.inj
      have hkeys := hv.1.map hok
      rw [List.map_map] at hkeys
      rw [hs.map_value]
      exact hkeys

lemma WritesItems.distinctKeysItems {ds : List Draft} {vs : List Json} (h : WritesItems ds vs)
    (hv : Json.DistinctKeysItems vs) : DistinctKeysItems ds := by
  match ds with
  | [] => trivial
  | d :: ds =>
    cases h with
    | cons hd hs => exact ⟨hd.distinctKeys hv.1, hs.distinctKeysItems hv.2⟩

lemma WritesMembers.distinctKeysMembers {ds : List (StringLiteral × Draft)}
    {ms : List (String × Json)} (h : WritesMembers ds ms) (hv : Json.DistinctKeysMembers ms) :
    DistinctKeysMembers ds := by
  match ds with
  | [] => trivial
  | (l, d) :: ds =>
    cases h with
    | cons _ hd hs => exact ⟨hd.distinctKeys hv.1, hs.distinctKeysMembers hv.2⟩

end

/-! ### Passing over a value -/

lemma fault_eq_none_of_decodePieces {fault : Option Fault} {ps : List Piece} {cs : List Char}
    (h : decodePieces fault ps = .ok cs) : fault = none := by
  fun_induction decodePieces fault ps generalizing cs with
  | case1 => assumption
  | case2 => cases h
  | case3 c ps ih =>
    obtain ⟨cs, hcs, _⟩ := map_eq_ok_iff.mp h
    exact ih hcs
  | case4 => cases h
  | case5 u _ _ w qs _ ih =>
    obtain ⟨cs, hcs, _⟩ := map_eq_ok_iff.mp h
    exact ih hcs
  | case6 => cases h
  | case7 => cases h
  | case8 => cases h
  | case9 u ps _ _ ih =>
    obtain ⟨cs, hcs, _⟩ := map_eq_ok_iff.mp h
    exact ih hcs

lemma fault_eq_none_of_value {l : StringLiteral} {t : String} (h : l.value = .ok t) :
    l.fault = none := by
  obtain ⟨cs, hcs, _⟩ := map_eq_ok_iff.mp h
  exact fault_eq_none_of_decodePieces hcs

mutual

/-- Passing over is no stricter than reading. -/
lemma Writes.skipFault_eq_none {d : Draft} {v : Json} (h : d.Writes v) : d.skipFault = none := by
  match d with
  | .null | .bool _ | .number _ => rw [skipFault] <;> simp
  | .string l =>
    cases h with
    | string ht => exact fault_eq_none_of_value ht
  | .array ds e =>
    cases h with
    | array hs => exact WritesItems.skipFaultItems_eq_none hs
  | .object ds e =>
    cases h with
    | object hs => exact WritesMembers.skipFaultMembers_eq_none hs
  | .fault f => cases h

lemma WritesItems.skipFaultItems_eq_none {ds : List Draft} {vs : List Json}
    (h : WritesItems ds vs) : skipFaultItems none ds = none := by
  match ds with
  | [] => rfl
  | d :: ds =>
    cases h with
    | cons hd hs =>
      rw [skipFaultItems, hd.skipFault_eq_none, hs.skipFaultItems_eq_none]
      rfl

lemma WritesMembers.skipFaultMembers_eq_none {ds : List (StringLiteral × Draft)}
    {ms : List (String × Json)} (h : WritesMembers ds ms) : skipFaultMembers none ds = none := by
  match ds with
  | [] => rfl
  | (l, d) :: ds =>
    cases h with
    | cons hl hd hs =>
      rw [skipFaultMembers, fault_eq_none_of_value hl, hd.skipFault_eq_none,
        hs.skipFaultMembers_eq_none]
      rfl

end

end Draft

end Json

end RequestContract
