import RequestContract.Json.Cut
import RequestContract.Proofs.Entries
import RequestContract.Request

/-!
# Requests without repeated keys

What checks report is said of requests in which no object holds a key twice. Requests that are read
are such requests: `Json.distinctKeys_of_ofText` says that reading a text never gives an object with
a repeated key, and putting a request together from such values keeps it so.
-/

namespace RequestContract

/-! ### Values that are read -/

section Except

variable {ε α β : Type}

lemma map_eq_ok_iff {f : α → β} {x : Except ε α} {b : β} :
    f <$> x = .ok b ↔ ∃ a, x = .ok a ∧ f a = b := by
  cases x <;> simp [Functor.map, Except.map]

lemma bind_eq_ok_iff {f : α → Except ε β} {x : Except ε α} {b : β} :
    x >>= f = .ok b ↔ ∃ a, x = .ok a ∧ f a = .ok b := by
  cases x <;> simp [bind, Except.bind]

end Except

namespace Json

lemma distinctKeys_object_iff {ms : List (String × Json)} : (object ms).DistinctKeys ↔
    (ms.map Prod.fst).Nodup ∧ ∀ m ∈ ms, m.2.DistinctKeys := by
  rw [DistinctKeys, distinctKeysMembers_iff]

lemma distinctKeys_object_nil : (object []).DistinctKeys :=
  distinctKeys_object_iff.mpr ⟨List.nodup_nil, fun _ hm => absurd hm List.not_mem_nil⟩

lemma distinctKeys_putEntry {ms : List (String × Json)} (h : (object ms).DistinctKeys) (k : String)
    {v : Json} (hv : v.DistinctKeys) : (object (putEntry k v ms)).DistinctKeys := by
  rw [distinctKeys_object_iff] at h ⊢
  refine ⟨nodup_keys_putEntry k v h.1, fun m hm => ?_⟩
  rcases mem_of_mem_putEntry hm with rfl | hm
  · exact hv
  · exact h.2 m hm

namespace Draft

mutual

lemma distinctKeys_of_read : ∀ {d : Draft} {v : Json}, d.read = .ok v → v.DistinctKeys
  | .null, _, h => by
    cases h
    trivial
  | .bool _, _, h => by
    cases h
    trivial
  | .number l, _, h => by
    obtain ⟨n, _, rfl⟩ := map_eq_ok_iff.mp h
    trivial
  | .string l, _, h => by
    obtain ⟨t, _, rfl⟩ := map_eq_ok_iff.mp h
    trivial
  | .array ds ending, _, h => by
    obtain ⟨vs, hvs, rfl⟩ := map_eq_ok_iff.mp h
    rw [DistinctKeys, distinctKeysItems_iff]
    exact distinctKeys_of_readItems hvs
  | .object ds ending, _, h => by
    obtain ⟨ms, hms, rfl⟩ := map_eq_ok_iff.mp h
    exact distinctKeys_of_readMembers distinctKeys_object_nil hms
  | .fault f, _, h => by
    cases h

lemma distinctKeys_of_readItems {ending : Option Fault} :
    ∀ {ds : List Draft} {vs : List Json}, readItems ending ds = .ok vs →
      ∀ v ∈ vs, v.DistinctKeys
  | [], _, h => by
    obtain ⟨_, _, rfl⟩ := map_eq_ok_iff.mp h
    exact fun v hv => absurd hv List.not_mem_nil
  | d :: ds, _, h => by
    obtain ⟨v, hv, h⟩ := bind_eq_ok_iff.mp h
    obtain ⟨vs, hvs, h⟩ := bind_eq_ok_iff.mp h
    cases h
    intro w hw
    rcases List.mem_cons.mp hw with rfl | hw
    · exact distinctKeys_of_read hv
    · exact distinctKeys_of_readItems hvs w hw

/-- A value under a repeated key replaces the earlier one. -/
lemma distinctKeys_of_readMembers {ending : Option Fault} :
    ∀ {ds : List (StringLiteral × Draft)} {soFar ms : List (String × Json)},
      (Json.object soFar).DistinctKeys → readMembers ending soFar ds = .ok ms →
      (Json.object ms).DistinctKeys
  | [], _, _, hs, h => by
    obtain ⟨_, _, rfl⟩ := map_eq_ok_iff.mp h
    exact hs
  | (l, d) :: ds, _, _, hs, h => by
    obtain ⟨k, _, h⟩ := bind_eq_ok_iff.mp h
    obtain ⟨v, hv, h⟩ := bind_eq_ok_iff.mp h
    exact distinctKeys_of_readMembers (distinctKeys_putEntry hs k (distinctKeys_of_read hv)) h

end

end Draft

theorem distinctKeys_of_ofText {text : String} {v : Json} (h : ofText text = .ok v) :
    v.DistinctKeys := by
  obtain ⟨v, hv, h⟩ := bind_eq_ok_iff.mp h
  obtain ⟨_, _, h⟩ := bind_eq_ok_iff.mp h
  cases h
  exact Draft.distinctKeys_of_read hv

end Json

/-! ### Requests -/

namespace Request

/-- No object of the request holds a key twice. -/
def DistinctKeys (request : Request) : Prop :=
  ∀ c ms, request.part c = some ms → (Json.object ms).DistinctKeys

variable {request : Request}

lemma distinctKeys_empty : empty.DistinctKeys := nofun

lemma DistinctKeys.withPart (h : request.DistinctKeys) (c : Category)
    {part : Option (List (String × Json))}
    (hp : ∀ ms, part = some ms → (Json.object ms).DistinctKeys) :
    (request.withPart c part).DistinctKeys := by
  intro c' ms hms
  by_cases hc : c' = c
  · subst hc
    rw [part_withPart_self] at hms
    exact hp ms hms
  · rw [part_withPart_of_ne hc] at hms
    exact h c' ms hms

lemma DistinctKeys.withMembers (h : request.DistinctKeys) (c : Category)
    {ms : List (String × Json)} (hm : (Json.object ms).DistinctKeys) :
    (request.withMembers c ms).DistinctKeys :=
  h.withPart c fun _ hms => Option.some.inj hms ▸ hm

lemma DistinctKeys.withValue (h : request.DistinctKeys) (c : Category) {v : Json}
    (hv : v.DistinctKeys) : (request.withValue c v).DistinctKeys := by
  apply h.withPart c
  intro ms hms
  cases v <;> cases hms
  exact hv

lemma distinctKeys_ofJson {v : Json} (hv : v.DistinctKeys) : (ofJson v).DistinctKeys := by
  intro c ms hms
  obtain ⟨w, hw, hms⟩ := Option.bind_eq_some_iff.mp hms
  cases v with
  | object vs =>
    have := hv.member (mem_of_lookup_eq_some hw)
    cases w <;> cases hms
    exact this
  | _ => cases hw

end Request

end RequestContract
