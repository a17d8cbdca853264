import RequestContract.Proofs.Check.Spot

/-!
# Walks from spot to spot

The structural check and the content check are walks: each looks at a spot, then goes on to the
spots one step further in, which `Spot.next` enumerates. They differ in what they report at a spot
and in the order in which they take the members of an object. `Walk.reports` is what a walk reports
at a spot and below, in its order.

For values without repeated keys, `Walk.mem_reports_iff` says that these are the breaches at the
spots that steps reach, and `Walk.nodup_reports` that no breach is reported twice.
-/

namespace RequestContract

/-- The order in which the members of an object are taken. -/
inductive MemberOrder where
  /-- As the object gives them. -/
  | given
  /-- As the type declares them. -/
  | declared

/-- The declared members of an object, each with the step to it. -/
def MemberOrder.spots (o : MemberOrder) (r : RecordType) (ms : List (String × Json)) :
    List (Path.Component × Spot) :=
  match o with
  | given => ms.filterMap fun m => (r.get? m.1).map fun f => (.property m.1, .ofField m.1 f m.2)
  | declared =>
    r.entries.filterMap fun e => (ms.lookup e.1).map fun v => (.property e.1, .ofField e.1 e.2 v)

namespace Spot

/-- The spots one step further in, each with the step to it. -/
def next (s : Schema) (o : MemberOrder) (a : Spot) : List (Path.Component × Spot) :=
  match a.type, a.value with
  | .array t, .array items => items.zipIdx.map fun x => (.index x.2, a.element t x.2 x.1)
  | .named n, .object ms =>
    match s.type? n with
    | some r => o.spots r ms
    | none => []
  | _, _ => []

end Spot

variable {s : Schema} {o : MemberOrder} {r : RecordType} {ms : List (String × Json)}

/-! ### The steps of an object -/

lemma MemberOrder.of_mem_spots {c : Path.Component} {b : Spot} (h : (c, b) ∈ o.spots r ms) :
    ∃ k f v, (k, v) ∈ ms ∧ r.get? k = some f ∧ c = .property k ∧ b = .ofField k f v := by
  cases o with
  | given =>
    simp only [spots, List.mem_filterMap, Option.map_eq_some_iff, Prod.mk.injEq] at h
    obtain ⟨⟨k, v⟩, hk, f, hf, rfl, rfl⟩ := h
    exact ⟨k, f, v, hk, hf, rfl, rfl⟩
  | declared =>
    simp only [spots, List.mem_filterMap, Option.map_eq_some_iff, Prod.mk.injEq] at h
    obtain ⟨⟨k, f⟩, hf, v, hv, rfl, rfl⟩ := h
    exact ⟨k, f, v, mem_of_lookup_eq_some hv, OrderedMap.get?_eq_some_iff.mpr hf, rfl, rfl⟩

lemma MemberOrder.mem_spots (h : (ms.map Prod.fst).Nodup) {k : String} {f : Field} {v : Json}
    (hk : (k, v) ∈ ms) (hf : r.get? k = some f) :
    (.property k, .ofField k f v) ∈ o.spots r ms := by
  cases o with
  | given =>
    rw [spots, List.mem_filterMap]
    exact ⟨(k, v), hk, by simp [hf]⟩
  | declared =>
    rw [spots, List.mem_filterMap]
    exact ⟨(k, f), OrderedMap.get?_eq_some_iff.mp hf, by simp [(lookup_eq_some_iff_mem h).mpr hk]⟩

/-- Whatever the order, the steps into an object are distinct. -/
lemma MemberOrder.nodup_steps (h : (ms.map Prod.fst).Nodup) :
    ((o.spots r ms).map Prod.fst).Nodup := by
  have property_injective : Function.Injective Path.Component.property :=
    fun _ _ hk => Path.Component.property.inj hk
  cases o with
  | given =>
    refine (sublist_map_filterMap (.property ∘ Prod.fst) Prod.fst (fun m x hx => ?_) ms).nodup ?_
    · obtain ⟨f, _, rfl⟩ := Option.map_eq_some_iff.mp hx
      rfl
    · rw [← List.map_map]
      exact h.map property_injective
  | declared =>
    refine (sublist_map_filterMap (.property ∘ Prod.fst) Prod.fst (fun e x hx => ?_)
      r.entries).nodup ?_
    · obtain ⟨v, _, rfl⟩ := Option.map_eq_some_iff.mp hx
      rfl
    · rw [← List.map_map]
      exact r.nodup.map property_injective

/-! ### The steps of a spot -/

namespace Spot

/-- A spot is a list of a list type, an object of a named type, or nothing lies further in. -/
lemma list_or_object_or_leaf (a : Spot) :
    (∃ t items, a.type = .array t ∧ a.value = .array items) ∨
    (∃ n ms, a.type = .named n ∧ a.value = .object ms) ∨
    ((∀ t items, a.type = .array t → a.value ≠ .array items) ∧
      ∀ n ms, a.type = .named n → a.value ≠ .object ms) := by
  cases a.type <;> cases a.value <;> simp

/-- A scalar, and whatever has not the shape of its type, has nothing inside to go on to. -/
lemma next_eq_nil {o : MemberOrder} {a : Spot}
    (ha : ∀ t items, a.type = .array t → a.value ≠ .array items)
    (ho : ∀ n ms, a.type = .named n → a.value ≠ .object ms) : a.next s o = [] := by
  rw [next]
  split
  · next ht hv => exact absurd hv (ha _ _ ht)
  · next ht hv => exact absurd hv (ho _ _ ht)
  · rfl

lemma next_of_any {o : MemberOrder} {a : Spot} (ht : a.type = .any) : a.next s o = [] := by
  simp only [next, ht]

lemma next_of_list {o : MemberOrder} {a : Spot} {t : FieldType} {items : List Json}
    (ht : a.type = .array t) (hv : a.value = .array items) : a.next s o
      = items.zipIdx.map fun x => (.index x.2, a.element t x.2 x.1) := by
  simp only [next, ht, hv]

lemma next_of_object {o : MemberOrder} {a : Spot} {n : String} {r : RecordType}
    {ms : List (String × Json)} (ht : a.type = .named n) (hv : a.value = .object ms)
    (hr : s.type? n = some r) : a.next s o = o.spots r ms := by
  simp only [next, ht, hv, hr]

lemma step_of_mem_next {a b : Spot} {c : Path.Component} (h : (c, b) ∈ a.next s o) :
    s.Step a c b := by
  rw [next] at h
  split at h
  · next t items ht hv =>
    obtain ⟨⟨v, i⟩, hi, hc⟩ := List.mem_map.mp h
    cases hc
    exact .element ht hv (List.mem_zipIdx_iff_getElem?.mp hi)
  · next n ms ht hv =>
    split at h
    · next r hr =>
      obtain ⟨k, f, v, hk, hf, rfl, rfl⟩ := MemberOrder.of_mem_spots h
      exact .member ht hr hv hk hf
    · cases h
  · cases h

lemma mem_next {a b : Spot} {c : Path.Component} (hd : a.value.DistinctKeys) (h : s.Step a c b) :
    (c, b) ∈ a.next s o := by
  cases h with
  | @element t items i v ht hv hi =>
    simp only [next, ht, hv]
    exact List.mem_map.mpr ⟨(v, i), List.mem_zipIdx_iff_getElem?.mpr hi, rfl⟩
  | member ht hr hv hk hf =>
    rw [hv] at hd
    simp only [next, ht, hv, hr]
    exact MemberOrder.mem_spots hd.keys hk hf

lemma nodup_next {a : Spot} (hd : a.value.DistinctKeys) : ((a.next s o).map Prod.fst).Nodup := by
  rw [next]
  split
  · next t items _ _ =>
    have h : (items.zipIdx.map Prod.snd).Nodup := by
      rw [List.zipIdx_map_snd]
      exact List.nodup_range'
    have index_injective : Function.Injective Path.Component.index :=
      fun _ _ hi => Path.Component.index.inj hi
    have hi := h.map index_injective
    rw [List.map_map] at hi ⊢
    exact hi
  · next n ms _ hv =>
    split
    · rw [hv] at hd
      exact MemberOrder.nodup_steps hd.keys
    · exact List.nodup_nil
  · exact List.nodup_nil

end Spot

lemma Schema.Step.value_lt {a b : Spot} {c : Path.Component} (h : s.Step a c b) :
    sizeOf b.value < sizeOf a.value := by
  cases h with
  | element ht hv hi =>
    have := List.sizeOf_lt_of_mem (List.mem_of_getElem? hi)
    rw [hv, Json.array.sizeOf_spec, Spot.value_element]
    omega
  | member ht hr hv hk hf =>
    have := List.sizeOf_lt_of_mem hk
    rw [Prod.mk.sizeOf_spec] at this
    rw [hv, Json.object.sizeOf_spec, Spot.value_ofField]
    omega

lemma Schema.Step.distinctKeys {a b : Spot} {c : Path.Component} (h : s.Step a c b)
    (hd : a.value.DistinctKeys) : b.value.DistinctKeys := by
  cases h with
  | element ht hv hi =>
    rw [hv] at hd
    exact hd.item (List.mem_of_getElem? hi)
  | member ht hr hv hk hf =>
    rw [hv] at hd
    exact hd.member hk

lemma Schema.Step.at {a b : Spot} {c : Path.Component} {p : Path} (h : s.Step a c b)
    (ha : a.At p) : b.At (p.push c) := by
  cases h with
  | element ht hv hi => exact ha.element _ _ _
  | member ht hr hv hk hf => exact Spot.at_ofField _ _ _ p

/-! ### Checks of members and elements -/

namespace Check

/-- The checks of the declared members of an object under their keys, in the order of the object. -/
def members (check : Spot → Check) (r : RecordType) (ms : List (String × Json)) :
    List (String × Check) :=
  ms.filterMap fun m =>
    (r.get? m.1).map fun f => (m.1, inside (.property m.1) (check (.ofField m.1 f m.2)))

variable {check : Spot → Check}

lemma map_snd_members : (members check r ms).map Prod.snd
    = (MemberOrder.given.spots r ms).map fun n => inside n.1 (check n.2) := by
  rw [members, MemberOrder.spots, List.map_filterMap, List.map_filterMap]
  simp only [Option.map_map, Function.comp_def]

lemma lookup_members (k : String) : (members check r ms).lookup k
    = (r.get? k).bind fun f =>
        (ms.lookup k).map fun v => inside (.property k) (check (.ofField k f v)) := by
  induction ms with
  | nil => simp [members]
  | cons m ms ih =>
    obtain ⟨l, w⟩ := m
    rw [members] at ih
    by_cases hk : k = l
    · subst hk
      cases hf : r.get? k <;> simp [members, hf, ih]
    · have hb : (k == l) = false := by simpa using hk
      cases hf : r.get? l <;> simp [members, hf, ih, List.lookup_cons, hb]

/-- A check that puts the declared members one in front of the other prepares all of them. -/
lemma eq_members {checks : List (String × Json) → List (String × Check)} (hnil : checks [] = [])
    (hsome : ∀ k v ms f, r.get? k = some f → checks ((k, v) :: ms)
      = (k, inside (.property k) (check (.ofField k f v))) :: checks ms)
    (hnone : ∀ k v ms, r.get? k = none → checks ((k, v) :: ms) = checks ms) :
    checks ms = members check r ms := by
  rw [members]
  induction ms with
  | nil => exact hnil
  | cons m ms ih =>
    obtain ⟨k, v⟩ := m
    rw [List.filterMap_cons]
    cases hf : r.get? k with
    | none => rw [hnone k v ms hf, ih, Option.map_none]
    | some f => rw [hsome k v ms f hf, ih, Option.map_some]

/-- A check that goes from element to element runs the checks of all elements in order. -/
lemma eq_inOrder_items {check : Json → Check} {checks : Nat → List Json → Check}
    (hnil : ∀ i, checks i [] = id)
    (hcons : ∀ i v vs, checks i (v :: vs)
      = fun ctx => checks (i + 1) vs (ctx.within (.index i) (check v))) (i : Nat) (vs : List Json) :
    checks i vs = inOrder ((vs.zipIdx i).map fun x => inside (.index x.2) (check x.1)) := by
  funext ctx
  induction vs generalizing i ctx with
  | nil => rw [hnil, List.zipIdx_nil, List.map_nil, inOrder_nil, id]
  | cons v vs ih =>
    rw [hcons, List.zipIdx_cons, List.map_cons, inOrder_cons]
    exact ih (i + 1) _

/-- Members that are run by the keys of the type are run as they are declared. -/
lemma forKeys_members : forKeys r.keys (members check r ms)
    = inOrder ((MemberOrder.declared.spots r ms).map fun n => inside n.1 (check n.2)) := by
  rw [forKeys, MemberOrder.spots, List.map_filterMap, OrderedMap.keys, List.filterMap_map]
  congr 1
  apply List.filterMap_congr
  intro e he
  have hf : r.get? e.1 = some e.2 := OrderedMap.get?_eq_some_iff.mpr he
  simp only [Function.comp_apply, lookup_members, hf, Option.bind_some, Option.map_map]
  rfl

end Check

/-! ### Walks -/

/-- A way to check spot by spot. -/
structure Walk where
  /-- What is reported at a spot. -/
  look : Spot → List Breach
  /-- The order in which the members of an object are taken. -/
  order : MemberOrder

namespace Walk

/-- What the walk reports at a spot and further in, as seen from the spot. -/
def reports (w : Walk) (s : Schema) (a : Spot) : List Breach :=
  w.look a ++ (a.next s w.order).attach.flatMap fun n =>
    (w.reports s n.1.2).map (Breach.under n.1.1)
termination_by sizeOf a.value
decreasing_by exact (Spot.step_of_mem_next n.2).value_lt

/-- What the walk reports after the steps of a list. -/
def reportsAfter (w : Walk) (s : Schema) (ns : List (Path.Component × Spot)) : List Breach :=
  ns.flatMap fun n => (w.reports s n.2).map (Breach.under n.1)

variable {w : Walk}

lemma reports_eq (w : Walk) (s : Schema) (a : Spot) :
    w.reports s a = w.look a ++ w.reportsAfter s (a.next s w.order) := by
  rw [reports, reportsAfter, List.flatMap_subtype
    (g := fun n => (w.reports s n.2).map (Breach.under n.1)) fun _ _ => rfl, List.unattach_attach]

lemma mem_reportsAfter {ns : List (Path.Component × Spot)} {b : Breach} :
    b ∈ w.reportsAfter s ns ↔ ∃ c a, (c, a) ∈ ns ∧ ∃ b' ∈ w.reports s a, b = b'.under c := by
  simp [reportsAfter, eq_comm]

lemma reportsAfter_eq_nil_iff {ns : List (Path.Component × Spot)} :
    w.reportsAfter s ns = [] ↔ ∀ n ∈ ns, w.reports s n.2 = [] := by
  rw [reportsAfter, List.flatMap_eq_nil_iff]
  simp only [List.map_eq_nil_iff]

lemma reports_eq_nil_iff {a : Spot} (hd : a.value.DistinctKeys) : w.reports s a = [] ↔
    w.look a = [] ∧ ∀ c b, s.Step a c b → w.reports s b = [] := by
  rw [reports_eq, List.append_eq_nil_iff, reportsAfter_eq_nil_iff]
  apply and_congr_right
  intro _
  constructor
  · intro h c b hs
    exact h (c, b) (Spot.mem_next hd hs)
  · intro h n hn
    exact h n.1 n.2 (Spot.step_of_mem_next hn)

lemma reportsAfter_spots_eq_nil_iff (h : (ms.map Prod.fst).Nodup) :
    w.reportsAfter s (o.spots r ms) = [] ↔
      ∀ k f v, (k, v) ∈ ms → r.get? k = some f → w.reports s (.ofField k f v) = [] := by
  rw [reportsAfter_eq_nil_iff]
  constructor
  · intro hn k f v hk hf
    exact hn _ (MemberOrder.mem_spots h hk hf)
  · intro hm n hn
    obtain ⟨k, f, v, hk, hf, _, ha⟩ := MemberOrder.of_mem_spots hn
    rw [ha]
    exact hm k f v hk hf

/-! ### What is reported -/

/-- What a walk reports it sees at a spot that it reaches. -/
lemma exists_of_mem_reports {a : Spot} {b : Breach} (h : b ∈ w.reports s a) :
    ∃ q e x, s.Reaches a q e ∧ x ∈ w.look e ∧ b = x.along q := by
  -- by induction on the value: types may refer to themselves, values get smaller
  rw [reports_eq, List.mem_append] at h
  rcases h with h | h
  · exact ⟨[], a, b, .here a, h, rfl⟩
  · obtain ⟨c, a', hn, b', hb, rfl⟩ := mem_reportsAfter.mp h
    have hs := Spot.step_of_mem_next hn
    have := hs.value_lt
    obtain ⟨q, e, x, hr, hx, rfl⟩ := exists_of_mem_reports hb
    exact ⟨c :: q, e, x, .step hs hr, hx, rfl⟩
termination_by sizeOf a.value

/-- From an object a walk reports what it sees at spots inside. -/
lemma exists_of_mem_reportsAfter_spots {b : Breach} (h : b ∈ w.reportsAfter s (o.spots r ms)) :
    ∃ q e x, s.Reached r ms q e ∧ x ∈ w.look e ∧ b = x.along q := by
  obtain ⟨c, a, hn, b', hb, rfl⟩ := mem_reportsAfter.mp h
  obtain ⟨k, f, v, hk, hf, rfl, rfl⟩ := MemberOrder.of_mem_spots hn
  obtain ⟨q, e, x, hr, hx, rfl⟩ := exists_of_mem_reports hb
  exact ⟨_, e, x, Schema.reached_iff.mpr ⟨k, f, v, q, hk, hf, rfl, hr⟩, hx, rfl⟩

/-- A walk reports what it sees at the spots that it reaches. -/
theorem mem_reports_iff {a : Spot} (hd : a.value.DistinctKeys) {b : Breach} :
    b ∈ w.reports s a ↔ ∃ q e x, s.Reaches a q e ∧ x ∈ w.look e ∧ b = x.along q := by
  refine ⟨exists_of_mem_reports, ?_⟩
  rintro ⟨q, e, x, hr, hx, rfl⟩
  induction hr with
  | here a =>
    rw [reports_eq]
    exact List.mem_append_left _ hx
  | step hs _ ih =>
    rw [reports_eq]
    have hb := ih (hs.distinctKeys hd) hx
    exact List.mem_append_right _ (mem_reportsAfter.mpr ⟨_, _, Spot.mem_next hd hs, _, hb, rfl⟩)

/-- From an object a walk reports what it sees at the spots inside. -/
theorem mem_reportsAfter_spots_iff (hd : (Json.object ms).DistinctKeys) {b : Breach} :
    b ∈ w.reportsAfter s (o.spots r ms) ↔
      ∃ q e x, s.Reached r ms q e ∧ x ∈ w.look e ∧ b = x.along q := by
  refine ⟨exists_of_mem_reportsAfter_spots, ?_⟩
  rintro ⟨q, e, x, hr, hx, rfl⟩
  obtain ⟨k, f, v, q', hk, hf, rfl, hr'⟩ := Schema.reached_iff.mp hr
  have hb := (mem_reports_iff (hd.member hk)).mpr ⟨q', e, x, hr', hx, rfl⟩
  exact mem_reportsAfter.mpr ⟨_, _, MemberOrder.mem_spots hd.keys hk hf, _, hb, rfl⟩

/-! ### Nothing is reported twice -/

/-- Nothing is reported twice at a spot, and nothing that begins with a step of the walk. -/
structure IsNeat (w : Walk) (s : Schema) : Prop where
  /-- At a spot each place has each code once. -/
  nodup : ∀ a : Spot, a.value.DistinctKeys → ((w.look a).map Breach.key).Nodup
  /-- What is reported at a spot does not begin with a step from it. -/
  apart : ∀ a : Spot, ∀ b ∈ w.look a, ∀ n ∈ a.next s w.order, b.way.head? ≠ some n.1

/-- After distinct steps nothing is reported twice if it is not after each of them. -/
lemma nodup_reportsAfter {ns : List (Path.Component × Spot)} (hn : (ns.map Prod.fst).Nodup)
    (h : ∀ n ∈ ns, ((w.reports s n.2).map Breach.key).Nodup) :
    ((w.reportsAfter s ns).map Breach.key).Nodup := by
  rw [reportsAfter, List.map_flatMap, List.nodup_flatMap]
  constructor
  · intro n hm
    have key_injective : Function.Injective fun k : List Path.Component × String =>
        (n.1 :: k.1, k.2) := by
      rintro ⟨q, c⟩ ⟨q', c'⟩ hk
      simpa using hk
    rw [Breach.map_key_under]
    exact (h n hm).map key_injective
  · have hne : ns.Pairwise fun m n => m.1 ≠ n.1 := List.pairwise_map.mp hn
    refine hne.imp fun {m n} hmn k hm hn => ?_
    simp only [List.map_map, List.mem_map, Function.comp_apply, Breach.key_under] at hm hn
    obtain ⟨b, _, rfl⟩ := hm
    obtain ⟨b', _, hb⟩ := hn
    exact hmn (List.cons.inj (Prod.mk.inj hb).1).1.symm

/-- What begins with no step can be reported first. -/
lemma nodup_append_reportsAfter {bs : List Breach} {ns : List (Path.Component × Spot)}
    (hb : (bs.map Breach.key).Nodup) (hn : (ns.map Prod.fst).Nodup)
    (h : ∀ n ∈ ns, ((w.reports s n.2).map Breach.key).Nodup)
    (ha : ∀ b ∈ bs, ∀ n ∈ ns, b.way.head? ≠ some n.1) :
    ((bs ++ w.reportsAfter s ns).map Breach.key).Nodup := by
  rw [List.map_append, List.nodup_append]
  refine ⟨hb, nodup_reportsAfter hn h, ?_⟩
  rintro k hk k' hk' rfl
  obtain ⟨b, hb, rfl⟩ := List.mem_map.mp hk
  obtain ⟨b', hb', hkey⟩ := List.mem_map.mp hk'
  obtain ⟨c, e, hn, x, _, rfl⟩ := mem_reportsAfter.mp hb'
  have hway : c :: x.way = b.way := congrArg Prod.fst hkey
  refine ha b hb (c, e) hn ?_
  rw [← hway, List.head?_cons]

theorem nodup_reports (hw : w.IsNeat s) {a : Spot} (hd : a.value.DistinctKeys) :
    ((w.reports s a).map Breach.key).Nodup := by
  rw [reports_eq]
  refine nodup_append_reportsAfter (hw.nodup a hd) (Spot.nodup_next hd) (fun n hn => ?_)
    (hw.apart a)
  have hs := Spot.step_of_mem_next hn
  have := hs.value_lt
  exact nodup_reports hw (hs.distinctKeys hd)
termination_by sizeOf a.value

lemma nodup_reportsAfter_spots (hd : (Json.object ms).DistinctKeys) (hw : w.IsNeat s) :
    ((w.reportsAfter s (o.spots r ms)).map Breach.key).Nodup := by
  refine nodup_reportsAfter (MemberOrder.nodup_steps hd.keys) fun n hn => ?_
  obtain ⟨k, f, v, hk, _, _, ha⟩ := MemberOrder.of_mem_spots hn
  rw [ha]
  exact nodup_reports hw (hd.member hk)

/-! ### Walks in step -/

/-- Two walks are in step: of related spots each sees what the other sees, and they go on through
the same steps to related spots. -/
structure InStep (w w' : Walk) (s s' : Schema) (R : Spot → Spot → Prop) : Prop where
  look_eq : ∀ a b, R a b → w.look a = w'.look b
  next : ∀ a b, R a b → List.Forall₂ (fun n m => n.1 = m.1 ∧ R n.2 m.2)
    (a.next s w.order) (b.next s' w'.order)

variable {w' : Walk} {s' : Schema} {R : Spot → Spot → Prop}

lemma reportsAfter_congr {ns ns' : List (Path.Component × Spot)}
    (h : List.Forall₂ (fun n n' => n.1 = n'.1 ∧ w.reports s n.2 = w'.reports s' n'.2) ns ns') :
    w.reportsAfter s ns = w'.reportsAfter s' ns' := by
  rw [reportsAfter, reportsAfter]
  induction h with
  | nil => rfl
  | cons hn _ ih => rw [List.flatMap_cons, List.flatMap_cons, ih, hn.1, hn.2]

/-- From related spots on, walks in step report the same. -/
theorem InStep.reports_eq (h : w.InStep w' s s' R) {a b : Spot} (hab : R a b) :
    w.reports s a = w'.reports s' b := by
  -- by induction on the value, which gets smaller with each step
  have hnext := (List.forall₂_and_left _ _).mpr
    ⟨fun n hn => (Spot.step_of_mem_next hn).value_lt, h.next a b hab⟩
  rw [Walk.reports_eq, Walk.reports_eq, h.look_eq a b hab, reportsAfter_congr (hnext.imp ?_)]
  rintro n m ⟨hlt, hc, hnm⟩
  exact ⟨hc, h.reports_eq hnm⟩
termination_by sizeOf a.value

lemma InStep.reportsAfter_eq (h : w.InStep w' s s' R) {ns ns' : List (Path.Component × Spot)}
    (hn : List.Forall₂ (fun n m => n.1 = m.1 ∧ R n.2 m.2) ns ns') :
    w.reportsAfter s ns = w'.reportsAfter s' ns' :=
  reportsAfter_congr (hn.imp fun _ _ hnm => ⟨hnm.1, h.reports_eq hnm.2⟩)

/-! ### Checks that walk -/

/-- The checks go from spot to spot as the walk does, `look` being what they do at each. -/
structure IsRunBy (w : Walk) (s : Schema) (check look : Spot → Check) : Prop where
  /-- At a spot the check reports what the walk sees. -/
  reports_look : ∀ a p, a.At p → (look a).Reports p (w.look a)
  /-- Then it goes one step further in. -/
  check_eq : ∀ a, check a = fun ctx =>
    Check.inOrder ((a.next s w.order).map fun n => Check.inside n.1 (check n.2)) (look a ctx)

/-- Checks that walk report what the walk reports. -/
theorem IsRunBy.reports {check look : Spot → Check} (hw : w.IsRunBy s check look) {a : Spot}
    {p : Path} (ha : a.At p) : (check a).Reports p (w.reports s a) := by
  rw [hw.check_eq, reports_eq]
  refine (hw.reports_look a p ha).andThen (.inOrder fun n hn => .inside ?_)
  have hs := Spot.step_of_mem_next hn
  have := hs.value_lt
  exact hw.reports (hs.at ha)
termination_by sizeOf a.value

/-- In whatever order the members of an object are checked, what is reported of each is reported. -/
theorem IsRunBy.reports_spots {check look : Spot → Check} (hw : w.IsRunBy s check look)
    (o : MemberOrder) (p : Path) :
    (Check.inOrder ((o.spots r ms).map fun n => Check.inside n.1 (check n.2))).Reports p
      (w.reportsAfter s (o.spots r ms)) := by
  refine .inOrder fun n hn => .inside ?_
  obtain ⟨k, f, v, _, _, hc, ha⟩ := MemberOrder.of_mem_spots hn
  rw [hc, ha]
  exact hw.reports (Spot.at_ofField k f v p)

end Walk

end RequestContract
