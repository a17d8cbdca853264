import Mathlib.Data.List.Perm.Basic
import RequestContract.Proofs.Schema.Resolution

/-!
# Declarations in another order

Two declarations that differ only in the order of types and of fields resolve together. If they do
not resolve, they have the same problems up to order; if they do, the two schemas give the same
answer to each look-up.
-/

namespace RequestContract

variable {α β : Type}

/-! ### Maps in another order -/

namespace OrderedMap

/-- The same keys in any order, with related values. -/
structure Permuted (R : α → β → Prop) (m : OrderedMap α) (n : OrderedMap β) : Prop where
  keys : m.keys.Perm n.keys
  values : ∀ k x y, m.get? k = some x → n.get? k = some y → R x y

variable {R : α → β → Prop} {m : OrderedMap α} {n : OrderedMap β}

lemma Permuted.of_perm {m n : OrderedMap α} (h : m.entries.Perm n.entries) : m.Permuted Eq n where
  keys := h.map Prod.fst
  values k x y hx hy := by
    rw [get?_eq_some_iff, h.mem_iff, ← get?_eq_some_iff] at hx
    exact Option.some.inj (hx.symm.trans hy)

lemma Permuted.get?_cases (h : m.Permuted R n) (k : String) :
    (m.get? k = none ∧ n.get? k = none) ∨
    ∃ x y, m.get? k = some x ∧ n.get? k = some y ∧ R x y := by
  have hk : k ∈ m.keys ↔ k ∈ n.keys := h.keys.mem_iff
  by_cases hm : k ∈ m.keys
  · obtain ⟨x, hx⟩ := mem_keys_iff.mp hm
    obtain ⟨y, hy⟩ := mem_keys_iff.mp (hk.mp hm)
    exact .inr ⟨x, y, hx, hy, h.values k x y hx hy⟩
  · exact .inl ⟨get?_eq_none_iff.mpr hm, get?_eq_none_iff.mpr (hm ∘ hk.mpr)⟩

/-- What is made of the entries one by one can be made of the keys. -/
lemma flatMap_entries {γ : Type} (m : OrderedMap α) (f : String → α → List γ) :
    (m.entries.flatMap fun e => f e.1 e.2)
      = m.keys.flatMap fun k => ((m.get? k).map (f k)).getD [] := by
  rw [keys, List.flatMap_map]
  apply List.flatMap_congr
  intro e he
  rw [get?_eq_some_iff.mpr he]
  rfl

lemma Permuted.flatMap_entries {γ : Type} (h : m.Permuted R n) {f : String → α → List γ}
    {g : String → β → List γ} (hfg : ∀ k x y, R x y → (f k x).Perm (g k y)) :
    (m.entries.flatMap fun e => f e.1 e.2).Perm (n.entries.flatMap fun e => g e.1 e.2) := by
  rw [OrderedMap.flatMap_entries, OrderedMap.flatMap_entries]
  refine (h.keys.flatMap_right _).trans (List.Perm.flatMap_left _ fun k _ => ?_)
  rcases h.get?_cases k with ⟨hx, hy⟩ | ⟨x, y, hx, hy, hxy⟩
  · rw [hx, hy]
    exact .nil
  · rw [hx, hy]
    exact hfg k x y hxy

end OrderedMap

/-! ### Declarations in another order -/

/-- The same types with the same fields, in any order. -/
def SchemaDecl.Permuted (d d' : SchemaDecl) : Prop :=
  d.types.Permuted (OrderedMap.Permuted Eq) d'.types

/-- Each look-up of a field has the same answer. -/
def RecordType.SameFields (r r' : RecordType) : Prop := ∀ k, r.get? k = r'.get? k

/-- Each look-up of a type has the same answer, up to the order of the fields. -/
def Schema.SameTypes (s s' : Schema) : Prop := ∀ n,
  (s.type? n = none ∧ s'.type? n = none) ∨
  ∃ r r', s.type? n = some r ∧ s'.type? n = some r' ∧ r.SameFields r'

namespace SchemaDecl

variable {d d' : SchemaDecl}

lemma fieldProblems_congr {declared declared' : List String}
    (h : ∀ n, n ∈ declared ↔ n ∈ declared') (owner field : String) (f : FieldDecl) :
    fieldProblems declared owner field f = fieldProblems declared' owner field f := by
  have hc (n : String) : declared.contains n = declared'.contains n := by
    rw [Bool.eq_iff_iff, List.contains_iff_mem, List.contains_iff_mem, h]
  simp only [fieldProblems, referenceProblems, hc]

lemma problems_perm (h : d.Permuted d') : d.problems.Perm d'.problems := by
  have hdeclared : d.declaredNames.Perm d'.declaredNames := h.keys.filter _
  rw [problems, problems]
  refine h.flatMap_entries fun name t t' ht => ?_
  rw [typeProblems, typeProblems]
  split
  · exact .refl _
  · refine ht.flatMap_entries fun k f f' hf => ?_
    rw [hf, fieldProblems_congr fun n => hdeclared.mem_iff]

lemma sameFields_resolveType {t t' : TypeDecl} (h : t.Permuted Eq t') :
    (resolveType t).SameFields (resolveType t') := by
  intro k
  rw [get?_resolveType, get?_resolveType]
  rcases h.get?_cases k with ⟨hf, hf'⟩ | ⟨f, f', hf, hf', rfl⟩
  · rw [hf, hf']
  · rw [hf, hf']

/-- Both are rejected with the same problems up to order, or both are accepted and look-ups do not
tell the schemas apart. -/
theorem Permuted.resolve (h : d.Permuted d') :
    (∃ ps ps', d.resolve = .error ps ∧ d'.resolve = .error ps' ∧ ps.toList.Perm ps'.toList) ∨
    (∃ s s', d.resolve = .ok s ∧ d'.resolve = .ok s' ∧ s.SameTypes s') := by
  have hp := problems_perm h
  cases hr : d.resolve with
  | error ps =>
    rw [resolve_eq_error_iff] at hr
    cases hr' : d'.resolve with
    | error ps' =>
      rw [resolve_eq_error_iff] at hr'
      rw [hr, hr'] at hp
      exact .inl ⟨ps, ps', rfl, rfl, hp⟩
    | ok s' =>
      have hnil := problems_eq_nil_iff.mpr (resolve_eq_ok_iff.mp hr').1
      rw [hr, hnil] at hp
      cases hp.eq_nil
  | ok s =>
    have hnil := problems_eq_nil_iff.mpr (resolve_eq_ok_iff.mp hr).1
    rw [hnil] at hp
    have hr' := resolve_eq_ok_iff.mpr ⟨problems_eq_nil_iff.mp hp.nil_eq.symm, rfl⟩
    refine .inr ⟨s, _, rfl, hr', fun n => ?_⟩
    rw [type?_of_resolve hr, type?_of_resolve hr']
    rcases h.get?_cases n with ⟨ht, ht'⟩ | ⟨t, t', ht, ht', htt⟩
    · rw [ht, ht']
      exact .inl ⟨rfl, rfl⟩
    · rw [ht, ht']
      exact .inr ⟨_, _, rfl, rfl, sameFields_resolveType htt⟩

end SchemaDecl

end RequestContract
