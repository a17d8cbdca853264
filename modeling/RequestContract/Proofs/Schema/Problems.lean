import RequestContract.Double.Rounding
import RequestContract.Proofs.Schema.Resolution

/-!
# Which problems are reported

`SchemaDecl.Defect` says what can be wrong with a declaration, each defect at its site: a type, a
field of it, and an aspect of that field. The sites stand in the order of declaration.

`SchemaDecl.reported_lists` says that a rejected declaration is rejected with just its defects, each
once, in the order of their sites, but for one thing: of a field whose type text cannot be read
nothing else is reported, not even a range that ends before it starts.
-/

namespace RequestContract

/-! ### Sites -/

/-- Where something is wrong: with which type, with which of its fields, and in which aspect of the
field. The aspects are the type text, what it refers to, the values, and the range. -/
structure ProblemSite where
  type : Nat
  field : Nat
  aspect : Nat

/-- The order of declaration. -/
inductive ProblemSite.Before : ProblemSite → ProblemSite → Prop
  | type {i i' j j' a a' : Nat} (h : i < i') : Before ⟨i, j, a⟩ ⟨i', j', a'⟩
  | field {i j j' a a' : Nat} (h : j < j') : Before ⟨i, j, a⟩ ⟨i, j', a'⟩
  | aspect {i j a a' : Nat} (h : a < a') : Before ⟨i, j, a⟩ ⟨i, j, a'⟩

/-- The list has each problem of a predicate once, in the order of the sites. -/
def ProblemSite.Lists (P : ProblemSite → SchemaProblem → Prop) (ps : List SchemaProblem) : Prop :=
  ∃ found : List (ProblemSite × SchemaProblem),
    found.map Prod.snd = ps ∧
    found.Pairwise (fun x y => x.1.Before y.1) ∧
    ∀ i p, (i, p) ∈ found ↔ P i p

/-! ### Defects -/

/-- What can be wrong with a field among the types of `d`, aspect by aspect. -/
inductive FieldDecl.Defect (d : SchemaDecl) (owner field : String) (f : FieldDecl) :
    Nat → SchemaProblem → Prop
  | typeText (h : FieldType.ofText? f.typeText = none) :
      Defect d owner field f 0 (.malformedType owner field f.typeText)
  | reference {t : FieldType} {n : String} (ht : FieldType.ofText? f.typeText = some t)
      (hn : t.innermost = .named n) (h : n ∉ d.types.keys) :
      Defect d owner field f 1 (.unknownType owner field n)
  | values {t : FieldType} (ht : FieldType.ofText? f.typeText = some t)
      (he : t.innermost = .enum) (h : f.values = none ∨ f.values = some []) :
      Defect d owner field f 2 (.missingEnumValues owner field)
  | range {r : Range} (hr : f.range = some r) (h : r.max.lt r.min = true) :
      Defect d owner field f 3 (.emptyRange owner field r)

/-- What can be wrong with a declaration: a type has a reserved name, or something is wrong with a
field of a type that has not. -/
inductive SchemaDecl.Defect (d : SchemaDecl) : ProblemSite → SchemaProblem → Prop
  | name {i : Nat} {n : String} {t : TypeDecl} (ht : d.types.entries[i]? = some (n, t))
      (hn : n ∈ FieldType.reservedNames) : Defect d ⟨i, 0, 0⟩ (.reservedTypeName n)
  | field {i j a : Nat} {n k : String} {t : TypeDecl} {f : FieldDecl} {p : SchemaProblem}
      (ht : d.types.entries[i]? = some (n, t)) (hn : n ∉ FieldType.reservedNames)
      (hf : t.entries[j]? = some (k, f)) (h : f.Defect d n k a p) : Defect d ⟨i, j, a⟩ p

namespace SchemaDecl

/-- A defect that is reported: no other one of a field whose type text cannot be read. -/
def Reported (d : SchemaDecl) (i : ProblemSite) (p : SchemaProblem) : Prop :=
  d.Defect i p ∧
    ∀ n k text, d.Defect ⟨i.type, i.field, 0⟩ (.malformedType n k text) → i.aspect = 0

/-- The problems with which a declaration is rejected; none if it is not. -/
def reported (d : SchemaDecl) : List SchemaProblem :=
  match d.resolve with
  | .error ps => ps.toList
  | .ok _ => []

end SchemaDecl

/-! ### References -/

/-- No type text refers to a reserved name. -/
lemma FieldType.not_mem_reservedNames_of_ofChars? {cs : List Char} {t : FieldType} {n : String}
    (h : ofChars? cs = some t) (hn : t.innermost = .named n) : n ∉ reservedNames := by
  fun_induction ofChars? cs generalizing t with
  | case1 =>
    -- a keyword refers to nothing
    rename_i k hk
    cases h
    obtain ⟨l₁, l₂, hl, -⟩ := List.lookup_eq_some_iff.mp hk
    have hmem := hl ▸ List.mem_append_right l₁ List.mem_cons_self
    simp only [keywords, List.mem_cons, Prod.mk.injEq, List.not_mem_nil, or_false] at hmem
    rcases hmem with ⟨-, rfl⟩ | ⟨-, rfl⟩ | ⟨-, rfl⟩ | ⟨-, rfl⟩ | ⟨-, rfl⟩ <;> cases hn
  | case2 =>
    rename_i ih
    obtain ⟨u, hu, rfl⟩ := Option.map_eq_some_iff.mp h
    exact ih hu hn
  | case3 | case5 => cases h
  | case4 =>
    rename_i hk _ hname
    cases h
    cases hn
    intro hmem
    have hchars := List.mem_map_of_mem (f := String.toList) hmem
    rw [String.toList_ofList] at hchars
    rw [List.lookup_eq_none_iff] at hk
    simp [keywords] at hk
    simp [reservedNames, isName] at hchars hname
    simp_all

namespace SchemaDecl

variable {d : SchemaDecl} {n k owner field : String} {f : FieldDecl} {t : TypeDecl}
  {p : SchemaProblem}

/-- So a field can refer to a type if and only if the type is declared, reserved names or not. -/
lemma not_mem_declaredNames_iff {u : FieldType} (hu : FieldType.ofText? f.typeText = some u)
    (hn : u.innermost = .named n) : n ∉ d.declaredNames ↔ n ∉ d.types.keys := by
  rw [mem_declaredNames_iff]
  have hr := FieldType.not_mem_reservedNames_of_ofChars? hu hn
  exact not_congr ⟨And.left, fun h => ⟨h, hr⟩⟩

/-! ### The problems of a field -/

lemma mem_referenceProblems_iff {declared : List String} {u : FieldType} :
    p ∈ referenceProblems declared owner field u ↔
      ∃ n, u.innermost = .named n ∧ n ∉ declared ∧ p = .unknownType owner field n := by
  simp only [← FieldType.reference?_eq_some_iff, referenceProblems]
  cases u.reference? with
  | none => simp
  | some n => by_cases h : n ∈ declared <;> simp [h]

lemma mem_enumProblems_iff {u : FieldType} : p ∈ enumProblems owner field u f ↔
    u.innermost = .enum ∧ (f.values = none ∨ f.values = some []) ∧
      p = .missingEnumValues owner field := by
  rw [enumProblems, ← FieldType.isEnum_iff]
  rcases f.values with _ | (_ | ⟨v, vs⟩) <;> cases u.innermost.isEnum <;> simp

lemma mem_rangeProblems_iff : p ∈ rangeProblems owner field f ↔
    ∃ r, f.range = some r ∧ r.max.lt r.min = true ∧ p = .emptyRange owner field r := by
  rw [rangeProblems]
  cases f.range with
  | none => simp
  | some r => cases h : r.max.lt r.min <;> simp [Range.isInverted, h]

/-- The problems of a field, each with its aspect. -/
def fieldDefects (declared : List String) (owner field : String) (f : FieldDecl) :
    List (Nat × SchemaProblem) :=
  match FieldType.ofText? f.typeText with
  | none => [(0, .malformedType owner field f.typeText)]
  | some t =>
    (referenceProblems declared owner field t).map (1, ·)
      ++ (enumProblems owner field t f).map (2, ·) ++ (rangeProblems owner field f).map (3, ·)

lemma map_snd_fieldDefects (declared : List String) (owner field : String) (f : FieldDecl) :
    (fieldDefects declared owner field f).map Prod.snd = fieldProblems declared owner field f := by
  rw [fieldDefects, fieldProblems]
  cases FieldType.ofText? f.typeText <;> simp [Function.comp_def]

/-- In each aspect at most one thing is wrong. -/
lemma pairwise_fieldDefects (declared : List String) (owner field : String) (f : FieldDecl) :
    (fieldDefects declared owner field f).Pairwise fun x y => x.1 < y.1 := by
  have haspect {ps : List SchemaProblem} (h : ps.length ≤ 1) (a : Nat) :
      ((ps.map fun q => (a, q)).map Prod.fst).Sublist [a] := by
    rcases ps with _ | ⟨q, _ | ⟨q', ps⟩⟩
    · exact List.nil_sublist _
    · exact .refl _
    · simp at h
  rw [← List.pairwise_map (f := Prod.fst) (R := (· < ·)), fieldDefects]
  cases FieldType.ofText? f.typeText with
  | none => exact List.pairwise_singleton _ _
  | some t =>
    have hr : (referenceProblems declared owner field t).length ≤ 1 := by
      rw [referenceProblems]
      cases t.reference? with
      | none => simp
      | some n => by_cases h : n ∈ declared <;> simp [h]
    have he : (enumProblems owner field t f).length ≤ 1 := by
      rw [enumProblems]
      split <;> simp
    have hi : (rangeProblems owner field f).length ≤ 1 := by
      rw [rangeProblems]
      cases f.range with
      | none => simp
      | some r => cases h : r.isInverted <;> simp [h]
    simp only [List.map_append]
    have hs := ((haspect hr 1).append (haspect he 2)).append (haspect hi 3)
    exact List.Pairwise.sublist hs (by decide)

lemma mem_fieldDefects_iff {a : Nat} : (a, p) ∈ fieldDefects d.declaredNames owner field f ↔
    f.Defect d owner field a p ∧ (FieldType.ofText? f.typeText = none → a = 0) := by
  rw [fieldDefects]
  cases hu : FieldType.ofText? f.typeText with
  | none =>
    simp only [List.mem_singleton, Prod.mk.injEq, true_implies]
    constructor
    · rintro ⟨rfl, rfl⟩
      exact ⟨.typeText hu, rfl⟩
    · rintro ⟨h, rfl⟩
      cases h with
      | typeText => exact ⟨rfl, rfl⟩
  | some u =>
    simp only [List.mem_append, List.mem_map, Prod.mk.injEq, reduceCtorEq, false_implies, and_true]
    constructor
    · rintro ((⟨q, hq, rfl, rfl⟩ | ⟨q, hq, rfl, rfl⟩) | ⟨q, hq, rfl, rfl⟩)
      · obtain ⟨n, hn, hd, rfl⟩ := mem_referenceProblems_iff.mp hq
        exact .reference hu hn ((not_mem_declaredNames_iff hu hn).mp hd)
      · obtain ⟨he, hv, rfl⟩ := mem_enumProblems_iff.mp hq
        exact .values hu he hv
      · obtain ⟨r, hr, h, rfl⟩ := mem_rangeProblems_iff.mp hq
        exact .range hr h
    · intro h
      cases h with
      | typeText h =>
        rw [hu] at h
        cases h
      | reference ht hn h =>
        rw [hu, Option.some.injEq] at ht
        subst ht
        have hd := (not_mem_declaredNames_iff hu hn).mpr h
        exact .inl (.inl ⟨_, mem_referenceProblems_iff.mpr ⟨_, hn, hd, rfl⟩, rfl, rfl⟩)
      | values ht he h =>
        rw [hu, Option.some.injEq] at ht
        subst ht
        exact .inl (.inr ⟨_, mem_enumProblems_iff.mpr ⟨he, h, rfl⟩, rfl, rfl⟩)
      | range hr h =>
        exact .inr ⟨_, mem_rangeProblems_iff.mpr ⟨_, hr, h, rfl⟩, rfl, rfl⟩

/-! ### The problems of a declaration -/

/-- The problems of the type at the position `i`, each with its site. -/
def typeDefects (declared : List String) (i : Nat) (n : String) (t : TypeDecl) :
    List (ProblemSite × SchemaProblem) :=
  if FieldType.reservedNames.contains n then [(⟨i, 0, 0⟩, .reservedTypeName n)]
  else t.entries.zipIdx.flatMap fun e =>
    (fieldDefects declared n e.1.1 e.1.2).map fun x => (⟨i, e.2, x.1⟩, x.2)

/-- All problems, each with its site. -/
def defects (d : SchemaDecl) : List (ProblemSite × SchemaProblem) :=
  d.types.entries.zipIdx.flatMap fun e => typeDefects d.declaredNames e.2 e.1.1 e.1.2

lemma flatMap_zipIdx {α β : Type} (l : List α) (f : α → List β) :
    (l.zipIdx.flatMap fun e => f e.1) = l.flatMap f := by
  rw [← List.flatMap_map Prod.fst f, List.zipIdx_map_fst]

/-- What comes later in a list has a later position. -/
lemma pairwise_zipIdx {α : Type} (l : List α) : l.zipIdx.Pairwise fun x y => x.2 < y.2 := by
  rw [← List.pairwise_map (f := Prod.snd) (R := (· < ·)), List.zipIdx_map_snd]
  exact List.pairwise_lt_range'

lemma map_snd_defects (d : SchemaDecl) : d.defects.map Prod.snd = d.problems := by
  have htype (i : Nat) (n : String) (t : TypeDecl) :
      (typeDefects d.declaredNames i n t).map Prod.snd = typeProblems d.declaredNames n t := by
    rw [typeDefects, typeProblems]
    split
    · rfl
    · simp only [List.map_flatMap, List.map_map, Function.comp_def, ← map_snd_fieldDefects]
      exact flatMap_zipIdx t.entries fun e =>
        (fieldDefects d.declaredNames n e.1 e.2).map fun x => x.2
  simp only [defects, problems, List.map_flatMap, htype]
  exact flatMap_zipIdx d.types.entries fun e => typeProblems d.declaredNames e.1 e.2

lemma type_eq_of_mem_typeDefects {declared : List String} {i : Nat}
    {x : ProblemSite × SchemaProblem} (h : x ∈ typeDefects declared i n t) :
    ∃ j a, x.1 = ⟨i, j, a⟩ := by
  rw [typeDefects] at h
  split at h
  · rw [List.mem_singleton.mp h]
    exact ⟨0, 0, rfl⟩
  · obtain ⟨e, -, he⟩ := List.mem_flatMap.mp h
    obtain ⟨x, -, rfl⟩ := List.mem_map.mp he
    exact ⟨e.2, x.1, rfl⟩

lemma pairwise_typeDefects (declared : List String) (i : Nat) (n : String) (t : TypeDecl) :
    (typeDefects declared i n t).Pairwise fun x y => x.1.Before y.1 := by
  rw [typeDefects]
  split
  · exact List.pairwise_singleton _ _
  · rw [List.pairwise_flatMap]
    constructor
    · intro e _
      exact List.pairwise_map.mpr ((pairwise_fieldDefects _ _ _ _).imp .aspect)
    · refine (pairwise_zipIdx t.entries).imp fun {e e'} hlt x hx y hy => ?_
      obtain ⟨x, -, rfl⟩ := List.mem_map.mp hx
      obtain ⟨y, -, rfl⟩ := List.mem_map.mp hy
      exact .field hlt

lemma pairwise_defects (d : SchemaDecl) : d.defects.Pairwise fun x y => x.1.Before y.1 := by
  rw [defects, List.pairwise_flatMap]
  constructor
  · intro e _
    exact pairwise_typeDefects _ _ _ _
  · refine (pairwise_zipIdx d.types.entries).imp fun {e e'} hlt x hx y hy => ?_
    obtain ⟨j, a, hx⟩ := type_eq_of_mem_typeDefects hx
    obtain ⟨j', a', hy⟩ := type_eq_of_mem_typeDefects hy
    rw [hx, hy]
    exact .type hlt

lemma mem_typeDefects_iff {i : Nat} {x : ProblemSite × SchemaProblem} :
    x ∈ typeDefects d.declaredNames i n t ↔
      (n ∈ FieldType.reservedNames ∧ x = (⟨i, 0, 0⟩, .reservedTypeName n)) ∨
      (n ∉ FieldType.reservedNames ∧ ∃ j k f a p, t.entries[j]? = some (k, f) ∧
        f.Defect d n k a p ∧ (FieldType.ofText? f.typeText = none → a = 0) ∧
        x = (⟨i, j, a⟩, p)) := by
  rw [typeDefects]
  by_cases hn : n ∈ FieldType.reservedNames
  · simp [hn]
  · simp only [List.contains_iff_mem, hn, if_false, List.mem_flatMap, List.mem_map, false_and,
      not_false_eq_true, true_and, false_or]
    constructor
    · rintro ⟨⟨⟨k, f⟩, j⟩, he, ⟨a, p⟩, hx, rfl⟩
      obtain ⟨hdefect, ha⟩ := mem_fieldDefects_iff.mp hx
      exact ⟨j, k, f, a, p, List.mem_zipIdx_iff_getElem?.mp he, hdefect, ha, rfl⟩
    · rintro ⟨j, k, f, a, p, he, hdefect, ha, rfl⟩
      exact ⟨((k, f), j), List.mem_zipIdx_iff_getElem?.mpr he, (a, p),
        mem_fieldDefects_iff.mpr ⟨hdefect, ha⟩, rfl⟩

/-- Just the defects that are reported are found. -/
lemma mem_defects_iff {i : ProblemSite} : (i, p) ∈ d.defects ↔ d.Reported i p := by
  simp only [defects, List.mem_flatMap, List.mem_zipIdx_iff_getElem?, mem_typeDefects_iff]
  constructor
  · rintro ⟨⟨⟨n, t⟩, i⟩, ht, ⟨hn, hx⟩ | ⟨hn, j, k, f, a, p, hf, h, ha, hx⟩⟩
    · cases hx
      exact ⟨.name ht hn, fun _ _ _ _ => rfl⟩
    · cases hx
      refine ⟨.field ht hn hf h, fun n' k' text hm => ha ?_⟩
      -- the malformed type text is that of the same field
      cases hm with
      | field ht' _ hf' h' =>
        rw [ht] at ht'
        cases ht'
        rw [hf] at hf'
        cases hf'
        cases h' with
        | typeText h' => exact h'
  · rintro ⟨h, hm⟩
    cases h with
    | name ht hn => exact ⟨((_, _), _), ht, .inl ⟨hn, rfl⟩⟩
    | field ht hn hf h =>
      exact ⟨((_, _), _), ht, .inr ⟨hn, _, _, _, _, _, hf, h,
        fun hu => hm _ _ _ (.field ht hn hf (.typeText hu)), rfl⟩⟩

lemma reported_eq_problems (d : SchemaDecl) : d.reported = d.problems := by
  rw [reported]
  cases h : d.resolve with
  | error ps => exact (resolve_eq_error_iff.mp h).symm
  | ok s => exact (problems_eq_nil_iff.mpr (resolve_eq_ok_iff.mp h).1).symm

/-- A declaration is rejected with its defects, each once and in their order, but for those that a
malformed type text hides; it is accepted if there are none. -/
theorem reported_lists (d : SchemaDecl) : ProblemSite.Lists d.Reported d.reported :=
  ⟨d.defects, by rw [map_snd_defects, reported_eq_problems], pairwise_defects d,
    fun _ _ => mem_defects_iff⟩

end SchemaDecl

/-! ### A problem that is not reported -/

namespace Orchard

/-- From three apples down to one. -/
def threeToOne : Range := ⟨Double.ofNat 3, Double.ofNat 1⟩

/-- The apples in a basket, with a bracket left out. -/
def apples : FieldDecl :=
  (FieldDecl.ofType "array[number").withRange threeToOne.min threeToOne.max

def basket : SchemaDecl := ⟨.ofList [("body", .ofList [("apples", apples)])]⟩

lemma reported_basket : basket.reported = [.malformedType "body" "apples" "array[number"] := by
  with_unfolding_all rfl

lemma defect_basket : basket.Defect ⟨0, 0, 3⟩ (.emptyRange "body" "apples" threeToOne) :=
  .field rfl (by decide) rfl (.range rfl (by decide +kernel))

/-- Not every defect is reported: the range of the apples ends before it starts, and only their
type text is found fault with. -/
theorem not_forall_reported_lists_defect :
    ¬ ∀ d : SchemaDecl, ProblemSite.Lists d.Defect d.reported := by
  intro h
  obtain ⟨found, hreported, -, hfound⟩ := h basket
  have hmem := List.mem_map_of_mem (f := Prod.snd) ((hfound _ _).mpr defect_basket)
  rw [hreported, reported_basket] at hmem
  cases List.mem_singleton.mp hmem

end Orchard

end RequestContract
