import Mathlib.Data.List.DropRight
import Mathlib.Tactic.Lemma
import RequestContract.Schema.FieldType

/-!
# The grammar of type texts

`FieldType.Writes` says which texts write which type: a keyword, a type text between `array[` and
`]`, or a name, with blanks allowed around each of them. It does not say how a text is to be read.
`reads_iff_writes` says that reading follows it: a text is read as the type that it writes, and is
malformed if it writes none.

Blanks are split off a text in one way only (`Text.trim_eq_iff`), and what is left is a keyword, has
the brackets of a list around it, or is a name. No text is two of these.
-/

namespace RequestContract

/-! ### Trimming -/

namespace Text

/-- A run of blanks. -/
def Blanks (cs : List Char) : Prop := ∀ c ∈ cs, isBlank c = true

/-- A text that neither starts nor ends with a blank. -/
structure Trimmed (cs : List Char) : Prop where
  head : ∀ c, cs.head? = some c → isBlank c = false
  last : ∀ c, cs.getLast? = some c → isBlank c = false

variable {cs l m r : List Char}

@[simp] lemma blanks_nil : Blanks [] := nofun

lemma Blanks.append (hl : Blanks l) (hr : Blanks r) : Blanks (l ++ r) := by
  intro c hc
  rcases List.mem_append.mp hc with hc | hc
  · exact hl c hc
  · exact hr c hc

lemma dropWhile_blanks (hl : Blanks l) (hm : ∀ c, m.head? = some c → isBlank c = false) :
    (l ++ m).dropWhile isBlank = m := by
  rw [List.dropWhile_append_of_pos hl]
  cases m with
  | nil => rfl
  | cons c m => rw [List.dropWhile_cons_of_neg (by simp [hm c rfl])]

lemma trimEnd_blanks (hm : ∀ c, m.getLast? = some c → isBlank c = false) (hr : Blanks r) :
    trimEnd (m ++ r) = m := by
  rw [trimEnd, List.reverse_append, dropWhile_blanks]
  · exact List.reverse_reverse m
  · intro c hc
    exact hr c (List.mem_reverse.mp hc)
  · intro c hc
    exact hm c (List.head?_reverse ▸ hc)

lemma trim_surrounded (hl : Blanks l) (hm : Trimmed m) (hr : Blanks r) :
    trim (l ++ m ++ r) = m := by
  by_cases h : m = []
  · -- all blanks go at the start already
    subst h
    have hlr := dropWhile_blanks (m := []) (hl.append hr) nofun
    simp only [List.append_nil] at hlr ⊢
    rw [trim, hlr]
    rfl
  · rw [trim, List.append_assoc, dropWhile_blanks hl, trimEnd_blanks hm.last hr]
    intro c hc
    rw [List.head?_append_of_ne_nil _ h] at hc
    exact hm.head c hc

lemma trimmed_of_all_not_blank (h : cs.all (fun c => !isBlank c) = true) : Trimmed cs := by
  have hc : ∀ c ∈ cs, isBlank c = false := by simpa using h
  exact ⟨fun c hm => hc c (List.mem_of_head? hm), fun c hm => hc c (List.mem_of_getLast? hm)⟩

lemma trimmed_trim (cs : List Char) : Trimmed (trim cs) where
  head := by
    intro c hc
    obtain ⟨r, hr⟩ := List.rdropWhile_prefix isBlank (cs.dropWhile isBlank)
    have hhead : (cs.dropWhile isBlank).head? = some c := by
      rw [← hr, List.head?_append]
      exact congrArg (·.or r.head?) hc
    have hnot := List.head?_dropWhile_not isBlank cs
    rw [hhead] at hnot
    exact hnot
  last := by
    intro c hc
    obtain ⟨ys, hys⟩ := List.getLast?_eq_some_iff.mp hc
    have hne : (cs.dropWhile isBlank).rdropWhile isBlank ≠ [] := by
      change trim cs ≠ []
      simp [hys]
    have hnot := List.rdropWhile_last_not isBlank _ hne
    simp only [show (cs.dropWhile isBlank).rdropWhile isBlank = ys ++ [c] from hys] at hnot
    simpa using hnot

lemma exists_eq_append_trim (cs : List Char) :
    ∃ l r, Blanks l ∧ Blanks r ∧ cs = l ++ trim cs ++ r := by
  refine ⟨cs.takeWhile isBlank, (cs.dropWhile isBlank).rtakeWhile isBlank, ?_, ?_, ?_⟩
  · intro c hc
    exact List.mem_takeWhile_imp hc
  · intro c hc
    exact List.mem_rtakeWhile_imp hc
  · calc
      cs = cs.takeWhile isBlank ++ cs.dropWhile isBlank := List.takeWhile_append_dropWhile.symm
      _ = cs.takeWhile isBlank
            ++ (trim cs ++ (cs.dropWhile isBlank).rtakeWhile isBlank) :=
          congrArg _ List.rdropWhile_append_rtakeWhile.symm
      _ = _ := (List.append_assoc ..).symm

/-- Blanks are split off in one way only. -/
theorem trim_eq_iff : trim cs = m ↔ Trimmed m ∧ ∃ l r, Blanks l ∧ Blanks r ∧ cs = l ++ m ++ r := by
  constructor
  · rintro rfl
    exact ⟨trimmed_trim cs, exists_eq_append_trim cs⟩
  · rintro ⟨hm, l, r, hl, hr, rfl⟩
    exact trim_surrounded hl hm hr

end Text

namespace FieldType

open Text

variable {cs inner l r : List Char} {w : String} {t : FieldType}

/-! ### The grammar -/

/-- The keyword of a built-in type. -/
inductive Keyword : String → FieldType → Prop
  | any : Keyword "any" any
  | string : Keyword "string" (primitive .string)
  | number : Keyword "number" (primitive .number)
  | boolean : Keyword "boolean" (primitive .boolean)
  | enum : Keyword "enum" enum

/-- A text that stands for itself as the name of a type. -/
structure IsTypeName (cs : List Char) : Prop where
  nonempty : cs ≠ []
  trimmed : Trimmed cs
  not_mem_opening : '[' ∉ cs
  not_mem_closing : ']' ∉ cs
  ne_keyword : ∀ w t, Keyword w t → cs ≠ w.toList
  ne_array : cs ≠ "array".toList

/-- A text between `array[` and `]`. -/
def bracketed (inner : List Char) : List Char := arrayOpening ++ inner ++ [']']

/-- The text writes the type. -/
inductive Writes : List Char → FieldType → Prop
  | keyword {l r : List Char} {w : String} {t : FieldType} (hl : Blanks l) (h : Keyword w t)
      (hr : Blanks r) : Writes (l ++ w.toList ++ r) t
  | array {l r cs : List Char} {t : FieldType} (hl : Blanks l) (h : Writes cs t) (hr : Blanks r) :
      Writes (l ++ bracketed cs ++ r) (array t)
  | name {l r cs : List Char} (hl : Blanks l) (h : IsTypeName cs) (hr : Blanks r) :
      Writes (l ++ cs ++ r) (named (String.ofList cs))

/-! ### The three kinds of texts -/

lemma Keyword.trimmed (h : Keyword w t) : Trimmed w.toList := by
  apply trimmed_of_all_not_blank
  cases h <;> decide

lemma Keyword.not_mem_opening (h : Keyword w t) : '[' ∉ w.toList := by
  cases h <;> decide

lemma lookup_keywords_eq_some_iff :
    keywords.lookup cs = some t ↔ ∃ w, Keyword w t ∧ cs = w.toList := by
  constructor
  · intro h
    obtain ⟨l₁, l₂, hl, -⟩ := List.lookup_eq_some_iff.mp h
    have hmem : (cs, t) ∈ keywords := hl ▸ List.mem_append_right l₁ List.mem_cons_self
    simp only [keywords, List.mem_cons, Prod.mk.injEq, List.not_mem_nil, or_false] at hmem
    rcases hmem with ⟨rfl, rfl⟩ | ⟨rfl, rfl⟩ | ⟨rfl, rfl⟩ | ⟨rfl, rfl⟩ | ⟨rfl, rfl⟩
    · exact ⟨_, .any, rfl⟩
    · exact ⟨_, .string, rfl⟩
    · exact ⟨_, .number, rfl⟩
    · exact ⟨_, .boolean, rfl⟩
    · exact ⟨_, .enum, rfl⟩
  · rintro ⟨w, h, rfl⟩
    cases h <;> rfl

lemma lookup_keywords_eq_none_iff :
    keywords.lookup cs = none ↔ ∀ w t, Keyword w t → cs ≠ w.toList := by
  rw [Option.eq_none_iff_forall_ne_some]
  simp only [ne_eq, lookup_keywords_eq_some_iff, not_exists, not_and]
  exact forall_comm

lemma trimmed_bracketed (inner : List Char) : Trimmed (bracketed inner) where
  head := by
    intro c hc
    cases hc
    decide
  last := by
    intro c hc
    rw [bracketed, List.getLast?_append] at hc
    cases hc
    decide

lemma mem_bracketed (inner : List Char) : '[' ∈ bracketed inner :=
  List.mem_append_left _ (List.mem_append_left _ (by decide))

lemma lookup_keywords_bracketed (inner : List Char) : keywords.lookup (bracketed inner) = none := by
  rw [lookup_keywords_eq_none_iff]
  intro w t h heq
  exact h.not_mem_opening (heq ▸ mem_bracketed inner)

lemma arrayInside?_eq_some_some_iff : arrayInside? cs = some (some inner) ↔ cs = bracketed inner := by
  rw [arrayInside?, Option.map_eq_some_iff]
  constructor
  · rintro ⟨r, hr, h⟩
    split at h
    · next hlast =>
      cases h
      rw [afterStart?_eq_some_iff.mp hr, bracketed, List.append_assoc]
      exact congrArg _ (List.dropLast_append_getLast? _ hlast).symm
    · cases h
  · rintro rfl
    refine ⟨inner ++ [']'], afterStart?_eq_some_iff.mpr (List.append_assoc ..), ?_⟩
    rw [if_pos List.getLast?_concat, List.dropLast_concat]

lemma arrayInside?_eq_none_of_not_mem (h : '[' ∉ cs) : arrayInside? cs = none := by
  rw [arrayInside?, Option.map_eq_none_iff, Option.eq_none_iff_forall_ne_some]
  intro r hr
  rw [afterStart?_eq_some_iff.mp hr] at h
  exact h (List.mem_append_left _ (by decide))

lemma isName_iff : isName cs = true ↔
    cs ≠ [] ∧ cs ≠ "array".toList ∧ '[' ∉ cs ∧ ']' ∉ cs := by
  simp [isName, and_assoc]

/-! ### Reading -/

lemma ofChars?_of_keyword (h : Keyword w t) (hcs : trim cs = w.toList) : ofChars? cs = some t := by
  rw [ofChars?, hcs]
  simp only [lookup_keywords_eq_some_iff.mpr ⟨w, h, rfl⟩]

lemma ofChars?_of_bracketed (hcs : trim cs = bracketed inner) :
    ofChars? cs = (ofChars? inner).map array := by
  have hinside := arrayInside?_eq_some_some_iff.mpr hcs
  have hkeyword : keywords.lookup (trim cs) = none := hcs ▸ lookup_keywords_bracketed inner
  rw [ofChars?]
  simp only [hkeyword]
  split
  · next heq =>
    rw [hinside] at heq
    cases heq
    rfl
  · next heq => simp [hinside] at heq
  · next heq => simp [hinside] at heq

lemma ofChars?_of_isTypeName (h : IsTypeName (trim cs)) :
    ofChars? cs = some (named (String.ofList (trim cs))) := by
  have hinside := arrayInside?_eq_none_of_not_mem h.not_mem_opening
  have hname : isName (trim cs) = true :=
    isName_iff.mpr ⟨h.nonempty, h.ne_array, h.not_mem_opening, h.not_mem_closing⟩
  rw [ofChars?]
  simp only [lookup_keywords_eq_none_iff.mpr h.ne_keyword]
  split
  · next heq => simp [hinside] at heq
  · next heq => simp [hinside] at heq
  · rw [if_pos hname]

/-- What is written is read. -/
lemma Writes.ofChars?_eq (h : Writes cs t) : ofChars? cs = some t := by
  induction h with
  | keyword hl hw hr => exact ofChars?_of_keyword hw (trim_surrounded hl hw.trimmed hr)
  | array hl _ hr ih =>
    rw [ofChars?_of_bracketed (trim_surrounded hl (trimmed_bracketed _) hr), ih]
    rfl
  | name hl h hr =>
    have htrim := trim_surrounded hl h.trimmed hr
    rw [ofChars?_of_isTypeName (htrim.symm ▸ h), htrim]

/-- Further blanks around a text change nothing. -/
lemma Writes.surrounded (hl : Blanks l) (h : Writes cs t) (hr : Blanks r) :
    Writes (l ++ cs ++ r) t := by
  have hassoc (l' m r' : List Char) : l ++ (l' ++ m ++ r') ++ r = (l ++ l') ++ m ++ (r' ++ r) := by
    simp only [List.append_assoc]
  cases h with
  | keyword hl' h hr' => exact hassoc .. ▸ .keyword (hl.append hl') h (hr'.append hr)
  | array hl' h hr' => exact hassoc .. ▸ .array (hl.append hl') h (hr'.append hr)
  | name hl' h hr' => exact hassoc .. ▸ .name (hl.append hl') h (hr'.append hr)

lemma Writes.of_trim (h : Writes (trim cs) t) : Writes cs t := by
  obtain ⟨-, l, r, hl, hr, hcs⟩ := trim_eq_iff.mp (rfl : trim cs = trim cs)
  rw [hcs]
  exact h.surrounded hl hr

lemma Keyword.writes (h : Keyword w t) : Writes w.toList t := by
  simpa using Writes.keyword blanks_nil h blanks_nil

lemma Writes.bracketed (h : Writes cs t) : Writes (bracketed cs) t.array := by
  simpa using Writes.array blanks_nil h blanks_nil

lemma IsTypeName.writes (h : IsTypeName cs) : Writes cs (named (String.ofList cs)) := by
  simpa using Writes.name blanks_nil h blanks_nil

/-- What is read is written. -/
lemma writes_of_ofChars? (h : ofChars? cs = some t) : Writes cs t := by
  -- along the reading; what is left of the text by trimming it decides the constructor
  fun_induction ofChars? cs generalizing t with
  | case1 cs =>
    rename_i hk
    cases h
    obtain ⟨w, hw, heq⟩ := lookup_keywords_eq_some_iff.mp hk
    have hcs : trim cs = w.toList := heq
    exact .of_trim (hcs ▸ hw.writes)
  | case2 cs =>
    rename_i hinside ih
    obtain ⟨u, hu, rfl⟩ := Option.map_eq_some_iff.mp h
    have hcs : trim cs = bracketed _ := arrayInside?_eq_some_some_iff.mp hinside
    exact .of_trim (hcs ▸ (ih hu).bracketed)
  | case3 | case5 => cases h
  | case4 cs =>
    rename_i hk hinside hname
    cases h
    obtain ⟨hne, harray, hopening, hclosing⟩ := isName_iff.mp hname
    have hkeyword := lookup_keywords_eq_none_iff.mp hk
    have hcs : IsTypeName (trim cs) :=
      ⟨hne, trimmed_trim cs, hopening, hclosing, hkeyword, harray⟩
    exact .of_trim hcs.writes

/-- A text is read as the type that it writes; any other is malformed. -/
theorem reads_iff_writes (text : String) :
    (∀ t, ofText? text = some t ↔ Writes text.toList t) ∧
    (ofText? text = none ↔ ∀ t, ¬ Writes text.toList t) := by
  have hreads (t : FieldType) : ofText? text = some t ↔ Writes text.toList t :=
    ⟨writes_of_ofChars?, Writes.ofChars?_eq⟩
  refine ⟨hreads, ?_⟩
  rw [Option.eq_none_iff_forall_ne_some]
  exact forall_congr' fun t => not_congr (hreads t)

end FieldType

end RequestContract
