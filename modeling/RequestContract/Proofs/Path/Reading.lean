import Mathlib.Data.List.TakeWhile
import Mathlib.Data.Set.Function
import RequestContract.Proofs.Path

/-!
# Reading a path back

The text of a path is a row of steps, each of which begins with a point or an opening bracket, but
for the first point, which is dropped. `readSteps` takes such a row apart from the left: a name
between quotes goes on to the next quote, any other name to the next step.

Not every name stands such a treatment. `readSteps_flatMap_chars` says that what is read is what was
written as long as all names are legible, and `render_injective` that two legible paths that begin
with a name have different texts. Names without opening brackets and quotes are legible whatever
else is in them, so `read?` reads back all paths of such names (`read?_render_and_injOn_render`).
-/

namespace RequestContract

namespace Path

/-! ### Reading -/

/-- Whether a character goes on with a name that is not between quotes. -/
def goesOn (c : Char) : Bool := c != '.' && c != '['

/-- The step that a text begins with, and the text after it. -/
def readStep? : List Char → Option (Component × List Char)
  | '.' :: '"' :: cs =>
    match cs.dropWhile (· != '"') with
    | _ :: rest => some (.property (String.ofList (cs.takeWhile (· != '"'))), rest)
    | [] => none
  | '.' :: cs => some (.property (String.ofList (cs.takeWhile goesOn)), cs.dropWhile goesOn)
  | '[' :: cs =>
    match cs.dropWhile Char.isDigit with
    | ']' :: rest => some (.index (Nat.ofDigitChars 10 (cs.takeWhile Char.isDigit) 0), rest)
    | _ => none
  | _ => none

lemma length_lt_of_readStep? {cs rest : List Char} {c : Component}
    (h : readStep? cs = some (c, rest)) : rest.length < cs.length := by
  rw [readStep?.eq_def] at h
  split at h
  · next cs =>
    have hle := List.length_dropWhile_le (· != '"') cs
    split at h
    · next hd =>
      cases h
      rw [hd] at hle
      simp only [List.length_cons] at hle ⊢
      omega
    · cases h
  · next cs _ =>
    cases h
    exact Nat.lt_succ_of_le (List.length_dropWhile_le goesOn cs)
  · next cs =>
    have hle := List.length_dropWhile_le Char.isDigit cs
    split at h
    · next hd =>
      cases h
      rw [hd] at hle
      simp only [List.length_cons] at hle ⊢
      omega
    · cases h
  · cases h

/-- The steps that a text is made of. -/
def readSteps (cs : List Char) : Option (List Component) :=
  if cs = [] then some []
  else
    match _h : readStep? cs with
    | some (c, rest) => (readSteps rest).map (c :: ·)
    | none => none
termination_by cs.length
decreasing_by exact length_lt_of_readStep? _h

@[simp] lemma readSteps_nil : readSteps [] = some [] := by
  rw [readSteps, if_pos rfl]

lemma readSteps_of_readStep? {cs rest : List Char} {c : Component}
    (h : readStep? cs = some (c, rest)) : readSteps cs = (readSteps rest).map (c :: ·) := by
  have hne : cs ≠ [] := by
    rintro rfl
    cases h
  rw [readSteps, if_neg hne]
  split
  · next h' =>
    rw [h, Option.some.injEq, Prod.mk.injEq] at h'
    rw [h'.1, h'.2]
  · next h' =>
    rw [h] at h'
    cases h'

/-! ### Legible names -/

namespace Component

/-- A name that cannot be mistaken: between quotes there is no quote, and a name without quotes
around it neither begins with one nor has an opening bracket. -/
def Legible : Component → Prop
  | property name =>
    ('.' ∈ name.toList → '"' ∉ name.toList) ∧
    ('.' ∉ name.toList → '[' ∉ name.toList ∧ name.toList.head? ≠ some '"')
  | index _ => True

/-- In particular, names have neither opening brackets nor quotes. -/
lemma legible_property {name : String} (hb : '[' ∉ name.toList) (hq : '"' ∉ name.toList) :
    (property name).Legible :=
  ⟨fun _ => hq, fun _ => ⟨hb, fun h => hq (List.mem_of_head? h)⟩⟩

lemma head?_chars (c : Component) : c.chars.head? = some '.' ∨ c.chars.head? = some '[' := by
  cases c with
  | property name =>
    obtain ⟨cs, h⟩ := exists_chars_property name
    exact .inl (by rw [h, List.head?_cons])
  | index i => exact .inr rfl

end Component

/-- A path of legible steps. -/
def Legible (p : Path) : Prop := ∀ c ∈ p.components, c.Legible

/-! ### What is read is what was written -/

lemma readStep?_quoted {cs : List Char} (h : '"' ∉ cs) (rest : List Char) :
    readStep? ('.' :: '"' :: cs ++ '"' :: rest) = some (.property (String.ofList cs), rest) := by
  have hcs : ∀ c ∈ cs, (c != '"') = true := by
    intro c hc
    simpa using fun hq : c = '"' => h (hq ▸ hc)
  simp only [List.cons_append, readStep?, List.dropWhile_append_of_pos hcs,
    List.takeWhile_append_of_pos hcs]
  simp

/-- After a name without quotes a step must follow, or nothing. -/
lemma readStep?_plain {cs rest : List Char} (h : ∀ c ∈ cs, goesOn c = true)
    (hq : (cs ++ rest).head? ≠ some '"') (hr : ∀ c ∈ rest.head?, goesOn c = false) :
    readStep? ('.' :: cs ++ rest) = some (.property (String.ofList cs), rest) := by
  have htake : (cs ++ rest).takeWhile goesOn = cs := by
    rw [List.takeWhile_append_of_pos h]
    cases rest with
    | nil => rw [List.takeWhile_nil, List.append_nil]
    | cons c rest => rw [List.takeWhile_cons_of_neg (by simp [hr c rfl]), List.append_nil]
  have hdrop : (cs ++ rest).dropWhile goesOn = rest := by
    rw [List.dropWhile_append_of_pos h]
    cases rest with
    | nil => rfl
    | cons c rest => rw [List.dropWhile_cons_of_neg (by simp [hr c rfl])]
  rw [List.cons_append]
  generalize cs ++ rest = text at hq htake hdrop ⊢
  rw [readStep?.eq_def]
  split
  · next heq =>
    cases heq
    exact absurd rfl hq
  · next heq =>
    cases heq
    rw [htake, hdrop]
  · next heq => cases heq
  · next hne _ => exact absurd rfl (hne text)

lemma readStep?_index (i : Nat) (rest : List Char) :
    readStep? ((Component.index i).chars ++ rest) = some (.index i, rest) := by
  have hdigits : ∀ c ∈ Nat.toDigits 10 i, c.isDigit = true :=
    fun c hc => Nat.isDigit_of_mem_toDigits (by decide) (by decide) hc
  have htext : (toString i).toList = Nat.toDigits 10 i := by
    rw [Nat.toString_eq_ofList_toDigits, String.toList_ofList]
  rw [Component.chars, htext, List.cons_append, List.cons_append, List.append_assoc]
  simp only [readStep?, List.dropWhile_append_of_pos hdigits,
    List.takeWhile_append_of_pos hdigits]
  simp [Nat.ofDigitChars_ten_toDigits, show ']'.isDigit = false from rfl]

lemma readStep?_chars {c : Component} (hc : c.Legible) {rest : List Char}
    (hr : ∀ x ∈ rest.head?, x = '.' ∨ x = '[') :
    readStep? (c.chars ++ rest) = some (c, rest) := by
  cases c with
  | index i => exact readStep?_index i rest
  | property name =>
    rw [Component.chars]
    split
    · next hdot =>
      rw [List.append_assoc, List.singleton_append, readStep?_quoted (hc.1 hdot),
        String.ofList_toList]
    · next hdot =>
      obtain ⟨hb, hq⟩ := hc.2 hdot
      rw [readStep?_plain, String.ofList_toList]
      · intro x hx
        have hx₁ : x ≠ '.' := fun h => hdot (h ▸ hx)
        have hx₂ : x ≠ '[' := fun h => hb (h ▸ hx)
        simp [goesOn, hx₁, hx₂]
      · cases hname : name.toList with
        | nil =>
          intro h
          rcases hr '"' h with h | h <;> cases h
        | cons x xs => rwa [hname] at hq
      · intro x hx
        rcases hr x hx with rfl | rfl <;> rfl

/-- Steps that are legible are read as they were written. -/
lemma readSteps_flatMap_chars {cs : List Component} (h : ∀ c ∈ cs, c.Legible) :
    readSteps (cs.flatMap Component.chars) = some cs := by
  induction cs with
  | nil => exact readSteps_nil
  | cons c cs ih =>
    obtain ⟨hc, hcs⟩ := List.forall_mem_cons.mp h
    have hhead : ∀ x ∈ (cs.flatMap Component.chars).head?, x = '.' ∨ x = '[' := by
      intro x hx
      cases cs with
      | nil => cases hx
      | cons d ds =>
        rw [List.flatMap_cons, List.head?_append] at hx
        rcases d.head?_chars with hd | hd <;> rw [hd] at hx <;> cases hx
        · exact .inl rfl
        · exact .inr rfl
    rw [List.flatMap_cons, readSteps_of_readStep? (readStep?_chars hc hhead), ih hcs,
      Option.map_some]

/-- The point that was dropped in front of a name can be put back. -/
lemma cons_chars {k : String} {cs : List Component} :
    '.' :: (Path.mk (.property k :: cs)).chars
      = (Component.property k :: cs).flatMap Component.chars := by
  obtain ⟨ks, hk⟩ := exists_chars_property k
  rw [chars, List.flatMap_cons, hk]
  rfl

/-- The path that a text is read as, the point in front of its first name put back. -/
def read? (text : String) : Option Path := (readSteps ('.' :: text.toList)).map mk

lemma read?_render_of_legible {k : String} {cs : List Component}
    (h : (Path.mk (.property k :: cs)).Legible) :
    read? (Path.mk (.property k :: cs)).render = some ⟨.property k :: cs⟩ := by
  rw [read?, render, String.toList_ofList, cons_chars, readSteps_flatMap_chars h, Option.map_some]

/-- Legible paths that begin with a name have different texts. -/
lemma render_injective {k l : String} {cs ds : List Component}
    (hc : (Path.mk (.property k :: cs)).Legible) (hd : (Path.mk (.property l :: ds)).Legible)
    (h : (Path.mk (.property k :: cs)).render = (Path.mk (.property l :: ds)).render) :
    Path.mk (.property k :: cs) = Path.mk (.property l :: ds) := by
  have hread := congrArg read? h
  rwa [read?_render_of_legible hc, read?_render_of_legible hd, Option.some.injEq] at hread

/-! ### Plain paths -/

/-- A path that begins with a name, and in whose names there is no opening bracket and no quote. -/
structure Plain (p : Path) : Prop where
  head : ∃ k, p.components.head? = some (.property k)
  names : ∀ k, .property k ∈ p.components → '[' ∉ k.toList ∧ '"' ∉ k.toList

lemma Plain.legible {p : Path} (h : p.Plain) : p.Legible := by
  intro c hc
  cases c with
  | property k =>
    obtain ⟨hb, hq⟩ := h.names k hc
    exact Component.legible_property hb hq
  | index i => trivial

/-- Plain paths are read back from their texts, which are therefore different. -/
theorem read?_render_and_injOn_render :
    (∀ p : Path, p.Plain → read? p.render = some p) ∧ Set.InjOn render {p | p.Plain} := by
  have hread (p : Path) (hp : p.Plain) : read? p.render = some p := by
    obtain ⟨k, hk⟩ := hp.head
    obtain ⟨cs, hcs⟩ := List.head?_eq_some_iff.mp hk
    obtain rfl : p = ⟨.property k :: cs⟩ := congrArg Path.mk hcs
    exact read?_render_of_legible hp.legible
  refine ⟨hread, fun p hp q hq h => ?_⟩
  have heq : some p = some q := (hread p hp).symm.trans ((congrArg read? h).trans (hread q hq))
  exact Option.some.inj heq

/-- A path with names that are empty, blank, have a point or end in a bracket. -/
def oddNames : Path :=
  ⟨[.property "", .property "", .property "x.y", .index 10, .property "a]", .property " "]⟩

/-- Empty names leave points next to each other, and still the path is read back. -/
theorem read?_render_oddNames :
    oddNames.Plain ∧ oddNames.render = "..\"x.y\"[10].a]. " ∧
      read? "..\"x.y\"[10].a]. " = some oddNames ∧
      ∀ p : Path, p.Plain → p.render = "..\"x.y\"[10].a]. " → p = oddNames := by
  have hplain : oddNames.Plain := ⟨⟨"", rfl⟩, by simp [oddNames]⟩
  have hrender : oddNames.render = "..\"x.y\"[10].a]. " := by decide
  obtain ⟨hread, hinj⟩ := read?_render_and_injOn_render
  refine ⟨hplain, hrender, hrender ▸ hread oddNames hplain, fun p hp h => ?_⟩
  exact hinj hp hplain (h.trans hrender.symm)

end Path

end RequestContract
