import Mathlib.Data.List.Basic
import Mathlib.Tactic.Lemma
import RequestContract.Path

/-!
# Going further into a path

What one more step, or several, does to a path, to the run of positions at its end and to its text.
-/

namespace RequestContract

namespace Path

variable (p : Path)

@[simp] lemma pushMany_nil : p.pushMany [] = p := by
  rw [pushMany, List.append_nil]

lemma pushMany_cons (c : Component) (cs : List Component) :
    p.pushMany (c :: cs) = (p.push c).pushMany cs := by
  simp [pushMany, push]

lemma pushMany_append (cs ds : List Component) :
    p.pushMany (cs ++ ds) = (p.pushMany cs).pushMany ds := by
  rw [pushMany, pushMany, components_pushMany, List.append_assoc]

lemma pushMany_concat (cs : List Component) (c : Component) :
    p.pushMany (cs ++ [c]) = (p.pushMany cs).push c :=
  p.pushMany_append cs [c]

lemma pushMany_injective : Function.Injective p.pushMany := by
  intro cs ds h
  exact List.append_cancel_left (congrArg components h)

/-! ### The positions at the end -/

lemma indexSuffix_push_property (k : String) : (p.push (.property k)).indexSuffix = root := by
  rw [indexSuffix, components_push, List.reverse_concat, List.takeWhile_cons]
  rfl

/-- Positions go on with the run of positions at the end. -/
lemma indexSuffix_pushMany {cs : List Component} (h : ∀ c ∈ cs, c.isIndex = true) :
    (p.pushMany cs).indexSuffix = p.indexSuffix.pushMany cs := by
  have hreverse : ∀ c ∈ cs.reverse, c.isIndex = true :=
    fun c hc => h c (List.mem_reverse.mp hc)
  rw [indexSuffix, components_pushMany, List.reverse_append,
    List.takeWhile_append_of_pos hreverse, List.reverse_append, List.reverse_reverse]
  rfl

lemma indexSuffix_push_index (i : Nat) :
    (p.push (.index i)).indexSuffix = p.indexSuffix.push (.index i) := by
  have hindex : ∀ c ∈ [Component.index i], c.isIndex = true := by simp
  exact p.indexSuffix_pushMany hindex

/-- Positions after a property are all that the path has at its end. -/
lemma indexSuffix_pushMany_property (k : String) (is : List Nat) :
    (p.pushMany (.property k :: is.map .index)).indexSuffix = ⟨is.map .index⟩ := by
  rw [pushMany_cons, indexSuffix_pushMany _ (by simp), indexSuffix_push_property]
  rfl

/-- So the last property of a path and the positions after it can be told from the path. -/
lemma pushMany_property_inj {p q : Path} {k l : String} {m n : List Nat}
    (h : p.pushMany (.property k :: m.map .index) = q.pushMany (.property l :: n.map .index)) :
    p = q ∧ k = l ∧ m = n := by
  have hsuffix : m.map Component.index = n.map .index := by
    have hs := congrArg indexSuffix h
    rw [indexSuffix_pushMany_property, indexSuffix_pushMany_property] at hs
    exact congrArg components hs
  obtain rfl : m = n := List.map_injective_iff.mpr (fun _ _ => Component.index.inj) hsuffix
  have hcomponents := congrArg components h
  rw [components_pushMany, components_pushMany, List.append_cons, List.append_cons q.components]
    at hcomponents
  obtain ⟨hpq, hkl⟩ := List.append_inj' (List.append_cancel_right hcomponents) rfl
  exact ⟨congrArg Path.mk hpq, by simpa using hkl, rfl⟩

/-! ### The text -/

lemma exists_chars_property (k : String) :
    ∃ cs, (Component.property k).chars = '.' :: cs := by
  rw [Component.chars]
  split
  · exact ⟨_, rfl⟩
  · exact ⟨_, rfl⟩

/-- The point in front of the first name is dropped, so a name without a point comes first as it
is, and a name after it is set off by a point. -/
lemma isPrefix_render {name : String} (h : '.' ∉ name.toList) (k : String) (cs : List Component) :
    (name ++ ".").toList <+: (Path.mk (.property name :: .property k :: cs)).render.toList := by
  obtain ⟨ks, hk⟩ := exists_chars_property k
  have hname : (Component.property name).chars = '.' :: name.toList := by
    rw [Component.chars, if_neg h]
  rw [render, chars, String.toList_ofList, List.flatMap_cons, List.flatMap_cons, hname, hk]
  exact ⟨ks ++ cs.flatMap Component.chars, by simp [dropPoint]⟩

lemma Component.chars_ne_nil (c : Component) : c.chars ≠ [] := by
  cases c with
  | property k =>
    obtain ⟨cs, h⟩ := exists_chars_property k
    rw [h]
    exact List.cons_ne_nil _ _
  | index i => exact List.cons_ne_nil _ _

/-- Only at the very start of a text is a point dropped, so what comes after at least one step is
written the same after any other. -/
lemma render_pushMany {p : Path} (h : p ≠ root) (cs : List Component) :
    (p.pushMany cs).render = p.render ++ String.ofList (cs.flatMap Component.chars) := by
  obtain ⟨_ | ⟨c, ds⟩⟩ := p
  · exact absurd rfl h
  · obtain ⟨x, xs, hx⟩ := List.exists_cons_of_ne_nil c.chars_ne_nil
    have hdrop (ys zs : List Char) : dropPoint (x :: ys ++ zs) = dropPoint (x :: ys) ++ zs := by
      by_cases hpoint : x = '.'
      · subst hpoint
        rfl
      · simp [dropPoint, hpoint]
    rw [render, render, chars, chars, components_pushMany, List.flatMap_append, List.flatMap_cons,
      hx, List.cons_append, hdrop, String.ofList_append]

/-- The text of positions begins with a bracket, so nothing of it is dropped. -/
lemma render_of_isIndex {cs : List Component} (h : ∀ c ∈ cs, c.isIndex = true) :
    (Path.mk cs).render = String.ofList (cs.flatMap Component.chars) := by
  cases cs with
  | nil => rfl
  | cons c cs =>
    cases c with
    | property k => exact absurd (h _ List.mem_cons_self) (by simp)
    | index i => rfl

end Path

end RequestContract
