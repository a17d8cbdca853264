import Mathlib.Data.List.DropRight
import RequestContract.Proofs.Path

/-!
# The positions at the end of a path

A path splits into a path that is empty or ends in a property, its stem, and the positions after
that. `splitsInto_iff_and_render` says that it does so in one way only, at `indexSuffix`, and that
the text of the path is that of the stem followed by that of the positions: only at the very start
is a point dropped, and the text of positions has none there.
-/

namespace RequestContract

namespace Path

variable {p q s : Path}

/-- The path is `q` and, after it, the positions `s`, of which `q` has none at its end. -/
structure SplitsInto (p q s : Path) : Prop where
  eq : p = q.pushMany s.components
  positions : ∀ c ∈ s.components, c.isIndex = true
  stem : q = root ∨ ∃ k, q.last? = some (.property k)

/-- A path without the positions at its end. -/
def stem (p : Path) : Path := ⟨p.components.rdropWhile Component.isIndex⟩

lemma components_indexSuffix (p : Path) :
    p.indexSuffix.components = p.components.rtakeWhile Component.isIndex := rfl

lemma indexSuffix_of_last? {k : String} (h : p.last? = some (.property k)) :
    p.indexSuffix = root := by
  obtain ⟨cs, hcs⟩ := List.getLast?_eq_some_iff.mp h
  have hp : p = (Path.mk cs).push (.property k) := congrArg Path.mk hcs
  rw [hp, indexSuffix_push_property]

lemma isIndex_of_mem_indexSuffix : ∀ c ∈ p.indexSuffix.components, c.isIndex = true := by
  intro c hc
  rw [components_indexSuffix] at hc
  exact List.mem_rtakeWhile_imp hc

lemma last?_stem (p : Path) : p.stem = root ∨ ∃ k, p.stem.last? = some (.property k) := by
  by_cases hne : p.stem.components = []
  · exact .inl (congrArg Path.mk hne)
  · right
    have hlast : ¬ (p.stem.components.getLast hne).isIndex = true :=
      List.rdropWhile_last_not Component.isIndex p.components hne
    rw [last?, List.getLast?_eq_some_getLast hne]
    cases hc : p.stem.components.getLast hne with
    | property k => exact ⟨k, rfl⟩
    | index i => exact absurd (congrArg Component.isIndex hc) hlast

lemma splitsInto_stem (p : Path) : p.SplitsInto p.stem p.indexSuffix where
  eq := congrArg Path.mk List.rdropWhile_append_rtakeWhile.symm
  positions := isIndex_of_mem_indexSuffix
  stem := p.last?_stem

/-- The run of positions ends where the stem does. -/
lemma SplitsInto.indexSuffix_eq (h : p.SplitsInto q s) : p.indexSuffix = s := by
  have hq : q.indexSuffix = root := by
    rcases h.stem with rfl | ⟨k, hk⟩
    · rfl
    · exact indexSuffix_of_last? hk
  rw [h.eq, indexSuffix_pushMany _ h.positions, hq]
  rfl

lemma SplitsInto.render_eq (h : p.SplitsInto q s) : p.render = q.render ++ s.render := by
  have hs : s.render = String.ofList (s.components.flatMap Component.chars) :=
    render_of_isIndex h.positions
  by_cases hq : q = root
  · -- without a stem the path is the positions alone
    have hp : p = s := by
      rw [h.eq, hq]
      rfl
    rw [hp, hq]
    exact String.empty_append.symm
  · rw [h.eq, render_pushMany hq, hs]

/-- A path splits in one way only, at the run of positions at its end, and so does its text. -/
theorem splitsInto_iff_and_render (p : Path) :
    (∀ q s, p.SplitsInto q s ↔ q = p.stem ∧ s = p.indexSuffix) ∧
      p.render = p.stem.render ++ p.indexSuffix.render := by
  refine ⟨fun q s => ⟨fun h => ?_, ?_⟩, p.splitsInto_stem.render_eq⟩
  · obtain rfl := h.indexSuffix_eq
    have hcomponents := congrArg components (h.eq.symm.trans p.splitsInto_stem.eq)
    exact ⟨congrArg Path.mk (List.append_cancel_right hcomponents), rfl⟩
  · rintro ⟨rfl, rfl⟩
    exact p.splitsInto_stem

end Path

end RequestContract
