import Mathlib.Data.List.Nodup
import RequestContract.Check.Content
import RequestContract.Proofs.Path

/-!
# What a check reports

A breach is a violation together with the way to it from the value at hand. `check.Reports p bs`
says what the check does at the path `p`: whatever has been found before, it adds the breaches `bs`
as seen from `p`, in this order, and comes back to `p`. Each way of putting checks together has its
rule for `Check.Reports`. `Check.ReportsExactly` leaves the order open: the breaches of a predicate
are added, each once.
-/

namespace RequestContract

/-- A violation and the way to it from the value at hand. -/
structure Breach where
  /-- The steps of the way, the outermost first. -/
  way : List Path.Component
  /-- What is wrong at its end. -/
  violation : Violation

namespace Breach

/-- A breach at the value at hand. -/
def here (v : Violation) : Breach := ⟨[], v⟩

/-- A breach as it is seen from one step further out. -/
def under (c : Path.Component) (b : Breach) : Breach := ⟨c :: b.way, b.violation⟩

/-- A breach as it is seen from the start of a way. -/
def along (q : List Path.Component) (b : Breach) : Breach := ⟨q ++ b.way, b.violation⟩

/-- The finding that a breach makes at a path. -/
def findingAt (p : Path) (b : Breach) : Finding := ⟨.within (p.pushMany b.way), b.violation⟩

/-- What tells two breaches apart: the place and the code. -/
def key (b : Breach) : List Path.Component × String := (b.way, b.violation.code)

@[simp] lemma findingAt_here (p : Path) (v : Violation) :
    (here v).findingAt p = ⟨.within p, v⟩ := by
  simp [findingAt, here]

@[simp] lemma findingAt_under (p : Path) (c : Path.Component) (b : Breach) :
    (b.under c).findingAt p = b.findingAt (p.push c) := by
  simp [findingAt, under, Path.pushMany_cons]

@[simp] lemma along_here (q : List Path.Component) (v : Violation) :
    (here v).along q = ⟨q, v⟩ := by
  simp [along, here]

@[simp] lemma key_under (c : Path.Component) (b : Breach) :
    (b.under c).key = (c :: b.key.1, b.key.2) := rfl

lemma map_key_here (vs : List Violation) :
    (vs.map here).map key = (vs.map Violation.code).map fun c => ([], c) := by
  rw [List.map_map, List.map_map]
  rfl

lemma map_key_under (c : Path.Component) (bs : List Breach) :
    (bs.map (under c)).map key = (bs.map key).map fun k => (c :: k.1, k.2) := by
  rw [List.map_map, List.map_map]
  rfl

end Breach

namespace Check

/-- At the path `p` the check adds the breaches `bs` to the findings and comes back to `p`. -/
def Reports (check : Check) (p : Path) (bs : List Breach) : Prop :=
  ∀ fs, check ⟨p, fs⟩ = ⟨p, fs ++ bs.map (Breach.findingAt p)⟩

/-- From the context `ctx` the check adds one finding for each breach in `B` and no other, and comes
back to where it was. -/
def ReportsExactly (check : Check) (ctx : Context) (B : Breach → Prop) : Prop :=
  ∃ found : List Finding,
    check ctx = { ctx with findings := ctx.findings ++ found } ∧
    (found.map fun x => (x.location, x.code)).Nodup ∧
    ∀ l v, ⟨l, v⟩ ∈ found ↔ ∃ q, l = .within (ctx.path.pushMany q) ∧ B ⟨q, v⟩

namespace Reports

variable {f g : Check} {p : Path} {bs cs : List Breach}

lemma idle (p : Path) : Reports id p [] := by
  intro fs
  simp

lemma single (p : Path) (v : Violation) : Reports (report v) p [.here v] := by
  intro fs
  simp [report, Context.report, Context.reportAt]

/-- Whatever a check does one step further in, the path is as before when it is back. -/
lemma inside {c : Path.Component} (h : Reports f (p.push c) bs) :
    Reports (Check.inside c f) p (bs.map (Breach.under c)) := by
  intro fs
  rw [Check.inside, Context.within, Context.descend]
  simp only [h fs, Path.truncate_push, List.map_map]
  congr 2
  apply List.map_congr_left
  intro b _
  exact (Breach.findingAt_under p c b).symm

lemma andThen (hf : Reports f p bs) (hg : Reports g p cs) :
    Reports (fun ctx => g (f ctx)) p (bs ++ cs) := by
  intro fs
  show g (f ⟨p, fs⟩) = _
  rw [hf fs, hg, List.map_append, List.append_assoc]

lemma inOrder {ι : Type} {l : List ι} {check : ι → Check} {bs : ι → List Breach}
    (h : ∀ i ∈ l, Reports (check i) p (bs i)) :
    Reports (Check.inOrder (l.map check)) p (l.flatMap bs) := by
  induction l with
  | nil => exact idle p
  | cons i l ih =>
    have hi := h i List.mem_cons_self
    have hl := ih fun j hj => h j (List.mem_cons_of_mem i hj)
    exact hi.andThen hl

lemma inOrder_append {checks checks' : List Check} (hf : Reports (Check.inOrder checks) p bs)
    (hg : Reports (Check.inOrder checks') p cs) :
    Reports (Check.inOrder (checks ++ checks')) p (bs ++ cs) := by
  intro fs
  rw [Check.inOrder, List.foldl_append]
  exact hf.andThen hg fs

lemma all (p : Path) (vs : List Violation) : Reports (reportAll vs) p (vs.map .here) := by
  rw [List.map_eq_flatMap]
  exact inOrder fun v _ => single p v

lemma exactly {ctx : Context} {B : Breach → Prop} (h : Reports f ctx.path bs)
    (hn : (bs.map Breach.key).Nodup) (hb : ∀ b, b ∈ bs ↔ B b) : ReportsExactly f ctx B := by
  refine ⟨bs.map (Breach.findingAt ctx.path), h ctx.findings, ?_, fun l v => ?_⟩
  · have place_injective : Function.Injective fun k : List Path.Component × String =>
        (Location.within (ctx.path.pushMany k.1), k.2) := by
      rintro ⟨q, c⟩ ⟨q', c'⟩ hk
      obtain ⟨hq, hc⟩ := Prod.mk.inj hk
      exact Prod.ext (ctx.path.pushMany_injective (Location.within.inj hq)) hc
    have := hn.map place_injective
    rw [List.map_map] at this ⊢
    exact this
  · rw [List.mem_map]
    constructor
    · rintro ⟨⟨q, w⟩, hm, hf⟩
      obtain ⟨hl, hv⟩ := Finding.mk.inj hf
      exact ⟨q, hl.symm, (hb _).mp (hv ▸ hm)⟩
    · rintro ⟨q, rfl, hq⟩
      exact ⟨⟨q, v⟩, (hb _).mpr hq, rfl⟩

end Reports

end Check

end RequestContract
