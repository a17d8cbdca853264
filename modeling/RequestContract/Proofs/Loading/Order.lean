import Mathlib.Tactic.Lemma
import RequestContract.Loading.Loader

/-!
# The order of files

Paths are compared part by part, which is a linear preorder: two paths come at the same place if
they have the same parts, however they are written. `schemaFiles_inPathOrder` says which of the
listed files are loaded, and in which order.
-/

namespace RequestContract

/-! ### Comparing -/

section Lists

variable {α : Type} {cmp : α → α → Ordering}

lemma compareLists_eq_compareLex : compareLists cmp = List.compareLex cmp := by
  funext as bs
  induction as generalizing bs with
  | nil => cases bs <;> rfl
  | cons a as ih =>
    cases bs with
    | nil => rfl
    | cons b bs => rw [compareLists, ih, List.compareLex_cons_cons]

instance [Std.TransCmp cmp] : Std.TransCmp (compareLists cmp) := by
  rw [compareLists_eq_compareLex]
  infer_instance

instance [Std.LawfulEqCmp cmp] : Std.LawfulEqCmp (compareLists cmp) := by
  rw [compareLists_eq_compareLex]
  infer_instance

end Lists

namespace FilePath

namespace Part

/-- The bytes of a part that is a name. -/
def nameBytes : Part → List UInt8
  | name bytes => bytes
  | _ => []

lemma cmp_eq_compareLex : cmp = compareLex (compareOn rank) (compareOn nameBytes) := by
  funext a b
  cases a <;> cases b <;> try rfl
  exact congrFun (congrFun compareLists_eq_compareLex _) _

instance : Std.TransCmp cmp := by
  rw [cmp_eq_compareLex]
  infer_instance

instance : Std.LawfulEqCmp cmp where
  eq_of_compare {a b} h := by
    cases a <;> cases b <;> try cases h
    case name.name as bs =>
      have hbytes : compareLists compare as bs = .eq := h
      rw [Std.LawfulEqCmp.eq_of_compare hbytes]
    all_goals rfl

end Part

instance : Std.TransCmp cmp :=
  have h : Std.TransCmp (compareLists Part.cmp) := inferInstance
  { eq_swap := h.eq_swap, isLE_trans := h.isLE_trans }

lemma cmp_eq_eq_iff {p q : FilePath} : p.cmp q = .eq ↔ p.parts = q.parts := by
  show compareLists Part.cmp p.parts q.parts = .eq ↔ p.parts = q.parts
  exact Std.LawfulEqCmp.compare_eq_iff_eq

lemma isLE_cmp_total (p q : FilePath) : ((p.cmp q).isLE || (q.cmp p).isLE) = true := by
  have h : p.cmp q = (q.cmp p).swap := Std.OrientedCmp.eq_swap
  rw [h]
  cases q.cmp p <;> rfl

end FilePath

/-! ### Taking files in order -/

/-- The second list has the files of the first that have the extension `json`, in the order of their
paths, and as they are listed as far as their paths allow. -/
structure InPathOrder (listed files : List FilePath) : Prop where
  perm : files.Perm (listed.filter fun p => p.extension? = some (Text.toUtf8 "json"))
  sorted : files.Pairwise fun p q => p.cmp q ≠ .gt
  stable : ∀ p q, p.cmp q ≠ .gt →
    [p, q].Sublist (listed.filter fun p => p.extension? = some (Text.toUtf8 "json")) →
    [p, q].Sublist files

theorem schemaFiles_inPathOrder (listed : List FilePath) :
    InPathOrder listed (schemaFiles listed) := by
  have hle : (fun p q : FilePath => p.cmp q != .gt) = fun p q => (p.cmp q).isLE := by
    funext p q
    cases p.cmp q <;> rfl
  have htrans (p q p' : FilePath) (h : (p.cmp q).isLE = true) (h' : (q.cmp p').isLE = true) :
      (p.cmp p').isLE = true := Std.TransCmp.isLE_trans h h'
  constructor
  · exact List.mergeSort_perm _ _
  · have hsorted := List.pairwise_mergeSort htrans FilePath.isLE_cmp_total
      (listed.filter isSchemaFile)
    rw [schemaFiles, hle]
    exact hsorted.imp Ordering.isLE_iff_ne_gt.mp
  · intro p q hpq hsub
    rw [schemaFiles, hle]
    exact List.pair_sublist_mergeSort htrans FilePath.isLE_cmp_total
      (Ordering.isLE_iff_ne_gt.mpr hpq) hsub

end RequestContract
