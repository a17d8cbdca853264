import Mathlib.Data.List.DropRight
import Mathlib.Tactic.Lemma
import RequestContract.Json.Cut

/-!
# Cutting a text, construct by construct

`Cuts cs d r` says that in front of the text `cs` stands a value with the draft `d`, and after it
the text `r`. Each construct of JSON has its rule, which looks at the text after its blanks; so the
functions that cut need not be unfolded elsewhere.
-/

namespace RequestContract.Json

variable {cs ds r s : List Char} {c : Char}

/-! ### What is left -/

/-- The text that is left is known. -/
def Rest.Leaves (x : Rest cs) (r : List Char) : Prop := ∃ h, x = .ok ⟨r, h⟩

@[simp] lemma leaves_ok {y : { r : List Char // r.length < cs.length }} :
    Rest.Leaves (.ok y : Rest cs) r ↔ y.1 = r := by
  obtain ⟨r', hr'⟩ := y
  constructor
  · rintro ⟨_, h⟩
    exact congrArg Subtype.val (Except.ok.inj h)
  · rintro rfl
    exact ⟨hr', rfl⟩

@[simp] lemma not_leaves_error {f : Fault} : ¬ Rest.Leaves (.error f : Rest cs) r := by
  rintro ⟨_, h⟩
  cases h

@[simp] lemma leaves_widen {h : cs.length ≤ ds.length} {x : Rest cs} :
    (x.widen h).Leaves r ↔ x.Leaves r := by
  cases x with
  | error f => simp [Rest.widen]
  | ok y => simp [Rest.widen]

/-! ### Leaves -/

lemma cutLeaf_leaves {leaf : Draft} {word : List Char} (h : cutWord word cs = .ok r) :
    (cutLeaf leaf word c cs).1 = leaf ∧ (cutLeaf leaf word c cs).2.Leaves r := by
  rw [cutLeaf]
  split
  · next r' heq =>
    rw [h, Except.ok.injEq] at heq
    simp [heq]
  · next f heq =>
    rw [h] at heq
    cases heq

lemma cutNumberLeaf_leaves_iff {negative : Bool} {l : NumberLiteral} :
    (cutNumberLeaf negative cs).1 = .number l ∧ (cutNumberLeaf negative cs).2.Leaves r ↔
      cutNumber negative cs = .ok (l, r) := by
  rw [cutNumberLeaf]
  split
  · next heq => simp [heq]
  · next heq => simp [heq]

lemma stringRest_leaves (h : (cutString cs).1.fault = none) :
    (stringRest c cs).Leaves (cutString cs).2 := by
  rw [stringRest]
  split
  · simp
  · next heq =>
    rw [h] at heq
    cases heq

/-! ### Values -/

/-- In front of the text stands a value with the draft `d`, and after it `r`. -/
def Cuts (cs : List Char) (d : Draft) (r : List Char) : Prop :=
  (cutValue cs).1 = d ∧ (cutValue cs).2.Leaves r

/-- A list has been cut up to the sign that closes it, and after it stands `r`. -/
def Closes {α : Type} (x : List α × Option Fault × Rest cs) (as : List α) (r : List Char) : Prop :=
  x.1 = as ∧ x.2.1 = none ∧ x.2.2.Leaves r

/-- In front of the text stand items up to a closing bracket, and after it `r`. -/
def CutsItems (start : Bool) (cs : List Char) (ds : List Draft) (r : List Char) : Prop :=
  Closes (cutItems start cs) ds r

/-- In front of the text stand members up to a closing brace, and after it `r`. -/
def CutsMembers (start : Bool) (cs : List Char) (ms : List (StringLiteral × Draft))
    (r : List Char) : Prop :=
  Closes (cutMembers start cs) ms r

/-- The first character after the blanks decides. -/
lemma cuts_iff (h : skipSpace cs = c :: r) {d : Draft} : Cuts cs d s ↔
    if c = 'n' then
      (cutLeaf .null ['u', 'l', 'l'] c r).1 = d ∧ (cutLeaf .null ['u', 'l', 'l'] c r).2.Leaves s
    else if c = 't' then
      (cutLeaf (.bool true) ['r', 'u', 'e'] c r).1 = d ∧
        (cutLeaf (.bool true) ['r', 'u', 'e'] c r).2.Leaves s
    else if c = 'f' then
      (cutLeaf (.bool false) ['a', 'l', 's', 'e'] c r).1 = d ∧
        (cutLeaf (.bool false) ['a', 'l', 's', 'e'] c r).2.Leaves s
    else if c = '-' then (cutNumberLeaf true r).1 = d ∧ (cutNumberLeaf true r).2.Leaves s
    else if c.isDigit then
      (cutNumberLeaf false (c :: r)).1 = d ∧ (cutNumberLeaf false (c :: r)).2.Leaves s
    else if c = '"' then .string (cutString r).1 = d ∧ (stringRest c r).Leaves s
    else if c = '[' then
      .array (cutItems true r).1 (cutItems true r).2.1 = d ∧ (cutItems true r).2.2.Leaves s
    else if c = '{' then
      .object (cutMembers true r).1 (cutMembers true r).2.1 = d ∧ (cutMembers true r).2.2.Leaves s
    else False := by
  rw [Cuts, cutValue]
  split
  · next heq =>
    rw [h] at heq
    cases heq
  · next heq =>
    rw [h, List.cons.injEq] at heq
    obtain ⟨rfl, rfl⟩ := heq
    split_ifs <;> simp

lemma ne_of_isDigit {d : Char} (hc : c.isDigit = true) (hd : d.isDigit = false) : c ≠ d := by
  rintro rfl
  rw [hc] at hd
  cases hd

namespace Cuts

lemma word_null (h : skipSpace cs = 'n' :: 'u' :: 'l' :: 'l' :: r) : Cuts cs .null r :=
  (cuts_iff h).mpr (cutLeaf_leaves rfl)

lemma word_true (h : skipSpace cs = 't' :: 'r' :: 'u' :: 'e' :: r) : Cuts cs (.bool true) r :=
  (cuts_iff h).mpr (cutLeaf_leaves rfl)

lemma word_false (h : skipSpace cs = 'f' :: 'a' :: 'l' :: 's' :: 'e' :: r) :
    Cuts cs (.bool false) r :=
  (cuts_iff h).mpr (cutLeaf_leaves rfl)

lemma string {l : StringLiteral} (h : skipSpace cs = '"' :: r) (hl : cutString r = (l, s))
    (hf : l.fault = none) : Cuts cs (.string l) s := by
  have hs : (stringRest '"' r).Leaves (cutString r).2 := stringRest_leaves (by rw [hl, hf])
  rw [hl] at hs
  refine (cuts_iff h).mpr ?_
  simp [hl, hs]

lemma array {ds : List Draft} (h : skipSpace cs = '[' :: r) (hi : CutsItems true r ds s) :
    Cuts cs (.array ds none) s := by
  obtain ⟨hds, he, hs⟩ := hi
  refine (cuts_iff h).mpr ?_
  simp [hds, he, hs]

lemma object {ms : List (StringLiteral × Draft)} (h : skipSpace cs = '{' :: r)
    (hm : CutsMembers true r ms s) : Cuts cs (.object ms none) s := by
  obtain ⟨hms, he, hs⟩ := hm
  refine (cuts_iff h).mpr ?_
  simp [hms, he, hs]

lemma number_iff (h : skipSpace cs = c :: r) {l : NumberLiteral} : Cuts cs (.number l) s ↔
    if c = '-' then cutNumber true r = .ok (l, s)
    else c.isDigit = true ∧ cutNumber false (c :: r) = .ok (l, s) := by
  -- where a word is cut, the draft is that of the word or a fault
  have hleaf (leaf : Draft) (word : List Char) (hl : leaf ≠ .number l) :
      (cutLeaf leaf word c r).1 ≠ .number l := by
    rw [cutLeaf]
    split
    · exact hl
    · simp
  rw [cuts_iff h, cutNumberLeaf_leaves_iff, cutNumberLeaf_leaves_iff]
  by_cases hm : c = '-'
  · subst hm
    simp
  · by_cases hd : c.isDigit = true
    · have hn : c ≠ 'n' := ne_of_isDigit hd rfl
      have ht : c ≠ 't' := ne_of_isDigit hd rfl
      have hf : c ≠ 'f' := ne_of_isDigit hd rfl
      simp [hm, hd, hn, ht, hf]
    · simp only [hm, hd, if_false, Bool.false_eq_true, false_and, iff_false]
      split_ifs <;> simp [hleaf]

lemma exists_eq {d : Draft} (h : Cuts cs d r) : ∃ hr, cutValue cs = (d, .ok ⟨r, hr⟩) := by
  obtain ⟨hd, hr, hok⟩ := h
  exact ⟨hr, Prod.ext hd hok⟩

/-- A value starts with a character of its own, and not with that which closes a list. -/
lemma exists_cons {d : Draft} (h : Cuts cs d r) :
    ∃ c t, Json.skipSpace cs = c :: t ∧ c ≠ ']' := by
  cases hcs : Json.skipSpace cs with
  | nil =>
    obtain ⟨_, heq⟩ := h.exists_eq
    rw [cutValue] at heq
    split at heq
    · cases heq
    · next hcons =>
      rw [hcs] at hcons
      cases hcons
  | cons c t =>
    refine ⟨c, t, rfl, ?_⟩
    rintro rfl
    simpa using (cuts_iff hcs).mp h

/-- Blanks in front of a value do not count. -/
lemma skipSpace {d : Draft} (h : Cuts cs d r) : Cuts (Json.skipSpace cs) d r := by
  obtain ⟨c, t, hcs, _⟩ := h.exists_cons
  have hidem : Json.skipSpace (c :: t) = c :: t := by
    rw [← hcs]
    exact List.dropWhile_idempotent _ _
  rw [hcs]
  exact (cuts_iff hidem).mpr ((cuts_iff hcs).mp h)

end Cuts

/-! ### Lists -/

lemma cutItem_closes {d : Draft} {ds : List Draft} (hv : Cuts cs d r)
    (hs : CutsItems false r ds s) : Closes (cutItem cs) (d :: ds) s := by
  obtain ⟨hr, hv⟩ := hv.exists_eq
  obtain ⟨hds, he, hs⟩ := hs
  rw [cutItem, hv]
  simp [Closes, hds, he, hs]

lemma cutsItems_iff {start : Bool} {ds : List Draft} (h : skipSpace cs = c :: r) :
    CutsItems start cs ds s ↔
      if c = ']' then ds = [] ∧ r = s
      else if start then Closes (cutItem (c :: r)) ds s
      else c = ',' ∧ (∀ t, skipSpace r ≠ ']' :: t) ∧ Closes (cutItem r) ds s := by
  rw [CutsItems, Closes, cutItems]
  split
  · next heq =>
    rw [h] at heq
    cases heq
  · next heq =>
    rw [h, List.cons.injEq] at heq
    obtain ⟨rfl, rfl⟩ := heq
    split_ifs with hclose hstart hcomma
    · simp [eq_comm]
    · simp [Closes]
    · split
      · next hr => simp [hr]
      · next hr =>
        have hr' : ∀ t, skipSpace r ≠ ']' :: t := hr
        simp [Closes, hcomma, hr']
    · simp [hcomma]

namespace CutsItems

lemma close {start : Bool} (h : Json.skipSpace cs = ']' :: r) : CutsItems start cs [] r := by
  rw [cutsItems_iff h]
  simp

lemma first {d : Draft} {ds : List Draft} (hv : Cuts cs d r) (hs : CutsItems false r ds s) :
    CutsItems true cs (d :: ds) s := by
  obtain ⟨c, t, h, hc⟩ := hv.exists_cons
  have hitem := cutItem_closes hv.skipSpace hs
  rw [h] at hitem
  rw [cutsItems_iff h, if_neg hc, if_pos rfl]
  exact hitem

lemma next {d : Draft} {ds : List Draft} {t : List Char} (h : Json.skipSpace cs = ',' :: t)
    (hv : Cuts t d r) (hs : CutsItems false r ds s) : CutsItems false cs (d :: ds) s := by
  obtain ⟨c, u, ht, hc⟩ := hv.exists_cons
  rw [cutsItems_iff h, if_neg (by decide), if_neg Bool.false_ne_true]
  refine ⟨rfl, ?_, cutItem_closes hv hs⟩
  simp [ht, hc]

end CutsItems

/-! ### Objects -/

/-- A member after the quote that opens its key. -/
lemma cutMember_closes {l : StringLiteral} {d : Draft} {ms : List (StringLiteral × Draft)}
    {t u v : List Char} (hl : cutString cs = (l, t)) (hf : l.fault = none)
    (ht : skipSpace t = ':' :: u) (hv : Cuts u d v) (hs : CutsMembers false v ms s) :
    Closes (cutMember '"' cs) ((l, d) :: ms) s := by
  obtain ⟨hr, hv⟩ := hv.exists_eq
  obtain ⟨hms, he, hs⟩ := hs
  have hl₁ : (cutString cs).1 = l := congrArg Prod.fst hl
  have hl₂ : (cutString cs).2 = t := congrArg Prod.snd hl
  rw [Closes, cutMember]
  simp only [if_true, hl₁, hf]
  split
  · next heq =>
    rw [hl₂, ht] at heq
    cases heq
  · next heq =>
    rw [hl₂, ht, List.cons.injEq] at heq
    obtain ⟨rfl, rfl⟩ := heq
    simp [hv, hms, he, hs]

lemma cutsMembers_iff {start : Bool} {ms : List (StringLiteral × Draft)}
    (h : skipSpace cs = c :: r) : CutsMembers start cs ms s ↔
      if c = '\x7d' then ms = [] ∧ r = s
      else if start then Closes (cutMember c r) ms s
      else c = ',' ∧ ∃ d t, skipSpace r = d :: t ∧ d ≠ '\x7d' ∧ Closes (cutMember d t) ms s := by
  rw [CutsMembers, Closes, cutMembers]
  split
  · next heq =>
    rw [h] at heq
    cases heq
  · next heq =>
    rw [h, List.cons.injEq] at heq
    obtain ⟨rfl, rfl⟩ := heq
    split_ifs with hclose hstart hcomma
    · simp [eq_comm]
    · simp [Closes]
    · split
      · next hr => simp [hr]
      · next d t hr =>
        by_cases hd : d = '\x7d'
        · simp [hr, hd]
        · simp [Closes, hcomma, hr, hd]
    · simp [hcomma]

namespace CutsMembers

lemma close {start : Bool} (h : Json.skipSpace cs = '\x7d' :: r) : CutsMembers start cs [] r := by
  rw [cutsMembers_iff h]
  simp

variable {l : StringLiteral} {d : Draft} {ms : List (StringLiteral × Draft)} {t u v : List Char}

lemma first (h : Json.skipSpace cs = '"' :: r) (hl : cutString r = (l, t)) (hf : l.fault = none)
    (ht : Json.skipSpace t = ':' :: u) (hv : Cuts u d v) (hs : CutsMembers false v ms s) :
    CutsMembers true cs ((l, d) :: ms) s := by
  rw [cutsMembers_iff h, if_neg (by decide), if_pos rfl]
  exact cutMember_closes hl hf ht hv hs

lemma next (h : Json.skipSpace cs = ',' :: ds) (hk : Json.skipSpace ds = '"' :: r)
    (hl : cutString r = (l, t)) (hf : l.fault = none)
    (ht : Json.skipSpace t = ':' :: u) (hv : Cuts u d v) (hs : CutsMembers false v ms s) :
    CutsMembers false cs ((l, d) :: ms) s := by
  rw [cutsMembers_iff h, if_neg (by decide), if_neg Bool.false_ne_true]
  exact ⟨rfl, '"', r, hk, by decide, cutMember_closes hl hf ht hv hs⟩

end CutsMembers

/-! ### Documents -/

/-- After the value of a whole text there are only blanks. -/
lemma Document.ofText_eq {text : String} {d : Draft} (h : Cuts text.toList d r)
    (hr : skipSpace r = []) : Document.ofText text = ⟨d, none⟩ := by
  obtain ⟨_, heq⟩ := h.exists_eq
  rw [ofText, heq]
  simp [hr]

lemma Document.cuts_of_ending {text : String} (h : (ofText text).ending = none) :
    ∃ r, Cuts text.toList (ofText text).draft r ∧ skipSpace r = [] := by
  rw [ofText] at h ⊢
  split at h
  · cases h
  · next d r hr heq =>
    refine ⟨r, ⟨by rw [heq], by simp [heq]⟩, ?_⟩
    by_contra hne
    simp [hne] at h

end RequestContract.Json
