import RequestContract.Json.Writer
import RequestContract.Proofs.Json.Cut
import RequestContract.Proofs.Json.Draft

/-!
# Texts that are written are read back

The compact text of a value is cut into a draft that writes the same value:
`Json.document_ofText_render`. This is so for every string, whatever its characters. Of the numbers
in the value it is assumed that each alone is read back, since not every double is;
an integer from zero to below `2 ^ 64` is.
-/

namespace RequestContract.Json

/-! ### Strings -/

lemma hexUnit?_control : ∀ n < 32, hexUnit? '0' '0' (hexDigit (n / 16)) (hexDigit n) = some n := by
  decide

lemma cutString_plain {c : Char} (cs : List Char) (hq : c ≠ '"') (hb : c ≠ '\\')
    (hc : ¬ c < ' ') :
    cutString (c :: cs) = ((cutString cs).1.push (.char c), (cutString cs).2) := by
  rw [cutString]
  · rw [if_neg hc]
  all_goals simp [hq, hb]

lemma cutString_short {e c : Char} (cs : List Char) (h : shortEscape? e = some c) :
    cutString ('\\' :: e :: cs) = ((cutString cs).1.push (.char c), (cutString cs).2) := by
  have hu : e ≠ 'u' := by
    rintro rfl
    cases h
  rw [cutString]
  · rw [h]
  all_goals simp [hu]

/-- A character is read back as itself or, if it is a control, as its number. -/
lemma cutString_escapeChar (c : Char) (cs : List Char) :
    ∃ p, cutString (escapeChar c ++ cs) = ((cutString cs).1.push p, (cutString cs).2) ∧
      (p = .char c ∨ p = .unit c.toNat ∧ c.toNat < 32) := by
  unfold escapeChar
  split_ifs with hquote hback hb ht hn hf hr hcontrol
  · subst hquote
    exact ⟨.char '"', cutString_short cs rfl, .inl rfl⟩
  · subst hback
    exact ⟨.char '\\', cutString_short cs rfl, .inl rfl⟩
  · subst hb
    exact ⟨.char '\x08', cutString_short cs rfl, .inl rfl⟩
  · subst ht
    exact ⟨.char '\t', cutString_short cs rfl, .inl rfl⟩
  · subst hn
    exact ⟨.char '\n', cutString_short cs rfl, .inl rfl⟩
  · subst hf
    exact ⟨.char '\x0c', cutString_short cs rfl, .inl rfl⟩
  · subst hr
    exact ⟨.char '\r', cutString_short cs rfl, .inl rfl⟩
  · have hlt : c.toNat < 32 := hcontrol
    refine ⟨.unit c.toNat, ?_, .inr ⟨rfl, hlt⟩⟩
    show cutString ('\\' :: 'u' :: '0' :: '0' :: _ :: _ :: cs) = _
    rw [cutString, hexUnit?_control _ hlt]
  · exact ⟨.char c, cutString_plain cs hquote hback hcontrol, .inl rfl⟩

lemma decodePieces_escape {fault : Option Fault} {c : Char} {p : Piece} (ps : List Piece)
    (h : p = .char c ∨ p = .unit c.toNat ∧ c.toNat < 32) :
    decodePieces fault (p :: ps) = (c :: ·) <$> decodePieces fault ps := by
  rcases h with rfl | ⟨rfl, hc⟩
  · rfl
  · have hlow : isLowSurrogate c.toNat = false := by
      rw [isLowSurrogate, Bool.and_eq_false_iff, decide_eq_false_iff_not]
      omega
    have hhigh : isHighSurrogate c.toNat = false := by
      rw [isHighSurrogate, Bool.and_eq_false_iff, decide_eq_false_iff_not]
      omega
    rw [decodePieces.eq_def]
    simp [hlow, hhigh]

lemma cutString_escape (t rest : List Char) : ∃ ps,
    cutString (t.flatMap escapeChar ++ '"' :: rest) = (⟨ps, none⟩, rest) ∧
      decodePieces none ps = .ok t := by
  induction t with
  | nil => exact ⟨[], rfl, rfl⟩
  | cons c t ih =>
    obtain ⟨ps, hcut, hps⟩ := ih
    obtain ⟨p, hp, hpc⟩ := cutString_escapeChar c (t.flatMap escapeChar ++ '"' :: rest)
    refine ⟨p :: ps, ?_, ?_⟩
    · rw [List.flatMap_cons, List.append_assoc, hp, hcut]
      rfl
    · rw [decodePieces_escape ps hpc, hps]
      rfl

/-- The characters of a string are read back up to the quote that closes it. -/
lemma cutString_quoteChars (t : String) (rest : List Char) : ∃ cs l,
    quoteChars t.toList ++ rest = '"' :: cs ∧ cutString cs = (l, rest) ∧ l.fault = none ∧
      l.value = .ok t := by
  obtain ⟨ps, hcut, hps⟩ := cutString_escape t.toList rest
  refine ⟨_, ⟨ps, none⟩, ?_, hcut, rfl, ?_⟩
  · simp [quoteChars]
  · rw [StringLiteral.value, hps]
    simp

/-! ### Numbers before other text -/

/-- No number goes on with this text. -/
def EndsNumber (rest : List Char) : Prop :=
  ∀ c cs, rest = c :: cs → c.isDigit = false ∧ c ≠ '.' ∧ c ≠ 'e' ∧ c ≠ 'E'

variable {cs r rest : List Char}

lemma endsNumber_nil : EndsNumber [] := nofun

lemma cutDigits_append (cs : List Char) (h : EndsNumber rest) :
    cutDigits (cs ++ rest) = ((cutDigits cs).1, (cutDigits cs).2 ++ rest) := by
  have ht : rest.takeWhile Char.isDigit = [] := by
    cases rest with
    | nil => rfl
    | cons c rest => simp [(h c rest rfl).1]
  have hd : rest.dropWhile Char.isDigit = rest := by
    cases rest with
    | nil => rfl
    | cons c rest => simp [(h c rest rfl).1]
  induction cs with
  | nil => simp [cutDigits, ht, hd]
  | cons c cs ih =>
    simp only [cutDigits, Prod.mk.injEq] at ih
    by_cases hc : c.isDigit = true
    · simp [cutDigits, hc, ih]
    · simp [cutDigits, hc]

lemma cutWhole_append (h : EndsNumber rest) {ds : List Nat} (hc : cutWhole cs = .ok (ds, r)) :
    cutWhole (cs ++ rest) = .ok (ds, r ++ rest) := by
  unfold cutWhole at hc
  split at hc
  · split at hc
    · next c _ =>
      split at hc
      · cases hc
      · next hd =>
        cases hc
        simp [cutWhole, hd]
    · cases hc
      cases rest with
      | nil => rfl
      | cons c rest => simp [cutWhole, (h c rest rfl).1]
  · next c t hz =>
    split at hc
    · next hd =>
      rw [Except.ok.injEq] at hc
      have happ := cutDigits_append (c :: t) h
      rw [hc] at happ
      rw [List.cons_append] at happ ⊢
      rw [cutWhole.eq_3 _ _ hz, if_pos hd, happ]
    · cases hc
  · cases hc

lemma cutFraction_append (h : EndsNumber rest) {ds : Option (List Nat)}
    (hc : cutFraction cs = .ok (ds, r)) : cutFraction (cs ++ rest) = .ok (ds, r ++ rest) := by
  unfold cutFraction at hc
  split at hc
  · next t =>
    have happ := cutDigits_append t h
    split at hc
    · cases hc
    · next hne heq =>
      cases hc
      rw [heq] at happ
      simp only [List.cons_append, cutFraction, happ]
  · next hne =>
    cases hc
    have hpoint : ∀ t, cs ++ rest = '.' :: t → False := by
      intro t ht
      cases cs with
      | nil => exact (h _ _ ht).2.1 rfl
      | cons c cs =>
        rw [List.cons_append, List.cons.injEq] at ht
        exact hne cs (by rw [ht.1])
    rw [cutFraction.eq_2 _ hpoint]

lemma cutExponentDigits_append (h : EndsNumber rest) {negative : Bool} {e : Option Int}
    (hc : cutExponentDigits negative cs = .ok (e, r)) :
    cutExponentDigits negative (cs ++ rest) = .ok (e, r ++ rest) := by
  have happ := cutDigits_append cs h
  unfold cutExponentDigits at hc
  split at hc
  · cases hc
  · next hne heq =>
    cases hc
    rw [heq] at happ
    simp only [cutExponentDigits, happ]

lemma cutExponent_append (h : EndsNumber rest) {e : Option Int}
    (hc : cutExponent cs = .ok (e, r)) : cutExponent (cs ++ rest) = .ok (e, r ++ rest) := by
  cases cs with
  | nil =>
    cases hc
    cases rest with
    | nil => rfl
    | cons c rest =>
      obtain ⟨_, _, he, hE⟩ := h c rest rfl
      simp [cutExponent, he, hE]
  | cons c t =>
    rw [List.cons_append]
    simp only [cutExponent] at hc ⊢
    split at hc
    · next hmark =>
      rw [if_pos hmark]
      split at hc
      · exact cutExponentDigits_append h hc
      · exact cutExponentDigits_append h hc
      · next hplus hminus =>
        -- the first digit is in `t` already, so no sign comes from `rest`
        have happ := cutExponentDigits_append h hc
        cases t with
        | nil => cases hc
        | cons d t =>
          rw [List.cons_append] at happ ⊢
          split
          · next heq => exact absurd (by rw [(List.cons.inj heq).1]) (hplus t)
          · next heq => exact absurd (by rw [(List.cons.inj heq).1]) (hminus t)
          · exact happ
    · next hmark =>
      cases hc
      rw [if_neg hmark]
      rfl

/-- A number that ends with its text is cut alike before other text. -/
lemma cutNumber_append (h : EndsNumber rest) {negative : Bool} {l : NumberLiteral}
    (hc : cutNumber negative cs = .ok (l, r)) :
    cutNumber negative (cs ++ rest) = .ok (l, r ++ rest) := by
  obtain ⟨⟨whole, r₁⟩, hw, hc⟩ := bind_eq_ok_iff.mp hc
  obtain ⟨⟨fraction, r₂⟩, hf, hc⟩ := bind_eq_ok_iff.mp hc
  obtain ⟨⟨exponent, r₃⟩, he, hc⟩ := bind_eq_ok_iff.mp hc
  cases hc
  refine bind_eq_ok_iff.mpr ⟨_, cutWhole_append h hw, ?_⟩
  refine bind_eq_ok_iff.mpr ⟨_, cutFraction_append h hf, ?_⟩
  exact bind_eq_ok_iff.mpr ⟨_, cutExponent_append h he, rfl⟩

lemma skipSpace_cons {c : Char} (h : isSpace c = false) : skipSpace (c :: cs) = c :: cs := by
  rw [skipSpace, List.dropWhile_cons_of_neg (by simp [h])]

lemma skipSpace_append_of_cons {c : Char} {t : List Char} (h : skipSpace cs = c :: t) :
    skipSpace (cs ++ rest) = c :: (t ++ rest) := by
  rw [skipSpace] at h ⊢
  rw [List.dropWhile_append, h]
  rfl

lemma skipSpace_append_of_nil (h : skipSpace cs = []) :
    skipSpace (cs ++ rest) = skipSpace rest := by
  rw [skipSpace] at h ⊢
  rw [List.dropWhile_append, h]
  rfl

/-- Before other text, the text of the number is cut into a literal of the number. -/
def Number.ReadsBack (n : Number) : Prop :=
  ∀ rest, EndsNumber rest → ∃ l r, Cuts (n.render ++ rest) (.number l) r ∧
    skipSpace r = skipSpace rest ∧ l.value = .ok n

/-- It is enough that the text alone reads back. -/
lemma Number.readsBack_of_ofText {n : Number}
    (h : ofText (String.ofList n.render) = .ok (.number n)) : n.ReadsBack := by
  obtain ⟨v, hread, h⟩ := bind_eq_ok_iff.mp h
  obtain ⟨_, hend, h⟩ := bind_eq_ok_iff.mp h
  cases h
  obtain ⟨r, hcuts, hr⟩ := Document.cuts_of_ending (endOk_eq_ok_iff.mp hend)
  generalize (Document.ofText (String.ofList n.render)).draft = d at hread hcuts
  cases d with
  | number l =>
    obtain ⟨m, hl, hm⟩ := map_eq_ok_iff.mp hread
    cases hm
    rw [String.toList_ofList] at hcuts
    obtain ⟨c, t, hct, _⟩ := hcuts.exists_cons
    intro rest hrest
    refine ⟨l, r ++ rest, (Cuts.number_iff (skipSpace_append_of_cons hct)).mpr ?_,
      skipSpace_append_of_nil hr, hl⟩
    have hnumber := (Cuts.number_iff hct).mp hcuts
    split
    · next hc =>
      rw [if_pos hc] at hnumber
      exact cutNumber_append hrest hnumber
    · next hc =>
      rw [if_neg hc] at hnumber
      exact ⟨hnumber.1, cutNumber_append hrest hnumber.2⟩
  | string l =>
    obtain ⟨_, _, hl⟩ := map_eq_ok_iff.mp hread
    cases hl
  | array ds e =>
    obtain ⟨_, _, hl⟩ := map_eq_ok_iff.mp hread
    cases hl
  | object ds e =>
    obtain ⟨_, _, hl⟩ := map_eq_ok_iff.mp hread
    cases hl
  | _ => cases hread

/-! ### Integers -/

lemma gatherDigits_concat {m n d : Nat} {ds : List Nat} (h : gatherDigits m ds = (n, []))
    (hn : n * 10 + d < UInt64.size) : gatherDigits m (ds ++ [d]) = (n * 10 + d, []) := by
  induction ds generalizing m with
  | nil =>
    cases h
    rw [List.nil_append, gatherDigits, if_pos hn, gatherDigits]
  | cons e ds ih =>
    rw [gatherDigits] at h
    split at h
    · next hlt =>
      rw [List.cons_append, gatherDigits, if_pos hlt]
      exact ih h
    · cases h

lemma digitValue_digitChar {n : Nat} (h : n < 10) : digitValue n.digitChar = n := by
  have hzero : '0'.toNat = 48 := rfl
  rw [digitValue, Nat.toNat_digitChar_of_lt_ten h, hzero]
  omega

lemma gatherDigits_toDigits {n : Nat} (h : n < UInt64.size) :
    gatherDigits 0 ((Nat.toDigits 10 n).map digitValue) = (n, []) := by
  induction n using Nat.strongRecOn with
  | ind n ih =>
    -- the digits of `n` are those of `n / 10` and one more
    rw [Nat.toDigits_eq_if (by decide)]
    split
    · next hlt =>
      rw [List.map_singleton, digitValue_digitChar hlt, gatherDigits, Nat.zero_mul, Nat.zero_add,
        if_pos h, gatherDigits]
    · next hge =>
      have hdigit : digitValue (n % 10).digitChar = n % 10 :=
        digitValue_digitChar (Nat.mod_lt n (by decide))
      have hsplit : n / 10 * 10 + n % 10 = n := by omega
      have hinit := ih (n / 10) (by omega) (by omega)
      rw [List.map_append, List.map_singleton, hdigit,
        gatherDigits_concat hinit (by rw [hsplit]; exact h), hsplit]

/-- Only zero starts with a zero. -/
lemma eq_zero_of_toDigits_eq_cons {n : Nat} {t : List Char} (h : Nat.toDigits 10 n = '0' :: t) :
    n = 0 := by
  induction n using Nat.strongRecOn generalizing t with
  | ind n ih =>
    rw [Nat.toDigits_eq_if (by decide)] at h
    split at h
    · rw [List.cons.injEq] at h
      exact Nat.digitChar_eq_zero.mp h.1
    · next hge =>
      cases hd : Nat.toDigits 10 (n / 10) with
      | nil => exact absurd hd Nat.toDigits_ne_nil
      | cons c s =>
        rw [hd, List.cons_append, List.cons.injEq] at h
        have := ih (n / 10) (by omega) (h.1 ▸ hd)
        omega

lemma cutWhole_toDigits (n : Nat) :
    cutWhole (Nat.toDigits 10 n) = .ok ((Nat.toDigits 10 n).map digitValue, []) := by
  have hdigits : ∀ c ∈ Nat.toDigits 10 n, c.isDigit = true :=
    fun c hc => Nat.isDigit_of_mem_toDigits (by decide) (by decide) hc
  by_cases hn : n = 0
  · subst hn
    rfl
  · cases hd : Nat.toDigits 10 n with
    | nil => exact absurd hd Nat.toDigits_ne_nil
    | cons c t =>
      have hz : c = '0' → False := by
        rintro rfl
        exact hn (eq_zero_of_toDigits_eq_cons hd)
      rw [hd] at hdigits
      rw [cutWhole.eq_3 _ _ hz, if_pos (hdigits c List.mem_cons_self), cutDigits,
        List.takeWhile_eq_self_iff.mpr hdigits, List.dropWhile_eq_nil_iff.mpr hdigits]

lemma isSpace_eq_false_of_isDigit {c : Char} (h : c.isDigit = true) : isSpace c = false := by
  have hblank : c ≠ ' ' := ne_of_isDigit h rfl
  have htab : c ≠ '\t' := ne_of_isDigit h rfl
  have hfeed : c ≠ '\n' := ne_of_isDigit h rfl
  have hreturn : c ≠ '\r' := ne_of_isDigit h rfl
  simp [isSpace, hblank, htab, hfeed, hreturn]

/-- A number without a sign, fraction and exponent. -/
lemma cuts_of_cutWhole {ds : List Nat} (h : EndsNumber rest) (hc : cutWhole cs = .ok (ds, [])) :
    Cuts (cs ++ rest) (.number ⟨false, ds, none, none⟩) rest := by
  cases cs with
  | nil => cases hc
  | cons c t =>
    have hd : c.isDigit = true := by
      by_cases hz : c = '0'
      · rw [hz]
        rfl
      · by_contra hd
        rw [cutWhole.eq_3 _ _ hz, if_neg hd] at hc
        cases hc
    have hminus : c ≠ '-' := ne_of_isDigit hd rfl
    have hspace := isSpace_eq_false_of_isDigit hd
    refine (Cuts.number_iff (skipSpace_cons hspace)).mpr ?_
    rw [if_neg hminus]
    have hnumber : cutNumber false (c :: t) = .ok (⟨false, ds, none, none⟩, []) := by
      rw [cutNumber, hc]
      rfl
    exact ⟨hd, cutNumber_append h hnumber⟩

lemma Number.readsBack_integer {n : Nat} (h : n < UInt64.size) :
    (Number.integer n).ReadsBack := by
  have hrender : (Number.integer n).render = Nat.toDigits 10 n := by
    rw [Number.render, ← Nat.toList_repr]
    rfl
  intro rest hrest
  rw [hrender]
  refine ⟨⟨false, (Nat.toDigits 10 n).map digitValue, none, none⟩, rest,
    cuts_of_cutWhole hrest (cutWhole_toDigits n), rfl, ?_⟩
  simp [NumberLiteral.value, gatherDigits_toDigits h]

/-! ### Values -/

mutual

/-- Each number in the value reads back. -/
def NumbersReadBack : Json → Prop
  | .number n => n.ReadsBack
  | .array items => NumbersReadBackItems items
  | .object ms => NumbersReadBackMembers ms
  | _ => True

def NumbersReadBackItems : List Json → Prop
  | [] => True
  | v :: vs => NumbersReadBack v ∧ NumbersReadBackItems vs

def NumbersReadBackMembers : List (String × Json) → Prop
  | [] => True
  | (_, v) :: ms => NumbersReadBack v ∧ NumbersReadBackMembers ms

end

lemma numbersReadBackItems_iff {vs : List Json} :
    NumbersReadBackItems vs ↔ ∀ v ∈ vs, v.NumbersReadBack := by
  induction vs with
  | nil => simp [NumbersReadBackItems]
  | cons v vs ih => simp [NumbersReadBackItems, ih]

lemma numbersReadBackMembers_iff {ms : List (String × Json)} :
    NumbersReadBackMembers ms ↔ ∀ m ∈ ms, m.2.NumbersReadBack := by
  induction ms with
  | nil => simp [NumbersReadBackMembers]
  | cons m ms ih => simp [NumbersReadBackMembers, ih]

/-- The texts that follow the first one, and the sign that closes the list. -/
def later (close : Char) (ts : List (List Char)) (rest : List Char) : List Char :=
  ts.flatMap (',' :: ·) ++ close :: rest

variable {close : Char} {t : List Char} {ts : List (List Char)}

lemma later_cons : later close (t :: ts) rest = ',' :: (t ++ later close ts rest) := by
  simp [later]

lemma separate_cons : separate (t :: ts) ++ close :: rest = t ++ later close ts rest := by
  induction ts generalizing t with
  | nil => rfl
  | cons u us ih =>
    have hne : u :: us = [] → False := nofun
    rw [later_cons, separate.eq_3 _ _ hne, List.append_assoc, List.cons_append, ih]

lemma exists_cons_later (hclose : close = ']' ∨ close = '\x7d') (ts : List (List Char))
    (rest : List Char) :
    ∃ c cs, later close ts rest = c :: cs ∧ (c = ',' ∨ c = ']' ∨ c = '\x7d') := by
  cases ts with
  | nil => exact ⟨close, rest, rfl, .inr hclose⟩
  | cons t ts => exact ⟨',', _, later_cons, .inl rfl⟩

lemma endsNumber_later (hclose : close = ']' ∨ close = '\x7d') :
    EndsNumber (later close ts rest) := by
  obtain ⟨c, cs, heq, hc⟩ := exists_cons_later hclose ts rest
  rintro d ds hd
  rw [heq, List.cons.injEq] at hd
  obtain ⟨rfl, rfl⟩ := hd
  rcases hc with rfl | rfl | rfl <;> decide

lemma skipSpace_later (hclose : close = ']' ∨ close = '\x7d') :
    skipSpace (later close ts rest) = later close ts rest := by
  obtain ⟨c, cs, heq, hc⟩ := exists_cons_later hclose ts rest
  rw [heq]
  apply skipSpace_cons
  rcases hc with rfl | rfl | rfl <;> rfl

mutual

/-- The text of a value is cut into a draft that writes the value, whatever follows. -/
theorem cuts_renderChars {v : Json} (hv : v.NumbersReadBack) {rest : List Char}
    (hrest : EndsNumber rest) : ∃ d r, Cuts (renderChars v ++ rest) d r ∧
      skipSpace r = skipSpace rest ∧ d.Writes v := by
  -- by recursion on the value, for all `rest`: after an inner value comes what follows it
  match v with
  | .null => exact ⟨.null, rest, .word_null rfl, rfl, .null⟩
  | .bool true => exact ⟨.bool true, rest, .word_true rfl, rfl, .bool true⟩
  | .bool false => exact ⟨.bool false, rest, .word_false rfl, rfl, .bool false⟩
  | .number n =>
    rw [NumbersReadBack] at hv
    obtain ⟨l, r, hcuts, hskip, hl⟩ := hv rest hrest
    exact ⟨.number l, r, hcuts, hskip, .number hl⟩
  | .string t =>
    obtain ⟨cs, l, hcs, hcut, hf, hl⟩ := cutString_quoteChars t rest
    rw [renderChars, hcs]
    exact ⟨.string l, rest, .string rfl hcut hf, rfl, .string hl⟩
  | .array [] => exact ⟨.array [] none, rest, .array rfl (.close rfl), rfl, .array .nil⟩
  | .array (v :: vs) =>
    rw [NumbersReadBack, NumbersReadBackItems] at hv
    have htext : renderChars (.array (v :: vs)) ++ rest
        = '[' :: (renderChars v ++ later ']' (renderItems vs) rest) := by
      rw [renderChars, renderItems, List.append_assoc, List.cons_append, List.singleton_append,
        separate_cons]
    obtain ⟨d, r, hd, hr, hdv⟩ := cuts_renderChars hv.1 (endsNumber_later (.inl rfl))
    obtain ⟨ds, hds, hvs⟩ := cutsItems_later hv.2 (hr.trans (skipSpace_later (.inl rfl)))
    rw [htext]
    exact ⟨.array (d :: ds) none, rest, .array rfl (.first hd hds), rfl, .array (.cons hdv hvs)⟩
  | .object [] => exact ⟨.object [] none, rest, .object rfl (.close rfl), rfl, .object .nil⟩
  | .object ((k, v) :: ms) =>
    rw [NumbersReadBack, NumbersReadBackMembers] at hv
    obtain ⟨d, r, hd, hr, hdv⟩ := cuts_renderChars hv.1 (endsNumber_later (.inr rfl))
    obtain ⟨ds, hds, hms⟩ := cutsMembers_later hv.2 (hr.trans (skipSpace_later (.inr rfl)))
    obtain ⟨cs, l, hcs, hcut, hf, hl⟩ := cutString_quoteChars k
      (':' :: (renderChars v ++ later '\x7d' (renderMembers ms) rest))
    have htext : renderChars (.object ((k, v) :: ms)) ++ rest = '\x7b' :: '"' :: cs := by
      rw [renderChars, renderMembers, List.append_assoc, List.cons_append, List.singleton_append,
        separate_cons, List.append_assoc, List.cons_append, hcs]
    rw [htext]
    exact ⟨.object ((l, d) :: ds) none, rest, .object rfl (.first rfl hcut hf rfl hd hds), rfl,
      .object (.cons hl hdv hms)⟩

lemma cutsItems_later {vs : List Json} (hv : NumbersReadBackItems vs) {cs rest : List Char}
    (hcs : skipSpace cs = later ']' (renderItems vs) rest) :
    ∃ ds, CutsItems false cs ds rest ∧ Draft.WritesItems ds vs := by
  match vs with
  | [] => exact ⟨[], .close hcs, .nil⟩
  | v :: vs =>
    rw [NumbersReadBackItems] at hv
    rw [renderItems, later_cons] at hcs
    obtain ⟨d, r, hd, hr, hdv⟩ := cuts_renderChars hv.1 (endsNumber_later (.inl rfl))
    obtain ⟨ds, hds, hvs⟩ := cutsItems_later hv.2 (hr.trans (skipSpace_later (.inl rfl)))
    exact ⟨d :: ds, .next hcs hd hds, .cons hdv hvs⟩

lemma cutsMembers_later {ms : List (String × Json)} (hv : NumbersReadBackMembers ms)
    {cs rest : List Char} (hcs : skipSpace cs = later '\x7d' (renderMembers ms) rest) :
    ∃ ds, CutsMembers false cs ds rest ∧ Draft.WritesMembers ds ms := by
  match ms with
  | [] => exact ⟨[], .close hcs, .nil⟩
  | (k, v) :: ms =>
    rw [NumbersReadBackMembers] at hv
    obtain ⟨d, r, hd, hr, hdv⟩ := cuts_renderChars hv.1 (endsNumber_later (.inr rfl))
    obtain ⟨ds, hds, hms⟩ := cutsMembers_later hv.2 (hr.trans (skipSpace_later (.inr rfl)))
    obtain ⟨us, l, hus, hcut, hf, hl⟩ := cutString_quoteChars k
      (':' :: (renderChars v ++ later '\x7d' (renderMembers ms) rest))
    rw [renderMembers, later_cons, List.append_assoc, List.cons_append, hus] at hcs
    exact ⟨(l, d) :: ds, .next hcs rfl hcut hf rfl hd hds, .cons hl hdv hms⟩

end

/-- The text of a value is a whole document that writes the value. -/
theorem document_ofText_render {v : Json} (hv : v.NumbersReadBack) :
    ∃ d, Document.ofText v.render = ⟨d, none⟩ ∧ d.Writes v := by
  obtain ⟨d, r, hcuts, hr, hd⟩ := cuts_renderChars hv endsNumber_nil
  rw [List.append_nil] at hcuts
  refine ⟨d, Document.ofText_eq (r := r) ?_ hr, hd⟩
  rw [render, String.toList_ofList]
  exact hcuts

/-- The text of a value without repeated keys is read back as the value. -/
theorem ofText_render_eq {v : Json} (hv : v.NumbersReadBack) (hd : v.DistinctKeys) :
    ofText v.render = .ok v := by
  obtain ⟨d, hdoc, hw⟩ := document_ofText_render hv
  rw [ofText, hdoc]
  show d.read >>= _ = _
  rw [hw.read_eq hd]
  rfl

end RequestContract.Json
