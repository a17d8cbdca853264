import RequestContract.Proofs.Url.Grammar

/-!
# Numeric hosts

A host of ASCII digits and points only is an address: a name ends with letters, and `localhost` is
made of them. The forms of a number of an address are then together the numbers up to 255, written
without a superfluous zero in front.
-/

namespace RequestContract.Url

variable {cs : List Char}

/-! ### Numbers of an address -/

/-- The decimal digits of a number up to 255, without a superfluous zero in front. -/
structure IsByteNumeral (cs : List Char) : Prop where
  ne_nil : cs ≠ []
  isDigit : ∀ c ∈ cs, c.isDigit = true
  zero_alone : cs.head? = some '0' → cs = ['0']
  value_le : Nat.ofDigitChars 10 cs 0 ≤ 255

lemma char_le_iff {a b : Char} : a ≤ b ↔ a.toNat ≤ b.toNat := by
  rw [Char.le_def, UInt32.le_iff_toNat_le, Char.toNat_val, Char.toNat_val]

namespace IsByteNumeral

variable {a b : Char}

lemma toNat_bounds (h : IsByteNumeral cs) : ∀ c ∈ cs, 48 ≤ c.toNat ∧ c.toNat ≤ 57 :=
  fun c hc => Char.isDigit_iff_toNat.mp (h.isDigit c hc)

/-- A digit with another one behind it is not zero. -/
lemma lt_toNat (h : IsByteNumeral (a :: b :: cs)) : 48 < a.toNat := by
  have ha := (h.toNat_bounds a List.mem_cons_self).1
  have hne : a.toNat ≠ 48 := by
    intro hzero
    obtain rfl : a = '0' := Char.toNat_inj.mp hzero
    simpa using h.zero_alone rfl
  omega

lemma length_le (h : IsByteNumeral cs) : cs.length ≤ 3 := by
  match cs, h with
  | [], _ | [_], _ => simp
  | a :: b :: cs, h =>
    have ha := h.lt_toNat
    have hvalue := h.value_le
    rw [Nat.ofDigitChars_cons, Nat.ofDigitChars_eq_ofDigitChars_zero] at hvalue
    by_contra hlength
    -- the first of four digits stands for at least a thousand
    have hpow : 10 ^ 3 ≤ 10 ^ (b :: cs).length :=
      Nat.pow_le_pow_right (by decide) (by simp only [List.length_cons] at hlength ⊢; omega)
    have hfirst : 10 ^ 3 * 1 ≤ 10 ^ (b :: cs).length * (10 * 0 + (a.toNat - '0'.toNat)) :=
      Nat.mul_le_mul hpow (by change 1 ≤ 10 * 0 + (a.toNat - 48); omega)
    omega

lemma isOctet (h : IsByteNumeral cs) : IsOctet cs := by
  have hlength := h.length_le
  have hdigit (c : Char) (hc : c ∈ cs) : Text.isDecimalDigit c = true :=
    Text.isDecimalDigit_of_isDigit (h.isDigit c hc)
  have hbounds := h.toNat_bounds
  have hvalue := h.value_le
  match cs, h with
  | [], h => exact absurd rfl h.ne_nil
  | [c], _ => exact .digit (hdigit c (by simp))
  | [b, c], h =>
    have hb := h.lt_toNat
    exact .ofTens (char_le_iff.mpr hb) (char_le_iff.mpr (hbounds b (by simp)).2)
      (hdigit c (by simp))
  | [a, b, c], h =>
    have ha := h.lt_toNat
    obtain ⟨hb, hb'⟩ := hbounds b (by simp)
    obtain ⟨hc, hc'⟩ := hbounds c (by simp)
    simp only [Nat.ofDigitChars_cons, Nat.ofDigitChars_nil, Char.reduceToNat] at hvalue
    have hfirst : a.toNat = 49 ∨ a.toNat = 50 := by omega
    rcases hfirst with hone | htwo
    · obtain rfl : a = '1' := Char.toNat_inj.mp hone
      exact .ofHundred (hdigit b (by simp)) (hdigit c (by simp))
    · obtain rfl : a = '2' := Char.toNat_inj.mp htwo
      by_cases hsecond : b.toNat ≤ 52
      · exact .ofTwoHundred (char_le_iff.mpr hb) (char_le_iff.mpr hsecond) (hdigit c (by simp))
      · have hfive : b.toNat = 53 := by omega
        have hlast : c.toNat ≤ 53 := by omega
        obtain rfl : b = '5' := Char.toNat_inj.mp hfive
        exact .ofTwoHundredFifty (char_le_iff.mpr hc) (char_le_iff.mpr hlast)
  | _ :: _ :: _ :: _ :: _, _ =>
    simp only [List.length_cons] at hlength
    omega

end IsByteNumeral

/-- In ASCII digits each form of a number of an address stands for at most 255. -/
lemma IsOctet.value_le (h : IsOctet cs) (hdigits : ∀ c ∈ cs, c.isDigit = true) :
    Nat.ofDigitChars 10 cs 0 ≤ 255 := by
  have hle : ∀ c ∈ cs, c.toNat ≤ 57 := fun c hc =>
    (Char.isDigit_iff_toNat.mp (hdigits c hc)).2
  cases h with
  | ofTwoHundredFifty hlo hhi =>
    have hc := char_le_iff.mp hhi
    simp only [Nat.ofDigitChars_cons, Nat.ofDigitChars_nil, Char.reduceToNat] at hc ⊢
    omega
  | @ofTwoHundred b c hlo hhi hc =>
    have hb := char_le_iff.mp hhi
    have hc := hle c (by simp)
    simp only [Nat.ofDigitChars_cons, Nat.ofDigitChars_nil, Char.reduceToNat] at hb ⊢
    omega
  | @ofHundred b c hb hc =>
    have hb := hle b (by simp)
    have hc := hle c (by simp)
    simp only [Nat.ofDigitChars_cons, Nat.ofDigitChars_nil, Char.reduceToNat]
    omega
  | @ofTens b c hlo hhi hc =>
    have hb := hle b (by simp)
    have hc := hle c (by simp)
    simp only [Nat.ofDigitChars_cons, Nat.ofDigitChars_nil, Char.reduceToNat]
    omega
  | @digit c hc =>
    have hc := hle c (by simp)
    simp only [Nat.ofDigitChars_cons, Nat.ofDigitChars_nil, Char.reduceToNat]
    omega

/-- Only a single digit can be a zero in front. -/
lemma IsOctet.zero_alone (h : IsOctet cs) (hzero : cs.head? = some '0') : cs = ['0'] := by
  cases h with
  | ofTwoHundredFifty | ofTwoHundred | ofHundred => cases hzero
  | ofTens hlo hhi hc =>
    obtain rfl := Option.some.inj hzero
    exact absurd hlo (by decide)
  | digit hc => rw [Option.some.inj hzero]

lemma IsOctet.isByteNumeral (h : IsOctet cs) (hdigits : ∀ c ∈ cs, c.isDigit = true) :
    IsByteNumeral cs where
  ne_nil := by
    rintro rfl
    cases h
  isDigit := hdigits
  zero_alone := h.zero_alone
  value_le := h.value_le hdigits

/-! ### Numeric hosts -/

/-- Characters of a host hold no credentials and no tail, so with `http://` in front they are a URL
if and only if they are a host. -/
lemma isUrlChars_http (h : ∀ c ∈ cs, isHostChar c = true) :
    isUrlChars ("http://".toList ++ cs) = isHost cs := by
  have hscheme : afterScheme ("http://".toList ++ cs) = some cs :=
    afterScheme_eq_some_iff.mpr ⟨"http".toList, ⟨"http", by decide, rfl⟩, rfl⟩
  have hcredentials : afterCredentials false cs = [] := by
    rw [List.eq_nil_iff_forall_not_mem]
    intro rest hrest
    obtain ⟨us, rfl, -⟩ := mem_afterCredentials_iff.mp hrest
    have hat := h '@' (by simp)
    rw [isHostChar_at] at hat
    cases hat
  obtain ⟨htake, hdrop⟩ :=
    span_append h (show ∀ c ∈ [].head?, isHostChar c = false by simp)
  rw [List.append_nil] at htake hdrop
  rw [isUrlChars, hscheme]
  simp [hcredentials, isHostAndRest, htake, hdrop, isPortAndTail, isTail]

lemma isHost_iff_isByteNumeral (h : ∀ c ∈ cs, c.isDigit = true ∨ c = '.') :
    isHost cs = true ↔ ∃ a b c d, IsByteNumeral a ∧ IsByteNumeral b ∧ IsByteNumeral c ∧
      IsByteNumeral d ∧ cs = a ++ '.' :: b ++ '.' :: c ++ '.' :: d := by
  have hletter (c : Char) (hc : c ∈ cs) (hl : Text.isLetter c = true) : False := by
    rcases h c hc with hdigit | rfl
    · rw [Text.isLetter_eq_false_of_isDigit hdigit] at hl
      cases hl
    · exact ne_point_of_isAlphanumeric (isAlphanumeric_of_isLetter hl) rfl
  have hoctet {o : List Char} (ho : IsOctet o) (hmem : ∀ c ∈ o, c ∈ cs) : IsByteNumeral o := by
    refine ho.isByteNumeral fun c hc => (h c (hmem c hc)).resolve_right ?_
    exact ne_point_of_isAlphanumeric (isAlphanumeric_of_isDecimalDigit (ho.isDecimalDigit c hc))
  rw [isHost_iff]
  constructor
  · intro hhost
    cases hhost with
    | address ha hb hc hd =>
      exact ⟨_, _, _, _, hoctet ha fun c hc => by simp [hc], hoctet hb fun c hc => by simp [hc],
        hoctet hc fun c hc => by simp [hc], hoctet hd fun c hc => by simp [hc], rfl⟩
    | @name labels top hne hl hlen htop =>
      obtain ⟨c, hc⟩ := List.exists_mem_of_length_pos (by omega : 0 < top.length)
      exact (hletter c (List.mem_append_right _ hc) (htop c hc)).elim
    | localhost hword =>
      have hne : cs ≠ [] := by
        rintro rfl
        cases hword
      obtain ⟨c, hc⟩ := List.exists_mem_of_ne_nil cs hne
      exact (hletter c hc (hword.isLetter rfl c hc)).elim
  · rintro ⟨a, b, c, d, ha, hb, hc, hd, rfl⟩
    exact .address ha.isOctet hb.isOctet hc.isOctet hd.isOctet

/-- A host of ASCII digits and points is accepted if and only if it is four numbers between points,
each at most 255 and without a superfluous zero in front. -/
theorem isUrl_http_iff (h : String) (hchars : ∀ c ∈ h.toList, c.isDigit = true ∨ c = '.') :
    isUrl ("http://" ++ h) = true ↔ ∃ a b c d, IsByteNumeral a ∧ IsByteNumeral b ∧
      IsByteNumeral c ∧ IsByteNumeral d ∧
      h.toList = a ++ '.' :: b ++ '.' :: c ++ '.' :: d := by
  have hhost : ∀ c ∈ h.toList, isHostChar c = true := by
    intro c hc
    rcases hchars c hc with hdigit | rfl
    · exact isHostChar_of_isAlphanumeric
        (isAlphanumeric_of_isDecimalDigit (Text.isDecimalDigit_of_isDigit hdigit))
    · exact isHostChar_point
  rw [isUrl, String.toList_append, isUrlChars_http hhost, isHost_iff_isByteNumeral hchars]

/-- The zero in the middle stands alone, so it is not superfluous. -/
theorem isUrl_http_iff_loopback : isUrl ("http://" ++ "127.0.0.1") = true := by
  have hchars : ∀ c ∈ "127.0.0.1".toList, c.isDigit = true ∨ c = '.' := by simp
  have hfirst : IsByteNumeral ['1', '2', '7'] := ⟨by simp, by simp, by simp, by decide⟩
  have hzero : IsByteNumeral ['0'] := ⟨by simp, by simp, by simp, by decide⟩
  have hlast : IsByteNumeral ['1'] := ⟨by simp, by simp, by simp, by decide⟩
  exact (isUrl_http_iff "127.0.0.1" hchars).mpr ⟨_, _, _, _, hfirst, hzero, hzero, hlast, rfl⟩

end RequestContract.Url
