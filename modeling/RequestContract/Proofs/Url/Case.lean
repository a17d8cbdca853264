import Mathlib.Data.List.Forall2
import RequestContract.Proofs.Url.Grammar

/-!
# Case and longer tails

Two changes of a text leave a URL a URL. Case does not matter, for URLs and for other texts: each
part of the reader gives the same answer once the letters of its text are made small. And a slash
with more characters, none of them blank, may be put behind a URL: they become its tail, or the end
of its tail.
-/

namespace RequestContract.Url

variable {cs : List Char} {c : Char}

/-! ### Characters and words -/

/-- A text with each letter in either case and all other characters kept. -/
def CaseVariant (s s' : String) : Prop :=
  List.Forall₂ (fun c d => d = c ∨ d = c.toLower ∨ d = c.toUpper) s.toList s'.toList

lemma CaseVariant.map_toLower_eq {s s' : String} (h : CaseVariant s s') :
    s'.toList.map Char.toLower = s.toList.map Char.toLower := by
  rw [← List.forall₂_eq_eq_eq, List.forall₂_map_left_iff, List.forall₂_map_right_iff]
  exact h.flip.imp fun _ _ => Text.toLower_eq_toLower

lemma toLower_beq {w : Char} (hw : w.isAlpha = false) : (c.toLower == w) = (c == w) := by
  rw [Bool.eq_iff_iff, beq_iff_eq, beq_iff_eq, Text.toLower_eq_iff_of_isAlpha_eq_false hw]

lemma foldCase_toLower : foldCase c.toLower = foldCase c := by
  rw [foldCase, foldCase, Text.toLower_eq_toLower (.inr (.inl rfl))]
  simp only [Text.toLower_eq_iff_of_isAlpha_eq_false (show 'ſ'.isAlpha = false from rfl)]

lemma sameLetter_toLower {w : Char} (hu : w.isUpper = false) (hs : w ≠ 'ſ') :
    sameLetter w c.toLower = sameLetter w c := by
  rw [Bool.eq_iff_iff, sameLetter_iff hu hs, sameLetter_iff hu hs, foldCase_toLower]

lemma afterWord_map_toLower {ws : List Char} (hw : IsSmall ws) :
    afterWord ws (cs.map Char.toLower) = (afterWord ws cs).map (List.map Char.toLower) := by
  induction ws generalizing cs with
  | nil => simp [afterWord]
  | cons w ws ih =>
    obtain ⟨⟨hu, hs⟩, hws⟩ := List.forall_mem_cons.mp hw
    cases cs with
    | nil => rfl
    | cons c cs =>
      rw [List.map_cons, afterWord, afterWord, sameLetter_toLower hu hs, ih hws]
      split <;> rfl

lemma findSome?_afterWord_map_toLower {words : List String}
    (hwords : ∀ w ∈ words, IsSmall w.toList) :
    words.findSome? (fun w => afterWord w.toList (cs.map Char.toLower)) =
      (words.findSome? fun w => afterWord w.toList cs).map (List.map Char.toLower) := by
  rw [List.map_findSome?]
  induction words with
  | nil => rfl
  | cons w words ih =>
    obtain ⟨hw, hwords⟩ := List.forall_mem_cons.mp hwords
    rw [List.findSome?_cons, List.findSome?_cons, ih hwords, afterWord_map_toLower hw]
    rfl

lemma afterScheme_map_toLower :
    afterScheme (cs.map Char.toLower) = (afterScheme cs).map (List.map Char.toLower) :=
  findSome?_afterWord_map_toLower (by simp [IsSmall, or_imp, forall_and])

lemma afterCredentials_map_toLower (started : Bool) :
    afterCredentials started (cs.map Char.toLower) =
      (afterCredentials started cs).map (List.map Char.toLower) := by
  induction cs generalizing started with
  | nil => rfl
  | cons c cs ih =>
    rw [List.map_cons, afterCredentials, afterCredentials, Text.isBlank_toLower,
      toLower_beq (by rfl), ih]
    split
    · rfl
    · split <;> simp

/-! ### Hosts -/

lemma splitPoints_map_toLower :
    splitPoints (cs.map Char.toLower) = (splitPoints cs).map (List.map Char.toLower) := by
  induction cs with
  | nil => rfl
  | cons c cs ih =>
    rw [List.map_cons, splitPoints, splitPoints, ih]
    simp only [Text.toLower_eq_iff_of_isAlpha_eq_false (show '.'.isAlpha = false from rfl)]
    split
    · rfl
    · cases splitPoints cs <;> rfl

lemma isAlphanumeric_toLower : isAlphanumeric c.toLower = isAlphanumeric c := by
  simp [isAlphanumeric]

lemma isHostChar_toLower : isHostChar c.toLower = isHostChar c := by
  rw [isHostChar, isHostChar, isAlphanumeric_toLower, toLower_beq rfl, toLower_beq rfl]

lemma map_toLower_of_isDecimalDigit (h : ∀ c ∈ cs, Text.isDecimalDigit c = true) :
    cs.map Char.toLower = cs := by
  have hid : ∀ c ∈ cs, c.toLower = id c := by
    intro c hc
    refine Text.toLower_eq_self (Bool.eq_false_iff.mpr fun halpha => ?_)
    have := Text.isDecimalDigit_eq_false_of_isAlpha halpha
    rw [h c hc] at this
    cases this
  rw [List.map_congr_left hid, List.map_id]

lemma isOctet_map_toLower : isOctet (cs.map Char.toLower) = isOctet cs := by
  rw [Bool.eq_iff_iff, isOctet_iff, isOctet_iff]
  constructor
  · intro h
    have hdigits : ∀ c ∈ cs, Text.isDecimalDigit c = true := fun c hc => by
      simpa using h.isDecimalDigit c.toLower (List.mem_map_of_mem hc)
    rwa [map_toLower_of_isDecimalDigit hdigits] at h
  · intro h
    rwa [map_toLower_of_isDecimalDigit h.isDecimalDigit]

lemma isAddress_map_toLower : isAddress (cs.map Char.toLower) = isAddress cs := by
  simp only [isAddress, splitPoints_map_toLower, List.length_map, List.all_map,
    Function.comp_def, isOctet_map_toLower]

lemma isLabel_map_toLower : isLabel (cs.map Char.toLower) = isLabel cs := by
  rw [isLabel, isLabel, List.head?_map, List.getLast?_map]
  simp only [List.all_map, Function.comp_def, isAlphanumeric_toLower, toLower_beq (w := '-') rfl]
  cases cs.head? <;> cases cs.getLast? <;> simp [isAlphanumeric_toLower]

lemma isTopLabel_map_toLower : isTopLabel (cs.map Char.toLower) = isTopLabel cs := by
  simp only [isTopLabel, List.length_map, List.all_map, Function.comp_def, Text.isLetter_toLower]

lemma isHostName_map_toLower : isHostName (cs.map Char.toLower) = isHostName cs := by
  simp only [isHostName, splitPoints_map_toLower, List.length_map, ← List.map_dropLast,
    List.all_map, List.getLast?_map, Option.map_map, Function.comp_def, isLabel_map_toLower,
    isTopLabel_map_toLower]

lemma isHost_map_toLower : isHost (cs.map Char.toLower) = isHost cs := by
  rw [isHost, isHost, isAddress_map_toLower, isHostName_map_toLower,
    afterWord_map_toLower (by simp [IsSmall, or_imp, forall_and])]
  cases afterWord "localhost".toList cs with
  | none => rfl
  | some rest => cases rest <;> simp

/-! ### What follows a host -/

lemma isTail_map_toLower : isTail (cs.map Char.toLower) = isTail cs := by
  cases cs with
  | nil => rfl
  | cons c cs =>
    simp only [List.map_cons, isTail, List.all_map, Function.comp_def, Text.isBlank_toLower,
      toLower_beq (show '/'.isAlpha = false from rfl),
      toLower_beq (show '?'.isAlpha = false from rfl),
      toLower_beq (show '#'.isAlpha = false from rfl)]

lemma isPortAndTail_cons_of_ne (h : c ≠ ':') : isPortAndTail (c :: cs) = isTail (c :: cs) := by
  unfold isPortAndTail
  split
  · next heq => exact absurd (List.cons.inj heq).1 h
  · rfl

lemma isPortAndTail_map_toLower : isPortAndTail (cs.map Char.toLower) = isPortAndTail cs := by
  have hclass : Text.isDecimalDigit ∘ Char.toLower = Text.isDecimalDigit :=
    funext Text.isDecimalDigit_toLower
  cases cs with
  | nil => rfl
  | cons c cs =>
    by_cases hc : c = ':'
    · subst hc
      rw [List.map_cons, show ':'.toLower = ':' from rfl, isPortAndTail, isPortAndTail,
        List.takeWhile_map, List.dropWhile_map, hclass, isTail_map_toLower, List.length_map]
    · have hc' : c.toLower ≠ ':' := mt (Text.toLower_eq_iff_of_isAlpha_eq_false rfl).mp hc
      rw [List.map_cons, isPortAndTail_cons_of_ne hc, isPortAndTail_cons_of_ne hc',
        ← List.map_cons, isTail_map_toLower]

lemma isHostAndRest_map_toLower : isHostAndRest (cs.map Char.toLower) = isHostAndRest cs := by
  have hclass : isHostChar ∘ Char.toLower = isHostChar := funext fun _ => isHostChar_toLower
  rw [isHostAndRest, isHostAndRest, List.takeWhile_map, List.dropWhile_map, hclass,
    isHost_map_toLower, isPortAndTail_map_toLower]

lemma isUrlChars_map_toLower (cs : List Char) :
    isUrlChars (cs.map Char.toLower) = isUrlChars cs := by
  rw [isUrlChars, isUrlChars, afterScheme_map_toLower]
  cases afterScheme cs with
  | none => rfl
  | some rest =>
    simp only [Option.map_some, afterCredentials_map_toLower, ← List.map_cons, List.any_map,
      Function.comp_def, isHostAndRest_map_toLower]

/-! ### Longer tails -/

lemma IsTail.append_slash {w : List Char} (h : IsTail cs)
    (hw : ∀ c ∈ w, Text.isBlank c = false) : IsTail (cs ++ '/' :: w) := by
  cases h with
  | absent => exact .present (.inl rfl) hw
  | present hc h =>
    refine .present hc (List.forall_mem_append.mpr ⟨h, ?_⟩)
    exact List.forall_mem_cons.mpr ⟨by decide, hw⟩

lemma IsAbsolute.append_slash {w : List Char} (h : IsAbsolute cs)
    (hw : ∀ c ∈ w, Text.isBlank c = false) : IsAbsolute (cs ++ '/' :: w) := by
  obtain ⟨hs, hc, hh, hp, ht⟩ := h
  rw [List.append_assoc _ _ ('/' :: w)]
  exact .parts hs hc hh hp (ht.append_slash hw)

/-- Texts that differ in case only are both URLs or neither, and a URL with a slash and characters
without a blank behind it is a URL. -/
theorem isUrl_caseVariant_and_append_slash :
    (∀ s s', CaseVariant s s' → isUrl s = isUrl s') ∧
      ∀ s w, isUrl s = true → (∀ c ∈ w.toList, Text.isBlank c = false) →
        isUrl (s ++ "/" ++ w) = true := by
  constructor
  · intro s s' h
    rw [isUrl, isUrl, ← isUrlChars_map_toLower s.toList, ← isUrlChars_map_toLower s'.toList,
      h.map_toLower_eq]
  · intro s w hs hw
    have h := (isUrlChars_iff.mp hs).append_slash hw
    rw [isUrl, isUrlChars_iff]
    simpa [String.toList_append] using h

set_option maxRecDepth 8000 in
/-- A URL of small letters is one with capital letters too, and with a path, a query and a
fragment. -/
theorem isUrl_caseVariant_and_append_slash_localhost :
    isUrl "HTTP://LocalHost" = true ∧ isUrl ("http://localhost" ++ "/" ++ "a?b#c") = true := by
  have hlocal : isUrl "http://localhost" = true := by decide
  have hblank : ∀ c ∈ "a?b#c".toList, Text.isBlank c = false := by
    simp [Text.isBlank, Text.inIntervals, Text.blankIntervals]
  obtain ⟨hcase, htail⟩ := isUrl_caseVariant_and_append_slash
  refine ⟨?_, htail _ _ hlocal hblank⟩
  rw [← hcase "http://localhost" "HTTP://LocalHost" (by simp [CaseVariant])]
  exact hlocal

end RequestContract.Url
