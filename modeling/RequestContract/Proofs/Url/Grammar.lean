import Mathlib.Data.Char
import Mathlib.Data.List.Basic
import Mathlib.Data.List.TakeWhile
import RequestContract.Proofs.Url.Characters

/-!
# The grammar of URLs

An absolute URL is a scheme, `://`, perhaps credentials, a host, perhaps a port and perhaps a tail.
`isUrl_iff` says that a text is recognised if and only if it can be split into such parts, in
whatever way: credentials may look like a host and hold further `@`, and a host of four numbers may
look like a name.

Two facts make one pass enough for the rest. The characters of a host are none of those that a port
or a tail starts with, so the host is the longest run of them. And the points of a host separate its
pieces, as no piece holds one.
-/

namespace RequestContract.Url

/-! ### The parts -/

/-- A character without its case. Besides the capital letters only the long s is a letter of one of
the words of a URL in another case. -/
def foldCase (c : Char) : Char := if c = 'ſ' then 's' else c.toLower

/-- A word in any case. -/
def IsWord (word : String) (cs : List Char) : Prop := cs.map foldCase = word.toList

/-- The words for a scheme. -/
def schemeWords : List String := ["https", "http", "ftp"]

/-- One of the three schemes, in any case. -/
def IsScheme (cs : List Char) : Prop := ∃ word ∈ schemeWords, IsWord word cs

/-- Nothing, or at least one character and an `@`, with no blank. -/
inductive IsCredentials : List Char → Prop
  | absent : IsCredentials []
  | present {cs : List Char} (hne : cs ≠ []) (h : ∀ c ∈ cs, Text.isBlank c = false) :
      IsCredentials (cs ++ ['@'])

/-- A number of an address. A digit that is not compared may be one of any script. -/
inductive IsOctet : List Char → Prop
  | ofTwoHundredFifty {c : Char} (hlo : '0' ≤ c) (hhi : c ≤ '5') : IsOctet ['2', '5', c]
  | ofTwoHundred {b c : Char} (hlo : '0' ≤ b) (hhi : b ≤ '4') (hc : Text.isDecimalDigit c = true) :
      IsOctet ['2', b, c]
  | ofHundred {b c : Char} (hb : Text.isDecimalDigit b = true)
      (hc : Text.isDecimalDigit c = true) : IsOctet ['1', b, c]
  | ofTens {b c : Char} (hlo : '1' ≤ b) (hhi : b ≤ '9') (hc : Text.isDecimalDigit c = true) :
      IsOctet [b, c]
  | digit {c : Char} (hc : Text.isDecimalDigit c = true) : IsOctet [c]

/-- A label of a name: it starts and ends with a letter or number, with hyphens only in between. -/
inductive IsLabel : List Char → Prop
  | single {c : Char} (hc : isAlphanumeric c = true) : IsLabel [c]
  | between {a b : Char} {cs : List Char} (ha : isAlphanumeric a = true)
      (h : ∀ c ∈ cs, isAlphanumeric c = true ∨ c = '-') (hb : isAlphanumeric b = true) :
      IsLabel (a :: cs ++ [b])

/-- An address of four numbers, a name of labels before a last one of letters, or `localhost`. -/
inductive IsHost : List Char → Prop
  | address {a b c d : List Char} (ha : IsOctet a) (hb : IsOctet b) (hc : IsOctet c)
      (hd : IsOctet d) : IsHost (a ++ '.' :: b ++ '.' :: c ++ '.' :: d)
  | name {labels : List (List Char)} {top : List Char} (hne : labels ≠ [])
      (hl : ∀ l ∈ labels, IsLabel l) (hlen : 2 ≤ top.length)
      (htop : ∀ c ∈ top, Text.isLetter c = true) : IsHost (labels.flatMap (· ++ ['.']) ++ top)
  | localhost {cs : List Char} (h : IsWord "localhost" cs) : IsHost cs

/-- Nothing, or a colon and two to five digits of any script. -/
inductive IsPort : List Char → Prop
  | absent : IsPort []
  | present {cs : List Char} (hlo : 2 ≤ cs.length) (hhi : cs.length ≤ 5)
      (h : ∀ c ∈ cs, Text.isDecimalDigit c = true) : IsPort (':' :: cs)

/-- Nothing, or a tail without blanks. -/
inductive IsTail : List Char → Prop
  | absent : IsTail []
  | present {c : Char} {cs : List Char} (hc : c = '/' ∨ c = '?' ∨ c = '#')
      (h : ∀ d ∈ cs, Text.isBlank d = false) : IsTail (c :: cs)

/-- The characters of a URL, split into its parts. -/
inductive IsAbsolute : List Char → Prop
  | parts {scheme credentials host port tail : List Char} (hs : IsScheme scheme)
      (hc : IsCredentials credentials) (hh : IsHost host) (hp : IsPort port) (ht : IsTail tail) :
      IsAbsolute (scheme ++ "://".toList ++ credentials ++ host ++ port ++ tail)

variable {cs rest : List Char} {c : Char}

/-! ### Words -/

/-- No capital letter and no long s, as in the words of a URL with their separators. -/
def IsSmall (ws : List Char) : Prop := ∀ w ∈ ws, w.isUpper = false ∧ w ≠ 'ſ'

lemma sameLetter_iff {w : Char} (hu : w.isUpper = false) (hs : w ≠ 'ſ') :
    sameLetter w c = true ↔ foldCase c = w := by
  rw [sameLetter, foldCase]
  split
  · next hc =>
    subst hc
    have hupper : 'ſ' ≠ w.toUpper := by
      intro h
      have := (Text.toLower_eq_iff hu).mpr (.inr h)
      exact hs this.symm
    simp [hs.symm, hupper, eq_comm (a := w)]
  · next hc => simp [Text.toLower_eq_iff hu, hc]

lemma afterWord_eq_some_iff {ws : List Char} (hw : IsSmall ws) :
    afterWord ws cs = some rest ↔ ∃ us, us.map foldCase = ws ∧ cs = us ++ rest := by
  induction ws generalizing cs with
  | nil => simp [afterWord]
  | cons w ws ih =>
    obtain ⟨⟨hu, hs⟩, hws⟩ := List.forall_mem_cons.mp hw
    cases cs with
    | nil => simp [afterWord]
    | cons c cs =>
      rw [afterWord]
      constructor
      · intro h
        split at h
        · next hc =>
          obtain ⟨us, rfl, rfl⟩ := (ih hws).mp h
          exact ⟨c :: us, by rw [List.map_cons, (sameLetter_iff hu hs).mp hc], rfl⟩
        · cases h
      · rintro ⟨us, hus, hcs⟩
        obtain ⟨u, us, rfl, hu', rfl⟩ := List.map_eq_cons_iff.mp hus
        obtain ⟨rfl, rfl⟩ := List.cons.inj hcs
        rw [if_pos ((sameLetter_iff hu hs).mpr hu')]
        exact (ih hws).mpr ⟨us, rfl, rfl⟩

lemma foldCase_eq_iff {w : Char} (hw : w.isAlpha = false) (hs : w ≠ 'ſ') :
    foldCase c = w ↔ c = w := by
  have hword : 's' ≠ w := by
    rintro rfl
    cases hw
  rw [foldCase]
  split
  · next hc => simp [hc, hs.symm, hword]
  · exact Text.toLower_eq_iff_of_isAlpha_eq_false hw

lemma afterWord_eq_none_iff {ws : List Char} (hw : IsSmall ws) :
    afterWord ws cs = none ↔ ¬ ws <+: cs.map foldCase := by
  rw [Option.eq_none_iff_forall_ne_some, ← not_exists, not_iff_not]
  simp only [afterWord_eq_some_iff hw]
  constructor
  · rintro ⟨rest, us, rfl, rfl⟩
    rw [List.map_append]
    exact List.prefix_append _ _
  · rintro ⟨t, ht⟩
    obtain ⟨us, rest, rfl, hus, -⟩ := List.map_eq_append_iff.mp ht.symm
    exact ⟨rest, us, hus, rfl⟩

/-! ### Schemes -/

lemma isWord_append_separator {word : String} : IsWord (word ++ "://") cs ↔
    ∃ scheme, IsWord word scheme ∧ cs = scheme ++ "://".toList := by
  have hcolon (c : Char) : foldCase c = ':' ↔ c = ':' := foldCase_eq_iff rfl (by decide)
  have hslash (c : Char) : foldCase c = '/' ↔ c = '/' := foldCase_eq_iff rfl (by decide)
  have hseparator (us : List Char) : us.map foldCase = "://".toList ↔ us = "://".toList := by
    simp [List.map_eq_cons_iff, hcolon, hslash]
  rw [IsWord, String.toList_append, List.map_eq_append_iff]
  constructor
  · rintro ⟨scheme, us, rfl, hscheme, hus⟩
    exact ⟨scheme, hscheme, by rw [(hseparator us).mp hus]⟩
  · rintro ⟨scheme, hscheme, rfl⟩
    exact ⟨scheme, _, rfl, hscheme, (hseparator _).mpr rfl⟩

lemma isSmall_schemeWord : ∀ word ∈ schemeWords, IsSmall (word ++ "://").toList := by
  simp [schemeWords, IsSmall, or_imp, forall_and]

/-- No scheme with its separator starts with another one. -/
lemma schemeWord_prefix_inj : ∀ v ∈ schemeWords, ∀ w ∈ schemeWords,
    (v ++ "://").toList <+: (w ++ "://").toList → v = w := by
  simp [schemeWords]

lemma afterWord_schemeWord_iff {word : String} (hmem : word ∈ schemeWords) :
    afterWord (word ++ "://").toList cs = some rest ↔
      ∃ scheme, IsWord word scheme ∧ cs = scheme ++ "://".toList ++ rest := by
  rw [afterWord_eq_some_iff (isSmall_schemeWord word hmem)]
  constructor
  · rintro ⟨us, hus, rfl⟩
    obtain ⟨scheme, hscheme, rfl⟩ := isWord_append_separator.mp hus
    exact ⟨scheme, hscheme, rfl⟩
  · rintro ⟨scheme, hscheme, rfl⟩
    exact ⟨_, isWord_append_separator.mpr ⟨scheme, hscheme, rfl⟩, rfl⟩

lemma afterWord_schemeWord_eq_none {v w : String} (hv : v ∈ schemeWords) (hw : w ∈ schemeWords)
    (hne : v ≠ w) (h : afterWord (w ++ "://").toList cs = some rest) :
    afterWord (v ++ "://").toList cs = none := by
  obtain ⟨us, hus, rfl⟩ := (afterWord_eq_some_iff (isSmall_schemeWord w hw)).mp h
  have hwcs : (w ++ "://").toList <+: (us ++ rest).map foldCase := by
    rw [List.map_append, hus]
    exact List.prefix_append _ _
  rw [afterWord_eq_none_iff (isSmall_schemeWord v hv)]
  intro hvcs
  rcases List.prefix_or_prefix_of_prefix hvcs hwcs with hvw | hwv
  · exact hne (schemeWord_prefix_inj v hv w hw hvw)
  · exact hne (schemeWord_prefix_inj w hw v hv hwv).symm

lemma afterScheme_eq_some_iff :
    afterScheme cs = some rest ↔
      ∃ scheme, IsScheme scheme ∧ cs = scheme ++ "://".toList ++ rest := by
  have hdef : afterScheme cs =
      schemeWords.findSome? fun word => afterWord (word ++ "://").toList cs := rfl
  rw [hdef]
  constructor
  · intro h
    obtain ⟨word, hmem, hrest⟩ := List.exists_of_findSome?_eq_some h
    obtain ⟨scheme, hscheme, rfl⟩ := (afterWord_schemeWord_iff hmem).mp hrest
    exact ⟨scheme, ⟨word, hmem, hscheme⟩, rfl⟩
  · rintro ⟨scheme, ⟨word, hmem, hscheme⟩, hcs⟩
    have hrest := (afterWord_schemeWord_iff hmem).mpr ⟨scheme, hscheme, hcs⟩
    obtain ⟨before, after, hwords, hnot⟩ := List.eq_append_cons_of_mem hmem
    refine List.findSome?_eq_some_iff.mpr ⟨before, word, after, hwords, hrest, ?_⟩
    intro v hv
    have hv' : v ∈ schemeWords := by
      rw [hwords]
      exact List.mem_append_left _ hv
    exact afterWord_schemeWord_eq_none hv' hmem (ne_of_mem_of_not_mem hv hnot) hrest

/-! ### Credentials -/

/-- An `@` ends the credentials here, or the character is one of theirs. -/
lemma mem_afterCredentials_cons {started : Bool} : rest ∈ afterCredentials started (c :: cs) ↔
    (started = true ∧ c = '@' ∧ cs = rest) ∨
      (Text.isBlank c = false ∧ rest ∈ afterCredentials true cs) := by
  have hat : Text.isBlank '@' = false := by decide
  rw [afterCredentials]
  split
  · next hc =>
    have hne : c ≠ '@' := by
      rintro rfl
      rw [hat] at hc
      cases hc
    simp [hc, hne]
  · next hc =>
    split
    · next hends =>
      simp only [Bool.and_eq_true, beq_iff_eq] at hends
      simp [hends, hat, eq_comm (a := rest)]
    · next hends =>
      have hends' : ¬ (started = true ∧ c = '@' ∧ cs = rest) := by
        rintro ⟨rfl, rfl, -⟩
        exact hends rfl
      simp [hc, hends']

lemma mem_afterCredentials_iff {started : Bool} : rest ∈ afterCredentials started cs ↔
    ∃ us, cs = us ++ '@' :: rest ∧ (started = true ∨ us ≠ []) ∧
      ∀ c ∈ us, Text.isBlank c = false := by
  induction cs generalizing started with
  | nil => simp [afterCredentials]
  | cons c cs ih =>
    rw [mem_afterCredentials_cons, ih]
    constructor
    · rintro (⟨hstarted, rfl, rfl⟩ | ⟨hc, us, rfl, -, h⟩)
      · exact ⟨[], rfl, .inl hstarted, by simp⟩
      · exact ⟨c :: us, rfl, .inr (by simp), List.forall_mem_cons.mpr ⟨hc, h⟩⟩
    · rintro ⟨us, hus, hne, h⟩
      cases us with
      | nil => exact .inl ⟨by simpa using hne, List.cons.inj hus⟩
      | cons u us =>
        obtain ⟨rfl, hcs⟩ := List.cons.inj hus
        obtain ⟨hu, h⟩ := List.forall_mem_cons.mp h
        exact .inr ⟨hu, us, hcs, .inl rfl, h⟩

lemma mem_cons_afterCredentials_iff {whole : List Char} :
    rest ∈ whole :: afterCredentials false whole ↔
      ∃ credentials, IsCredentials credentials ∧ whole = credentials ++ rest := by
  rw [List.mem_cons, mem_afterCredentials_iff]
  constructor
  · rintro (rfl | ⟨us, rfl, hne, h⟩)
    · exact ⟨[], .absent, rfl⟩
    · exact ⟨us ++ ['@'], .present (by simpa using hne) h, by simp⟩
  · rintro ⟨_, hc, rfl⟩
    cases hc with
    | absent => exact .inl rfl
    | present hne h => exact .inr ⟨_, by simp, .inr hne, h⟩

/-! ### Hosts -/

lemma splitPoints_eq_splitOn : splitPoints cs = cs.splitOn '.' := by
  induction cs with
  | nil => rfl
  | cons c cs ih =>
    rw [splitPoints, ih, List.splitOn_cons_eq_if_modifyHead]
    simp only [beq_iff_eq]
    split
    · rfl
    · cases h : cs.splitOn '.' with
      | nil => exact absurd h (List.splitOn_ne_nil _ _)
      | cons p ps => rfl

/-- The pieces of a text are those that it joins, if none of them holds a point. -/
lemma splitPoints_eq_of_intercalate {pieces : List (List Char)} (hne : pieces ≠ [])
    (h : ∀ p ∈ pieces, '.' ∉ p) (hcs : ['.'].intercalate pieces = cs) : splitPoints cs = pieces := by
  rw [splitPoints_eq_splitOn, ← hcs]
  exact List.splitOn_intercalate '.' h hne

lemma intercalate_splitPoints (cs : List Char) : ['.'].intercalate (splitPoints cs) = cs := by
  rw [splitPoints_eq_splitOn, List.intercalate_splitOn]

lemma isOctet_iff : isOctet cs = true ↔ IsOctet cs := by
  constructor
  · intro h
    unfold isOctet at h
    split at h
    · exact .digit h
    · simp only [Bool.and_eq_true, decide_eq_true_eq] at h
      exact .ofTens h.1.1 h.1.2 h.2
    · simp only [Bool.or_eq_true, Bool.and_eq_true, decide_eq_true_eq, beq_iff_eq] at h
      rcases h with (⟨⟨⟨rfl, rfl⟩, hlo⟩, hhi⟩ | ⟨⟨⟨rfl, hlo⟩, hhi⟩, hc⟩) | ⟨⟨rfl, hb⟩, hc⟩
      · exact .ofTwoHundredFifty hlo hhi
      · exact .ofTwoHundred hlo hhi hc
      · exact .ofHundred hb hc
    · cases h
  · intro h
    cases h <;> simp [isOctet, *]

lemma isLabel_iff : isLabel cs = true ↔ IsLabel cs := by
  have hbetween (a b : Char) (cs : List Char) : isLabel (a :: cs ++ [b]) =
      (isAlphanumeric a && isAlphanumeric b && cs.all fun c => isAlphanumeric c || c == '-') := by
    rw [isLabel, List.getLast?_concat, List.cons_append, List.head?_cons]
    grind
  constructor
  · intro h
    cases cs with
    | nil => cases h
    | cons a cs =>
      rcases List.eq_nil_or_concat' cs with rfl | ⟨cs, b, rfl⟩
      · exact .single (by simp_all [isLabel])
      · rw [← List.cons_append, hbetween] at h
        simp only [Bool.and_eq_true, List.all_eq_true, Bool.or_eq_true, beq_iff_eq] at h
        exact .between h.1.1 h.2 h.1.2
  · intro h
    cases h with
    | single hc => simp [isLabel, hc]
    | between ha h hb =>
      rw [hbetween]
      simpa [ha, hb] using h

lemma isTopLabel_iff :
    isTopLabel cs = true ↔ 2 ≤ cs.length ∧ ∀ c ∈ cs, Text.isLetter c = true := by
  simp [isTopLabel]

/-! ### The characters of a host -/

lemma IsOctet.isDecimalDigit (h : IsOctet cs) : ∀ c ∈ cs, Text.isDecimalDigit c = true := by
  have hone : Text.isDecimalDigit '1' = true := by decide
  have htwo : Text.isDecimalDigit '2' = true := by decide
  have hfive : Text.isDecimalDigit '5' = true := by decide
  have hdigit {c : Char} (hlo : '0' ≤ c) (hhi : c ≤ '9') : Text.isDecimalDigit c = true :=
    Text.isDecimalDigit_of_isDigit (Char.isDigit_iff_toNat.mpr ⟨hlo, hhi⟩)
  cases h with
  | ofTwoHundredFifty hlo hhi => simp [htwo, hfive, hdigit hlo (hhi.trans (by decide))]
  | ofTwoHundred hlo hhi hc => simp [htwo, hdigit hlo (hhi.trans (by decide)), hc]
  | ofHundred hb hc => simp [hone, hb, hc]
  | ofTens hlo hhi hc => simp [hdigit (le_trans (by decide) hlo) hhi, hc]
  | digit hc => simp [hc]

lemma IsLabel.isAlphanumeric_or (h : IsLabel cs) :
    ∀ c ∈ cs, isAlphanumeric c = true ∨ c = '-' := by
  cases h with
  | single hc => simp [hc]
  | between ha h hb =>
    intro c hc
    simp only [List.cons_append, List.mem_cons, List.mem_append, List.not_mem_nil, or_false] at hc
    rcases hc with rfl | hc | rfl
    · exact .inl ha
    · exact h c hc
    · exact .inl hb

lemma not_mem_of_forall_isAlphanumeric_or
    (h : ∀ c ∈ cs, isAlphanumeric c = true ∨ c = '-') : '.' ∉ cs := by
  intro hmem
  rcases h '.' hmem with hpoint | hpoint
  · exact ne_point_of_isAlphanumeric hpoint rfl
  · cases hpoint

lemma isAddress_iff : isAddress cs = true ↔ ∃ a b c d, IsOctet a ∧ IsOctet b ∧ IsOctet c ∧
    IsOctet d ∧ cs = a ++ '.' :: b ++ '.' :: c ++ '.' :: d := by
  rw [isAddress]
  simp only [Bool.and_eq_true, beq_iff_eq, List.all_eq_true, isOctet_iff]
  constructor
  · rintro ⟨hlength, hoctets⟩
    obtain ⟨a, b, c, d, hparts⟩ := List.length_eq_four.mp hlength
    have hcs := intercalate_splitPoints cs
    rw [hparts] at hoctets hcs
    simp only [List.forall_mem_cons] at hoctets
    obtain ⟨ha, hb, hc, hd, -⟩ := hoctets
    exact ⟨a, b, c, d, ha, hb, hc, hd, by simp [← hcs, List.intercalate]⟩
  · rintro ⟨a, b, c, d, ha, hb, hc, hd, rfl⟩
    have hoctets : ∀ p ∈ [a, b, c, d], IsOctet p := by simp [ha, hb, hc, hd]
    have hparts : splitPoints (a ++ '.' :: b ++ '.' :: c ++ '.' :: d) = [a, b, c, d] := by
      refine splitPoints_eq_of_intercalate (by simp) ?_ (by simp [List.intercalate])
      intro p hp
      exact not_mem_of_forall_isAlphanumeric_or fun c hc =>
        .inl (isAlphanumeric_of_isDecimalDigit ((hoctets p hp).isDecimalDigit c hc))
    rw [hparts]
    exact ⟨rfl, hoctets⟩

lemma intercalate_concat (labels : List (List Char)) (top : List Char) :
    ['.'].intercalate (labels ++ [top]) = labels.flatMap (· ++ ['.']) ++ top := by
  induction labels with
  | nil => simp
  | cons l labels ih =>
    rw [List.cons_append, List.intercalate_cons_of_ne_nil (by simp), ih]
    simp

lemma isHostName_iff : isHostName cs = true ↔ ∃ labels top, labels ≠ [] ∧
    (∀ l ∈ labels, IsLabel l) ∧ isTopLabel top = true ∧
    cs = labels.flatMap (· ++ ['.']) ++ top := by
  rw [isHostName]
  simp only [Bool.and_eq_true, decide_eq_true_eq, List.all_eq_true, isLabel_iff]
  constructor
  · rintro ⟨⟨hlength, hlabels⟩, htop⟩
    obtain hparts | ⟨labels, top, hparts⟩ := List.eq_nil_or_concat' (splitPoints cs)
    · rw [hparts] at hlength
      simp at hlength
    · have hcs := intercalate_splitPoints cs
      rw [hparts] at hlength hlabels htop hcs
      refine ⟨labels, top, ?_, by simpa using hlabels, by simpa using htop, ?_⟩
      · rintro rfl
        simp at hlength
      · rw [← intercalate_concat, hcs]
  · rintro ⟨labels, top, hne, hlabels, htop, rfl⟩
    have hparts : splitPoints (labels.flatMap (· ++ ['.']) ++ top) = labels ++ [top] := by
      refine splitPoints_eq_of_intercalate (by simp) ?_ (intercalate_concat labels top)
      intro p hp
      rcases List.mem_append.mp hp with hp | hp
      · exact not_mem_of_forall_isAlphanumeric_or (hlabels p hp).isAlphanumeric_or
      · rw [List.mem_singleton.mp hp]
        exact not_mem_of_forall_isAlphanumeric_or fun c hc =>
          .inl (isAlphanumeric_of_isLetter ((isTopLabel_iff.mp htop).2 c hc))
    rw [hparts]
    refine ⟨⟨?_, by simpa using hlabels⟩, by simpa using htop⟩
    rw [List.length_append, List.length_singleton]
    exact Nat.succ_le_succ (List.length_pos_of_ne_nil hne)

lemma afterWord_localhost_iff :
    (afterWord "localhost".toList cs == some []) = true ↔ IsWord "localhost" cs := by
  rw [beq_iff_eq, afterWord_eq_some_iff (by simp [IsSmall])]
  simp [IsWord]

lemma isHost_iff : isHost cs = true ↔ IsHost cs := by
  rw [isHost, Bool.or_eq_true, Bool.or_eq_true, isAddress_iff, isHostName_iff,
    afterWord_localhost_iff]
  constructor
  · rintro ((⟨a, b, c, d, ha, hb, hc, hd, rfl⟩ | ⟨labels, top, hne, hl, htop, rfl⟩) | h)
    · exact .address ha hb hc hd
    · obtain ⟨hlen, hletters⟩ := isTopLabel_iff.mp htop
      exact .name hne hl hlen hletters
    · exact .localhost h
  · intro h
    cases h with
    | address ha hb hc hd => exact .inl (.inl ⟨_, _, _, _, ha, hb, hc, hd, rfl⟩)
    | name hne hl hlen htop =>
      exact .inl (.inr ⟨_, _, hne, hl, isTopLabel_iff.mpr ⟨hlen, htop⟩, rfl⟩)
    | localhost h => exact .inr h

lemma IsWord.isLetter {word : String} (hword : word.toList.all Char.isAlpha = true)
    (h : IsWord word cs) : ∀ c ∈ cs, Text.isLetter c = true := by
  intro c hc
  have hmem : foldCase c ∈ word.toList := by
    rw [← show cs.map foldCase = word.toList from h]
    exact List.mem_map_of_mem hc
  have halpha := List.all_eq_true.mp hword _ hmem
  rw [foldCase] at halpha
  split at halpha
  · next hs =>
    rw [hs]
    exact Text.isLetter_longS
  · rw [← Text.isLetter_toLower]
    exact Text.isLetter_of_isAlpha halpha

lemma IsHost.isHostChar (h : IsHost cs) : ∀ c ∈ cs, isHostChar c = true := by
  have hoctet {o : List Char} (ho : IsOctet o) : ∀ c ∈ o, Url.isHostChar c = true :=
    fun c hc => isHostChar_of_isAlphanumeric
      (isAlphanumeric_of_isDecimalDigit (ho.isDecimalDigit c hc))
  cases h with
  | address ha hb hc hd =>
    simp only [List.forall_mem_append, List.forall_mem_cons, isHostChar_point, true_and]
    exact ⟨⟨⟨hoctet ha, hoctet hb⟩, hoctet hc⟩, hoctet hd⟩
  | name hne hl hlen htop =>
    intro c hc
    simp only [List.mem_append, List.mem_flatMap, List.mem_singleton] at hc
    rcases hc with ⟨l, hmem, hc | rfl⟩ | hc
    · rcases (hl l hmem).isAlphanumeric_or c hc with hc | rfl
      · exact isHostChar_of_isAlphanumeric hc
      · exact isHostChar_hyphen
    · exact isHostChar_point
    · exact isHostChar_of_isAlphanumeric (isAlphanumeric_of_isLetter (htop c hc))
  | localhost h =>
    intro c hc
    exact isHostChar_of_isAlphanumeric (isAlphanumeric_of_isLetter (h.isLetter rfl c hc))

/-! ### Ports and tails -/

lemma isTail_iff : isTail cs = true ↔ IsTail cs := by
  constructor
  · intro h
    cases cs with
    | nil => exact .absent
    | cons c cs =>
      simp only [isTail, Bool.and_eq_true, Bool.or_eq_true, beq_iff_eq, List.all_eq_true,
        Bool.not_eq_true', or_assoc] at h
      exact .present h.1 h.2
  · intro h
    cases h with
    | absent => rfl
    | present hc h => simpa [isTail, or_assoc] using ⟨hc, h⟩

/-- If what follows characters of a class does not start with one, they are the longest run. -/
lemma span_append {p : Char → Bool} {us : List Char} (hus : ∀ c ∈ us, p c = true)
    (hrest : ∀ c ∈ rest.head?, p c = false) :
    (us ++ rest).takeWhile p = us ∧ (us ++ rest).dropWhile p = rest := by
  rw [List.takeWhile_append_of_pos hus, List.dropWhile_append_of_pos hus]
  cases rest with
  | nil => simp
  | cons c rest => simp [hrest c rfl]

lemma IsTail.isHostChar_head? (h : IsTail cs) : ∀ c ∈ cs.head?, isHostChar c = false := by
  cases h with
  | absent => simp
  | present hc h =>
    intro c hmem
    obtain rfl := Option.some.inj hmem
    exact isHostChar_separator (.inr hc)

lemma IsPort.isHostChar_head? {tail : List Char} (h : IsPort cs) (ht : IsTail tail) :
    ∀ c ∈ (cs ++ tail).head?, isHostChar c = false := by
  cases h with
  | absent => exact ht.isHostChar_head?
  | present hlo hhi h =>
    intro c hmem
    obtain rfl := Option.some.inj hmem
    exact isHostChar_separator (.inl rfl)

lemma isPortAndTail_of_isTail (h : IsTail cs) : isPortAndTail cs = true := by
  have htail := isTail_iff.mpr h
  cases h with
  | absent => rfl
  | present hc h =>
    -- no tail starts with the colon of a port
    rcases hc with rfl | rfl | rfl <;> exact htail

lemma isPortAndTail_iff : isPortAndTail cs = true ↔
    ∃ port tail, IsPort port ∧ IsTail tail ∧ cs = port ++ tail := by
  constructor
  · intro h
    unfold isPortAndTail at h
    split at h
    · simp only [Bool.and_eq_true, decide_eq_true_eq] at h
      refine ⟨_, _, .present h.1.1 h.1.2 fun c hc => List.mem_takeWhile_imp hc,
        isTail_iff.mp h.2, ?_⟩
      rw [List.cons_append, List.takeWhile_append_dropWhile]
    · exact ⟨[], _, .absent, isTail_iff.mp h, rfl⟩
  · rintro ⟨port, tail, hp, ht, rfl⟩
    cases hp with
    | absent => exact isPortAndTail_of_isTail ht
    | present hlo hhi h =>
      obtain ⟨htake, hdrop⟩ := span_append h fun c hc =>
        isDecimalDigit_eq_false_of_isHostChar (ht.isHostChar_head? c hc)
      simp [isPortAndTail, htake, hdrop, hlo, hhi, isTail_iff.mpr ht]

lemma isHostAndRest_iff : isHostAndRest cs = true ↔
    ∃ host port tail, IsHost host ∧ IsPort port ∧ IsTail tail ∧ cs = host ++ port ++ tail := by
  rw [isHostAndRest, Bool.and_eq_true, isHost_iff, isPortAndTail_iff]
  constructor
  · rintro ⟨hh, port, tail, hp, ht, hrest⟩
    refine ⟨_, port, tail, hh, hp, ht, ?_⟩
    rw [List.append_assoc, ← hrest, List.takeWhile_append_dropWhile]
  · rintro ⟨host, port, tail, hh, hp, ht, rfl⟩
    obtain ⟨htake, hdrop⟩ := span_append hh.isHostChar (hp.isHostChar_head? ht)
    rw [List.append_assoc, htake, hdrop]
    exact ⟨hh, port, tail, hp, ht, rfl⟩

/-! ### The whole -/

lemma isUrlChars_eq_true_iff : isUrlChars cs = true ↔ ∃ rest, afterScheme cs = some rest ∧
    ∃ t ∈ rest :: afterCredentials false rest, isHostAndRest t = true := by
  rw [isUrlChars]
  split
  · next h => simp [h]
  · next h => simp only [h, List.any_eq_true, Option.some.injEq, exists_eq_left']

lemma isUrlChars_iff : isUrlChars cs = true ↔ IsAbsolute cs := by
  rw [isUrlChars_eq_true_iff]
  constructor
  · rintro ⟨rest, hrest, t, hmem, ht⟩
    obtain ⟨scheme, hs, rfl⟩ := afterScheme_eq_some_iff.mp hrest
    obtain ⟨credentials, hc, rfl⟩ := mem_cons_afterCredentials_iff.mp hmem
    obtain ⟨host, port, tail, hh, hp, htail, rfl⟩ := isHostAndRest_iff.mp ht
    simpa only [List.append_assoc] using IsAbsolute.parts hs hc hh hp htail
  · rintro ⟨hs, hc, hh, hp, ht⟩
    refine ⟨_, afterScheme_eq_some_iff.mpr ⟨_, hs, ?_⟩, _,
      mem_cons_afterCredentials_iff.mpr ⟨_, hc, rfl⟩,
      isHostAndRest_iff.mpr ⟨_, _, _, hh, hp, ht, rfl⟩⟩
    simp only [List.append_assoc]

/-- A text is recognised if and only if it is a scheme, `://`, perhaps credentials, a host, perhaps
a port and perhaps a tail, for some way to split it. -/
theorem isUrl_iff (text : String) : isUrl text = true ↔ IsAbsolute text.toList :=
  isUrlChars_iff

end RequestContract.Url
