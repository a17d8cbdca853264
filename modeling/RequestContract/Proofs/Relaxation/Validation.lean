import RequestContract.Proofs.Relaxation.Declaration
import RequestContract.Proofs.Validator

/-!
# Requests that stay valid

A value that conforms still conforms when less is asked, of its own field and of all types at once.
So does an object of a category, since a relaxed type has the same keys. `isValid_of_relaxation`
says that after any number of changes by which a declaration is relaxed it still resolves, and that
each request that was valid before is valid afterwards.
-/

namespace RequestContract

variable {s s' : Schema} {o : Options} {request : Request}

/-! ### Constraints -/

namespace Field.RelaxesTo

variable {f g : Field}

lemma admitsString (h : f.RelaxesTo g) {t : String} (ht : f.AdmitsString t) :
    g.AdmitsString t where
  length n hn := ht.length n (h.length n hn)
  start start hs := ht.start start (h.startsWith start hs)
  url hu := ht.url (h.isUrl hu)

lemma admitsNumber (h : f.RelaxesTo g) {n : Json.Number} (hn : f.AdmitsNumber n) :
    g.AdmitsNumber n := by
  intro r' hr'
  obtain ⟨r, hr, hw⟩ := h.range r' hr'
  obtain ⟨hmin, hmax⟩ := hn r hr
  exact ⟨hw.min_le hmin, hw.le_max hmax⟩

lemma admitsSize (h : f.RelaxesTo g) {depth size : Nat} (hn : f.AdmitsSize depth size) :
    g.AdmitsSize depth size := by
  intro n hg
  rcases h.arrayLengths with heq | heq
  · exact hn n (heq ▸ hg)
  · rw [heq] at hg
    cases hg

/-- Instead of the type of the first field the second may also have no more than `any`. -/
lemma conforms_type (h : f.RelaxesTo g) {v : Json} (hv : s.Conforms o g 0 f.type v) :
    s.Conforms o g 0 g.type v := by
  rcases h.type with heq | heq
  · rwa [heq]
  · rw [heq]
    exact .any g 0 v

end Field.RelaxesTo

/-! ### Objects and values -/

lemma RecordType.Covers.mono {r r' : RecordType} {ms : List (String × Json)} (h : r.Covers ms)
    (hr : r.RelaxesTo r') : r'.Covers ms := by
  constructor
  · intro k g hg hq
    obtain ⟨f, hf, hfg⟩ := exists_left_of_rel (hr k) hg
    exact h.required k f hf (hfg.required hq)
  · intro k hk
    obtain ⟨f, hf⟩ := OrderedMap.mem_keys_iff.mp (h.declared k hk)
    obtain ⟨g, hg, -⟩ := exists_right_of_rel (hr k) hf
    exact OrderedMap.mem_keys_iff.mpr ⟨g, hg⟩

namespace Schema

lemma Conforms.mono {f : Field} {d : Nat} {t : FieldType} {v : Json}
    (h : s.Conforms o f d t v) (hs : s.RelaxesTo s') {g : Field} (hf : f.RelaxesTo g) :
    s'.Conforms o g d t v := by
  induction h generalizing g with
  | any f d v => exact .any g d v
  | string h => exact .string fun ho => hf.admitsString (h ho)
  | number h => exact .number fun ho => hf.admitsNumber (h ho)
  | boolean f d b => exact .boolean g d b
  | enum h => exact .enum (hf.values h)
  | array hl _ ih => exact .array (fun ho => hf.admitsSize (hl ho)) fun v hv => ih v hv hf
  | @named f d n r ms hr hc _ ih =>
    obtain ⟨r', hr', hrel⟩ := exists_right_of_rel (hs n) hr
    refine .named hr' (fun ho => (hc ho).mono hrel) fun k g' w hk hg' => ?_
    obtain ⟨f', hf', hfg⟩ := exists_left_of_rel (hrel k) hg'
    exact hfg.conforms_type (ih k f' w hk hf' hfg)

lemma ConformsTo.mono {r r' : RecordType} {ms : List (String × Json)} (h : s.ConformsTo o r ms)
    (hs : s.RelaxesTo s') (hr : r.RelaxesTo r') : s'.ConformsTo o r' ms := by
  refine ⟨h.covers.mono hr, fun k g v hk hg => ?_⟩
  obtain ⟨f, hf, hfg⟩ := exists_left_of_rel (hr k) hg
  exact hfg.conforms_type ((h.members k f v hk hf).mono hs hfg)

/-- Asking for less, a closed schema finds each request valid that was valid before. -/
lemma RelaxesTo.isValid (h : s.RelaxesTo s') (hs : s.Closed) (hs' : s'.Closed)
    (hd : request.DistinctKeys) (hv : ((Validator.mk s o).validate request).isValid = true) :
    ((Validator.mk s' o).validate request).isValid = true := by
  rw [Validator.isValid_iff_partBreaches] at hv ⊢
  intro c r' hr'
  obtain ⟨r, hr, hrel⟩ := exists_left_of_rel (h c.name) hr'
  obtain ⟨ms, hp, hms⟩ := hv c r hr
  have hms := (Validator.conformsTo_iff hs hr (hd c ms hp)).mpr hms
  exact ⟨ms, hp, (Validator.conformsTo_iff hs' hr' (hd c ms hp)).mp (hms.mono h hrel)⟩

end Schema

/-! ### Any number of changes -/

/-- Relaxing a declaration is backward compatible: whatever the changes and their number, it still
resolves, and with any options a request that was valid before is valid afterwards. -/
theorem SchemaDecl.isValid_of_relaxation {d d' : SchemaDecl}
    (h : Relation.ReflTransGen SchemaDecl.Relaxation d d') (hs : d.resolve = .ok s) :
    ∃ s', d'.resolve = .ok s' ∧ ∀ (o : Options) (request : Request), request.DistinctKeys →
      ((Validator.mk s o).validate request).isValid = true →
      ((Validator.mk s' o).validate request).isValid = true := by
  induction h with
  | refl => exact ⟨s, hs, fun _ _ _ hv => hv⟩
  | tail _ hstep ih =>
    obtain ⟨s₁, hs₁, hvalid⟩ := ih
    obtain ⟨s₂, hs₂, hrel⟩ := hstep.resolve hs₁
    refine ⟨s₂, hs₂, fun o request hd hv => ?_⟩
    exact hrel.isValid (closed_of_resolve hs₁) (closed_of_resolve hs₂) hd (hvalid o request hd hv)

/-! ### A relaxed orchard -/

namespace Orchard

def treeType : TypeDecl := .ofList [("kind", kind), ("branches", branches)]

def branchType : TypeDecl := .ofList [("tree", tree), ("name", name)]

def kindWithPlums : FieldDecl := kind.withValues ["apple", "pear", "plum"]

def anyTree : FieldDecl := { tree with typeText := "any" }

/-- The declaration with plums. -/
def declWithPlums : SchemaDecl :=
  decl.withType "Tree" (treeType.insert "kind" kindWithPlums)

/-- The same with anything on a branch. -/
def relaxedDecl : SchemaDecl :=
  declWithPlums.withType "Branch" (branchType.insert "tree" anyTree)

/-- Two rows of one tree each, the second of which has a branch with a tree on it. -/
def validRequest : Request := Request.empty.withMembers .body
  [("rows", .array [.array [.object [("kind", .string "apple")]],
    .array [.object [("kind", .string "pear"), ("branches", .array [
      .object [("tree", .object [("kind", .string "apple")]), ("name", .string "b12")]])]]])]

lemma distinctKeys_validRequest : validRequest.DistinctKeys := by
  apply Request.distinctKeys_empty.withMembers
  simp [Json.DistinctKeys, Json.DistinctKeysItems, Json.DistinctKeysMembers]

lemma relaxation_declWithPlums : decl.Relaxation declWithPlums := by
  have htype : decl.types.get? "Tree" = some treeType := by with_unfolding_all rfl
  have hfield : treeType.get? "kind" = some kind := by with_unfolding_all rfl
  exact .field htype hfield (.values rfl (List.subset_append_left ["apple", "pear"] ["plum"]))

lemma relaxation_relaxedDecl : declWithPlums.Relaxation relaxedDecl := by
  have htype : declWithPlums.types.get? "Branch" = some branchType := by with_unfolding_all rfl
  have hfield : branchType.get? "tree" = some tree := by with_unfolding_all rfl
  have hany : FieldType.ofText? "any" = some .any := by with_unfolding_all rfl
  exact .field htype hfield (.any hany)

/-- With plums and anything on a branch the declaration still resolves, and the request is as valid
as before. -/
theorem isValid_of_relaxation_validRequest :
    Relation.ReflTransGen SchemaDecl.Relaxation decl relaxedDecl ∧ decl.resolve = .ok schema ∧
    validRequest.DistinctKeys ∧
    ((Validator.mk schema ⟨true, true⟩).validate validRequest).isValid = true ∧
    ∃ s', relaxedDecl.resolve = .ok s' ∧
      ((Validator.mk s' ⟨true, true⟩).validate validRequest).isValid = true := by
  have hchain : Relation.ReflTransGen SchemaDecl.Relaxation decl relaxedDecl :=
    (Relation.ReflTransGen.single relaxation_declWithPlums).tail relaxation_relaxedDecl
  have hvalid : ((Validator.mk schema ⟨true, true⟩).validate validRequest).isValid = true := by
    with_unfolding_all rfl
  obtain ⟨s', hs', h⟩ := SchemaDecl.isValid_of_relaxation hchain resolve_decl
  exact ⟨hchain, resolve_decl, distinctKeys_validRequest, hvalid, s', hs',
    h _ _ distinctKeys_validRequest hvalid⟩

end Orchard

end RequestContract
