import RequestContract.Proofs.Loading.Order
import RequestContract.Proofs.Registry

/-!
# What comes of loading a directory

Each file of a directory comes to one outcome. It may fail to give a schema, at the first of the
stages that it does not pass. If it gives one, then the schema is registered, unless its name is
taken: by what was registered before, or by one of the files before it that give a schema, too. A
file that fails takes no name.

`Registry.loadFiles_loads` says that a run over files has these outcomes and no other effects: what
is loaded is counted and put behind what is registered already, which stays as it is, and the
failures are those of the files that fail, in order. `SharedRegistry.loadDirectory_loads` says so of
directories, where all files are counted if none fails.
-/

namespace RequestContract

/-! ### What a file gives -/

namespace FileSystem

/-- The file gives a schema and a name for it. -/
structure Gives (fs : FileSystem) (p : FilePath) (name : String) (s : Schema) : Prop where
  name : p.stem?.bind Text.ofUtf8? = some name
  schema : ∃ text d, fs.read p = .ok text ∧ SchemaDecl.ofText text = .ok d ∧ d.resolve = .ok s

/-- The first stage that the file does not pass before its schema can be registered. -/
inductive FailsAt (fs : FileSystem) (p : FilePath) : FailureCause → Prop
  | fileName (h : p.stem?.bind Text.ofUtf8? = none) : FailsAt fs p .fileName
  | reading {name reason : String} (hn : p.stem?.bind Text.ofUtf8? = some name)
      (h : fs.read p = .error reason) : FailsAt fs p (.unreadable reason)
  | decoding {name text : String} {m : Mismatch} (hn : p.stem?.bind Text.ofUtf8? = some name)
      (ht : fs.read p = .ok text) (h : SchemaDecl.ofText text = .error m) :
      FailsAt fs p (.undecodable m)
  | resolving {name text : String} {d : SchemaDecl} {ps : SchemaProblems}
      (hn : p.stem?.bind Text.ofUtf8? = some name) (ht : fs.read p = .ok text)
      (hd : SchemaDecl.ofText text = .ok d) (h : d.resolve = .error ps) :
      FailsAt fs p (.rejected ps)

variable {fs : FileSystem} {p : FilePath} {name name' : String} {s s' : Schema} {c : FailureCause}

lemma gives_or_failsAt (fs : FileSystem) (p : FilePath) :
    (∃ name s, fs.Gives p name s) ∨ ∃ c, fs.FailsAt p c := by
  cases hn : p.stem?.bind Text.ofUtf8? with
  | none => exact .inr ⟨_, .fileName hn⟩
  | some name =>
    cases ht : fs.read p with
    | error reason => exact .inr ⟨_, .reading hn ht⟩
    | ok text =>
      cases hd : SchemaDecl.ofText text with
      | error m => exact .inr ⟨_, .decoding hn ht hd⟩
      | ok d =>
        cases hs : d.resolve with
        | error ps => exact .inr ⟨_, .resolving hn ht hd hs⟩
        | ok s => exact .inl ⟨name, s, hn, text, d, ht, hd, hs⟩

lemma Gives.readSchemaFile_eq (h : fs.Gives p name s) : readSchemaFile fs p = .ok (name, s) := by
  obtain ⟨text, d, ht, hd, hs⟩ := h.schema
  simp only [readSchemaFile, h.name, ht, hd, hs]

lemma FailsAt.readSchemaFile_eq (h : fs.FailsAt p c) : readSchemaFile fs p = .error c := by
  cases h with
  | fileName hn => simp only [readSchemaFile, hn]
  | reading hn ht => simp only [readSchemaFile, hn, ht]
  | decoding hn ht hd => simp only [readSchemaFile, hn, ht, hd]
  | resolving hn ht hd hs => simp only [readSchemaFile, hn, ht, hd, hs]

lemma Gives.unique (h : fs.Gives p name s) (h' : fs.Gives p name' s') : name' = name ∧ s' = s := by
  have heq := h'.readSchemaFile_eq
  rw [h.readSchemaFile_eq] at heq
  cases heq
  exact ⟨rfl, rfl⟩

lemma FailsAt.not_gives (h : fs.FailsAt p c) : ¬ fs.Gives p name s := by
  intro h'
  have heq := h'.readSchemaFile_eq
  rw [h.readSchemaFile_eq] at heq
  cases heq

end FileSystem

namespace Registry

variable {fs : FileSystem} {p : FilePath} {name : String} {r r' r'' : Registry} {o : Options}
  {earlier files : List FilePath} {x : Except FailureCause (String × Schema)}

/-! ### Outcomes -/

/-- A name is taken when the turn of a file comes: something was registered under it before, or one
of the earlier files gives a schema under it. -/
def Taken (r : Registry) (fs : FileSystem) (earlier : List FilePath) (name : String) : Prop :=
  (∃ v, r.get? name = some v) ∨ ∃ q ∈ earlier, ∃ s, fs.Gives q name s

/-- What comes of a file after the earlier ones: a schema that is registered under a name, or a
failure. -/
inductive Outcome (r : Registry) (fs : FileSystem) (earlier : List FilePath) (p : FilePath) :
    Except FailureCause (String × Schema) → Prop
  | loaded {name : String} {s : Schema} (h : fs.Gives p name s) (ht : ¬ r.Taken fs earlier name) :
      Outcome r fs earlier p (.ok (name, s))
  | failed {c : FailureCause} (h : fs.FailsAt p c) : Outcome r fs earlier p (.error c)
  | taken {name : String} {s : Schema} (h : fs.Gives p name s) (ht : r.Taken fs earlier name) :
      Outcome r fs earlier p (.error (.unregistered (.duplicateName name)))

/-- What an outcome adds to a registry. -/
def added (o : Options) : Except FailureCause (String × Schema) → Option (String × Validator)
  | .ok (name, s) => some (name, ⟨s, o⟩)
  | .error _ => none

/-- What is reported of a file. -/
def reported (p : FilePath) : Except FailureCause (String × Schema) → Option FileFailure
  | .ok _ => none
  | .error c => some ⟨p, c⟩

/-- Loading files into `r`, with the options `o`, has the given outcomes, one for each file, leads
to `r'` and is tallied as given. -/
structure Loads (r : Registry) (o : Options) (fs : FileSystem) (files : List FilePath)
    (outcomes : List (Except FailureCause (String × Schema))) (r' : Registry)
    (tally : Tally) : Prop where
  length : outcomes.length = files.length
  outcome : ∀ i p x, files[i]? = some p → outcomes[i]? = some x →
    r.Outcome fs (files.take i) p x
  /-- What is loaded comes behind what was there before, which stays as it is. -/
  validators : r'.validators.entries = r.validators.entries ++ outcomes.filterMap (added o)
  loaded : tally.loaded = outcomes.countP Except.isOk
  failures : tally.failures = (files.zip outcomes).filterMap fun e => reported e.1 e.2

lemma taken_nil_iff : r.Taken fs [] name ↔ ∃ v, r.get? name = some v := by
  simp [Taken]

/-! ### One file -/

/-- A file comes to an outcome, and the registry after it has what that adds. -/
lemma exists_loadFile_eq (r : Registry) (o : Options) (fs : FileSystem) (p : FilePath) :
    ∃ x, ∃ r' : Registry, r.Outcome fs [] p x ∧
      r'.validators.entries = r.validators.entries ++ (added o x).toList ∧
      r.loadFile o fs p = (x.map fun _ => (), r') := by
  rcases fs.gives_or_failsAt p with ⟨name, s, h⟩ | ⟨c, h⟩
  · cases hr : r.get? name with
    | none =>
      obtain ⟨r', hr', he⟩ := register_of_get?_eq_none hr ⟨s, o⟩
      have hx : r.Outcome fs [] p (.ok (name, s)) := .loaded h (by simp [taken_nil_iff, hr])
      refine ⟨_, r', hx, he, ?_⟩
      simp only [loadFile, h.readSchemaFile_eq, hr']
      rfl
    | some v =>
      have hx := Outcome.taken h (taken_nil_iff.mpr ⟨v, hr⟩)
      refine ⟨_, r, hx, (List.append_nil _).symm, ?_⟩
      simp only [loadFile, h.readSchemaFile_eq, register_of_get?_eq_some hr]
      rfl
  · refine ⟨_, r, .failed h, (List.append_nil _).symm, ?_⟩
    simp only [loadFile, h.readSchemaFile_eq]
    rfl

/-- One file of a run: what it adds to the registry is there for the files after it. -/
lemma loadFiles_cons (r : Registry) (o : Options) (fs : FileSystem) (p : FilePath)
    (files : List FilePath) : ∃ x, ∃ r' : Registry, r.Outcome fs [] p x ∧
      r'.validators.entries = r.validators.entries ++ (added o x).toList ∧
      r.loadFiles o fs (p :: files) = ((r'.loadFiles o fs files).1.count p (x.map fun _ => ()),
        (r'.loadFiles o fs files).2) := by
  obtain ⟨x, r', hx, he, hl⟩ := r.exists_loadFile_eq o fs p
  exact ⟨x, r', hx, he, by rw [loadFiles, hl]⟩

/-! ### Names that are taken -/

/-- After a file a name is in the registry if it was there before or the file gives it. -/
lemma exists_get?_iff (hx : r.Outcome fs [] p x)
    (he : r'.validators.entries = r.validators.entries ++ (added o x).toList) :
    (∃ v, r'.get? name = some v) ↔ (∃ v, r.get? name = some v) ∨ ∃ s, fs.Gives p name s := by
  have hget : (∃ v, r'.get? name = some v) ↔
      (∃ v, r.get? name = some v) ∨ ∃ v, added o x = some (name, v) := by
    simp only [get?, OrderedMap.get?_eq_some_iff, he, List.mem_append, Option.mem_toList,
      exists_or]
  rw [hget]
  cases hx with
  | loaded h =>
    refine or_congr_right ⟨?_, ?_⟩
    · rintro ⟨v, hv⟩
      cases hv
      exact ⟨_, h⟩
    · rintro ⟨s', h'⟩
      obtain ⟨rfl, rfl⟩ := h.unique h'
      exact ⟨_, rfl⟩
  | failed h =>
    refine or_congr_right ⟨?_, ?_⟩
    · rintro ⟨v, hv⟩
      cases hv
    · rintro ⟨s', h'⟩
      exact absurd h' h.not_gives
  | taken h ht =>
    refine or_congr_right' fun hn => ⟨?_, ?_⟩
    · rintro ⟨v, hv⟩
      cases hv
    · rintro ⟨s', h'⟩
      obtain ⟨rfl, rfl⟩ := h.unique h'
      exact absurd (taken_nil_iff.mp ht) hn

/-- A file takes the name that it gives, whether it is registered or the name was taken before. -/
lemma taken_iff (hx : r.Outcome fs [] p x)
    (he : r'.validators.entries = r.validators.entries ++ (added o x).toList) :
    r'.Taken fs earlier name ↔ r.Taken fs (p :: earlier) name := by
  rw [Taken, exists_get?_iff hx he, Taken, or_assoc]
  simp only [List.mem_cons, exists_eq_or_imp]

/-- After a run the names in the registry are those that are taken. -/
theorem exists_get?_loadFiles_iff (r : Registry) (o : Options) (fs : FileSystem)
    (files : List FilePath) :
    (∃ v, (r.loadFiles o fs files).2.get? name = some v) ↔ r.Taken fs files name := by
  induction files generalizing r with
  | nil => exact taken_nil_iff.symm
  | cons p files ih =>
    obtain ⟨x, r', hx, he, hl⟩ := r.loadFiles_cons o fs p files
    rw [hl, ih, taken_iff hx he]

/-! ### A run over files -/

lemma Outcome.of_taken_iff {earlier' : List FilePath} (h : r'.Outcome fs earlier' p x)
    (ht : ∀ n, r'.Taken fs earlier' n ↔ r.Taken fs earlier n) : r.Outcome fs earlier p x := by
  cases h with
  | loaded h hn => exact .loaded h (mt (ht _).mpr hn)
  | failed h => exact .failed h
  | taken h hn => exact .taken h ((ht _).mp hn)

lemma Loads.nil (r : Registry) (o : Options) (fs : FileSystem) :
    r.Loads o fs [] [] r ⟨0, []⟩ where
  length := rfl
  outcome := by simp
  validators := by simp
  loaded := rfl
  failures := rfl

lemma Loads.cons {outcomes : List (Except FailureCause (String × Schema))} {tally : Tally}
    (hx : r.Outcome fs [] p x)
    (he : r'.validators.entries = r.validators.entries ++ (added o x).toList)
    (h : r'.Loads o fs files outcomes r'' tally) :
    r.Loads o fs (p :: files) (x :: outcomes) r'' (tally.count p (x.map fun _ => ())) where
  length := by rw [List.length_cons, List.length_cons, h.length]
  outcome i p' x' hp hx' := by
    cases i with
    | zero =>
      cases hp
      cases hx'
      exact hx
    | succ i =>
      -- what the first file takes is taken for the files after it
      exact (h.outcome i p' x' hp hx').of_taken_iff fun _ => taken_iff hx he
  validators := by
    rw [h.validators, he, List.append_assoc, List.filterMap_cons]
    cases added o x <;> rfl
  loaded := by
    cases x with
    | ok named =>
      rw [List.countP_cons_of_pos rfl, ← h.loaded]
      rfl
    | error c => exact h.loaded
  failures := by
    cases x with
    | ok named => exact h.failures
    | error c => exact congrArg (⟨p, c⟩ :: ·) h.failures

/-- If there are no failures, then all files have been counted. -/
lemma Loads.loaded_eq_length {outcomes : List (Except FailureCause (String × Schema))}
    {tally : Tally} (h : r.Loads o fs files outcomes r' tally) (hf : tally.failures = []) :
    tally.loaded = files.length := by
  have hok : ∀ x ∈ outcomes, x.isOk = true := by
    intro x hx
    rw [← List.map_snd_zip h.length.le] at hx
    obtain ⟨⟨p, y⟩, he, rfl⟩ := List.mem_map.mp hx
    have hreported := List.filterMap_eq_nil_iff.mp (h.failures.symm.trans hf) (p, y) he
    cases y with
    | ok named => rfl
    | error c => cases hreported
  rw [h.loaded, List.countP_eq_length.mpr hok, h.length]

/-- A run over files comes to an outcome for each of them, and has no other effect. -/
theorem loadFiles_loads (r : Registry) (o : Options) (fs : FileSystem) (files : List FilePath) :
    ∃ outcomes, r.Loads o fs files outcomes (r.loadFiles o fs files).2
      (r.loadFiles o fs files).1 := by
  induction files generalizing r with
  | nil => exact ⟨[], .nil r o fs⟩
  | cons p files ih =>
    obtain ⟨x, r', hx, he, hl⟩ := r.loadFiles_cons o fs p files
    obtain ⟨outcomes, h⟩ := ih r'
    rw [hl]
    exact ⟨x :: outcomes, .cons hx he h⟩

end Registry

/-! ### A directory -/

/-- What loading a directory through a handle comes to: the number of schemas or what has failed,
and the shared registry after it. -/
inductive SharedRegistry.LoadsDirectory (s : SharedRegistry) (handle : Nat) (fs : FileSystem)
    (dir : FilePath) : Except LoadError Nat × SharedRegistry → Prop
  | unlisted {reason : String} (h : fs.list dir = .error reason) :
      LoadsDirectory s handle fs dir (.error (.unlisted dir reason), s)
  | loaded {listed files : List FilePath}
      {outcomes : List (Except FailureCause (String × Schema))} {r : Registry}
      (h : fs.list dir = .ok listed) (hf : InPathOrder listed files)
      (hr : s.registry.Loads (s.options handle) fs files outcomes r ⟨files.length, []⟩) :
      LoadsDirectory s handle fs dir (.ok files.length, { s with registry := r })
  | failed {listed files : List FilePath}
      {outcomes : List (Except FailureCause (String × Schema))} {r : Registry}
      {loaded : Nat} {failures : NonEmptyList FileFailure} (h : fs.list dir = .ok listed)
      (hf : InPathOrder listed files)
      (hr : s.registry.Loads (s.options handle) fs files outcomes r ⟨loaded, failures.toList⟩) :
      LoadsDirectory s handle fs dir (.error (.failed failures), { s with registry := r })

/-- Loading a directory loads its files in the order of their paths: all are loaded and counted, or
the failures are reported, one for each file that has not been loaded. -/
theorem SharedRegistry.loadDirectory_loads (s : SharedRegistry) (handle : Nat) (fs : FileSystem)
    (dir : FilePath) : s.LoadsDirectory handle fs dir (s.loadDirectory handle fs dir) := by
  rw [loadDirectory, Registry.loadDirectory]
  cases hl : fs.list dir with
  | error reason => exact .unlisted hl
  | ok listed =>
    have hf := schemaFiles_inPathOrder listed
    obtain ⟨outcomes, hr⟩ := s.registry.loadFiles_loads (s.options handle) fs (schemaFiles listed)
    simp only
    generalize s.registry.loadFiles (s.options handle) fs (schemaFiles listed) = run at hr ⊢
    obtain ⟨⟨loaded, failures⟩, r⟩ := run
    simp only
    cases he : NonEmptyList.ofList? failures with
    | none =>
      obtain rfl := NonEmptyList.ofList?_eq_none_iff.mp he
      obtain rfl : loaded = (schemaFiles listed).length := hr.loaded_eq_length rfl
      exact .loaded hl hf hr
    | some failures' =>
      obtain rfl := NonEmptyList.ofList?_eq_some_iff.mp he
      exact .failed hl hf hr

end RequestContract
