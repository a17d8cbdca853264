import Mathlib.Data.List.Forall2
import Mathlib.Data.List.Nodup
import RequestContract.Proofs.Loading.Directory

/-!
# Loading a directory again

The files of a directory are put in order before they are loaded, so it does not matter in which
order they are listed, if no two of them are the same. Paths with the same parts are the same path,
however they are written. A second run adds nothing: a file that failed fails at the same stage, and
the name that a file has got is taken now. `SharedRegistry.loadDirectory_again` says so.
-/

namespace RequestContract

/-! ### Another order -/

/-- Two file systems that have the same files, and list the same ones in a directory, in whatever
order. -/
structure FileSystem.Relists (fs fs' : FileSystem) (dir : FilePath) : Prop where
  read : ∀ p, fs'.read p = fs.read p
  list : (∃ reason, fs.list dir = .error reason ∧ fs'.list dir = .error reason) ∨
    ∃ listed listed', fs.list dir = .ok listed ∧ fs'.list dir = .ok listed' ∧ listed'.Perm listed

/-- Paths with different parts leave no choice in how they are put in order. -/
lemma InPathOrder.eq_of_perm {listed files files' : List FilePath}
    (hd : (listed.map FilePath.parts).Nodup) (hf : InPathOrder listed files)
    (hp : files'.Perm files) (hs : files'.Pairwise fun p q => p.cmp q ≠ .gt) : files' = files := by
  have hlisted : ∀ p ∈ files, p ∈ listed := fun p hp =>
    List.mem_of_mem_filter (hf.perm.subset hp)
  refine hp.eq_of_pairwise (fun p q hp' hq hpq hqp => ?_) hs hf.sorted
  have hpq' := Ordering.isLE_iff_ne_gt.mpr hpq
  have hqp' := Ordering.isLE_iff_ne_gt.mpr hqp
  have hparts : p.parts = q.parts :=
    FilePath.cmp_eq_eq_iff.mp (Std.OrientedCmp.isLE_antisymm hpq' hqp')
  exact List.inj_on_of_nodup_map hd (hlisted p (hp.subset hp')) (hlisted q hq) hparts

lemma InPathOrder.unique {listed listed' files files' : List FilePath}
    (hd : (listed.map FilePath.parts).Nodup) (h : listed'.Perm listed)
    (hf : InPathOrder listed files) (hf' : InPathOrder listed' files') : files' = files :=
  hf.eq_of_perm hd (hf'.perm.trans ((h.filter _).trans hf.perm.symm)) hf'.sorted

variable {fs fs' : FileSystem} {dir p : FilePath} {files earlier : List FilePath}
  {r r' : Registry} {o : Options} {x : Except FailureCause (String × Schema)}

lemma loadFiles_congr (h : ∀ p, fs'.read p = fs.read p) (r : Registry) (o : Options)
    (files : List FilePath) : r.loadFiles o fs' files = r.loadFiles o fs files := by
  have hfile (r : Registry) (p : FilePath) : r.loadFile o fs' p = r.loadFile o fs p := by
    simp only [Registry.loadFile, readSchemaFile, h]
  induction files generalizing r with
  | nil => rfl
  | cons p files ih => simp only [Registry.loadFiles, hfile, ih]

/-- A directory comes to the same, in whatever order its files are listed. -/
lemma SharedRegistry.loadDirectory_congr
    (hd : ∀ listed, fs.list dir = .ok listed → (listed.map FilePath.parts).Nodup)
    (h : fs.Relists fs' dir) (s : SharedRegistry) (handle : Nat) :
    s.loadDirectory handle fs' dir = s.loadDirectory handle fs dir := by
  rw [loadDirectory, loadDirectory, Registry.loadDirectory, Registry.loadDirectory]
  rcases h.list with ⟨reason, hl, hl'⟩ | ⟨listed, listed', hl, hl', hp⟩
  · rw [hl, hl']
  · have hfiles := (schemaFiles_inPathOrder listed).unique (hd listed hl) hp
      (schemaFiles_inPathOrder listed')
    rw [hl, hl']
    simp only [hfiles, loadFiles_congr h.read]

/-! ### The second run -/

namespace Registry

/-- Why a file that came to an outcome fails the next time. -/
def causeAgain : Except FailureCause (String × Schema) → FailureCause
  | .ok (name, _) => .unregistered (.duplicateName name)
  | .error c => c

/-- What is reported of files with their outcomes the next time. -/
def failuresAgain (es : List (FilePath × Except FailureCause (String × Schema))) :
    List FileFailure :=
  es.map fun e => ⟨e.1, causeAgain e.2⟩

lemma Outcome.loadFile_eq {c : FailureCause} (h : r.Outcome fs [] p (.error c)) (o : Options) :
    r.loadFile o fs p = (.error c, r) := by
  cases h with
  | failed h => simp only [loadFile, h.readSchemaFile_eq]
  | taken h ht =>
    obtain ⟨v, hv⟩ := taken_nil_iff.mp ht
    simp only [loadFile, h.readSchemaFile_eq, register_of_get?_eq_some hv]
    rfl

/-- What came of a file decides how it fails when the names that the files give are all taken. -/
lemma Outcome.again (hx : r.Outcome fs earlier p x) (hp : p ∈ files)
    (ht : ∀ name, r.Taken fs files name → ∃ v, r'.get? name = some v) :
    r'.Outcome fs [] p (.error (causeAgain x)) := by
  have htaken {name : String} {s : Schema} (hg : fs.Gives p name s) : r'.Taken fs [] name :=
    taken_nil_iff.mpr (ht name (.inr ⟨p, hp, s, hg⟩))
  cases hx with
  | loaded hg _ => exact .taken hg (htaken hg)
  | failed hf => exact .failed hf
  | taken hg _ => exact .taken hg (htaken hg)

/-- A run in which all files fail leaves the registry as it is. -/
lemma loadFiles_of_forall₂ {outcomes : List (Except FailureCause (String × Schema))}
    (h : List.Forall₂ (fun p x => r.Outcome fs [] p (.error (causeAgain x))) files outcomes)
    (o : Options) : r.loadFiles o fs files = (⟨0, failuresAgain (files.zip outcomes)⟩, r) := by
  induction h with
  | nil => rfl
  | cons hc _ ih =>
    rw [loadFiles, hc.loadFile_eq]
    simp only [ih]
    rfl

/-- In a second run all files fail, each because of what came of it in the first one. -/
lemma loadFiles_again (r : Registry) (o o' : Options) (fs : FileSystem) (files : List FilePath) :
    ∃ outcomes, r.Loads o fs files outcomes (r.loadFiles o fs files).2 (r.loadFiles o fs files).1 ∧
      (r.loadFiles o fs files).2.loadFiles o' fs files
        = (⟨0, failuresAgain (files.zip outcomes)⟩, (r.loadFiles o fs files).2) := by
  obtain ⟨outcomes, h⟩ := r.loadFiles_loads o fs files
  refine ⟨outcomes, h, loadFiles_of_forall₂ ?_ o'⟩
  rw [List.forall₂_iff_get]
  refine ⟨h.length.symm, fun i hi hi' => ?_⟩
  have hx := h.outcome i _ _ (List.getElem?_eq_getElem hi) (List.getElem?_eq_getElem hi')
  exact hx.again (List.getElem_mem hi) fun name => (r.exists_get?_loadFiles_iff o fs files).mpr

end Registry

/-! ### The main result -/

/-- The failures that loading a directory reports. -/
def reportedFailures : Except LoadError Nat → List FileFailure
  | .error (.failed failures) => failures.toList
  | _ => []

/-- What is reported of files that have been loaded before: one failure for each file, in order. -/
structure FailAgain (files : List FilePath) (before after : List FileFailure) : Prop where
  paths : after.map FileFailure.path = files
  /-- What failed before fails in the same way. -/
  failed : ∀ x ∈ before, x ∈ after
  /-- What did not fail before has taken its name. -/
  loaded : ∀ p ∈ files, (∀ x ∈ before, x.path ≠ p) → ∃ name, p.stem?.bind Text.ofUtf8? = some name ∧
    ⟨p, .unregistered (.duplicateName name)⟩ ∈ after

lemma exists_failed_of_reportedFailures_ne_nil {result : Except LoadError Nat}
    (h : reportedFailures result ≠ []) :
    ∃ failures, result = .error (.failed failures) ∧ failures.toList = reportedFailures result := by
  rw [reportedFailures.eq_def] at h
  split at h
  · exact ⟨_, rfl, rfl⟩
  · exact absurd rfl h

lemma Registry.Loads.failAgain {outcomes : List (Except FailureCause (String × Schema))}
    {tally : Tally} (h : r.Loads o fs files outcomes r' tally) :
    FailAgain files tally.failures (failuresAgain (files.zip outcomes)) := by
  have hpaths : (failuresAgain (files.zip outcomes)).map FileFailure.path = files := by
    rw [failuresAgain, List.map_map]
    exact List.map_fst_zip h.length.ge
  refine ⟨hpaths, fun x hx => ?_, fun p hp hx => ?_⟩
  · rw [h.failures] at hx
    obtain ⟨⟨p, y⟩, he, hx⟩ := List.mem_filterMap.mp hx
    cases y with
    | ok named => cases hx
    | error c =>
      cases hx
      exact List.mem_map_of_mem he
  · rw [← hpaths] at hp
    obtain ⟨x', hx', rfl⟩ := List.mem_map.mp hp
    obtain ⟨⟨p, y⟩, he, rfl⟩ := List.mem_map.mp hx'
    cases y with
    | ok named =>
      obtain ⟨name, s⟩ := named
      obtain ⟨i, hi⟩ := List.mem_iff_getElem?.mp he
      obtain ⟨hf, ho⟩ := List.getElem?_zip_eq_some.mp hi
      cases h.outcome i p _ hf ho with
      | loaded hg _ => exact ⟨name, hg.name, hx'⟩
    | error c =>
      have hreported : ⟨p, c⟩ ∈ tally.failures := by
        rw [h.failures]
        exact List.mem_filterMap.mpr ⟨_, he, rfl⟩
      exact absurd rfl (hx _ hreported)

namespace Registry

variable {listed : List FilePath}

lemma loadDirectory_of_listed (hl : fs.list dir = .ok listed) (r : Registry) (o : Options) :
    (r.loadDirectory o fs dir).2 = (r.loadFiles o fs (schemaFiles listed)).2 ∧
    reportedFailures (r.loadDirectory o fs dir).1
      = (r.loadFiles o fs (schemaFiles listed)).1.failures := by
  simp only [loadDirectory, hl]
  cases h : NonEmptyList.ofList? (r.loadFiles o fs (schemaFiles listed)).1.failures with
  | none => exact ⟨rfl, (NonEmptyList.ofList?_eq_none_iff.mp h).symm⟩
  | some failures => exact ⟨rfl, (NonEmptyList.ofList?_eq_some_iff.mp h).symm⟩

lemma loadDirectory_twice (hl : fs.list dir = .ok listed) (r : Registry) (o o' : Options) :
    ((r.loadDirectory o fs dir).2.loadDirectory o' fs dir).2 = (r.loadDirectory o fs dir).2 ∧
    FailAgain (schemaFiles listed) (reportedFailures (r.loadDirectory o fs dir).1)
      (reportedFailures ((r.loadDirectory o fs dir).2.loadDirectory o' fs dir).1) := by
  obtain ⟨outcomes, hloads, hagain⟩ := r.loadFiles_again o o' fs (schemaFiles listed)
  obtain ⟨hfirst, hbefore⟩ := loadDirectory_of_listed hl r o
  obtain ⟨hsecond, hafter⟩ := loadDirectory_of_listed hl (r.loadDirectory o fs dir).2 o'
  rw [hsecond, hafter, hbefore, hfirst, hagain]
  exact ⟨rfl, hloads.failAgain⟩

end Registry

/-- Loading a directory comes to the same in whatever order its files are listed, if no two of them
have the same parts. Loading it once more, through whatever handle, changes nothing, and if there is
a file to be loaded, all such files fail. -/
theorem SharedRegistry.loadDirectory_again
    (hd : ∀ listed, fs.list dir = .ok listed → (listed.map FilePath.parts).Nodup)
    (h : fs.Relists fs' dir) (s : SharedRegistry) (handle handle' : Nat) :
    s.loadDirectory handle fs' dir = s.loadDirectory handle fs dir ∧
    ((s.loadDirectory handle fs dir).2.loadDirectory handle' fs' dir).2
      = (s.loadDirectory handle fs dir).2 ∧
    ∀ listed, fs.list dir = .ok listed →
      (∃ p ∈ listed, p.extension? = some (Text.toUtf8 "json")) →
      ∃ files failures, InPathOrder listed files ∧
        ((s.loadDirectory handle fs dir).2.loadDirectory handle' fs' dir).1
          = .error (.failed failures) ∧
        FailAgain files (reportedFailures (s.loadDirectory handle fs dir).1) failures.toList := by
  have hcongr := loadDirectory_congr hd h
  rw [hcongr, hcongr]
  refine ⟨rfl, ?_, fun listed hl hjson => ?_⟩
  · cases hl : fs.list dir with
    | error reason => simp only [loadDirectory, Registry.loadDirectory, hl]
    | ok listed =>
      have hagain := Registry.loadDirectory_twice hl s.registry (s.options handle)
        (s.options handle')
      exact congrArg (fun r => { s with registry := r }) hagain.1
  · have hf := schemaFiles_inPathOrder listed
    have hagain := (Registry.loadDirectory_twice hl s.registry (s.options handle)
      (s.options handle')).2
    have hne : schemaFiles listed ≠ [] := by
      obtain ⟨p, hp, he⟩ := hjson
      have hmem := hf.perm.symm.subset (List.mem_filter.mpr ⟨hp, decide_eq_true he⟩)
      exact List.ne_nil_of_mem hmem
    rw [← hagain.paths, Ne, List.map_eq_nil_iff] at hne
    obtain ⟨failures, hfailed, hlist⟩ := exists_failed_of_reportedFailures_ne_nil hne
    exact ⟨schemaFiles listed, failures, hf, hfailed, hlist ▸ hagain⟩

/-! ### The plots of an orchard -/

namespace Orchard

/-- Two plots have a file of the same name, and the one has an empty file. -/
def plotFiles : List ListedFile := [
  ⟨.ofText "south/plum.json", .ok "{}"⟩,
  ⟨.ofText "south/pear.json", .ok ""⟩,
  ⟨.ofText "notes.txt", .ok "to be watered"⟩,
  ⟨.ofText "north/plum.json", .ok "{}"⟩]

def plots : FileSystem := .ofFiles plotFiles

/-- The files of the plots, listed from the last to the first. -/
def reversedPlots : FileSystem :=
  { plots with list := fun _ => .ok (plotFiles.map ListedFile.path).reverse }

/-- What loading the plots comes to. -/
def loadedPlots : Except LoadError Nat × SharedRegistry :=
  (SharedRegistry.start Options.standard).loadDirectory 0 plots (.ofText "")

lemma relists_plots : plots.Relists reversedPlots (.ofText "") where
  read _ := rfl
  list := .inr ⟨_, _, rfl, rfl, List.reverse_perm _⟩

lemma nodup_parts_plots : ((plotFiles.map ListedFile.path).map FilePath.parts).Nodup := by
  decide +kernel

/-- The files to be loaded, in the order of their paths. -/
def sortedPlots : List FilePath :=
  [.ofText "north/plum.json", .ofText "south/pear.json", .ofText "south/plum.json"]

lemma schemaFiles_plots : schemaFiles (plotFiles.map ListedFile.path) = sortedPlots := by
  have hf := schemaFiles_inPathOrder (plotFiles.map ListedFile.path)
  have hp : sortedPlots.Perm ((plotFiles.map ListedFile.path).filter isSchemaFile) := by
    decide +kernel
  exact (hf.eq_of_perm nodup_parts_plots (hp.trans hf.perm.symm) (by decide +kernel)).symm

lemma names_loadedPlots : loadedPlots.2.registry.names = ["plum"] := by
  have hlist : plots.list (.ofText "") = .ok (plotFiles.map ListedFile.path) := rfl
  have hloaded : loadedPlots.2.registry
      = (Registry.empty.loadFiles Options.standard plots sortedPlots).2 := by
    rw [← schemaFiles_plots]
    exact (Registry.loadDirectory_of_listed hlist _ _).1
  have hkeys : (Registry.empty.loadFiles Options.standard plots sortedPlots).2.validators.keys
      = ["plum"] := by decide +kernel
  rw [hloaded, Registry.names, hkeys, List.mergeSort_singleton]

/-- One of the files is loaded, the same in both orders, and all three fail the next time. -/
theorem loadDirectory_again_plots :
    (∀ listed, plots.list (.ofText "") = .ok listed → (listed.map FilePath.parts).Nodup) ∧
    plots.Relists reversedPlots (.ofText "") ∧
    loadedPlots.2.registry.names = ["plum"] ∧
    (SharedRegistry.start Options.standard).loadDirectory 0 reversedPlots (.ofText "")
      = loadedPlots ∧
    (loadedPlots.2.loadDirectory 0 reversedPlots (.ofText "")).2 = loadedPlots.2 ∧
    ∃ files failures, files.length = 3 ∧
      (loadedPlots.2.loadDirectory 0 reversedPlots (.ofText "")).1 = .error (.failed failures) ∧
      FailAgain files (reportedFailures loadedPlots.1) failures.toList := by
  have hd : ∀ listed, plots.list (.ofText "") = .ok listed →
      (listed.map FilePath.parts).Nodup := by
    rintro listed hl
    cases hl
    exact nodup_parts_plots
  obtain ⟨horder, hsame, hfail⟩ := SharedRegistry.loadDirectory_again hd relists_plots
    (SharedRegistry.start Options.standard) 0 0
  refine ⟨hd, relists_plots, names_loadedPlots, horder, hsame, ?_⟩
  have hjson : ∃ p ∈ plotFiles.map ListedFile.path,
      p.extension? = some (Text.toUtf8 "json") := by decide +kernel
  obtain ⟨files, failures, hf, hfailed, hagain⟩ := hfail _ rfl hjson
  refine ⟨files, failures, ?_, hfailed, hagain⟩
  rw [hf.perm.length_eq]
  decide +kernel

end Orchard

end RequestContract
