import Mathlib.Data.String.Basic
import RequestContract.Proofs.Entries
import RequestContract.Registry.Calls

/-!
# The first registration of a name stands

A registry may be asked through any of its handles, in any order. `SharedRegistry.Answers` says what
is to be answered to a call by what was called and answered before, without a registry: a
registration succeeds if none of the name has succeeded yet, and all that is asked about a name is
asked of the validator that the first registration of the name was about. A schema is registered
with the options that the handle has at that time.

`SharedRegistry.run_answers` says that each call of each run is answered so. What one call does is
`SharedRegistry.Follows.step`, from which the run follows by induction.
-/

namespace RequestContract

/-! ### One registry -/

namespace Registry

variable {r : Registry} {name : String}

lemma register_of_get?_eq_none (h : r.get? name = none) (v : Validator) :
    ∃ r', r.register name v = (.ok (), r') ∧
      r'.validators.entries = r.validators.entries ++ [(name, v)] := by
  have hc : r.contains name = false := by
    rw [contains, OrderedMap.contains, ← get?, h, Option.isSome_none]
  refine ⟨⟨r.validators.insert name v⟩, by rw [register, hc]; rfl, ?_⟩
  exact OrderedMap.entries_insert_of_not_mem (OrderedMap.get?_eq_none_iff.mp h) v

lemma register_of_get?_eq_some {v : Validator} (h : r.get? name = some v) (v' : Validator) :
    r.register name v' = (.error (.duplicateName name), r) := by
  have hc : r.contains name = true := by
    rw [contains, OrderedMap.contains, ← get?, h, Option.isSome_some]
  rw [register, hc]
  rfl

lemma contains_iff : r.contains name = true ↔ ∃ v, r.get? name = some v := by
  rw [contains, OrderedMap.contains, ← get?, Option.isSome_iff_exists]

lemma mem_names_iff : name ∈ r.names ↔ ∃ v, r.get? name = some v := by
  rw [names, List.mem_mergeSort, OrderedMap.mem_keys_iff]
  rfl

/-- No name is listed twice, so the order is strict. -/
lemma pairwise_names (r : Registry) : r.names.Pairwise (· < ·) := by
  have hle : r.names.Pairwise (· ≤ ·) := by
    have htrans (a b c : String) (h : decide (a ≤ b) = true) (h' : decide (b ≤ c) = true) :
        decide (a ≤ c) = true :=
      decide_eq_true ((of_decide_eq_true h).trans (of_decide_eq_true h'))
    have htotal (a b : String) : (decide (a ≤ b) || decide (b ≤ a)) = true := by
      simpa using le_total a b
    exact (List.pairwise_mergeSort htrans htotal r.validators.keys).imp of_decide_eq_true
  have hne : r.names.Nodup := (List.mergeSort_perm _ _).nodup_iff.mpr r.validators.nodup
  exact (hle.and hne).imp fun h => lt_of_le_of_ne h.1 h.2

lemma length_names (r : Registry) : r.names.length = r.size := by
  rw [names, List.length_mergeSort, OrderedMap.keys, List.length_map]
  rfl

end Registry

namespace SharedRegistry

/-! ### What is to be answered -/

/-- The options of the handles after one call more. A clone has those of its handle, until it is
given others. -/
def optionsStep (os : List Options) (c : Call) : List Options :=
  match c.operation with
  | .clone => os ++ [os[c.handle]?.getD Options.standard]
  | .withOptions o => os.set c.handle o
  | _ => os

/-- The options of the handles after events, the first handle having the options `o` at the
start. -/
def optionsAfter (o : Options) (events : List Event) : List Options :=
  events.foldl (fun os e => optionsStep os e.call) [o]

/-- A call after events is a registration of a validator under a name. -/
inductive Registers (o : Options) (earlier : List Event) : Call → String → Validator → Prop
  | validator (handle : Nat) (name : String) (v : Validator) :
      Registers o earlier ⟨handle, .register name v⟩ name v
  | schema (handle : Nat) (name : String) (schema : Schema) :
      Registers o earlier ⟨handle, .registerSchema name schema⟩ name
        ⟨schema, (optionsAfter o earlier)[handle]?.getD Options.standard⟩

/-- A registration of the name has succeeded. -/
def Succeeded (events : List Event) (name : String) : Prop :=
  ∃ e ∈ events, e.call.operation.newName? = some name ∧ e.answer = .registered

/-- The first registration of the name is about the validator. -/
def First (o : Options) (events : List Event) (name : String) (v : Validator) : Prop :=
  ∃ before e, before ++ [e] <+: events ∧ Registers o before e.call name v ∧
    ∀ e' ∈ before, e'.call.operation.newName? ≠ some name

/-- The names are in strictly increasing order, and are those of which a registration has
succeeded. -/
structure Lists (events : List Event) (ns : List String) : Prop where
  increasing : ns.Pairwise (· < ·)
  mem_iff : ∀ name, name ∈ ns ↔ Succeeded events name

/-- What is to be answered to a call, through whatever handle, after earlier events. -/
inductive Answers (o : Options) (earlier : List Event) : Call → Answer → Prop
  | registered {c : Call} {name : String} (hc : c.operation.newName? = some name)
      (hn : ¬ Succeeded earlier name) : Answers o earlier c .registered
  | refused {c : Call} {name : String} (hc : c.operation.newName? = some name)
      (hn : Succeeded earlier name) : Answers o earlier c (.failed (.duplicateName name))
  | cloned {handle : Nat} :
      Answers o earlier ⟨handle, .clone⟩ (.handle (optionsAfter o earlier).length)
  | optionsSet {handle : Nat} {o' : Options} :
      Answers o earlier ⟨handle, .withOptions o'⟩ .optionsSet
  | found {handle : Nat} {name : String} {v : Validator} (hv : First o earlier name v) :
      Answers o earlier ⟨handle, .get name⟩ (.validator (some v))
  | notFound {handle : Nat} {name : String} (hn : ¬ Succeeded earlier name) :
      Answers o earlier ⟨handle, .get name⟩ (.validator none)
  | contained {handle : Nat} {name : String} {b : Bool} (hb : b = true ↔ Succeeded earlier name) :
      Answers o earlier ⟨handle, .contains name⟩ (.contained b)
  | names {handle : Nat} {ns : List String} (hns : Lists earlier ns) :
      Answers o earlier ⟨handle, .names⟩ (.names ns)
  | size {handle : Nat} {ns : List String} (hns : Lists earlier ns) :
      Answers o earlier ⟨handle, .size⟩ (.size ns.length)
  | validated {handle : Nat} {name : String} {request : Request} {v : Validator}
      (hv : First o earlier name v) :
      Answers o earlier ⟨handle, .validate name request⟩ (.report (v.validate request))
  | unknown {handle : Nat} {name : String} {request : Request} (hn : ¬ Succeeded earlier name) :
      Answers o earlier ⟨handle, .validate name request⟩ (.failed (.notFound name))

/-! ### One event more -/

variable {o : Options} {events earlier : List Event} {e : Event} {c : Call} {name : String}
  {v : Validator} {s : SharedRegistry}

/-- Some call was a registration of the name. -/
def Requested (events : List Event) (name : String) : Prop :=
  ∃ e ∈ events, e.call.operation.newName? = some name

lemma Registers.newName?_eq (h : Registers o earlier c name v) :
    c.operation.newName? = some name := by
  cases h <;> rfl

lemma Registers.unique {v' : Validator} (h : Registers o earlier c name v)
    (h' : Registers o earlier c name v') : v' = v := by
  cases h <;> cases h' <;> rfl

lemma First.requested (h : First o events name v) : Requested events name := by
  obtain ⟨before, e, hb, hr, -⟩ := h
  exact ⟨e, hb.subset (List.mem_append_right _ (List.mem_singleton_self e)), hr.newName?_eq⟩

lemma requested_concat_iff : Requested (events ++ [e]) name ↔
    Requested events name ∨ e.call.operation.newName? = some name := by
  simp [Requested, or_and_right, exists_or]

lemma succeeded_concat_iff : Succeeded (events ++ [e]) name ↔
    Succeeded events name ∨ (e.call.operation.newName? = some name ∧ e.answer = .registered) := by
  simp [Succeeded, or_and_right, exists_or]

lemma first_concat_iff : First o (events ++ [e]) name v ↔
    First o events name v ∨ (Registers o events e.call name v ∧ ¬ Requested events name) := by
  simp only [First, List.prefix_concat_iff]
  constructor
  · rintro ⟨before, e', hb | hb, hr, hn⟩
    · obtain ⟨rfl, he⟩ := List.append_inj' hb rfl
      cases he
      exact .inr ⟨hr, fun ⟨e', he', h⟩ => hn e' he' h⟩
    · exact .inl ⟨before, e', hb, hr, hn⟩
  · rintro (⟨before, e', hb, hr, hn⟩ | ⟨hr, hn⟩)
    · exact ⟨before, e', .inr hb, hr, hn⟩
    · exact ⟨events, e, .inl rfl, hr, fun e' he' h => hn ⟨e', he', h⟩⟩

lemma optionsAfter_concat : optionsAfter o (events ++ [e])
    = optionsStep (optionsAfter o events) e.call := by
  rw [optionsAfter, List.foldl_append]
  rfl

/-! ### One call -/

lemma handles_step (s : SharedRegistry) (c : Call) :
    (s.step c).2.handles = optionsStep s.handles c := by
  obtain ⟨handle, operation⟩ := c
  cases operation with
  | validate n request =>
    simp only [step]
    split <;> rfl
  | _ => rfl

/-- Only a registration changes the validators, and only a registration is answered as one. -/
lemma step_of_newName?_eq_none (hc : c.operation.newName? = none) :
    (s.step c).2.registry = s.registry ∧ (s.step c).1 ≠ .registered := by
  obtain ⟨handle, operation⟩ := c
  cases operation with
  | register n v => cases hc
  | registerSchema n schema => cases hc
  | validate n request =>
    simp only [step]
    split <;> exact ⟨rfl, nofun⟩
  | _ => exact ⟨rfl, nofun⟩

lemma register_of_failed {p : RegistryProblem} {n : String} {v : Validator}
    (h : Answer.ofRegistration (s.register n v).1 = .failed p) : (s.register n v).2 = s := by
  rw [register] at h ⊢
  cases hr : s.registry.register n v with
  | mk result r =>
    rw [hr] at h
    cases result with
    | ok u => cases h
    | error p' => rw [Registry.register_of_error hr]

lemma step_of_failed {p : RegistryProblem} (h : (s.step c).1 = .failed p) : (s.step c).2 = s := by
  obtain ⟨handle, operation⟩ := c
  cases operation with
  | register n v => exact register_of_failed h
  | registerSchema n schema => exact register_of_failed h
  | clone => cases h
  | withOptions o => cases h
  | validate n request =>
    simp only [step]
    split <;> rfl
  | _ => rfl

lemma exists_registers (o : Options) (events : List Event)
    (hc : c.operation.newName? = some name) : ∃ v, Registers o events c name v := by
  obtain ⟨handle, operation⟩ := c
  cases operation with
  | register n v =>
    cases hc
    exact ⟨v, .validator _ _ _⟩
  | registerSchema n schema =>
    cases hc
    exact ⟨_, .schema _ _ _⟩
  | _ => cases hc

/-- A registry has what the events ask for. -/
structure Keeps (o : Options) (events : List Event) (r : Registry) : Prop where
  get?_iff : ∀ name v, r.get? name = some v ↔ First o events name v
  succeeded_iff : ∀ name, Succeeded events name ↔ ∃ v, r.get? name = some v
  /-- Once a name has been asked for, it is taken. -/
  requested : ∀ name, Requested events name → ∃ v, r.get? name = some v

namespace Keeps

variable {r r' : Registry} {a : Answer}

lemma empty (o : Options) : Keeps o [] Registry.empty where
  get?_iff name v := by
    refine iff_of_false nofun ?_
    rintro ⟨before, e, hb, -⟩
    simp at hb
  succeeded_iff name := iff_of_false nofun nofun
  requested name := nofun

lemma not_succeeded (h : Keeps o events r) (hg : r.get? name = none) :
    ¬ Succeeded events name := by
  rw [h.succeeded_iff, hg]
  exact nofun

/-- A registration that succeeds. -/
lemma add (h : Keeps o events r) (hr : Registers o events c name v) (hg : r.get? name = none)
    (hr' : r.register name v = (.ok (), r')) : Keeps o (events ++ [⟨c, .registered⟩]) r' := by
  have hnew : ¬ Requested events name := by
    intro hq
    obtain ⟨w, hw⟩ := h.requested name hq
    rw [hg] at hw
    cases hw
  have hself := Registry.get?_register_self hr'
  have hother {n : String} (hn : n ≠ name) : r'.get? n = r.get? n := by
    have hget := Registry.get?_register_of_ne hn r v
    rwa [hr'] at hget
  refine ⟨fun n w => ?_, fun n => ?_, fun n => ?_⟩
  · rw [first_concat_iff]
    by_cases hn : n = name
    · subst hn
      rw [hself, ← h.get?_iff, hg, Option.some.injEq]
      exact ⟨fun hw => .inr ⟨hw ▸ hr, hnew⟩, fun hw => by
        rcases hw with hw | ⟨hw, -⟩
        · cases hw
        · exact hw.unique hr⟩
    · rw [hother hn, h.get?_iff]
      exact (or_iff_left fun hw => hn (Option.some.inj (hw.1.newName?_eq.symm.trans
        hr.newName?_eq))).symm
  · rw [succeeded_concat_iff, h.succeeded_iff, hr.newName?_eq, Option.some.injEq]
    by_cases hn : n = name
    · subst hn
      exact iff_of_true (.inr ⟨rfl, rfl⟩) ⟨v, hself⟩
    · rw [hother hn]
      exact or_iff_left fun hw => hn hw.1.symm
  · rw [requested_concat_iff, hr.newName?_eq, Option.some.injEq]
    rintro (hq | rfl)
    · by_cases hn : n = name
      · exact absurd (hn ▸ hq) hnew
      · rw [hother hn]
        exact h.requested n hq
    · exact ⟨v, hself⟩

/-- A call that registers nothing: if it asks for a name, then the name is taken. -/
lemma pass (h : Keeps o events r) (hc : ∀ n, c.operation.newName? = some n → ∃ v, r.get? n = some v)
    (ha : a ≠ .registered) : Keeps o (events ++ [⟨c, a⟩]) r := by
  refine ⟨fun n w => ?_, fun n => ?_, fun n => ?_⟩
  · rw [first_concat_iff, h.get?_iff]
    refine (or_iff_left fun ⟨hw, hq⟩ => hq ?_).symm
    obtain ⟨w', hw'⟩ := hc n hw.newName?_eq
    exact ((h.get?_iff n w').mp hw').requested
  · rw [succeeded_concat_iff, h.succeeded_iff]
    exact or_iff_left fun hw => ha hw.2
  · rw [requested_concat_iff]
    rintro (hq | hq)
    · exact h.requested n hq
    · exact hc n hq

end Keeps

/-- A shared registry after events, which have been answered as they should be. -/
structure Follows (o : Options) (events : List Event) (s : SharedRegistry) : Prop where
  answers : ∀ before e, before ++ [e] <+: events → Answers o before e.call e.answer
  handles : s.handles = optionsAfter o events
  keeps : Keeps o events s.registry

namespace Follows

lemma start (o : Options) : Follows o [] (start o) where
  answers before e hb := by simp at hb
  handles := rfl
  keeps := .empty o

/-- A registration comes to one of two things. -/
lemma step_registers (h : Follows o events s) (hr : Registers o events c name v) :
    (∃ r', s.registry.get? name = none ∧ s.registry.register name v = (.ok (), r') ∧
      s.step c = (.registered, { s with registry := r' })) ∨
    (∃ w, s.registry.get? name = some w ∧ s.step c = (.failed (.duplicateName name), s)) := by
  have hstep : s.step c = (.ofRegistration (s.register name v).1, (s.register name v).2) := by
    cases hr with
    | validator => rfl
    | schema handle name schema =>
      rw [← h.handles]
      rfl
  rw [hstep, SharedRegistry.register]
  cases hg : s.registry.get? name with
  | none =>
    obtain ⟨r', hr', -⟩ := Registry.register_of_get?_eq_none hg v
    rw [hr']
    exact .inl ⟨r', rfl, rfl, rfl⟩
  | some w =>
    rw [Registry.register_of_get?_eq_some hg]
    exact .inr ⟨w, rfl, rfl⟩

lemma lists_names (h : Follows o events s) : Lists events s.registry.names where
  increasing := Registry.pairwise_names _
  mem_iff name := by rw [Registry.mem_names_iff, h.keeps.succeeded_iff]

/-- A call is answered as it should be. -/
lemma answers_step (h : Follows o events s) (c : Call) : Answers o events c (s.step c).1 := by
  cases hc : c.operation.newName? with
  | some name =>
    obtain ⟨v, hr⟩ := exists_registers o events hc
    rcases h.step_registers hr with ⟨r', hg, -, hs⟩ | ⟨w, hg, hs⟩
    · rw [hs]
      exact .registered hc (h.keeps.not_succeeded hg)
    · rw [hs]
      exact .refused hc ((h.keeps.succeeded_iff name).mpr ⟨w, hg⟩)
  | none =>
    obtain ⟨handle, operation⟩ := c
    cases operation with
    | register n v => cases hc
    | registerSchema n schema => cases hc
    | clone =>
      simp only [step, h.handles]
      exact .cloned
    | withOptions o' => exact .optionsSet
    | get n =>
      simp only [step]
      cases hg : s.registry.get? n with
      | none => exact .notFound (h.keeps.not_succeeded hg)
      | some v => exact .found ((h.keeps.get?_iff n v).mp hg)
    | contains n => exact .contained (by rw [Registry.contains_iff, h.keeps.succeeded_iff])
    | names => exact .names h.lists_names
    | size =>
      simp only [step]
      rw [← Registry.length_names]
      exact .size h.lists_names
    | validate n request =>
      simp only [step, Registry.validate]
      cases hg : s.registry.get? n with
      | none => exact .unknown (h.keeps.not_succeeded hg)
      | some v => exact .validated ((h.keeps.get?_iff n v).mp hg)

/-- One call more keeps what the earlier ones have left, and adds what it registers. -/
theorem step (h : Follows o events s) (c : Call) :
    Follows o (events ++ [⟨c, (s.step c).1⟩]) (s.step c).2 := by
  have hanswers : ∀ before e, before ++ [e] <+: events ++ [⟨c, (s.step c).1⟩] →
      Answers o before e.call e.answer := by
    intro before e hb
    rcases List.prefix_concat_iff.mp hb with hb | hb
    · obtain ⟨rfl, he⟩ := List.append_inj' hb rfl
      cases he
      exact h.answers_step c
    · exact h.answers before e hb
  have hhandles : (s.step c).2.handles = optionsAfter o (events ++ [⟨c, (s.step c).1⟩]) := by
    rw [handles_step, h.handles, optionsAfter_concat]
  refine ⟨hanswers, hhandles, ?_⟩
  cases hc : c.operation.newName? with
  | none =>
    obtain ⟨hs, ha⟩ := step_of_newName?_eq_none (s := s) hc
    rw [hs]
    exact h.keeps.pass (fun n hn => absurd (hc.symm.trans hn) nofun) ha
  | some name =>
    obtain ⟨v, hr⟩ := exists_registers o events hc
    rcases h.step_registers hr with ⟨r', hg, hr', hs⟩ | ⟨w, hg, hs⟩
    · rw [hs]
      exact h.keeps.add hr hg hr'
    · rw [hs]
      refine h.keeps.pass (fun n hn => ?_) nofun
      cases hc.symm.trans hn
      exact ⟨w, hg⟩

/-- So do calls one after the other. -/
theorem run (h : Follows o events s) (calls : List Call) :
    Follows o (events ++ (s.run calls).1) (s.run calls).2 := by
  induction calls generalizing events s with
  | nil => rwa [SharedRegistry.run, List.append_nil]
  | cons c calls ih =>
    have := ih (h.step c)
    rwa [List.append_assoc] at this

end Follows

/-! ### The main result -/

lemma calls_run (s : SharedRegistry) (calls : List Call) :
    (s.run calls).1.map Event.call = calls := by
  induction calls generalizing s with
  | nil => rfl
  | cons c calls ih => rw [run, List.map_cons, ih]

lemma run_concat (s : SharedRegistry) (calls : List Call) (c : Call) :
    (s.run (calls ++ [c])).2 = ((s.run calls).2.step c).2 := by
  induction calls generalizing s with
  | nil => rfl
  | cons c' calls ih => exact ih _

/-- In each run the first registration of a name succeeds and stands: all calls, through whatever
handle, are answered accordingly, and a call that fails changes nothing. -/
theorem run_answers (o : Options) (calls : List Call) :
    ((start o).run calls).1.map Event.call = calls ∧
    (∀ before e, before ++ [e] <+: ((start o).run calls).1 → Answers o before e.call e.answer) ∧
    (∀ before c p, before ++ [c] <+: calls → (((start o).run before).2.step c).1 = .failed p →
      ((start o).run (before ++ [c])).2 = ((start o).run before).2) := by
  have h := (Follows.start o).run calls
  rw [List.nil_append] at h
  refine ⟨calls_run _ calls, h.answers, fun before c p _ hp => ?_⟩
  rw [run_concat, step_of_failed hp]

/-- A clone registers a schema with options of its own, and the first handle comes too late. -/
example (schema : Schema) (v : Validator) : ((start Options.standard).run [
    ⟨0, .clone⟩,
    ⟨1, .withOptions ⟨true, true⟩⟩,
    ⟨1, .registerSchema "plum" schema⟩,
    ⟨0, .register "plum" v⟩,
    ⟨0, .get "plum"⟩]).1.map Event.answer = [
    .handle 1,
    .optionsSet,
    .registered,
    .failed (.duplicateName "plum"),
    .validator (some ⟨schema, ⟨true, true⟩⟩)] := by
  rfl

end SharedRegistry

end RequestContract
