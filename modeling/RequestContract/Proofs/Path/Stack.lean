import RequestContract.Proofs.Path

/-!
# Paths as stacks

A path grows and shrinks at its inner end, one step at a time or several at once. Each operation
stands for moves of a plain stack (`Operation.moves`). One operation makes all of its moves, or it
fails and makes none of them (`step_eq`), so after any operations a path is what a plain stack
becomes by the moves of those that did not fail (`perform_run`).

Single steps are not like that: asked for too many, they take off all there are before the first of
them fails (`run_replicate_pop`). Up to there they do what `popMany` does.
-/

namespace RequestContract

/-! ### Plain stacks -/

namespace Stack

variable {α : Type}

/-- What is done to a plain stack. -/
inductive Move (α : Type) where
  | push (a : α)
  | pop

/-- What a plain stack, its top first, gives in the course of moves, and what it is after them. An
empty one has nothing to give. -/
def perform : List α → List (Move α) → Option (List α × List α)
  | s, [] => some ([], s)
  | s, .push a :: ms => perform (a :: s) ms
  | [], .pop :: _ => none
  | a :: s, .pop :: ms => (perform s ms).map fun (given, t) => (a :: given, t)

lemma perform_append {s given t : List α} {ms : List (Move α)}
    (h : perform s ms = some (given, t)) (ns : List (Move α)) :
    perform s (ms ++ ns) = (perform t ns).map fun (more, u) => (given ++ more, u) := by
  induction ms generalizing s given with
  | nil =>
    cases h
    simp
  | cons m ms ih =>
    cases m with
    | push a => exact ih h
    | pop =>
      cases s with
      | nil => cases h
      | cons a s =>
        obtain ⟨⟨given, t⟩, hs, heq⟩ := Option.map_eq_some_iff.mp h
        cases heq
        rw [List.cons_append, perform, ih hs, Option.map_map]
        rfl

lemma perform_map_push (s as : List α) :
    perform s (as.map .push) = some ([], as.reverse ++ s) := by
  induction as generalizing s with
  | nil => rfl
  | cons a as ih => rw [List.map_cons, perform, ih, List.reverse_cons, List.append_cons]

lemma perform_replicate_pop (s : List α) (n : Nat) :
    perform s (List.replicate n .pop)
      = if n ≤ s.length then some (s.take n, s.drop n) else none := by
  induction n generalizing s with
  | zero => simp [perform]
  | succ n ih =>
    cases s with
    | nil => rfl
    | cons a s =>
      rw [List.replicate_succ, perform, ih, List.length_cons]
      by_cases h : n ≤ s.length
      · rw [if_pos h, if_pos (Nat.succ_le_succ h)]
        rfl
      · rw [if_neg h, if_neg (mt Nat.le_of_succ_le_succ h)]
        rfl

end Stack

namespace Path

variable (p : Path)

/-- The steps of a path as a stack, the innermost on top. -/
def stack : List Component := p.components.reverse

/-- The path of which a stack has the steps. -/
def ofStack (s : List Component) : Path := ⟨s.reverse⟩

@[simp] lemma stack_ofStack (s : List Component) : (ofStack s).stack = s :=
  List.reverse_reverse s

@[simp] lemma ofStack_stack : ofStack p.stack = p :=
  congrArg mk (List.reverse_reverse p.components)

@[simp] lemma length_stack : p.stack.length = p.length := List.length_reverse

/-! ### Single steps and several at once -/

lemma stack_push (c : Component) : (p.push c).stack = c :: p.stack := List.reverse_concat

lemma stack_pushMany (cs : List Component) :
    (p.pushMany cs).stack = cs.reverse ++ p.stack := List.reverse_append

lemma pushMany_eq_foldl (cs : List Component) : p.pushMany cs = cs.foldl push p := by
  induction cs generalizing p with
  | nil => exact p.pushMany_nil
  | cons c cs ih => rw [pushMany_cons, ih, List.foldl_cons]

lemma pop_ofStack_cons (c : Component) (s : List Component) :
    (ofStack (c :: s)).pop = (.ok c, ofStack s) := by
  simp [pop, ofStack]

variable {p} {n : Nat}

lemma popMany_of_le (h : n ≤ p.length) :
    p.popMany n = (.ok (p.stack.take n), ofStack (p.stack.drop n)) := by
  rw [popMany, if_neg (Nat.not_lt.mpr h), stack, List.take_reverse, List.drop_reverse, ofStack,
    List.reverse_reverse]
  rfl

lemma popMany_of_lt (h : p.length < n) : p.popMany n = (.error ⟨n, p.length⟩, p) := if_pos h

/-! ### Operations -/

/-- What may be done to a path. -/
inductive Operation where
  | push (c : Component)
  | pop
  | pushMany (cs : List Component)
  | popMany (n : Nat)

/-- The moves of a plain stack that an operation stands for. -/
def Operation.moves : Operation → List (Stack.Move Component)
  | push c => [.push c]
  | pop => [.pop]
  | pushMany cs => cs.map .push
  | popMany n => List.replicate n .pop

/-- How many steps an operation is to take off. -/
def Operation.requested : Operation → Nat
  | pop => 1
  | popMany n => n
  | _ => 0

/-- What an operation answers: the steps that it has taken off, from the inside out, or that there
are fewer than were to be taken off. -/
abbrev Answer := Except PathUnderflow (List Component)

/-- An operation and its answer. -/
structure Event where
  /-- The operation. -/
  operation : Operation
  /-- What was answered. -/
  answer : Answer

/-- The steps that were taken off. -/
def Event.given (e : Event) : List Component := e.answer.toOption.getD []

/-- The moves of the operations that did not fail. -/
def movesMade (es : List Event) : List (Stack.Move Component) :=
  (es.filter fun e => e.answer.isOk).flatMap fun e => e.operation.moves

/-- One operation: the answer, and the path after it. -/
def step (p : Path) : Operation → Answer × Path
  | .push c => (.ok [], p.push c)
  | .pop =>
    let (a, q) := p.pop
    (a.map fun c => [c], q)
  | .pushMany cs => (.ok [], p.pushMany cs)
  | .popMany n => p.popMany n

/-- Operations one after the other: what was asked and answered, and the path after them. -/
def run (p : Path) : List Operation → List Event × Path
  | [] => ([], p)
  | op :: ops =>
    let (a, q) := p.step op
    let (es, r) := q.run ops
    (⟨op, a⟩ :: es, r)

/-- An operation makes all of its moves, or it fails and the path stays as it is. -/
theorem step_eq (p : Path) (op : Operation) :
    p.step op =
      match Stack.perform p.stack op.moves with
      | some (given, s) => (.ok given, ofStack s)
      | none => (.error ⟨op.requested, p.length⟩, p) := by
  cases op with
  | push c =>
    rw [Operation.moves, Stack.perform, Stack.perform, ← stack_push, step]
    simp only [ofStack_stack]
  | pop =>
    obtain ⟨s, rfl⟩ : ∃ s, p = ofStack s := ⟨p.stack, p.ofStack_stack.symm⟩
    rw [stack_ofStack, step]
    cases s with
    | nil => rfl
    | cons c s =>
      rw [pop_ofStack_cons]
      rfl
  | pushMany cs =>
    rw [Operation.moves, Stack.perform_map_push, ← stack_pushMany, step]
    simp only [ofStack_stack]
  | popMany n =>
    rw [Operation.moves, Stack.perform_replicate_pop, length_stack, step]
    by_cases h : n ≤ p.length
    · rw [if_pos h, popMany_of_le h]
    · rw [if_neg h, popMany_of_lt (Nat.lt_of_not_le h)]
      rfl

lemma operation_run (p : Path) (ops : List Operation) :
    (p.run ops).1.map Event.operation = ops := by
  induction ops generalizing p with
  | nil => rfl
  | cons op ops ih => rw [run, List.map_cons, ih]

/-- After operations a path is what a plain stack becomes by the moves of those that did not
fail, and what it has given on the way is what they have taken off. -/
theorem perform_run (p : Path) (ops : List Operation) :
    Stack.perform p.stack (movesMade (p.run ops).1)
      = some ((p.run ops).1.flatMap Event.given, (p.run ops).2.stack) := by
  induction ops generalizing p with
  | nil => rfl
  | cons op ops ih =>
    rw [run, step_eq]
    cases h : Stack.perform p.stack op.moves with
    | none =>
      -- the operation is left out, and the path is as it was
      exact ih p
    | some x =>
      obtain ⟨given, s⟩ := x
      have hs := ih (ofStack s)
      rw [stack_ofStack] at hs
      rw [movesMade, List.filter_cons_of_pos rfl, List.flatMap_cons, Stack.perform_append h,
        ← movesMade, hs]
      rfl

/-- Taken off one by one, the steps come off until none is left, and only then the others fail. -/
lemma run_replicate_pop (s : List Component) (n : Nat) :
    (ofStack s).run (List.replicate n .pop) =
      ((s.take n).map (fun c => ⟨.pop, .ok [c]⟩) ++
        List.replicate (n - s.length) ⟨.pop, .error ⟨1, 0⟩⟩, ofStack (s.drop n)) := by
  induction n generalizing s with
  | zero => simp [run]
  | succ n ih =>
    rw [List.replicate_succ, run, step_eq, stack_ofStack]
    cases s with
    | nil =>
      -- nothing is left, so this one fails, and all that come after it
      have hfail := ih []
      rw [List.take_nil, List.drop_nil, List.length_nil, Nat.sub_zero] at hfail
      rw [Operation.moves, Stack.perform]
      simp only [hfail]
      rfl
    | cons c s =>
      rw [Operation.moves, Stack.perform, Stack.perform]
      simp only [Option.map_some, ih, List.length_cons, Nat.add_sub_add_right]
      rfl

lemma run_pops_of_le (h : n ≤ p.length) :
    p.run (List.replicate n .pop)
      = ((p.stack.take n).map fun c => ⟨.pop, .ok [c]⟩, ofStack (p.stack.drop n)) := by
  have hpops := run_replicate_pop p.stack n
  rwa [ofStack_stack, length_stack, Nat.sub_eq_zero_of_le h, List.replicate_zero,
    List.append_nil] at hpops

lemma run_pops_of_lt (h : p.length < n) : (p.run (List.replicate n .pop)).2 = root := by
  have hpops := run_replicate_pop p.stack n
  have hlength : p.stack.length ≤ n := by
    rw [length_stack]
    exact Nat.le_of_lt h
  rw [ofStack_stack, List.drop_of_length_le hlength] at hpops
  rw [hpops]
  rfl

/-- Several steps are put on a path as if one by one. They are taken off as if one by one when there
are as many; when there are not, none is taken off, where one by one all there are would be. So
after any operations a path is what a plain stack becomes by the moves of those that did not
fail. -/
theorem pushMany_popMany_and_perform_run (p : Path) :
    (∀ cs, p.pushMany cs = cs.foldl push p) ∧
    (∀ n ≤ p.length, ∃ cs q, p.popMany n = (.ok cs, q) ∧
      p.run (List.replicate n .pop) = (cs.map fun c => ⟨.pop, .ok [c]⟩, q)) ∧
    (∀ n, p.length < n → p.popMany n = (.error ⟨n, p.length⟩, p) ∧
      (p.run (List.replicate n .pop)).2 = root) ∧
    ∀ ops, (p.run ops).1.map Event.operation = ops ∧
      Stack.perform p.stack (movesMade (p.run ops).1)
        = some ((p.run ops).1.flatMap Event.given, (p.run ops).2.stack) := by
  refine ⟨p.pushMany_eq_foldl, fun n h => ?_, fun n h => ?_, fun ops => ?_⟩
  · exact ⟨p.stack.take n, ofStack (p.stack.drop n), popMany_of_le h, run_pops_of_le h⟩
  · exact ⟨popMany_of_lt h, run_pops_of_lt h⟩
  · exact ⟨p.operation_run ops, p.perform_run ops⟩

/-- A path of three steps. -/
def beds : Path := ⟨[.property "plot", .property "beds", .index 4]⟩

/-- Two steps can be taken off at once, but not five; and after five that were too many, the others
go on from where the path was. -/
theorem pushMany_popMany_and_perform_run_beds :
    (2 ≤ beds.length ∧ beds.popMany 2 = (.ok [.index 4, .property "beds"], ofProperty "plot") ∧
      beds.run [.pop, .pop] = ([⟨.pop, .ok [.index 4]⟩, ⟨.pop, .ok [.property "beds"]⟩],
        ofProperty "plot")) ∧
    (beds.length < 5 ∧ beds.popMany 5 = (.error ⟨5, 3⟩, beds) ∧
      (beds.run (List.replicate 5 .pop)).2 = root) ∧
    Stack.perform [.index 4, .property "beds", .property "plot"] [.push (.index 1), .pop, .pop] =
      some ([.index 1, .index 4],
        (beds.run [.popMany 5, .push (.index 1), .popMany 2]).2.stack) := by
  obtain ⟨-, hle, hlt, hrun⟩ := pushMany_popMany_and_perform_run beds
  have htwo : 2 ≤ beds.length := by decide
  have hfive : beds.length < 5 := by decide
  refine ⟨⟨htwo, rfl, ?_⟩, ⟨hfive, hlt 5 hfive⟩,
    (hrun [.popMany 5, .push (.index 1), .popMany 2]).2⟩
  obtain ⟨cs, q, hpopped, hpops⟩ := hle 2 htwo
  cases hpopped
  exact hpops

end Path

end RequestContract
