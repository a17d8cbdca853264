import RequestContract.Schema.Basic
import RequestContract.Schema.Problem

/-!
# From a declaration to a schema

A declaration makes a schema if nothing is wrong with it; otherwise every problem is reported, in
the order of declaration. A reference may point forwards, backwards or to its own type. The fields
of a type with a reserved name are not looked at, and of a field whose type text cannot be read
nothing else is reported.
-/

namespace RequestContract

namespace SchemaDecl

/-- The names that a field may refer to. -/
def declaredNames (d : SchemaDecl) : List String :=
  d.types.keys.filter fun n => !FieldType.reservedNames.contains n

/-- A reference to a name that is not declared. -/
def referenceProblems (declared : List String) (owner field : String) (t : FieldType) :
    List SchemaProblem :=
  match t.reference? with
  | some n => if declared.contains n then [] else [.unknownType owner field n]
  | none => []

/-- An enum without values. -/
def enumProblems (owner field : String) (t : FieldType) (f : FieldDecl) : List SchemaProblem :=
  if t.innermost.isEnum && (f.values.getD []).isEmpty then [.missingEnumValues owner field] else []

/-- An empty range. -/
def rangeProblems (owner field : String) (f : FieldDecl) : List SchemaProblem :=
  match f.range with
  | some r => if r.isInverted then [.emptyRange owner field r] else []
  | none => []

/-- The problems of a field. -/
def fieldProblems (declared : List String) (owner field : String) (f : FieldDecl) :
    List SchemaProblem :=
  match FieldType.ofText? f.typeText with
  | none => [.malformedType owner field f.typeText]
  | some t =>
    referenceProblems declared owner field t ++ enumProblems owner field t f
      ++ rangeProblems owner field f

/-- The problems of a type. -/
def typeProblems (declared : List String) (name : String) (t : TypeDecl) : List SchemaProblem :=
  if FieldType.reservedNames.contains name then [.reservedTypeName name]
  else t.entries.flatMap fun e => fieldProblems declared name e.1 e.2

/-- All problems of a declaration, in its order. -/
def problems (d : SchemaDecl) : List SchemaProblem :=
  d.types.entries.flatMap fun e => typeProblems d.declaredNames e.1 e.2

/-- The fields of a type whose type text can be read. -/
def resolveType (t : TypeDecl) : RecordType :=
  t.filterMap fun _ f => (FieldType.ofText? f.typeText).map (Field.ofDecl · f)

/-- The schema of a declaration, if there are no problems. -/
def resolve (d : SchemaDecl) : Except SchemaProblems Schema :=
  match NonEmptyList.ofList? d.problems with
  | some ps => .error ps
  | none => .ok ⟨d.types.filterMap fun _ t => some (resolveType t)⟩

/-! ### When a declaration resolves -/

theorem resolve_eq_error_iff {d : SchemaDecl} {ps : SchemaProblems} :
    d.resolve = .error ps ↔ d.problems = ps.toList := by
  unfold resolve
  cases h : NonEmptyList.ofList? d.problems with
  | none =>
    rw [NonEmptyList.ofList?_eq_none_iff] at h
    simp [h, NonEmptyList.toList]
  | some qs =>
    rw [NonEmptyList.ofList?_eq_some_iff] at h
    rw [h]
    cases ps
    cases qs
    simp [NonEmptyList.toList]

end SchemaDecl

end RequestContract
