import RequestContract.Proofs.Check.Breach
import RequestContract.Proofs.Schema.Resolution

/-!
# Spots of a request

A spot is a value inside a request together with what the schema says of it: the declared field it
belongs to, what is left of the field's type there, and the positions that lead to it through the
lists of the field. From a list of a list type one step leads to each of its elements, and from an
object of a named type one step leads to each member that the type declares. `Schema.Reached` is
what such steps reach from the declared members of an object.
-/

namespace RequestContract

/-- A value inside a request with what the schema says of it. -/
structure Spot where
  /-- The name of the declared field that the value belongs to. -/
  name : String
  /-- The declaration of that field. -/
  field : Field
  /-- What is left of the field's type. -/
  type : FieldType
  /-- The positions that lead to the value through the lists of the field. -/
  indices : List Nat
  /-- The value. -/
  value : Json

namespace Spot

/-- The spot of a declared field. -/
def ofField (name : String) (f : Field) (v : Json) : Spot := ⟨name, f, f.type, [], v⟩

/-- The spot of an element of a list whose elements are of type `t`. -/
def element (a : Spot) (t : FieldType) (i : Nat) (v : Json) : Spot :=
  { a with type := t, indices := a.indices ++ [i], value := v }

/-- How many lists of the field lie around the value. -/
def depth (a : Spot) : Nat := a.indices.length

/-- The text of the positions. -/
def suffix (a : Spot) : String := (Path.mk (a.indices.map .index)).render

/-- What is asked of the value: what is declared, at what is left of the type. Only the value of the
field itself can be required. -/
def config (a : Spot) : Field :=
  { a.field with type := a.type, required := a.field.required && a.indices.isEmpty }

@[simp] lemma config_ofField (name : String) (f : Field) (v : Json) :
    (ofField name f v).config = f := by
  simp [config, ofField]

@[simp] lemma name_ofField (name : String) (f : Field) (v : Json) :
    (ofField name f v).name = name := rfl

@[simp] lemma value_ofField (name : String) (f : Field) (v : Json) :
    (ofField name f v).value = v := rfl

@[simp] lemma depth_ofField (name : String) (f : Field) (v : Json) :
    (ofField name f v).depth = 0 := rfl

@[simp] lemma name_element (a : Spot) (t : FieldType) (i : Nat) (v : Json) :
    (a.element t i v).name = a.name := rfl

@[simp] lemma value_element (a : Spot) (t : FieldType) (i : Nat) (v : Json) :
    (a.element t i v).value = v := rfl

@[simp] lemma depth_element (a : Spot) (t : FieldType) (i : Nat) (v : Json) :
    (a.element t i v).depth = a.depth + 1 := by
  simp [depth, element]

/-- What `Field.element?` says is asked of all elements of a list. -/
lemma exists_element? {a : Spot} {t : FieldType} (ht : a.type = .array t) :
    ∃ e, a.config.element? = some e ∧ ∀ i v, (a.element t i v).config = e := by
  have hc : a.config.element? = some { a.config with type := t, required := false } := by
    simp [config, Field.element?, ht, FieldType.element?]
  refine ⟨_, hc, fun i v => ?_⟩
  simp [config, element]

/-! ### Places -/

/-- The positions at the end of the path are those of the spot. -/
def At (a : Spot) (p : Path) : Prop := p.indexSuffix = ⟨a.indices.map .index⟩

lemma At.suffix_eq {a : Spot} {p : Path} (h : a.At p) : p.indexSuffix.render = a.suffix := by
  rw [h, suffix]

lemma at_ofField (k : String) (f : Field) (v : Json) (p : Path) :
    (ofField k f v).At (p.push (.property k)) := by
  rw [At, Path.indexSuffix_push_property]
  rfl

lemma At.element {a : Spot} {p : Path} (h : a.At p) (t : FieldType) (i : Nat) (v : Json) :
    (a.element t i v).At (p.push (.index i)) := by
  rw [At, Path.indexSuffix_push_index, h]
  simp [Path.push, Spot.element]

end Spot

/-! ### Steps -/

namespace Schema

variable {s : Schema} {r : RecordType} {ms : List (String × Json)}

/-- The spots one step further in: the elements of a list of a list type, and the declared members
of an object of a named type. -/
inductive Step (s : Schema) : Spot → Path.Component → Spot → Prop
  | element {a : Spot} {t : FieldType} {items : List Json} {i : Nat} {v : Json}
      (ht : a.type = .array t) (hv : a.value = .array items) (hi : items[i]? = some v) :
      Step s a (.index i) (a.element t i v)
  | member {a : Spot} {n : String} {r : RecordType} {ms : List (String × Json)} {k : String}
      {f : Field} {v : Json} (ht : a.type = .named n) (hr : s.type? n = some r)
      (hv : a.value = .object ms) (hk : (k, v) ∈ ms) (hf : r.get? k = some f) :
      Step s a (.property k) (.ofField k f v)

/-- The spots that any number of steps reach from a spot, with the way. -/
inductive Reaches (s : Schema) : Spot → List Path.Component → Spot → Prop
  | here (a : Spot) : Reaches s a [] a
  | step {a b e : Spot} {c : Path.Component} {q : List Path.Component} (hs : s.Step a c b)
      (h : Reaches s b q e) : Reaches s a (c :: q) e

/-- The spots inside an object of the type `r`, with the way: its declared members, and from each
spot those one step further in. -/
inductive Reached (s : Schema) (r : RecordType) (ms : List (String × Json)) :
    List Path.Component → Spot → Prop
  | field {k : String} {f : Field} {v : Json} (hk : (k, v) ∈ ms) (hf : r.get? k = some f) :
      Reached s r ms [.property k] (.ofField k f v)
  | step {q : List Path.Component} {c : Path.Component} {a b : Spot} (h : Reached s r ms q a)
      (hs : s.Step a c b) : Reached s r ms (q ++ [c]) b

lemma Reaches.snoc {a b e : Spot} {c : Path.Component} {q : List Path.Component}
    (h : s.Reaches a q b) (hs : s.Step b c e) : s.Reaches a (q ++ [c]) e := by
  induction h with
  | here a => exact .step hs (.here e)
  | step hs' _ ih => exact .step hs' (ih hs)

lemma Reached.reaches {a b : Spot} {q q' : List Path.Component} (h : s.Reached r ms q a)
    (hr : s.Reaches a q' b) : s.Reached r ms (q ++ q') b := by
  induction hr generalizing q with
  | here a => rwa [List.append_nil]
  | step hs _ ih =>
    have := ih (h.step hs)
    rwa [List.append_assoc] at this

/-- A spot is reached through one declared member. -/
lemma reached_iff {q : List Path.Component} {e : Spot} :
    s.Reached r ms q e ↔ ∃ k f v q', (k, v) ∈ ms ∧ r.get? k = some f ∧
      q = .property k :: q' ∧ s.Reaches (.ofField k f v) q' e := by
  constructor
  · intro h
    induction h with
    | field hk hf => exact ⟨_, _, _, [], hk, hf, rfl, .here _⟩
    | step _ hs ih =>
      obtain ⟨k, f, v, q', hk, hf, rfl, h⟩ := ih
      exact ⟨k, f, v, _, hk, hf, rfl, h.snoc hs⟩
  · rintro ⟨k, f, v, q', hk, hf, rfl, h⟩
    exact (Reached.field hk hf).reaches h

end Schema

/-! ### An orchard -/

/-- A body in which not all is as declared: its one row has two trees, the first of an unknown kind
and with a branch that has no tree and too long a name, the second not a tree at all. -/
def Orchard.members : List (String × Json) :=
  [("rows", .array [.array [
      .object [("kind", .string "plum"), ("branches", .array [.object [("name", .string "leaf")]])],
      .number (.integer 7)]]),
    ("owner", .null)]

lemma Orchard.distinctKeys_members : (Json.object members).DistinctKeys := by
  simp [members, Json.DistinctKeys, Json.DistinctKeysItems, Json.DistinctKeysMembers]

end RequestContract
