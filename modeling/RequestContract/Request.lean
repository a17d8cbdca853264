import RequestContract.Schema.Basic

/-!
# Requests

A request gives, for each category, the members of an object or nothing. It is put together category
by category, the last word counting, or read from a JSON object that has the categories as keys. A
value that is no object counts as nothing.

Each category has a reader and a setter under its own name. They do the same to different
categories, so what they do is defined once, for any category (`part`, `withValue`).
-/

namespace RequestContract

/-- The parts of a request. -/
structure Request where
  /-- The members of a category, if the request has it. -/
  part : Category → Option (List (String × Json))

namespace Request

/-- The request without parts. -/
def empty : Request := ⟨fun _ => none⟩

instance : Inhabited Request := ⟨empty⟩

/-- The request with other contents of a category. -/
def withPart (r : Request) (c : Category) (ms : Option (List (String × Json))) : Request :=
  ⟨fun d => if d = c then ms else r.part d⟩

/-- The request with a value for a category. -/
def withValue (r : Request) (c : Category) (v : Json) : Request := r.withPart c v.members?

/-- The request with an object for a category. -/
def withMembers (r : Request) (c : Category) (ms : List (String × Json)) : Request :=
  r.withPart c (some ms)

/-! ### The categories by name -/

/-- The members of the body. -/
def body (r : Request) : Option (List (String × Json)) := r.part .body

/-- The members of the cookies. -/
def cookies (r : Request) : Option (List (String × Json)) := r.part .cookies

/-- The members of the headers. -/
def headers (r : Request) : Option (List (String × Json)) := r.part .headers

/-- The members of the route parameters. -/
def params (r : Request) : Option (List (String × Json)) := r.part .params

/-- The members of the query. -/
def query (r : Request) : Option (List (String × Json)) := r.part .query

/-- Looks a category up with the reader of its name. -/
def category (r : Request) : Category → Option (List (String × Json))
  | .body => r.body
  | .cookies => r.cookies
  | .headers => r.headers
  | .params => r.params
  | .query => r.query

/-- The request with a value for the body. -/
def withBody (r : Request) (v : Json) : Request := r.withValue .body v

/-- The request with a value for the cookies. -/
def withCookies (r : Request) (v : Json) : Request := r.withValue .cookies v

/-- The request with a value for the headers. -/
def withHeaders (r : Request) (v : Json) : Request := r.withValue .headers v

/-- The request with a value for the route parameters. -/
def withParams (r : Request) (v : Json) : Request := r.withValue .params v

/-- The request with a value for the query. -/
def withQuery (r : Request) (v : Json) : Request := r.withValue .query v

/-! ### Requests as JSON -/

/-- The request that a JSON value describes. -/
def ofJson (v : Json) : Request := ⟨fun c => (v.member? c.name).bind Json.members?⟩

/-! ### Parts -/

@[simp] theorem category_eq_part (r : Request) (c : Category) : r.category c = r.part c := by
  cases c <;> rfl

@[simp] theorem part_withPart_self (r : Request) (c : Category)
    (ms : Option (List (String × Json))) : (r.withPart c ms).part c = ms := by
  simp [withPart]

theorem part_withPart_of_ne {c d : Category} (h : d ≠ c) (r : Request)
    (ms : Option (List (String × Json))) : (r.withPart c ms).part d = r.part d := by
  simp [withPart, h]

end Request

end RequestContract
