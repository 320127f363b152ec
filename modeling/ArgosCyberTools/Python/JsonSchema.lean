import ArgosCyberTools.Python.Value

/-!
# JSON Schema, draft 2020-12

The assertion keywords of draft 2020-12 used by tool schemas, with the
semantics `jsonschema` gives them.  A keyword says nothing about a value of
another type: `required` accepts every non-object, `pattern` every
non-string.  A schema with several keywords is their conjunction.
-/

namespace Python

/-- The values of the keyword `type`. -/
inductive SchemaType where
  | object
  | array
  | string
  | boolean
  | integer
deriving DecidableEq

/-- The literals `enum` and `const` compare with. -/
inductive SchemaLiteral where
  | str (value : PyStr)
  | bool (value : Bool)
deriving DecidableEq

inductive Schema where
  | type (kind : SchemaType)
  | enum (values : List SchemaLiteral)
  | const (value : SchemaLiteral)
  | pattern (search : PyStr → Bool)
  | minimum (bound : Int)
  | maximum (bound : Int)
  | minItems (count : Nat)
  | items (schema : Schema)
  | contains (schema : Schema)
  | required (keys : List PyStr)
  | properties (schemas : List (PyStr × Schema))
  /-- `additionalProperties: false` next to these `properties`. -/
  | onlyProperties (keys : List PyStr)
  | allOf (schemas : List Schema)
  /-- `if` and `then`. -/
  | implies (condition consequence : Schema)

/-- Equality with a literal; a boolean never equals a number. -/
def SchemaLiteral.equals (literal : SchemaLiteral) (value : Json) : Bool :=
  match literal, value with
  | .str expected, .str held => held = expected
  | .bool expected, .bool held => held = expected
  | _, _ => false

/-- A float with an integral value is an integer, a boolean is not. -/
def SchemaType.describes (kind : SchemaType) (value : Json) : Bool :=
  match kind, value with
  | .object, .dict _ => true
  | .array, .list _ => true
  | .string, .str _ => true
  | .boolean, .bool _ => true
  | .integer, .int _ => true
  | .integer, .float held => held.value.den = 1
  | _, _ => false

mutual

/-- `validator.is_valid(value)`. -/
def Schema.accepts : Schema → Json → Bool
  | .type kind, value => kind.describes value
  | .enum values, value => values.any (·.equals value)
  | .const expected, value => expected.equals value
  | .pattern search, value =>
      match value with
      | .str text => search text
      | _ => true
  | .minimum bound, value =>
      match value with
      | .int held => bound ≤ held
      | .float held => (bound : ℚ) ≤ held.value
      | _ => true
  | .maximum bound, value =>
      match value with
      | .int held => held ≤ bound
      | .float held => held.value ≤ (bound : ℚ)
      | _ => true
  | .minItems count, value =>
      match value with
      | .list elements => count ≤ elements.length
      | _ => true
  | .items schema, value =>
      match value with
      | .list elements => elements.all schema.accepts
      | _ => true
  | .contains schema, value =>
      match value with
      | .list elements => elements.any schema.accepts
      | _ => true
  | .required keys, value =>
      match value with
      | .dict entries =>
          keys.all fun key => (PyDict.lookupIn key entries).isSome
      | _ => true
  | .properties schemas, value =>
      match value with
      | .dict entries => Schema.acceptsProperties schemas entries
      | _ => true
  | .onlyProperties keys, value =>
      match value with
      | .dict entries => entries.all fun entry => entry.1 ∈ keys
      | _ => true
  | .allOf schemas, value => Schema.acceptsAll schemas value
  | .implies condition consequence, value =>
      !condition.accepts value || consequence.accepts value

def Schema.acceptsAll : List Schema → Json → Bool
  | [], _ => true
  | schema :: rest, value =>
      schema.accepts value && Schema.acceptsAll rest value

def Schema.acceptsProperties :
    List (PyStr × Schema) → List (PyStr × Json) → Bool
  | [], _ => true
  | (key, schema) :: rest, entries =>
      (match PyDict.lookupIn key entries with
        | none => true
        | some value => schema.accepts value) &&
        Schema.acceptsProperties rest entries

end

/-! ## What acceptance says -/

@[simp]
theorem SchemaLiteral.equals_str_iff (expected : PyStr) (value : Json) :
    (SchemaLiteral.str expected).equals value = true ↔
      value = .str expected := by
  cases value <;> simp [SchemaLiteral.equals]

@[simp]
theorem SchemaLiteral.equals_bool_iff (expected : Bool) (value : Json) :
    (SchemaLiteral.bool expected).equals value = true ↔
      value = .bool expected := by
  cases value <;> simp [SchemaLiteral.equals]

theorem Schema.acceptsAll_iff (schemas : List Schema) (value : Json) :
    Schema.acceptsAll schemas value = true ↔
      ∀ schema ∈ schemas, schema.accepts value = true := by
  induction schemas with
  | nil => simp [Schema.acceptsAll]
  | cons schema rest induction => simp [Schema.acceptsAll, induction]

theorem Schema.accepts_of_mem_allOf {schemas : List Schema}
    {schema : Schema} {value : Json}
    (accepted : (Schema.allOf schemas).accepts value = true)
    (member : schema ∈ schemas) : schema.accepts value = true :=
  (Schema.acceptsAll_iff schemas value).mp
    (by simpa [Schema.accepts] using accepted) schema member

/-- Every present property satisfies its schema. -/
theorem Schema.acceptsProperties_iff (schemas : List (PyStr × Schema))
    (entries : List (PyStr × Json)) :
    Schema.acceptsProperties schemas entries = true ↔
      ∀ key schema, (key, schema) ∈ schemas →
        ∀ value, PyDict.lookupIn key entries = some value →
          schema.accepts value = true := by
  induction schemas with
  | nil => simp [Schema.acceptsProperties]
  | cons property rest induction =>
      obtain ⟨name, schema⟩ := property
      simp only [Schema.acceptsProperties, Bool.and_eq_true, induction,
        List.mem_cons, Prod.mk.injEq]
      constructor
      · rintro ⟨head, tail⟩ key wanted (⟨rfl, rfl⟩ | member) value found
        · simpa [found] using head
        · exact tail key wanted member value found
      · intro all
        refine ⟨?_, fun key wanted member => all key wanted (.inr member)⟩
        cases found : PyDict.lookupIn name entries with
        | none => rfl
        | some value =>
            exact all name schema (.inl ⟨rfl, rfl⟩) value found

theorem Schema.accepts_property {schemas : List (PyStr × Schema)}
    {entries : List (PyStr × Json)} {key : PyStr} {schema : Schema}
    {value : Json}
    (accepted :
      (Schema.properties schemas).accepts (.dict entries) = true)
    (member : (key, schema) ∈ schemas)
    (found : PyDict.lookupIn key entries = some value) :
    schema.accepts value = true :=
  (Schema.acceptsProperties_iff schemas entries).mp
    (by simpa [Schema.accepts] using accepted) key schema member value found

end Python
