import Schemata.MetaSchema.Rule
import Schemata.OpenApi.Component
import Schemata.Proofs.Document
/-!
# Examples and the types they are declared with

The example of a field is the first of its choices, or else made up from its type and name.  What is
made up has the type that the schema of the field declares, and so have the items of a list.
Choices are taken as they are: nothing asks them to have the type of their field.

* `Declares`, `Fits`: a value has the type that a schema declares, its items the one declared for
  items.
* `fits_propertySchema_iff`: which values fit the schema of a field.
* `fits_typeExample`: what is made up fits.
* `example_fits_iff`: the example fits exactly if the first choice does, where there is one.
* `example_unfit`: a choice that does not.
-/

namespace Schemata

open MetaSchema (TypeName)

/-! ## 1. Declared types -/

/-- A value of the type that a schema declares.  An integer is a number as well; `whole` says
whether a floating-point number without a fraction is an integer. -/
def Declares (whole : Bool) (schema v : Value) : Prop :=
  ∃ t : TypeName, schema.get? "type" = some (.str t.text) ∧ t.holds whole v = true

/-- A value that has the type that a schema declares, the items of a list having the one that it
declares for items. -/
structure Fits (whole : Bool) (schema v : Value) : Prop where
  type : Declares whole schema v
  items : ∀ vs, v = .list vs →
    ∃ itemSchema, schema.get? "items" = some itemSchema ∧ ∀ w ∈ vs, Declares whole itemSchema w

/-- The name of a type of JSON. -/
def JsonType.typeName : JsonType → TypeName
  | string => .string
  | integer => .integer
  | number => .number
  | boolean => .boolean
  | array => .array
  | object => .object

theorem JsonType.text_typeName (t : JsonType) : t.typeName.text = t.name := by
  cases t <;> rfl

theorem MetaSchema.TypeName.text_inj {t u : TypeName} (h : t.text = u.text) : t = u := by
  cases t <;> cases u <;> first | rfl | exact absurd h (by decide)

/-! ## 2. The schema of a field -/

namespace OpenApi

theorem get?_type (f : Field) :
    (propertySchema f).get? "type" = some (.str f.kind.componentType.typeName.text) := by
  rw [JsonType.text_typeName]
  simp [propertySchema, propertyHead, Value.get?_obj, List.lookup_cons]

/-- The schema of the items of an array. -/
def textItems : Value := .obj [("type", .str "string")]

theorem get?_items {f : Field} (h : f.kind = .array) :
    (propertySchema f).get? "items" = some textItems := by
  simp [propertySchema, propertyHead, typeLimits, h, FieldType.componentFormat, FieldType.isText,
    FieldType.isNumeric, given, Value.get?_obj, List.lookup_cons, textItems]

theorem declares_textItems {whole : Bool} {w : Value} :
    Declares whole textItems w ↔ ∃ s, w = .str s := by
  have hdeclared : textItems.get? "type" = some (.str TypeName.string.text) := rfl
  constructor
  · rintro ⟨t, ht, hw⟩
    rw [hdeclared, Option.some.injEq] at ht
    obtain rfl : TypeName.string = t := TypeName.text_inj (by simpa using ht)
    unfold TypeName.holds at hw
    split at hw <;> simp_all
  · rintro ⟨s, rfl⟩
    exact ⟨.string, hdeclared, rfl⟩

/-- The values that are of the type of a field, a list being one of texts. -/
def IsOfKind (whole : Bool) (kind : FieldType) (v : Value) : Prop :=
  kind.componentType.typeName.holds whole v = true ∧ ∀ vs, v = .list vs → ∀ w ∈ vs, ∃ s, w = .str s

theorem componentType_of_list {whole : Bool} {kind : FieldType} {vs : List Value}
    (h : kind.componentType.typeName.holds whole (.list vs) = true) : kind = .array := by
  cases kind <;> first | rfl | cases h

/-- **What fits the schema of a field** is what has its type. -/
theorem fits_propertySchema_iff {whole : Bool} {f : Field} {v : Value} :
    Fits whole (propertySchema f) v ↔ IsOfKind whole f.kind v := by
  constructor
  · rintro ⟨⟨t, ht, hv⟩, hitems⟩
    rw [get?_type, Option.some.injEq] at ht
    obtain rfl := TypeName.text_inj (by simpa using ht)
    refine ⟨hv, ?_⟩
    rintro vs rfl w hw
    obtain ⟨itemSchema, hschema, hall⟩ := hitems vs rfl
    rw [get?_items (componentType_of_list hv)] at hschema
    cases hschema
    exact declares_textItems.mp (hall w hw)
  · rintro ⟨hv, htexts⟩
    refine ⟨⟨_, get?_type f, hv⟩, ?_⟩
    rintro vs rfl
    exact ⟨textItems, get?_items (componentType_of_list hv),
      fun w hw => declares_textItems.mpr (htexts vs rfl w hw)⟩

/-! ## 3. Examples -/

/-- What is made up from the type and the name of a field is of its type. -/
theorem isOfKind_typeExample (whole : Bool) (f : Field) (stamp : String) :
    IsOfKind whole f.kind (typeExample f stamp) := by
  unfold typeExample
  cases f.kind with
  | array =>
    refine ⟨rfl, fun vs hvs w hw => ?_⟩
    cases hvs
    exact ⟨"sample", List.mem_singleton.mp hw⟩
  | string | text | email | url | number | integer | int | float | decimal | double | boolean | bool
  | date | datetime | timestamp | json | object | unknown =>
    exact ⟨rfl, fun vs hvs => by cases hvs⟩

/-- The first choice of a field. -/
def firstChoice? (f : Field) : Option Value := f.rules.choices.bind List.head?

theorem exampleValue_eq_getD (f : Field) (stamp : String) :
    exampleValue f stamp = (firstChoice? f).getD (typeExample f stamp) := by
  unfold exampleValue usableChoices firstChoice?
  cases f.rules.choices with
  | none => rfl
  | some choices => cases choices <;> rfl

/-- **Examples have the declared type, but for choices.**  For every type, all constraints and any
timestamp the example of a field fits the schema of the field if and only if the field has no
choices or the first of them is of its type, a list being one of texts. -/
theorem example_fits_iff (whole : Bool) (f : Field) (stamp : String) :
    Fits whole (propertySchema f) (exampleValue f stamp) ↔
      ∀ v, firstChoice? f = some v → IsOfKind whole f.kind v := by
  rw [fits_propertySchema_iff, exampleValue_eq_getD]
  cases firstChoice? f with
  | none => simpa using isOfKind_typeExample whole f stamp
  | some v => simp

/-- A field with choices. -/
def chosen (type : String) (choices : List Value) : Value :=
  .obj [("name", .str "level"), ("type", .str type),
    ("constraints", .obj [("enum", .list choices)])]

/-- An integer whose choices are texts has a text for its example. -/
theorem example_unfit :
    ∃ f, Field.read (chosen "int" [.str "low", .str "high"]) = .ok f ∧
      (propertySchema f).get? "type" = some (.str "integer") ∧
      exampleValue f "T" = .str "low" ∧
      ∀ whole, ¬ Fits whole (propertySchema f) (exampleValue f "T") := by
  refine ⟨_, rfl, rfl, rfl, fun whole h => ?_⟩
  have hinteger : TypeName.integer.holds whole (.str "low") = true :=
    (fits_propertySchema_iff.mp h).1
  cases hinteger

end OpenApi

end Schemata
