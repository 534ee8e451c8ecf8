import Schemata.JsonSchema
import Schemata.OpenApi.Component
/-!
# Two schemas of one field

A field is described in JSON Schema and in the description of an interface, by builders of their own
over tables of their own.  JSON Schema alone has the metadata of a field and the schema of its
items, and takes a default and a list of choices as they are; a description takes neither null for a
default nor an empty list for choices, and has items of its own.

* `FieldType.componentType_eq`, `FieldType.componentFormat_eq`: the tables agree on every type.
* `agree_limits`, `agree_default`, `agree_choices`: so do the entries made of the constraints,
  whichever of them are given.
* `schemas_agree`: so do the schemas, entry by entry and in order.
-/

namespace Schemata

/-! ## 1. Entries that are left out -/

/-- A map without some of its entries. -/
def Value.omitting (drops : Scalar × Value → Bool) : Value → Value
  | map entries => map (entries.filter fun p => !drops p)
  | v => v

/-- The schema of the items. -/
def isItems (p : Scalar × Value) : Bool := p.1 = .str "items"

/-- What a schema of a field has in JSON Schema only. -/
def isSchemaOnly : Scalar × Value → Bool
  | (.str "default", .null) | (.str "enum", .list []) => true
  | p => p.1 = .str "metadata" || isItems p

theorem Value.omitting_obj (drops : Scalar × Value → Bool) (es : Entries String Value) :
    (obj es).omitting drops = obj (es.filter fun p => !drops (.str p.1, p.2)) := by
  rw [obj, omitting, List.filter_map]
  rfl

/-- Entries of a schema in JSON Schema and of one in a description that are the same, but for those
that one of them alone has. -/
def EntriesAgree (es es' : Entries String Value) : Prop :=
  (es.filter fun p => !isSchemaOnly (.str p.1, p.2)) = es'.filter fun p => !isItems (.str p.1, p.2)

theorem EntriesAgree.append {es es' more more' : Entries String Value} (h : EntriesAgree es es')
    (hmore : EntriesAgree more more') : EntriesAgree (es ++ more) (es' ++ more') := by
  unfold EntriesAgree at h hmore ⊢
  rw [List.filter_append, List.filter_append, h, hmore]

/-- An entry that neither leaves out is there in both or in neither. -/
theorem agree_given {key : String} (h : ∀ w, isSchemaOnly (.str key, w) = false)
    (v : Option Value) : EntriesAgree (JsonSchema.entry? key v) (OpenApi.given key v) := by
  have hitems : ∀ w, isItems (.str key, w) = false := by
    intro w
    have hw := h w
    unfold isSchemaOnly at hw
    split at hw
    · cases hw
    · cases hw
    · exact (Bool.or_eq_false_iff.mp hw).2
  cases v with
  | none => rfl
  | some w => simp [EntriesAgree, JsonSchema.entry?, OpenApi.given, h, hitems]

/-! ## 2. Types -/

theorem FieldType.componentType_eq (t : FieldType) : t.componentType = t.jsonType := by
  cases t <;> rfl

theorem FieldType.componentFormat_eq (t : FieldType) : t.componentFormat = t.format := by
  cases t <;> rfl

theorem agree_head (f : Field) :
    EntriesAgree
      [("description", .str (f.description.getD "")), ("type", .str f.kind.jsonType.name)]
      [("description", .str (f.description.getD "")),
        ("type", .str f.kind.componentType.name)] := by
  rw [FieldType.componentType_eq]
  rfl

/-! ## 3. Constraints -/

/-- The limits agree, but for the items of an array. -/
theorem agree_limits (f : Field) : EntriesAgree (JsonSchema.limits f) (OpenApi.typeLimits f) := by
  unfold JsonSchema.limits OpenApi.typeLimits
  by_cases htext : f.kind.isText
  · simp only [htext, ↓reduceIte]
    exact ((agree_given (fun _ => rfl) _).append (agree_given (fun _ => rfl) _)).append
      (agree_given (fun _ => rfl) _)
  · by_cases hnumeric : f.kind.isNumeric
    · simp only [htext, hnumeric, ↓reduceIte]
      exact (agree_given (fun _ => rfl) _).append (agree_given (fun _ => rfl) _)
    · by_cases harray : f.kind = .array
      · -- What either has under `items` is left out on its side.
        rw [if_neg htext, if_neg hnumeric, if_pos harray, if_neg htext, if_neg hnumeric,
          if_pos harray]
        cases f.rules.items <;> rfl
      · simp only [htext, hnumeric, harray, ↓reduceIte]
        rfl

theorem isSchemaOnly_default {v : Value} : isSchemaOnly (.str "default", v) = true ↔ v = .null := by
  constructor
  · intro h
    unfold isSchemaOnly at h
    split at h
    · rename_i heq
      exact (Prod.mk.inj heq).2
    · rename_i heq
      exact absurd (Prod.mk.inj heq).1 (by decide)
    · cases h
  · rintro rfl
    rfl

theorem agree_default (f : Field) :
    EntriesAgree (JsonSchema.entry? "default" f.rules.default)
      (OpenApi.given "default" (OpenApi.usableDefault f)) := by
  unfold OpenApi.usableDefault
  split
  · rename_i hnull
    rw [hnull]
    rfl
  · rename_i hnull
    cases hdefault : f.rules.default with
    | none => rfl
    | some v =>
      have hkept : isSchemaOnly (.str "default", v) = false :=
        Bool.eq_false_iff.mpr fun h => hnull (hdefault.trans (isSchemaOnly_default.mp h ▸ rfl))
      simp [EntriesAgree, JsonSchema.entry?, OpenApi.given, hkept, isItems]

theorem agree_choices (f : Field) :
    EntriesAgree (JsonSchema.entry? "enum" (f.rules.choices.map .list))
      (OpenApi.given "enum" ((OpenApi.usableChoices f).map .list)) := by
  unfold OpenApi.usableChoices
  cases f.rules.choices with
  | none => rfl
  | some choices => cases choices <;> rfl

/-! ## 4. Whole schemas -/

/-- **The two schemas of a field agree.**  For every type and all constraints: without metadata and
items, a default that is null and a list of choices that is empty, the schema in JSON Schema is the
one in the description of an interface without its items, with the same entries in the same
order. -/
theorem schemas_agree (f : Field) :
    (JsonSchema.property f).omitting isSchemaOnly
      = (OpenApi.propertySchema f).omitting isItems := by
  have hformat : EntriesAgree (JsonSchema.entry? "format" (f.kind.format.map .str))
      (OpenApi.given "format" (f.kind.componentFormat.map .str)) := by
    rw [FieldType.componentFormat_eq]
    exact agree_given (fun _ => rfl) _
  have hentries := ((((agree_head f).append hformat).append (agree_limits f)).append
    (agree_default f)).append (agree_choices f)
  have hmetadata : EntriesAgree [("metadata", JsonSchema.fieldMetadata f)] [] := rfl
  have hall := hentries.append hmetadata
  rw [List.append_nil] at hall
  rw [JsonSchema.property, OpenApi.propertySchema, Value.omitting_obj, Value.omitting_obj]
  exact congrArg Value.obj hall

end Schemata
