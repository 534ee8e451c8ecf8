import Schemata.JsonSchema
import Schemata.Proofs.Entries
/-!
# Reading a document

How statements about generated documents look things up in them.

* `Value.at?` goes down a path of text keys, `Value.keysAt?` gives the keys of the map at its end,
  `Value.itemsUnder` the items of the list under a key.
* `Value.under` collects whatever stands under a text key, however deep: `under_obj` and
  `under_list` compute it along the builders of documents.
* `JsonSchema.document_eq_ok`: what a generated document is.
-/

namespace Schemata

namespace Value

/-! ## 1. Paths of keys -/

/-- What stands under a text key of a map. -/
def get? (key : String) : Value → Option Value
  | map entries => member? key entries
  | _ => none

/-- What stands at the end of a path of text keys. -/
def at? : List String → Value → Option Value
  | [], v => some v
  | key :: path, v => (v.get? key).bind (at? path)

/-- The keys of a map in order. -/
def keys? : Value → Option (List Scalar)
  | map entries => some (Entries.keys entries)
  | _ => none

/-- The keys of the map at the end of a path. -/
def keysAt? (path : List String) (v : Value) : Option (List Scalar) := (v.at? path).bind keys?

/-- A list of text keys, as the keys of a map. -/
def textKeys (names : List String) : List Scalar := names.map Scalar.str

theorem member?_obj (key : String) (es : Entries String Value) :
    member? key (es.map fun (k, v) => (.str k, v)) = es.lookup key := by
  unfold member?
  induction es with
  | nil => rfl
  | cons p rest ih =>
    have hkey : (Scalar.str key == Scalar.str p.1) = (key == p.1) := by
      rw [Bool.eq_iff_iff, beq_iff_eq, beq_iff_eq, Scalar.str.injEq]
    rw [List.map_cons, List.lookup_cons, List.lookup_cons, hkey, ih]

theorem get?_obj (key : String) (es : Entries String Value) :
    (obj es).get? key = es.lookup key :=
  member?_obj key es

theorem at?_nil (v : Value) : v.at? [] = some v := rfl

theorem at?_cons (key : String) (path : List String) (v : Value) :
    v.at? (key :: path) = (v.get? key).bind (at? path) := rfl

theorem at?_append : ∀ (path more : List String) (v : Value),
    v.at? (path ++ more) = (v.at? path).bind (at? more)
  | [], _, _ => rfl
  | key :: path, more, v => by
    rw [List.cons_append, at?_cons, at?_cons, Option.bind_assoc]
    congr 1
    funext w
    exact at?_append path more w

theorem keysAt?_append (path more : List String) (v : Value) :
    v.keysAt? (path ++ more) = (v.at? path).bind (keysAt? more) := by
  rw [keysAt?, at?_append, Option.bind_assoc]
  rfl

theorem keys?_obj (es : Entries String Value) : (obj es).keys? = some (textKeys es.keys) := by
  simp [obj, keys?, textKeys, Entries.keys, Function.comp_def]

theorem keysAt?_of_at? {path : List String} {v : Value} {es : Entries String Value}
    (h : v.at? path = some (obj es)) : v.keysAt? path = some (textKeys es.keys) := by
  rw [keysAt?, h, Option.bind_some, keys?_obj]

/-- The items of what stands under a key; none where that is no list. -/
def itemsUnder (key : String) (v : Value) : List Value :=
  ((v.get? key).bind fun w => (Coercion.list w).toOption).getD []

theorem itemsUnder_map {key : String} {entries : List (Scalar × Value)} {v : Value}
    {items : List Value} (hv : member? key entries = some v)
    (hitems : Coercion.list v = .ok items) : itemsUnder key (.map entries) = items := by
  rw [itemsUnder, get?, hv, Option.bind_some, hitems]
  rfl

theorem mem_itemsUnder {key : String} {v w : Value} (h : w ∈ v.itemsUnder key) :
    ∃ entries u items, v = map entries ∧ member? key entries = some u ∧
      Coercion.list u = .ok items ∧ w ∈ items := by
  unfold itemsUnder at h
  cases hmember : v.get? key with
  | none =>
    rw [hmember] at h
    cases h
  | some u =>
    rw [hmember, Option.bind_some] at h
    cases hitems : Coercion.list u with
    | bad complaints =>
      rw [hitems] at h
      cases h
    | ok items =>
      rw [hitems] at h
      cases v with
      | map entries => exact ⟨entries, u, items, rfl, hmember, hitems, h⟩
      | atom _ | list _ | set _ | pair _ _ | outer _ _ => cases hmember

/-! ## 2. What stands under a key at any depth -/

mutual

/-- Whatever stands under a text key, in the order of the document. -/
def under (key : String) : Value → List Value
  | list items => underItems key items
  | map entries => underEntries key entries
  | pair first second => under key first ++ under key second
  | atom _ | set _ | outer .. => []

def underItems (key : String) : List Value → List Value
  | [] => []
  | v :: rest => under key v ++ underItems key rest

def underEntries (key : String) : List (Scalar × Value) → List Value
  | [] => []
  | (k, v) :: rest =>
    (if k = .str key then [v] else []) ++ under key v ++ underEntries key rest

end

theorem under_atom (key : String) (s : Scalar) : under key (atom s) = [] := rfl

theorem under_list (key : String) (items : List Value) :
    under key (list items) = items.flatMap (under key) := by
  induction items with
  | nil => rfl
  | cons v rest ih =>
    have hstep : under key (list (v :: rest)) = under key v ++ under key (list rest) := rfl
    rw [hstep, ih, List.flatMap_cons]

theorem under_texts (key : String) (items : List String) : under key (texts items) = [] := by
  rw [texts, under_list]
  simp [under_atom]

theorem under_obj (key : String) (es : Entries String Value) :
    under key (obj es)
      = es.flatMap fun p => (if p.1 = key then [p.2] else []) ++ under key p.2 := by
  induction es with
  | nil => rfl
  | cons p rest ih =>
    have hstep : under key (obj (p :: rest))
        = (if Scalar.str p.1 = .str key then [p.2] else []) ++ under key p.2
          ++ under key (obj rest) := rfl
    rw [hstep, ih, List.flatMap_cons]
    simp only [Scalar.str.injEq]

/-- What stands under a key in a list stands so in one of the items. -/
theorem mem_under_list {key : String} {items : List Value} {v : Value} :
    v ∈ under key (list items) ↔ ∃ item ∈ items, v ∈ under key item := by
  rw [under_list, List.mem_flatMap]

/-- What stands under a key in a map stands there itself or in one of the values. -/
theorem mem_under_obj {key : String} {es : Entries String Value} {v : Value} :
    v ∈ under key (obj es) ↔ ∃ p ∈ es, p.1 = key ∧ v = p.2 ∨ v ∈ under key p.2 := by
  rw [under_obj, List.mem_flatMap]
  refine exists_congr fun p => and_congr_right fun _ => ?_
  rw [List.mem_append]
  by_cases hkey : p.1 = key
  · simp [hkey]
  · simp [hkey]

end Value

/-! ## 3. The generated document -/

theorem JsonSchema.document_eq_ok {config : Config} {clock : Clock} {m : Model} {schema : Value}
    (h : document config clock m = .ok schema) :
    ∃ stamp, clock.stamp = .ok stamp ∧ schema = documentAt config m stamp := by
  unfold document at h
  split at h
  · rename_i stamp hstamp
    cases h
    exact ⟨stamp, hstamp, rfl⟩
  · cases h

end Schemata
