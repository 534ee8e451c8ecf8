import Mathlib.Data.List.Forall2
import Schemata.Model.Coercion
/-!
# Steps that can fail

Inversion of results: what a step must have given for a whole to succeed, for `Except` (the first
fault ends it) and for `Checked` (all complaints are kept).
-/

namespace Schemata

/-! ## 1. One fault -/

/-- A traversal whose steps all go through. -/
theorem mapM_eq_pure {α β : Type} {μ : Type → Type} [Monad μ] [LawfulMonad μ] {f : α → μ β}
    {g : α → β} : ∀ {l : List α}, (∀ a ∈ l, f a = pure (g a)) → l.mapM f = pure (l.map g)
  | [], _ => rfl
  | a :: l, h => by
    obtain ⟨ha, hl⟩ := List.forall_mem_cons.mp h
    rw [List.mapM_cons, ha, mapM_eq_pure hl, pure_bind, pure_bind, List.map_cons]

section Except

variable {ε ε' α β γ : Type}

theorem bind_eq_ok {x : Except ε α} {f : α → Except ε β} {b : β} :
    x >>= f = .ok b ↔ ∃ a, x = .ok a ∧ f a = .ok b := by
  constructor
  · intro h
    cases x with
    | error e => cases h
    | ok a => exact ⟨a, rfl, h⟩
  · rintro ⟨a, rfl, hb⟩
    exact hb

/-- What holds of the errors of two steps holds of the errors of both together. -/
theorem forall_error_bind {x : Except ε α} {f : α → Except ε β} {P : ε → Prop}
    (hx : ∀ e, x = .error e → P e) (hf : ∀ a e, f a = .error e → P e) :
    ∀ e, x >>= f = .error e → P e := by
  intro e h
  cases x with
  | error e' =>
    cases h
    exact hx e rfl
  | ok a => exact hf a e h

theorem forall_error_mapError {x : Except ε α} {f : ε → ε'} {P : ε' → Prop} (hf : ∀ e, P (f e)) :
    ∀ e, x.mapError f = .error e → P e := by
  intro e h
  cases x with
  | error e' =>
    cases h
    exact hf e'
  | ok a => cases h

theorem mapError_eq_ok {x : Except ε α} {f : ε → ε'} {a : α} :
    x.mapError f = .ok a ↔ x = .ok a := by
  constructor
  · intro h
    cases x with
    | error e => cases h
    | ok b => cases h; rfl
  · rintro rfl
    rfl

theorem toOption_eq_some {x : Except ε α} {a : α} : x.toOption = some a ↔ x = .ok a := by
  cases x <;> simp [Except.toOption]

theorem any_toOption {x : Except ε α} {p : α → Prop} [DecidablePred p] :
    x.toOption.any (fun a => p a) = true ↔ ∃ a, x = .ok a ∧ p a := by
  cases x <;> simp [Except.toOption]

theorem toBool_eq_true {x : Except ε α} : x.toBool = true ↔ ∃ a, x = .ok a := by
  cases x <;> simp [Except.toBool]

/-- The error of a step, if it failed. -/
def fault? : Except ε α → Option ε
  | .ok _ => none
  | .error e => some e

theorem fault?_eq_some {x : Except ε α} {e : ε} : fault? x = some e ↔ x = .error e := by
  cases x <;> simp [fault?]

theorem fault?_eq_none {x : Except ε α} : fault? x = none ↔ ∃ a, x = .ok a := by
  cases x <;> simp [fault?]

theorem fault?_map (x : Except ε α) (f : α → β) : fault? (x.map f) = fault? x := by
  cases x <;> rfl

theorem fault?_mapError (x : Except ε α) (f : ε → ε') :
    fault? (x.mapError f) = (fault? x).map f := by
  cases x <;> rfl

theorem fault?_bind_pure (x : Except ε α) (f : α → β) :
    fault? (x >>= fun a => pure (f a)) = fault? x := by
  cases x <;> rfl

/-- Two steps fail as the first of them that does; it may not matter what the other one is given. -/
theorem fault?_bind {x : Except ε α} {f : α → Except ε β} {r : Option ε}
    (h : ∀ a, x = .ok a → fault? (f a) = r) : fault? (x >>= f) = (fault? x).or r := by
  cases x with
  | error e => rfl
  | ok a => exact h a rfl

theorem findSome?_cons_eq_or (f : α → Option β) (a : α) (l : List α) :
    (a :: l).findSome? f = (f a).or (l.findSome? f) := by
  rw [List.findSome?_cons]
  cases f a <;> rfl

/-- A traversal fails as the first of its steps that does. -/
theorem fault?_mapM (f : α → Except ε β) : ∀ l : List α,
    fault? (l.mapM f) = l.findSome? fun a => fault? (f a)
  | [] => rfl
  | a :: l => by
    rw [List.mapM_cons, findSome?_cons_eq_or, ← fault?_mapM f l]
    exact fault?_bind fun _ _ => fault?_bind_pure _ _

/-- A traversal whose steps have one fault in common. -/
theorem mapM_eq_ite {f : α → Except ε β} {g : α → β} {p : α → Bool} {e : ε} : ∀ {l : List α},
    (∀ a ∈ l, f a = if p a then .ok (g a) else .error e) →
      l.mapM f = if l.all p then .ok (l.map g) else .error e
  | [], _ => rfl
  | a :: l, h => by
    rw [List.forall_mem_cons] at h
    rw [List.mapM_cons, h.1, mapM_eq_ite h.2, List.all_cons]
    cases p a <;> cases l.all p <;> rfl

/-- A traversal that goes through gives every item its result. -/
theorem forall₂_of_mapM {f : α → Except ε β} : ∀ {l : List α} {r : List β},
    l.mapM f = .ok r → List.Forall₂ (fun a b => f a = .ok b) l r
  | [], r, h => by
    cases h
    exact .nil
  | a :: l, r, h => by
    rw [List.mapM_cons] at h
    obtain ⟨b, hb, hrest⟩ := bind_eq_ok.mp h
    obtain ⟨bs, hbs, hpure⟩ := bind_eq_ok.mp hrest
    cases hpure
    exact .cons hb (forall₂_of_mapM hbs)

/-- What every step of a traversal keeps of its item, the traversal keeps of the list. -/
theorem map_mapM_eq {f : α → Except ε β} {g : β → γ} {h : α → γ}
    (hf : ∀ a b, f a = .ok b → g b = h a) :
    ∀ {l : List α} {r : List β}, l.mapM f = .ok r → r.map g = l.map h
  | [], r, hr => by
    cases hr
    rfl
  | a :: l, r, hr => by
    rw [List.mapM_cons] at hr
    obtain ⟨b, hb, hrest⟩ := bind_eq_ok.mp hr
    obtain ⟨bs, hbs, hpure⟩ := bind_eq_ok.mp hrest
    cases hpure
    rw [List.map_cons, List.map_cons, hf a b hb, map_mapM_eq hf hbs]

end Except

/-! ## 2. All complaints -/

namespace Checked

variable {α β : Type}

theorem and_eq_ok {f : Checked (α → β)} {x : Checked α} {b : β} :
    f.and x = .ok b ↔ ∃ g a, f = .ok g ∧ x = .ok a ∧ g a = b := by
  cases f <;> cases x <;> simp [Checked.and]

/-- What holds of every value of a function that was read holds of what is read with it. -/
theorem forall_ok_and {f : Checked (α → β)} {x : Checked α} {P : β → Prop}
    (h : ∀ g, f = .ok g → ∀ a, P (g a)) : ∀ b, f.and x = .ok b → P b := by
  intro b hb
  obtain ⟨g, a, hg, -, rfl⟩ := and_eq_ok.mp hb
  exact h g hg a

theorem bind_eq_ok {x : Checked α} {f : α → Checked β} {b : β} :
    x.bind f = .ok b ↔ ∃ a, x = .ok a ∧ f a = .ok b := by
  cases x <;> simp [Checked.bind]

theorem map_eq_ok {x : Checked α} {f : α → β} {b : β} :
    x.map f = .ok b ↔ ∃ a, x = .ok a ∧ f a = b := by
  cases x <;> simp [map]

theorem under_eq_ok {x : Checked α} {s : Segment} {a : α} : x.under s = .ok a ↔ x = .ok a := by
  cases x <;> simp [Checked.under]

theorem withMore_eq_ok {x : Checked α} {more : List Complaint} {a : α} :
    x.withMore more = .ok a ↔ x = .ok a ∧ more = [] := by
  cases x <;> cases more <;> simp [Checked.withMore]

end Checked

/-! ## 3. Fields of records -/

section Records

open Coercion

variable {α : Type} {es : List (Scalar × Value)} {names : List String} {read : Value → Checked α}
  {a : α}

theorem required_eq_ok :
    Coercion.required es names read = .ok a ↔
      ∃ v, field? es names = some v ∧ read v = .ok a := by
  unfold Coercion.required
  cases field? es names with
  | none => simp
  | some v => simp [Checked.under_eq_ok]

/-- A field that may be left out has its default, or what its value is read as. -/
theorem optionalField_eq_ok {default : α} :
    optionalField es names default read = .ok a ↔
      field? es names = none ∧ a = default ∨ ∃ v, field? es names = some v ∧ read v = .ok a := by
  unfold optionalField
  cases field? es names with
  | none => simp [eq_comm]
  | some v => simp [Checked.under_eq_ok]

end Records

theorem record_eq_ok {α : Type} {name : String} {v : Value}
    {read : List (Scalar × Value) → Checked α} {a : α} :
    Coercion.record name v read = .ok a ↔ ∃ es, v = .map es ∧ read es = .ok a := by
  cases v <;> simp [Coercion.record, Checked.fail]

end Schemata
