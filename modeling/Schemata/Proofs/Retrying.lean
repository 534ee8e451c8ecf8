import Schemata.Model.Retry
import Schemata.Proofs.Likeness
/-!
# Constraints are never refused

The loop that reads constraints takes out of a map what its reader complains about.  It does so once
at most: the complaints of one attempt are about every value that cannot be read, and taking those
out leaves the others as they were.  So the loop gives what `Constraints.read` says of a map at
once.

* `Constraints.readStrictly_eq_ok`: when one attempt reads a map.
* `Constraints.badKeys_readStrictly`, `Constraints.supplied?_without`: what is taken out, what is
  left.
* `Constraints.readRetrying_eq`: the loop and `Constraints.read` agree on every value.
* `Constraints.Open`: what is read of a map with text keys, whatever is in it.
* `Model.constraints_open`: no map is refused, and no model for one.
-/

namespace Schemata

open Coercion

/-! ## 1. Complaints -/

namespace Checked

variable {α β : Type}

theorem complaints_ok (a : α) : (ok a).complaints = [] := rfl

theorem complaints_and (f : Checked (α → β)) (x : Checked α) :
    (f.and x).complaints = f.complaints ++ x.complaints := by
  cases f <;> cases x <;> simp [Checked.and, complaints]

theorem complaints_withMore (x : Checked α) (more : List Complaint) :
    (x.withMore more).complaints = x.complaints ++ more := by
  cases x <;> cases more <;> simp [withMore, complaints]

theorem complaints_under (x : Checked α) (s : Segment) :
    (x.under s).complaints = x.complaints.map (Complaint.under s) := by
  cases x <;> rfl

theorem complaints_map (x : Checked α) (f : α → β) : (x.map f).complaints = x.complaints := by
  cases x <;> rfl

end Checked

namespace Coercion

/-- A reading that either gives a result or says why it gives none. -/
def Explains {α : Type} (x : Checked α) : Prop := x.complaints = [] → ∃ a, x = .ok a

@[simp] theorem explains_fail {α : Type} (cause : Complaint.Cause) :
    Explains (.fail cause : Checked α) := nofun

@[simp] theorem explains_ok {α : Type} (a : α) : Explains (.ok a) := fun _ => ⟨a, rfl⟩

theorem explains_optional {α : Type} {read : Value → Checked α} (h : ∀ v, Explains (read v))
    (v : Value) : Explains (optional read v) := by
  unfold Coercion.optional
  split
  · exact explains_ok _
  · intro hnone
    rw [Checked.complaints_map] at hnone
    obtain ⟨a, ha⟩ := h v hnone
    exact ⟨some a, by rw [ha]; rfl⟩

theorem explains_text (v : Value) : Explains (text v) := by
  unfold text
  repeat' split
  all_goals simp

@[simp] theorem explains_boolOfInt (n : Int) : Explains (boolOfInt n) := by
  unfold boolOfInt
  repeat' split
  all_goals simp

theorem explains_boolean (v : Value) : Explains (boolean v) := by
  unfold boolean
  repeat' split
  all_goals simp

@[simp] theorem explains_integerOfText (s : String) : Explains (integerOfText s) := by
  unfold integerOfText
  split <;> simp

@[simp] theorem explains_integerOfFloat (x : Binary64) : Explains (integerOfFloat x) := by
  unfold integerOfFloat
  repeat' split
  all_goals simp

theorem explains_integer (v : Value) : Explains (integer v) := by
  unfold integer
  repeat' split
  all_goals simp

theorem explains_number (v : Value) : Explains (number v) := by
  unfold number
  repeat' split
  all_goals simp

theorem explains_list (v : Value) : Explains (list v) := by
  unfold list
  split <;> simp

theorem explains_dictionary (v : Value) : Explains (dictionary v) := by
  unfold dictionary
  split
  · intro hnone
    rw [Checked.complaints_withMore] at hnone
    rw [(List.append_eq_nil_iff.mp hnone).2]
    exact ⟨_, rfl⟩
  · exact explains_fail _

end Coercion

namespace ConstraintKey

theorem explains_coerce (k : ConstraintKey) (v : Value) : Explains (k.coerce v) := by
  cases k with
  | primary | unique | autoIncrement => exact explains_optional explains_boolean v
  | maxLength | minLength => exact explains_optional explains_integer v
  | minimum | maximum => exact explains_optional explains_number v
  | default => exact explains_ok _
  | choices => exact explains_optional explains_list v
  | pattern => exact explains_optional explains_text v
  | items => exact explains_optional explains_dictionary v

theorem accepts_eq (k : ConstraintKey) (v : Value) :
    Constraints.accepts k v = (k.coerce v).toOption.isSome := by
  cases k <;> rfl

/-- A value that is not accepted is complained about. -/
theorem complaints_coerce (k : ConstraintKey) (v : Value) :
    (k.coerce v).complaints = [] ↔ Constraints.accepts k v = true := by
  rw [accepts_eq]
  constructor
  · intro hnone
    obtain ⟨a, ha⟩ := k.explains_coerce v hnone
    rw [ha]
    rfl
  · intro hsome
    cases hread : k.coerce v with
    | ok a => rfl
    | bad complaints =>
      rw [hread] at hsome
      cases hsome

end ConstraintKey

/-! ## 2. One attempt -/

namespace Constraints

variable {entries : List (Scalar × Value)} {k : ConstraintKey}

/-- Whether the value that is given for a known key cannot be read. -/
def refuses (entries : List (Scalar × Value)) (k : ConstraintKey) : Bool :=
  (supplied? entries k).any fun v => !accepts k v

theorem map_given? (entries : List (Scalar × Value)) (k : ConstraintKey) :
    (given? entries k).map Prod.snd = supplied? entries k := by
  unfold given? supplied? field?
  induction k.names with
  | nil => rfl
  | cons n rest ih =>
    rw [List.findSome?_cons, List.findSome?_cons]
    cases Value.member? n entries with
    | none => exact ih
    | some v => rfl

theorem mem_names_of_given? {n : String} {v : Value} (h : given? entries k = some (n, v)) :
    n ∈ k.names := by
  obtain ⟨n', hn', hmember⟩ := List.exists_of_findSome?_eq_some h
  obtain ⟨v', -, hpair⟩ := Option.map_eq_some_iff.mp hmember
  cases hpair
  exact hn'

/-- The part of the view for any known key. -/
def part? (entries : List (Scalar × Value)) (k : ConstraintKey) : Option k.Accessor :=
  (supplied? entries k).bind fun v => (k.coerce v).toOption.join

/-- A known key is read, or complained about under the name that it was given under. -/
theorem readKey_of_refuses (h : refuses entries k = false) :
    readKey entries k = .ok (part? entries k) := by
  unfold readKey part?
  rw [← map_given?]
  rw [refuses, ← map_given?] at h
  cases hgiven : given? entries k with
  | none => rfl
  | some p =>
    rw [hgiven, Option.map_some, Option.any_some, Bool.not_eq_false', ConstraintKey.accepts_eq] at h
    obtain ⟨n, v⟩ := p
    dsimp only at h ⊢
    cases hread : k.coerce v with
    | ok a =>
      rw [Option.map_some, Option.bind_some]
      dsimp only
      rw [hread]
      rfl
    | bad complaints =>
      rw [hread] at h
      cases h

/-- The names of a known key under which something is given. -/
def namesGiven (entries : List (Scalar × Value)) (k : ConstraintKey) : List String :=
  k.inputNames.filter fun n => (Value.member? n entries).isSome

theorem inputNamesOf_eq {n : String} (h : n ∈ k.names) :
    ConstraintKey.inputNamesOf n = k.inputNames := by
  have hall : ∀ k ∈ ConstraintKey.all, ∀ n ∈ k.names,
      ConstraintKey.inputNamesOf n = k.inputNames := by decide +kernel
  exact hall k k.mem_all n h

/-- A complaint about a known key is about the names that it is given under. -/
theorem keysOfComplaint_readKey {c : Complaint} (h : c ∈ (readKey entries k).complaints) :
    keysOfComplaint entries c = namesGiven entries k := by
  unfold readKey at h
  split at h
  · rename_i n v hgiven
    rw [Checked.complaints_under] at h
    obtain ⟨c', -, rfl⟩ := List.mem_map.mp h
    change (ConstraintKey.inputNamesOf n).filter _ = _
    rw [inputNamesOf_eq (mem_names_of_given? hgiven)]
    rfl
  · cases h

theorem complaints_readKey : (readKey entries k).complaints = [] ↔ refuses entries k = false := by
  constructor
  · intro hnone
    unfold readKey at hnone
    rw [refuses, ← map_given?]
    split at hnone
    · rename_i n v hgiven
      rw [Checked.complaints_under, List.map_eq_nil_iff, k.complaints_coerce] at hnone
      rw [hgiven, Option.map_some, Option.any_some, hnone]
      rfl
    · rename_i hgiven
      rw [hgiven]
      rfl
  · intro h
    rw [readKey_of_refuses h]
    rfl

theorem complaints_readStrictly (entries : List (Scalar × Value)) :
    (readStrictly entries).complaints
      = (ConstraintKey.all.flatMap fun k => (readKey entries k).complaints)
        ++ keyComplaints entries := by
  simp only [readStrictly, Checked.complaints_withMore, Checked.complaints_and, ConstraintKey.all,
    List.flatMap_cons, List.flatMap_nil, Checked.complaints_ok, List.nil_append, List.append_nil,
    List.append_assoc]

/-- What a map gives that is read as a whole. -/
def viewOf (entries : List (Scalar × Value)) : Constraints :=
  { ofEntries entries with wire := [], rejected := [] }

/-- The parts of the view. -/
def accessor (c : Constraints) : (k : ConstraintKey) → Option k.Accessor
  | .primary => c.primary
  | .unique => c.unique
  | .autoIncrement => c.autoIncrement
  | .maxLength => c.maxLength
  | .minLength => c.minLength
  | .minimum => c.minimum
  | .maximum => c.maximum
  | .default => c.default
  | .choices => c.choices
  | .pattern => c.pattern
  | .items => c.items

theorem accessor_ofEntries (entries : List (Scalar × Value)) (k : ConstraintKey) :
    (ofEntries entries).accessor k = part? entries k := by
  cases k with
  | default =>
    change supplied? entries .default = (supplied? entries .default).bind some
    cases supplied? entries .default <;> rfl
  | primary | unique | autoIncrement | maxLength | minLength | minimum | maximum | choices | pattern
  | items => rfl

/-- A map is read as a whole exactly if no value in it is refused and all of its keys are texts. -/
theorem readStrictly_eq_ok {c : Constraints} :
    readStrictly entries = .ok c ↔
      (∀ k, refuses entries k = false) ∧ keyComplaints entries = [] ∧ c = viewOf entries := by
  have hread : (∀ k, refuses entries k = false) → keyComplaints entries = [] →
      readStrictly entries = .ok (viewOf entries) := fun hnone hkeys => by
    simp only [readStrictly, readKey_of_refuses (hnone _), hkeys, ← accessor_ofEntries]
    rfl
  constructor
  · intro h
    have hcomplaints := complaints_readStrictly entries
    rw [h] at hcomplaints
    obtain ⟨hvalues, hkeys⟩ := List.append_eq_nil_iff.mp hcomplaints.symm
    have hnone : ∀ k, refuses entries k = false := fun k =>
      complaints_readKey.mp (List.flatMap_eq_nil_iff.mp hvalues k k.mem_all)
    rw [hread hnone hkeys] at h
    exact ⟨hnone, hkeys, (Checked.ok.inj h).symm⟩
  · rintro ⟨hnone, hkeys, rfl⟩
    exact hread hnone hkeys

/-! ## 3. What is taken out -/

theorem inputNames_eq (k : ConstraintKey) : k.inputNames = k.names.reverse := by
  unfold ConstraintKey.inputNames ConstraintKey.names
  split
  · rename_i hname
    rw [hname]
    rfl
  · rfl

theorem mem_namesGiven {n : String} :
    n ∈ namesGiven entries k ↔ n ∈ k.names ∧ (Value.member? n entries).isSome = true := by
  rw [namesGiven, List.mem_filter, inputNames_eq, List.mem_reverse]

theorem nodup_namesGiven : (namesGiven entries k).Nodup := by
  refine List.Nodup.filter _ ?_
  cases k <;> decide

/-- What is complained about is given under some name. -/
theorem namesGiven_ne_nil (h : (readKey entries k).complaints ≠ []) :
    namesGiven entries k ≠ [] := by
  unfold readKey at h
  split at h
  · rename_i n v hgiven
    obtain ⟨n', hn', hmember⟩ := List.exists_of_findSome?_eq_some hgiven
    obtain ⟨v', hv', -⟩ := Option.map_eq_some_iff.mp hmember
    exact List.ne_nil_of_mem (mem_namesGiven.mpr ⟨hn', by rw [hv']; rfl⟩)
  · exact absurd rfl h

end Constraints

section Duplicates

variable {α β : Type} [BEq β] [LawfulBEq β]

theorem removeAll_eq_self {l more : List β} (h : ∀ x ∈ more, x ∉ l) : more.removeAll l = more :=
  List.filter_eq_self.mpr fun x hx => by simpa using h x hx

theorem removeAll_eq_nil {l more : List β} (h : ∀ x ∈ more, x ∈ l) : more.removeAll l = [] :=
  List.filter_eq_nil_iff.mpr fun x hx => by simpa using h x hx

/-- A list that is repeated has its items once. -/
theorem eraseDups_repeat {l : List β} (h : l.Nodup) : ∀ {as : List α}, as ≠ [] →
    (as.flatMap fun _ => l).eraseDups = l
  | [], hne => absurd rfl hne
  | _ :: as, _ => by
    have hmore : ∀ x ∈ as.flatMap fun _ => l, x ∈ l := fun x hx =>
      (List.mem_flatMap.mp hx).choose_spec.2
    rw [List.flatMap_cons, List.eraseDups_append, removeAll_eq_nil hmore, eraseDups_of_nodup h]
    exact List.append_nil l

/-- The items of lists that have nothing in common are the items of each of them. -/
theorem eraseDups_flatMap {f g : α → List β} : ∀ {l : List α}, l.Nodup →
    (∀ a ∈ l, (f a).eraseDups = g a) →
    (∀ a ∈ l, ∀ b ∈ l, a ≠ b → ∀ x ∈ f a, x ∉ f b) → (l.flatMap f).eraseDups = l.flatMap g
  | [], _, _, _ => rfl
  | a :: l, hl, hdups, hapart => by
    obtain ⟨ha, hl⟩ := List.nodup_cons.mp hl
    have hrest : ∀ x ∈ l.flatMap f, x ∉ f a := fun x hx hxa => by
      obtain ⟨b, hb, hxb⟩ := List.mem_flatMap.mp hx
      exact hapart a List.mem_cons_self b (List.mem_cons_of_mem _ hb) (fun e => ha (e ▸ hb)) x
        hxa hxb
    rw [List.flatMap_cons, List.eraseDups_append, removeAll_eq_self hrest, List.flatMap_cons,
      hdups a List.mem_cons_self, eraseDups_flatMap hl
        (fun b hb => hdups b (List.mem_cons_of_mem _ hb))
        fun b hb c hc => hapart b (List.mem_cons_of_mem _ hb) c (List.mem_cons_of_mem _ hc)]

end Duplicates

namespace Constraints

variable {entries : List (Scalar × Value)} {k : ConstraintKey}

/-- The names under which a known key is given whose value cannot be read. -/
def namesRefused (entries : List (Scalar × Value)) (k : ConstraintKey) : List String :=
  if refuses entries k then namesGiven entries k else []

/-- **What is taken out**: of the known keys whose values cannot be read, every name under which
they are given. -/
theorem badKeys_readStrictly (hkeys : keyComplaints entries = []) :
    badKeys entries (readStrictly entries).complaints
      = ConstraintKey.all.flatMap (namesRefused entries) := by
  have hcomplaints : ∀ k, (readKey entries k).complaints.flatMap (keysOfComplaint entries)
      = (readKey entries k).complaints.flatMap fun _ => namesGiven entries k := fun k =>
    List.flatMap_congr fun c hc => keysOfComplaint_readKey hc
  rw [badKeys, complaints_readStrictly, hkeys, List.append_nil, List.flatMap_assoc]
  refine eraseDups_flatMap (by decide) (fun k _ => ?_) (fun k _ k' _ hne n hn hn' => hne ?_)
  · rw [hcomplaints, namesRefused]
    by_cases hnone : (readKey entries k).complaints = []
    · rw [complaints_readKey.mp hnone, hnone]
      rfl
    · rw [eraseDups_repeat nodup_namesGiven hnone, if_pos]
      rwa [← Bool.not_eq_false, ← complaints_readKey]
  · have hmem : ∀ {k}, n ∈ (readKey entries k).complaints.flatMap (keysOfComplaint entries) →
        n ∈ k.names := fun h => by
      rw [hcomplaints] at h
      exact (mem_namesGiven.mp (List.mem_flatMap.mp h).choose_spec.2).1
    exact ConstraintKey.eq_of_mem_names (hmem hn) (hmem hn')

/-! ## 4. What is left -/

theorem without_nil (entries : List (Scalar × Value)) : without [] entries = entries :=
  List.filter_eq_self.mpr fun _ _ => rfl

theorem member?_without (keys : List String) (n : String) : ∀ entries : List (Scalar × Value),
    Value.member? n (without keys entries)
      = if n ∈ keys then none else Value.member? n entries
  | [] => by simp [without, Value.member?]
  | p :: rest => by
    have ih := member?_without keys n rest
    unfold Value.member? without at ih ⊢
    rw [List.filter_cons, List.lookup_cons]
    by_cases hp : p.1 = .str n
    · rw [hp, BEq.rfl]
      by_cases hn : n ∈ keys
      · rw [if_neg (by simpa using hn), ih, if_pos hn, if_pos hn]
      · rw [if_pos (by simpa using hn), List.lookup_cons, hp, BEq.rfl, if_neg hn]
    · rw [beq_eq_false_iff_ne.mpr (Ne.symm hp)]
      split
      · rw [List.lookup_cons, beq_eq_false_iff_ne.mpr (Ne.symm hp)]
        exact ih
      · exact ih

/-- Only text keys are taken out. -/
theorem keyComplaints_without (keys : List String) : ∀ entries : List (Scalar × Value),
    keyComplaints (without keys entries) = keyComplaints entries
  | [] => rfl
  | (s, v) :: rest => by
    have ih := keyComplaints_without keys rest
    unfold keyComplaints without at ih ⊢
    rw [List.filter_cons]
    cases s with
    | str n =>
      split
      · exact ih
      · exact ih
    | null | bool | int | float | date | moment | bytes =>
      rw [if_pos (by simp), List.filterMap_cons, List.filterMap_cons, ih]

theorem findSome?_congr {α β : Type} {f g : α → Option β} : ∀ {l : List α},
    (∀ a ∈ l, f a = g a) → l.findSome? f = l.findSome? g
  | [], _ => rfl
  | a :: l, h => by
    rw [List.findSome?_cons, List.findSome?_cons, h a List.mem_cons_self,
      findSome?_congr fun b hb => h b (List.mem_cons_of_mem _ hb)]

/-- What is taken out are the names under which a refused key is given. -/
theorem mem_allRefused {n : String} (hn : n ∈ k.names) :
    n ∈ ConstraintKey.all.flatMap (namesRefused entries) ↔
      refuses entries k = true ∧ (Value.member? n entries).isSome = true := by
  rw [List.mem_flatMap]
  constructor
  · rintro ⟨k', -, hn'⟩
    unfold namesRefused at hn'
    split at hn'
    · rename_i hrefused
      obtain ⟨hname, hgiven⟩ := mem_namesGiven.mp hn'
      rw [ConstraintKey.eq_of_mem_names hn hname]
      exact ⟨hrefused, hgiven⟩
    · cases hn'
  · rintro ⟨hrefused, hgiven⟩
    refine ⟨k, k.mem_all, ?_⟩
    rw [namesRefused, if_pos hrefused]
    exact mem_namesGiven.mpr ⟨hn, hgiven⟩

/-- Of what is left, a known key is given as before unless it was refused. -/
theorem supplied?_without :
    supplied? (without (ConstraintKey.all.flatMap (namesRefused entries)) entries) k
      = if refuses entries k then none else supplied? entries k := by
  unfold supplied? field?
  cases hrefused : refuses entries k with
  | true =>
    rw [if_pos rfl, List.findSome?_eq_none_iff]
    intro n hn
    rw [member?_without]
    split
    · rfl
    · rename_i hout
      rw [mem_allRefused hn, hrefused] at hout
      simpa using hout
  | false =>
    rw [if_neg Bool.false_ne_true]
    refine findSome?_congr fun n hn => ?_
    rw [member?_without, if_neg]
    rw [mem_allRefused hn, hrefused]
    exact fun h => absurd h.1 Bool.false_ne_true

/-- Nothing that is left is refused. -/
theorem refuses_without :
    refuses (without (ConstraintKey.all.flatMap (namesRefused entries)) entries) k = false := by
  rw [refuses, supplied?_without]
  cases hrefused : refuses entries k with
  | true => rfl
  | false => exact hrefused

/-- A value that is refused leaves its part of the view empty. -/
theorem part?_of_refuses (h : refuses entries k = true) : part? entries k = none := by
  unfold part?
  unfold refuses at h
  cases hv : supplied? entries k with
  | none => rfl
  | some v =>
    rw [hv, Option.any_some, Bool.not_eq_true', ConstraintKey.accepts_eq] at h
    have hnone : (k.coerce v).toOption = none :=
      Option.not_isSome_iff_eq_none.mp (by rw [h]; exact Bool.false_ne_true)
    rw [Option.bind_some, hnone]
    rfl

theorem part?_without :
    part? (without (ConstraintKey.all.flatMap (namesRefused entries)) entries) k
      = part? entries k := by
  cases hrefused : refuses entries k with
  | true =>
    rw [part?_of_refuses hrefused, part?, supplied?_without, hrefused]
    rfl
  | false =>
    rw [part?, supplied?_without, hrefused]
    rfl

/-- A view is its parts. -/
theorem viewOf_congr {entries' : List (Scalar × Value)}
    (h : ∀ k, part? entries' k = part? entries k) : viewOf entries' = viewOf entries := by
  have hpart : ∀ k, (ofEntries entries').accessor k = (ofEntries entries).accessor k := fun k => by
    rw [accessor_ofEntries, accessor_ofEntries, h]
  rw [viewOf, viewOf, Constraints.mk.injEq]
  exact ⟨hpart .primary, hpart .unique, hpart .autoIncrement, hpart .maxLength, hpart .minLength,
    hpart .minimum, hpart .maximum, hpart .default, hpart .choices, hpart .pattern, hpart .items,
    rfl, rfl⟩

/-- What is rejected has the wire names of what is taken out. -/
theorem map_namesRefused :
    (ConstraintKey.all.flatMap (namesRefused entries)).map ConstraintKey.wireNameOf
      = rejectedNames entries := by
  rw [List.map_flatMap, rejectedNames]
  refine List.flatMap_congr fun k _ => ?_
  have hnames : (namesGiven entries k).map ConstraintKey.wireNameOf
      = (k.names.filter fun n => (Value.member? n entries).isSome).map fun _ => k.wireName := by
    have hwire : (namesGiven entries k).map ConstraintKey.wireNameOf
        = (namesGiven entries k).map fun _ => k.wireName :=
      List.map_congr_left fun n hn => ConstraintKey.wireNameOf_eq.mpr (mem_namesGiven.mp hn).1
    rw [hwire, List.map_const', List.map_const', namesGiven, inputNames_eq, List.filter_reverse,
      List.length_reverse]
  unfold namesRefused refuses
  cases supplied? entries k with
  | none => rfl
  | some v =>
    rw [Option.any_some]
    dsimp only
    cases accepts k v with
    | true => rfl
    | false => exact hnames

/-! ## 5. The loop -/

section Steps

variable {rejected : List String} {complaints : List Complaint}

theorem retry_read {c : Constraints} (h : readStrictly entries = .ok c) :
    retry entries rejected = .ok (c, rejected) := by
  rw [retry.eq_def, h]

theorem retry_again (h : readStrictly entries = .bad complaints)
    (hbad : badKeys entries complaints ≠ []) :
    retry entries rejected = retry (without (badKeys entries complaints) entries)
      (rejected ++ (badKeys entries complaints).map ConstraintKey.wireNameOf) := by
  rw [retry.eq_def, h]
  exact dif_neg hbad

end Steps

/-- A map with text keys is read at the second attempt, if not at the first. -/
theorem retry_of_texts (hkeys : keyComplaints entries = []) :
    retry entries [] = .ok (viewOf entries, rejectedNames entries) := by
  rw [← map_namesRefused]
  cases hread : readStrictly entries with
  | ok c =>
    obtain ⟨hnone, -, rfl⟩ := readStrictly_eq_ok.mp hread
    have hempty : ConstraintKey.all.flatMap (namesRefused entries) = [] :=
      List.flatMap_eq_nil_iff.mpr fun k _ => by
        rw [namesRefused, hnone]
        rfl
    rw [retry_read hread, hempty, List.map_nil]
  | bad complaints =>
    have hbad : badKeys entries complaints = ConstraintKey.all.flatMap (namesRefused entries) := by
      rw [← badKeys_readStrictly hkeys, hread]
      rfl
    have hagain : readStrictly (without (badKeys entries complaints) entries)
        = .ok (viewOf entries) := by
      rw [hbad]
      exact readStrictly_eq_ok.mpr ⟨fun k => refuses_without,
        (keyComplaints_without _ _).trans hkeys, (viewOf_congr fun k => part?_without).symm⟩
    have hne : badKeys entries complaints ≠ [] := fun hnil => by
      rw [hnil, without_nil, hread] at hagain
      cases hagain
    rw [retry_again hread hne, retry_read hagain, hbad, List.nil_append]

/-- Where there is nothing to take out, no value is refused. -/
theorem complaints_of_badKeys_nil {complaints : List Complaint}
    (hread : readStrictly entries = .bad complaints) (hbad : badKeys entries complaints = []) :
    complaints = keyComplaints entries := by
  have hcomplaints : complaints = (ConstraintKey.all.flatMap fun k =>
      (readKey entries k).complaints) ++ keyComplaints entries :=
    (congrArg Checked.complaints hread).symm.trans (complaints_readStrictly entries)
  have hvalues : (ConstraintKey.all.flatMap fun k => (readKey entries k).complaints) = [] := by
    refine List.flatMap_eq_nil_iff.mpr fun k hk => ?_
    by_contra hne
    obtain ⟨c, hc⟩ := List.exists_mem_of_ne_nil _ hne
    obtain ⟨n, hn⟩ := List.exists_mem_of_ne_nil _ (namesGiven_ne_nil hne)
    have hmem : n ∈ badKeys entries complaints := by
      refine List.mem_eraseDups.mpr (List.mem_flatMap.mpr ⟨c, ?_, ?_⟩)
      · exact hcomplaints ▸ List.mem_append_left _ (List.mem_flatMap.mpr ⟨k, hk, hc⟩)
      · rwa [keysOfComplaint_readKey hc]
    rw [hbad] at hmem
    cases hmem
  rw [hvalues, List.nil_append] at hcomplaints
  exact hcomplaints

/-- A map with a key that is no text is refused for such keys, whatever is taken out of it. -/
theorem retry_of_keyComplaints (entries : List (Scalar × Value)) (rejected : List String)
    (hkeys : keyComplaints entries ≠ []) :
    retry entries rejected = .bad (keyComplaints entries) := by
  fun_induction retry entries rejected with
  | case1 entries rejected c hread => exact absurd (readStrictly_eq_ok.mp hread).2.1 hkeys
  | case2 entries rejected complaints hread bad hbad =>
    rw [complaints_of_badKeys_nil hread hbad]
  | case3 entries rejected complaints hread bad hbad ih =>
    rw [keyComplaints_without] at ih
    exact ih hkeys

/-- **The loop gives what is said of constraints at once.** -/
theorem readRetrying_eq (v : Value) : readRetrying v = Constraints.read v := by
  cases v with
  | map entries =>
    change (retry entries []).map _ = (Checked.ok (ofEntries entries)).withMore _
    by_cases hkeys : keyComplaints entries = []
    · rw [retry_of_texts hkeys, hkeys]
      rfl
    · rw [retry_of_keyComplaints entries [] hkeys]
      cases hcomplaints : keyComplaints entries with
      | nil => exact absurd hcomplaints hkeys
      | cons c cs => rfl
  | atom | list | set | pair | outer => rfl

/-! ## 6. What is said of an open map -/

/-- The entry that counts for a known key: the one under its wire name, or else under its other
name. -/
def ownEntry? (given : Entries String Value) (k : ConstraintKey) : Option Value :=
  (given.lookup k.wireName).or (given.lookup k.fieldName)

/-- **What is read of a map with text keys**: it is kept, with every key under its wire name; a
known key is read from its own entry, whatever the other entries are; and it is rejected exactly if
there is such an entry and it cannot be read. -/
structure Open (given : Entries String Value) (c : Constraints) : Prop where
  keys : Entries.keys c.wire = ((Entries.keys given).map ConstraintKey.wireNameOf).eraseDups
  /-- Of several entries with one wire name the last counts. -/
  values : ∀ name, c.wire.lookup name
    = (given.reverse.find? fun p => name == ConstraintKey.wireNameOf p.1).map Prod.snd
  accessor : ∀ k, c.accessor k =
    match ownEntry? given k with
    | some v =>
      match k.coerce v with
      | .ok a => a
      | .bad _ => none
    | none => none
  rejected : ∀ name, name ∈ c.rejected ↔
    ∃ k v, k.wireName = name ∧ ownEntry? given k = some v ∧ ∀ a, k.coerce v ≠ .ok a
  hasDefault : c.hasDefault = true ↔ "default" ∈ Entries.keys given

theorem supplied?_textMembers (given : Entries String Value) (k : ConstraintKey) :
    supplied? (Value.textMembers given) k = ownEntry? given k := by
  unfold supplied? ownEntry? ConstraintKey.names
  split
  · rename_i hname
    rw [field?_single, Value.member?_textMembers, hname, Option.or_self]
  · rw [field?, List.findSome?_cons, List.findSome?_cons, Value.member?_textMembers,
      Value.member?_textMembers]
    cases given.lookup k.wireName with
    | none => cases given.lookup k.fieldName <;> rfl
    | some v => rfl

theorem mem_rejectedNames {name : String} :
    name ∈ rejectedNames entries ↔
      ∃ k v, k.wireName = name ∧ supplied? entries k = some v ∧ ∀ a, k.coerce v ≠ .ok a := by
  have haccepts : ∀ k v, accepts k v = false ↔ ∀ a, k.coerce v ≠ .ok a := fun k v => by
    rw [ConstraintKey.accepts_eq]
    cases k.coerce v <;> simp [Checked.toOption]
  rw [rejectedNames, List.mem_flatMap]
  constructor
  · rintro ⟨k, -, hname⟩
    split at hname
    · rename_i v hv
      split at hname
      · cases hname
      · rename_i hrefused
        obtain ⟨n, -, rfl⟩ := List.mem_map.mp hname
        exact ⟨k, v, rfl, hv, (haccepts k v).mp (Bool.not_eq_true _ ▸ hrefused)⟩
    · cases hname
  · rintro ⟨k, v, rfl, hv, hrefused⟩
    refine ⟨k, k.mem_all, ?_⟩
    rw [hv]
    dsimp only
    rw [(haccepts k v).mpr hrefused, if_neg Bool.false_ne_true]
    obtain ⟨n, hn, hmember⟩ := List.exists_of_findSome?_eq_some hv
    exact List.mem_map.mpr ⟨n, List.mem_filter.mpr ⟨hn, by rw [hmember]; rfl⟩, rfl⟩

theorem open_ofEntries (given : Entries String Value) :
    Open given (ofEntries (Value.textMembers given)) where
  keys := by
    change Entries.keys (wireOf (textEntries (Value.textMembers given))) = _
    rw [textEntries_textMembers, wireOf_eq, Entries.keys_rename]
  values name := by
    change (wireOf (textEntries (Value.textMembers given))).lookup name = _
    rw [textEntries_textMembers, wireOf_eq, Entries.lookup_rename]
  accessor k := by
    rw [accessor_ofEntries, part?, supplied?_textMembers]
    cases ownEntry? given k with
    | none => rfl
    | some v =>
      rw [Option.bind_some]
      dsimp only
      cases k.coerce v <;> rfl
  rejected name := by
    change name ∈ rejectedNames (Value.textMembers given) ↔ _
    rw [mem_rejectedNames]
    simp only [supplied?_textMembers]
  hasDefault := by
    change (supplied? (Value.textMembers given) .default).isSome = true ↔ _
    rw [supplied?_textMembers, ownEntry?, ← Entries.lookup_isSome_iff]
    change ((given.lookup "default").or (given.lookup "default")).isSome = true ↔ _
    rw [Option.or_self]

theorem read_obj (given : Entries String Value) :
    Constraints.read (.obj given) = .ok (ofEntries (Value.textMembers given)) := by
  rw [Value.obj_eq]
  exact read_eq_ok.mpr ⟨_, rfl, keyComplaints_textMembers given, rfl⟩

end Constraints

/-! ## 7. Models with other constraints -/

theorem Value.keyComplaints_of_isJson {entries : List (Scalar × Value)}
    (hjson : (Value.map entries).isJson = true) : keyComplaints entries = [] := by
  rw [Value.isJson, Value.membersAreJson_iff] at hjson
  refine List.filterMap_eq_nil_iff.mpr fun p hp => ?_
  obtain ⟨s, v⟩ := p
  have hkind := (hjson _ hp).1
  cases s with
  | str s => rfl
  | null | bool | int | float | date | moment | bytes => cases hkind

namespace Model

/-- Two maps of JSON, whatever is in them. -/
def AreMaps (given given' : List (Scalar × Value)) : Prop :=
  (Value.map given).isJson = true ∧ (Value.map given').isJson = true

/-- Two values of models that are the same but for the constraint maps of fields: in the place of a
map stands any other one. -/
def OtherConstraints : Value → Value → Prop := Model.Alike [] AreMaps fun _ _ => False

theorem OtherConstraints.symm {raw raw' : Value} (h : OtherConstraints raw raw') :
    OtherConstraints raw' raw :=
  Alike.symm (fun _ _ hgiven => hgiven.symm) (fun _ _ => False.elim) h

theorem OtherConstraints.isJson {raw raw' : Value} (h : OtherConstraints raw raw')
    (hjson : raw.isJson = true) : raw'.isJson = true :=
  Alike.isJson (fun _ _ hgiven _ => hgiven.2) (fun _ _ => False.elim) h hjson

theorem exists_normalize_of_otherConstraints {raw raw' : Value} {m : Model}
    (hjson : raw.isJson = true) (h : OtherConstraints raw raw') (hm : normalize raw = .ok m) :
    ∃ m', normalize raw' = .ok m' := by
  have hread : ∀ v ∈ raw.itemsUnder "entities", Entity.ReadAlike AreMaps (fun _ _ => True) v :=
    fun v _ x _ given given' c _ hgiven _ => ⟨_, Constraints.read_eq_ok.mpr
      ⟨given', rfl, Value.keyComplaints_of_isJson hgiven.2, rfl⟩, trivial⟩
  have htable : ∀ v ∈ raw.itemsUnder "entities", ∀ v' e, Entity.Alike [] AreMaps v v' →
      Entity.MadeOf v e → ∃ table, Entity.tableOf? (v'.get? "tableName") e.name = some table :=
    fun v _ v' e hvv' he => ⟨e.tableName, by
      rw [Value.get?_eq_of_alike (List.forall_mem_nil _)
        (fun _ _ hpart => absurd hpart.1 (by decide)) hvv']
      exact he.table⟩
  obtain ⟨m', hm', -⟩ := exists_madeOf_alike h (List.forall_mem_nil _) hread
    (fun _ _ _ _ => False.elim) htable ((normalize_iff_madeOf hjson).mp hm)
  exact ⟨m', (normalize_iff_madeOf (h.isJson hjson)).mpr hm'⟩

/-- **Constraints are never refused.**  Every map with text keys is read, by the loop as at once,
and what is read is all that can be.  So any constraint map may stand in the place of another: that
never decides whether a model is normalized. -/
theorem constraints_open :
    (∀ given : Entries String Value, ∃ c, Constraints.readRetrying (.obj given) = .ok c ∧
      Constraints.read (.obj given) = .ok c ∧ Constraints.Open given c) ∧
    ∀ raw raw', raw.isJson = true → OtherConstraints raw raw' →
      ((∃ m, normalize raw = .ok m) ↔ ∃ m, normalize raw' = .ok m) := by
  constructor
  · intro given
    refine ⟨_, ?_, Constraints.read_obj given, Constraints.open_ofEntries given⟩
    rw [Constraints.readRetrying_eq, Constraints.read_obj]
  · intro raw raw' hjson h
    constructor
    · rintro ⟨m, hm⟩
      exact exists_normalize_of_otherConstraints hjson h hm
    · rintro ⟨m, hm⟩
      exact exists_normalize_of_otherConstraints (h.isJson hjson) h.symm hm

/-- A person whose only field has a constraint map. -/
def constrainedPerson (given : Entries String Value) : Value :=
  .obj [("entities", .list [.obj [("name", .str "person"),
    ("fields", .list [.obj [("name", .str "email"), ("type", .str "string"),
      ("constraints", .obj given)]])]])]

/-- A length that is a phrase is rejected and kept.  The flag beside it is read, and the model is
normalized with these constraints if it is without. -/
theorem constraints_open_phrase :
    (∃ c, Constraints.readRetrying (.obj [("max_length", .int 5), ("maxLength", .str "100 letters"),
        ("unique", .str "yes"), ("default", .null)]) = .ok c ∧
      c.accessor .maxLength = none ∧ c.accessor .unique = some true ∧ "maxLength" ∈ c.rejected ∧
      c.hasDefault = true ∧ Entries.keys c.wire = ["maxLength", "unique", "default"] ∧
      c.wire.lookup "maxLength" = some (.str "100 letters")) ∧
    ∃ m, normalize (constrainedPerson [("maxLength", .str "100 letters")]) = .ok m := by
  obtain ⟨hread, haccepted⟩ := constraints_open
  constructor
  · obtain ⟨c, hc, -, hopen⟩ := hread [("max_length", .int 5), ("maxLength", .str "100 letters"),
      ("unique", .str "yes"), ("default", .null)]
    refine ⟨c, hc, (hopen.accessor .maxLength).trans rfl, (hopen.accessor .unique).trans rfl,
      (hopen.rejected _).mpr ⟨.maxLength, .str "100 letters", rfl, rfl, ?_⟩,
      hopen.hasDefault.mpr (by decide), hopen.keys.trans (by decide),
      (hopen.values _).trans rfl⟩
    exact fun a h => by cases h
  · have hother : OtherConstraints (constrainedPerson [])
        (constrainedPerson [("maxLength", .str "100 letters")]) := by
      refine ⟨_, _, rfl, rfl,
        .cons ⟨.inl rfl, .inr ⟨"entities", rfl, .inl ⟨rfl, _, _, rfl, rfl, ?_⟩⟩⟩ .nil⟩
      refine .cons (.inr ⟨_, _, rfl, rfl, .cons ⟨.inl rfl, .inl rfl⟩ (.cons ⟨.inl rfl,
        .inr ⟨"fields", rfl, rfl, _, _, rfl, rfl, ?_⟩⟩ .nil)⟩) .nil
      refine .cons (.inr ⟨_, _, rfl, rfl, .cons ⟨.inl rfl, .inl rfl⟩ (.cons ⟨.inl rfl, .inl rfl⟩
        (.cons ⟨.inl rfl, .inr ⟨"constraints", rfl, rfl, _, _, rfl, rfl, ?_⟩⟩ .nil))⟩) .nil
      exact ⟨by decide, by decide⟩
    exact (haccepted _ _ (by decide) hother).mp ⟨_, rfl⟩

end Model

end Schemata
