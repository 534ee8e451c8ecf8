import Schemata.Proofs.Entries
import Schemata.Proofs.Outcome
import Schemata.Yaml.Writer
/-!
# Anchors of YAML documents

A document has an anchor exactly if two of its lists and maps are one object.  The survey that comes
before the writing goes through the value and does not enter an object again; what it leaves out has
no say in this, because the object that was left out has been met twice by then.

* `Value.spots`: the places of the lists, maps and pairs of a value.
* `Tree.Survey.takes_place`: what the survey does at a value, by the objects at its places.
* `Tree.isPlain_iff`: a tree has neither anchor nor alias exactly if no object is at two places.
* `writeShared_eq_write`: then the text is that of the value in which nothing is shared.
-/

namespace Schemata

/-! ## 1. Places of collections -/

namespace Value

mutual

/-- The places of the lists, maps and pairs in a value, each before those inside it. -/
def spots : Value → List Spot
  | list items => [] :: itemSpots 0 items
  | map entries => [] :: entrySpots entries
  | pair first second =>
    [] :: (first.spots.map (.index 0 :: ·) ++ second.spots.map (.index 1 :: ·))
  | atom _ | set _ | outer .. => []

def itemSpots (n : Nat) : List Value → List Spot
  | [] => []
  | v :: rest => v.spots.map (.index n :: ·) ++ itemSpots (n + 1) rest

def entrySpots : List (Scalar × Value) → List Spot
  | [] => []
  | (k, v) :: rest => v.spots.map (.key k :: ·) ++ entrySpots rest

end

end Value

namespace Yaml

variable {κ : Type}

/-- The objects that have a name at places inside of a place. -/
def objects (identity : Identity κ) (here : Spot) (places : List Spot) : List κ :=
  places.filterMap fun p => identity (here ++ p)

theorem objects_nil_cons (identity : Identity κ) (here : Spot) (places : List Spot) :
    objects identity here ([] :: places)
      = (identity here).toList ++ objects identity here places := by
  unfold objects
  rw [List.filterMap_cons, List.append_nil]
  cases identity here <;> rfl

theorem objects_append (identity : Identity κ) (here : Spot) (places more : List Spot) :
    objects identity here (places ++ more)
      = objects identity here places ++ objects identity here more :=
  List.filterMap_append

theorem objects_map_cons (identity : Identity κ) (here : Spot) (step : Step) (places : List Spot) :
    objects identity here (places.map (step :: ·)) = objects identity (here ++ [step]) places := by
  unfold objects
  rw [List.filterMap_map]
  refine List.filterMap_congr fun p _ => ?_
  rw [Function.comp_apply, List.append_assoc, List.singleton_append]

namespace Tree

/-! ## 2. The survey -/

namespace Survey

/-- The names of the objects met so far. -/
def names (s : Survey κ) : List κ := s.met.map Prod.fst

/-- What a survey becomes when it takes objects: as long as nothing is met again, it holds their
names before those it had, and nothing is met again if all of these are different. -/
structure Takes (s s' : Survey κ) (ks : List κ) : Prop where
  before : s'.repeated = [] → s.repeated = []
  fresh_iff : s.repeated = [] → s.names.Nodup →
    (s'.repeated = [] ↔ (ks.reverse ++ s.names).Nodup)
  names_eq : s.names.Nodup → s'.repeated = [] → s'.names = ks.reverse ++ s.names
  named : ∀ r ∈ s'.repeated, r ∈ s.repeated ∨ r.1 ∈ ks

theorem Takes.refl (s : Survey κ) : Takes s s [] where
  before h := h
  fresh_iff h hn := iff_of_true h hn
  names_eq _ _ := rfl
  named _ hr := .inl hr

theorem Takes.trans {s s' s'' : Survey κ} {ks ks' : List κ} (h : Takes s s' ks)
    (h' : Takes s' s'' ks') : Takes s s'' (ks ++ ks') where
  before hs := h.before (h'.before hs)
  fresh_iff hs hn := by
    rw [List.reverse_append, List.append_assoc]
    constructor
    · intro hnone
      have hnone' : s'.repeated = [] := h'.before hnone
      rw [← h.names_eq hn hnone']
      refine (h'.fresh_iff hnone' ?_).mp hnone
      rw [h.names_eq hn hnone']
      exact (h.fresh_iff hs hn).mp hnone'
    · intro hnodup
      have hfirst : (ks.reverse ++ s.names).Nodup := hnodup.of_append_right
      have hnone' : s'.repeated = [] := (h.fresh_iff hs hn).mpr hfirst
      have hnames : s'.names = ks.reverse ++ s.names := h.names_eq hn hnone'
      exact (h'.fresh_iff hnone' (hnames ▸ hfirst)).mpr (hnames ▸ hnodup)
  names_eq hn hnone := by
    have hnone' : s'.repeated = [] := h'.before hnone
    have hnames : s'.names = ks.reverse ++ s.names := h.names_eq hn hnone'
    have hnodup : s'.names.Nodup := hnames ▸ (h.fresh_iff (h.before hnone') hn).mp hnone'
    rw [h'.names_eq hnodup hnone, hnames, List.reverse_append, List.append_assoc]
  named r hr := by
    rw [List.mem_append, ← or_assoc]
    exact (h'.named r hr).imp_left (h.named r)

variable [BEq κ]

/-- An object that was not met is noted. -/
theorem takes_new [LawfulBEq κ] {s : Survey κ} {k : κ} (here : Spot) (h : s.met.lookup k = none) :
    Takes s { s with met := (k, here) :: s.met } [k] where
  before h := h
  fresh_iff hs hn := by
    have hk : k ∉ s.names := by
      rw [names, ← Entries.keys, ← Entries.lookup_isSome_iff, h]
      exact Bool.false_ne_true
    exact iff_of_true hs (List.nodup_cons.mpr ⟨hk, hn⟩)
  names_eq _ _ := rfl
  named _ hr := .inl hr

/-- An object that was met is met again, whatever is in it. -/
theorem takes_again [LawfulBEq κ] {s : Survey κ} {k : κ} {first : Spot}
    (h : s.met.lookup k = some first) (ks : List κ) :
    Takes s (if (s.repeated.lookup k).isSome then s
      else { s with repeated := s.repeated ++ [(k, first)] }) (k :: ks) := by
  have hk : k ∈ s.names := by
    rw [names, ← Entries.keys, ← Entries.lookup_isSome_iff, h]
    rfl
  have hrepeated : (if (s.repeated.lookup k).isSome then s
      else { s with repeated := s.repeated ++ [(k, first)] }).repeated ≠ [] := by
    split
    · next hsome =>
      intro hnone
      rw [hnone] at hsome
      cases hsome
    · exact List.append_ne_nil_of_right_ne_nil _ (List.cons_ne_nil _ _)
  refine ⟨fun hnone => absurd hnone hrepeated, fun _ _ => ?_, fun _ hnone => absurd hnone hrepeated,
    fun r hr => ?_⟩
  · refine iff_of_false hrepeated fun hnodup => ?_
    rw [List.reverse_cons, List.append_assoc] at hnodup
    exact (List.nodup_cons.mp hnodup.of_append_right).1 hk
  · split at hr
    · exact .inl hr
    · refine (List.mem_append.mp hr).imp_right fun hr => ?_
      rw [List.mem_singleton.mp hr]
      exact List.mem_cons_self

/-- A collection that is entered: its object is noted, and what is in it if it was not met. -/
theorem takes_enter [LawfulBEq κ] (identity : Identity κ) (s : Survey κ) (here : Spot)
    {inside : Survey κ → Survey κ} {ks : List κ} (h : ∀ t, Takes t (inside t) ks) :
    Takes s (match s.enter identity here with
      | (t, true) => inside t
      | (t, false) => t) ((identity here).toList ++ ks) := by
  unfold enter
  cases identity here with
  | none => exact h s
  | some k =>
    dsimp only
    cases hmet : s.met.lookup k with
    | none => exact (takes_new here hmet).trans (h _)
    | some first =>
      have hagain := takes_again hmet ks
      cases hsome : (s.repeated.lookup k).isSome with
      | true =>
        rw [hsome, if_pos rfl] at hagain
        exact hagain
      | false =>
        rw [hsome, if_neg Bool.false_ne_true] at hagain
        exact hagain

mutual

/-- **The survey takes the objects of a value**, those that the places inside of it have. -/
theorem takes_place [LawfulBEq κ] (identity : Identity κ) :
    ∀ (v : Value) (s : Survey κ) (here : Spot),
      Takes s (s.place identity here v) (objects identity here v.spots)
  | .list items, s, here => by
    rw [Value.spots, objects_nil_cons, place]
    exact takes_enter identity s here fun t => takes_items identity items t here 0
  | .map entries, s, here => by
    rw [Value.spots, objects_nil_cons, place]
    exact takes_enter identity s here fun t => takes_entries identity entries t here
  | .pair first second, s, here => by
    rw [Value.spots, objects_nil_cons, objects_append, objects_map_cons, objects_map_cons, place]
    exact takes_enter identity s here fun t =>
      (takes_place identity first t _).trans (takes_place identity second _ _)
  | .atom _, s, _ | .set _, s, _ | .outer .., s, _ => Takes.refl s

theorem takes_items [LawfulBEq κ] (identity : Identity κ) :
    ∀ (items : List Value) (s : Survey κ) (here : Spot) (n : Nat),
      Takes s (s.items identity here n items) (objects identity here (Value.itemSpots n items))
  | [], s, _, _ => Takes.refl s
  | v :: rest, s, here, n => by
    rw [Value.itemSpots, objects_append, objects_map_cons, items]
    exact (takes_place identity v s _).trans (takes_items identity rest _ here (n + 1))

theorem takes_entries [LawfulBEq κ] (identity : Identity κ) :
    ∀ (entries : List (Scalar × Value)) (s : Survey κ) (here : Spot),
      Takes s (s.entries identity here entries)
        (objects identity here (Value.entrySpots entries))
  | [], s, _ => Takes.refl s
  | (k, v) :: rest, s, here => by
    rw [Value.entrySpots, objects_append, objects_map_cons, entries]
    exact (takes_place identity v s _).trans (takes_entries identity rest _ here)

end

end Survey

variable [BEq κ]

/-- Nothing is met again exactly if no object is at two places. -/
theorem repeats_eq_nil_iff [LawfulBEq κ] {identity : Identity κ} {v : Value} :
    repeats identity v = [] ↔ (objects identity [] v.spots).Nodup := by
  have htakes := Survey.takes_place identity v ⟨[], []⟩ []
  have hfresh := htakes.fresh_iff rfl List.nodup_nil
  rwa [Survey.names, List.map_nil, List.append_nil, List.nodup_reverse] at hfresh

/-- What is met again is at some place. -/
theorem mem_objects_of_mem_repeats [LawfulBEq κ] {identity : Identity κ} {v : Value} {r : κ × Spot}
    (h : r ∈ repeats identity v) : r.1 ∈ objects identity [] v.spots :=
  ((Survey.takes_place identity v ⟨[], []⟩ []).named r h).resolve_left List.not_mem_nil

/-! ## 3. Marks -/

theorem markAt_eq_none_iff [LawfulBEq κ] {identity : Identity κ} {repeats : List (κ × Spot)}
    {here : Spot} :
    markAt identity repeats here = none ↔
      ∀ k, identity here = some k → ∀ r ∈ repeats, r.1 ≠ k := by
  cases hk : identity here with
  | none => simp [markAt, hk]
  | some k =>
    cases hn : repeats.findIdx? fun r => r.1 == k with
    | none =>
      have hnone := List.findIdx?_eq_none_iff.mp hn
      simp only [markAt, hk, hn, Option.bind_eq_bind, Option.bind_some, Option.bind_none, true_iff]
      rintro _ ⟨⟩ r hr heq
      exact absurd (hnone r hr) (by simp [heq])
    | some n =>
      obtain ⟨hlt, hmatch, -⟩ := List.findIdx?_eq_some_iff_getElem.mp hn
      have hsome : markAt identity repeats here ≠ none := by
        simp [markAt, hk, hn, List.getElem?_eq_getElem hlt]
      refine iff_of_false hsome fun hall => ?_
      exact hall k rfl _ (List.getElem_mem hlt) (beq_iff_eq.mp hmatch)

mutual

/-- Whether a tree has neither an anchor nor an alias. -/
def isPlain : Tree → Bool
  | .scalar _ => true
  | .list anchor items => anchor.isNone && arePlain items
  | .map anchor entries => anchor.isNone && membersArePlain entries
  | .reference _ => false

def arePlain : List Tree → Bool
  | [] => true
  | t :: rest => t.isPlain && arePlain rest

def membersArePlain : List (Scalar × Tree) → Bool
  | [] => true
  | (_, t) :: rest => t.isPlain && membersArePlain rest

end

/-- A place that has no alias has no anchor either exactly if it has no mark. -/
theorem isNone_anchor?_iff {m : Option Mark} (h : ∀ n, m = some (.reference n) → False) :
    (m.bind Mark.anchor?).isNone = true ↔ m = none := by
  match m, h with
  | none, _ => exact iff_of_true rfl rfl
  | some (.anchor n), _ => exact iff_of_false Bool.false_ne_true nofun
  | some (.reference n), h => exact (h n rfl).elim

mutual

/-- **A tree is plain** exactly if no place of its value has a mark. -/
theorem isPlain_ofPlace {mark : Spot → Option Mark} : ∀ {v : Value} {here : Spot} {t : Tree},
    ofPlace mark here v = .ok t → (t.isPlain = true ↔ ∀ p ∈ v.spots, mark (here ++ p) = none)
  | .atom s, here, t, h => by
    rw [ofPlace] at h
    split at h
    · cases h
      exact iff_of_true rfl nofun
    · cases h
  | .list items, here, t, h => by
    rw [Value.spots, List.forall_mem_cons, List.append_nil]
    rw [ofPlace] at h
    split at h
    · next n hmark =>
      cases h
      exact iff_of_false Bool.false_ne_true fun hnone => by cases hmark.symm.trans hnone.1
    · next hmark =>
      obtain ⟨ts, hts, ht⟩ := bind_eq_ok.mp h
      cases ht
      rw [isPlain, Bool.and_eq_true, isNone_anchor?_iff hmark, arePlain_ofItems hts]
  | .map entries, here, t, h => by
    rw [Value.spots, List.forall_mem_cons, List.append_nil]
    rw [ofPlace] at h
    split at h
    · next n hmark =>
      cases h
      exact iff_of_false Bool.false_ne_true fun hnone => by cases hmark.symm.trans hnone.1
    · next hmark =>
      obtain ⟨ts, hts, ht⟩ := bind_eq_ok.mp h
      cases ht
      rw [isPlain, Bool.and_eq_true, isNone_anchor?_iff hmark, membersArePlain_ofEntries hts]
  | .pair first second, here, t, h => by
    rw [Value.spots, List.forall_mem_cons, List.append_nil]
    rw [ofPlace] at h
    split at h
    · next n hmark =>
      cases h
      exact iff_of_false Bool.false_ne_true fun hnone => by cases hmark.symm.trans hnone.1
    · next hmark =>
      obtain ⟨one, hone, hmore⟩ := bind_eq_ok.mp h
      obtain ⟨two, htwo, ht⟩ := bind_eq_ok.mp hmore
      cases ht
      rw [List.forall_mem_append, List.forall_mem_map, List.forall_mem_map]
      simp only [isPlain, arePlain, Bool.and_eq_true, Bool.and_true, isNone_anchor?_iff hmark,
        isPlain_ofPlace hone, isPlain_ofPlace htwo, List.append_assoc, List.singleton_append]
  | .set _, here, t, h => by cases h
  | .outer .., here, t, h => by cases h

theorem arePlain_ofItems {mark : Spot → Option Mark} :
    ∀ {items : List Value} {here : Spot} {n : Nat} {ts : List Tree},
      ofItems mark here n items = .ok ts →
      (arePlain ts = true ↔ ∀ p ∈ Value.itemSpots n items, mark (here ++ p) = none)
  | [], here, n, ts, h => by
    cases h
    exact iff_of_true rfl nofun
  | v :: rest, here, n, ts, h => by
    obtain ⟨first, hfirst, hmore⟩ := bind_eq_ok.mp h
    obtain ⟨more, hrest, hts⟩ := bind_eq_ok.mp hmore
    cases hts
    rw [arePlain, Bool.and_eq_true, isPlain_ofPlace hfirst, arePlain_ofItems hrest, Value.itemSpots,
      List.forall_mem_append, List.forall_mem_map]
    simp only [List.append_assoc, List.singleton_append]

theorem membersArePlain_ofEntries {mark : Spot → Option Mark} : ∀ {entries : List (Scalar × Value)}
    {here : Spot} {ts : List (Scalar × Tree)}, ofEntries mark here entries = .ok ts →
      (membersArePlain ts = true ↔ ∀ p ∈ Value.entrySpots entries, mark (here ++ p) = none)
  | [], here, ts, h => by
    cases h
    exact iff_of_true rfl nofun
  | (k, v) :: rest, here, ts, h => by
    rw [ofEntries] at h
    split at h
    · obtain ⟨first, hfirst, hmore⟩ := bind_eq_ok.mp h
      obtain ⟨more, hrest, hts⟩ := bind_eq_ok.mp hmore
      cases hts
      rw [membersArePlain, Bool.and_eq_true, isPlain_ofPlace hfirst,
        membersArePlain_ofEntries hrest, Value.entrySpots, List.forall_mem_append,
        List.forall_mem_map]
      simp only [List.append_assoc, List.singleton_append]
    · cases h

end

/-- **A tree is plain exactly if no object is at two places of its value.** -/
theorem isPlain_iff [LawfulBEq κ] {identity : Identity κ} {v : Value} {t : Tree}
    (h : ofValue identity v = .ok t) : t.isPlain = true ↔ (objects identity [] v.spots).Nodup := by
  rw [isPlain_ofPlace h, ← repeats_eq_nil_iff]
  simp only [List.nil_append, markAt_eq_none_iff]
  constructor
  · intro hmarks
    refine List.eq_nil_iff_forall_not_mem.mpr fun r hr => ?_
    obtain ⟨p, hp, hk⟩ := List.mem_filterMap.mp (mem_objects_of_mem_repeats hr)
    exact hmarks p hp r.1 hk r hr rfl
  · intro hnone p _ k _ r hr
    rw [hnone] at hr
    exact absurd hr List.not_mem_nil

/-- Where no object is at two places, no place has a mark. -/
theorem ofValue_of_nodup [LawfulBEq κ] {identity : Identity κ} {v : Value}
    (h : (objects identity [] v.spots).Nodup) :
    ofValue identity v = ofPlace (fun _ => none) [] v := by
  have hmark : markAt identity (repeats identity v) = fun _ => none := by
    rw [repeats_eq_nil_iff.mpr h]
    exact funext fun _ => markAt_eq_none_iff.mpr fun _ _ _ hr => absurd hr List.not_mem_nil
  rw [ofValue, hmark]

end Tree

/-- Where no object is at two places, the text is that of the value in which nothing is shared. -/
theorem writeShared_eq_write [BEq κ] [LawfulBEq κ] {identity : Identity κ} {v : Value}
    (h : (objects identity [] v.spots).Nodup) : writeShared identity v = write v := by
  have hnone : (objects (fun _ => (none : Option Nat)) [] v.spots).Nodup := by
    rw [objects, List.filterMap_none]
    exact List.nodup_nil
  rw [write, writeShared, writeShared, Tree.ofValue_of_nodup h, Tree.ofValue_of_nodup hnone]

end Yaml

end Schemata
