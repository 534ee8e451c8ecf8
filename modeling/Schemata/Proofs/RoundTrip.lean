import Schemata.Proofs.Numerals
import Schemata.Proofs.Readable
/-!
# What is written is read back

A value that a text stands for is read back from its text, in every layout.  Texts are put together
from the texts of their parts, and so is the proof: `Reads` says of a text that it is read as a
value with fuel for twice its length, and whatever follows it that does not go on as a number.

* `string_escape`, `string_quoted`: a text between quotes is read back, character by character.
* `elements_of_reads`, `members_of_reads`: entries that are read are read one after the other, up to
  the closing bracket.
* `reads_writeScalar`, `reads_list`, `reads_map`: what is written of a scalar, a list or an object
  is read as it.
* `read_write`: a value that can be written is read back from what is written of it.
-/

namespace Schemata.Json

/-! ## 1. Texts -/

/-- The digits of a control character are read as it. -/
theorem hexNumber?_hex {n : Nat} (h : n < 32) :
    ∃ a b c d, Text.Quoted.hex 4 n = [a, b, c, d] ∧ hexNumber? [a, b, c, d] = some n := by
  have hall : ∀ n < 32, (Text.Quoted.hex 4 n).length = 4 ∧
      hexNumber? (Text.Quoted.hex 4 n) = some n := by decide +kernel
  obtain ⟨hlength, hnumber⟩ := hall n h
  obtain ⟨a, b, c, d, hhex⟩ := List.length_eq_four.mp hlength
  exact ⟨a, b, c, d, hhex, hhex ▸ hnumber⟩

section Escapes

variable {start cs t more : List Char} {fuel : Nat}

theorem string_shortEscape {e c : Char} (he : shortEscape? e = some c)
    (h : string start fuel cs = .ok (t, more)) :
    string start (fuel + 1) ('\\' :: e :: cs) = .ok (c :: t, more) := by
  have hu : e ≠ 'u' := by
    rintro rfl
    cases he
  rw [string.eq_5 _ _ _ _ _ hu, if_neg (by decide), if_pos rfl, he]
  simp only [h]
  rfl

theorem string_codePoint {c : Char} (hc : c.toNat < 32)
    (h : string start fuel cs = .ok (t, more)) :
    string start (fuel + 1) ('\\' :: 'u' :: (Text.Quoted.hex 4 c.toNat ++ cs))
      = .ok (c :: t, more) := by
  obtain ⟨next, cs, rfl⟩ : ∃ next tail, cs = next :: tail := by
    cases cs with
    | nil => cases fuel <;> cases h
    | cons next tail => exact ⟨next, tail, rfl⟩
  obtain ⟨x, y, z, w, hhex, hnumber⟩ := hexNumber?_hex hc
  have hpoint : codePoint (Text.Quoted.hex 4 c.toNat ++ next :: cs) = .ok (c, next :: cs) := by
    rw [hhex]
    simp only [List.cons_append, List.nil_append, codePoint, hnumber]
    rw [if_neg (by omega), if_neg (by omega), Char.ofNat_toNat]
  rw [string, if_neg (by decide), if_pos rfl]
  simp only [hpoint]
  change (string start fuel (next :: cs) >>= fun p => pure (c :: p.1, p.2)) = _
  rw [h]
  rfl

theorem string_plain {c : Char} (hquote : c ≠ '"') (hslash : c ≠ '\\') (hc : ¬ c.toNat < 0x20)
    (h : string start fuel cs = .ok (t, more)) :
    string start (fuel + 1) (c :: cs) = .ok (c :: t, more) := by
  rw [string.eq_def]
  simp only [hquote, hslash, hc, ↓reduceIte, h]
  rfl

/-- **An escaped character is read back.** -/
theorem string_escape {c : Char} (h : string start fuel cs = .ok (t, more)) :
    string start (fuel + 1) (escape c ++ cs) = .ok (c :: t, more) := by
  have hcode : ∀ n, c.toNat = n → c = Char.ofNat n := fun n hn => by rw [← hn, Char.ofNat_toNat]
  unfold escape
  split_ifs with hquote hslash hfeed hreturn htab hback hform hcontrol
  · subst hquote
    exact string_shortEscape rfl h
  · subst hslash
    exact string_shortEscape rfl h
  · subst hfeed
    exact string_shortEscape rfl h
  · subst hreturn
    exact string_shortEscape rfl h
  · subst htab
    exact string_shortEscape rfl h
  · rw [hcode _ hback]
    exact string_shortEscape rfl h
  · rw [hcode _ hform]
    exact string_shortEscape rfl h
  · exact string_codePoint hcontrol h
  · exact string_plain hquote hslash hcontrol h

end Escapes

/-- **A text between quotes is read back.** -/
theorem string_quoted (start : List Char) {rest : List Char} : ∀ (cs : List Char) {fuel : Nat},
    cs.length < fuel → string start fuel (cs.flatMap escape ++ '"' :: rest) = .ok (cs, rest)
  | [], fuel + 1, _ => by
    rw [List.flatMap_nil, List.nil_append, string.eq_def]
    simp
  | c :: cs, fuel + 1, h => by
    rw [List.flatMap_cons, List.append_assoc]
    exact string_escape (string_quoted start cs (by simpa using h))

/-- A text is not longer than it is between quotes, so that its length is fuel enough. -/
theorem length_le_flatMap_escape : ∀ cs : List Char, cs.length ≤ (cs.flatMap escape).length
  | [] => Nat.le_refl 0
  | c :: cs => by
    have hone : 1 ≤ (escape c).length := by
      unfold escape
      split_ifs <;> simp
    rw [List.flatMap_cons, List.length_append, List.length_cons]
    have := length_le_flatMap_escape cs
    omega

theorem toList_quoted (s : String) :
    (quoted s).toList = '"' :: (s.toList.flatMap escape ++ ['"']) := by
  rw [quoted, String.toList_ofList]
  rfl

/-! ## 2. Blanks -/

/-- A run of blanks. -/
def AreBlank (cs : List Char) : Prop := ∀ c ∈ cs, isBlank c = true

theorem skip_append {bs : List Char} (h : AreBlank bs) (cs : List Char) :
    skip (bs ++ cs) = skip cs :=
  List.dropWhile_append_of_pos h

theorem skip_cons {c : Char} (h : isBlank c = false) (cs : List Char) :
    skip (c :: cs) = c :: cs := by
  rw [skip, List.dropWhile_cons, h]
  rfl

theorem areBlank_lineBreak (layout : Layout) (level : Nat) :
    AreBlank (layout.lineBreak level).toList := by
  cases layout with
  | line | compact => exact List.forall_mem_nil _
  | indented step =>
    have hspaces : (String.ofList (List.replicate (step * level) ' ')).toList
        = List.replicate (step * level) ' ' := String.toList_ofList
    intro c hc
    rw [Layout.lineBreak, String.toList_append, hspaces] at hc
    rcases List.mem_append.mp hc with hc | hc
    · rw [List.mem_singleton.mp hc]
      rfl
    · rw [List.eq_of_mem_replicate hc]
      rfl

/-- Entries are parted by a comma and blanks. -/
theorem toList_comma (layout : Layout) (level : Nat) :
    ∃ bs, AreBlank bs ∧ (layout.comma level).toList = ',' :: bs := by
  have hbreak : ∀ layout : Layout, ∃ bs, AreBlank bs ∧
      ("," ++ layout.lineBreak level).toList = ',' :: bs := fun layout => by
    rw [String.toList_append]
    exact ⟨_, areBlank_lineBreak layout level, rfl⟩
  cases layout with
  | line => exact ⟨[' '], by simp [AreBlank, isBlank], by simp [Layout.comma]⟩
  | compact => exact hbreak .compact
  | indented step => exact hbreak (.indented step)

theorem toList_colon (layout : Layout) : ∃ bs, AreBlank bs ∧ layout.colon.toList = ':' :: bs := by
  cases layout with
  | compact => exact ⟨[], List.forall_mem_nil _, by simp [Layout.colon]⟩
  | line | indented => exact ⟨[' '], by simp [AreBlank, isBlank], by simp [Layout.colon]⟩

theorem endsNumber_of_blank {bs : List Char} (h : AreBlank bs) {c : Char}
    (hc : endsNumber [c] = true) (cs : List Char) : endsNumber (bs ++ c :: cs) = true := by
  cases bs with
  | nil => exact hc
  | cons b bs =>
    have hb := h b List.mem_cons_self
    simp only [isBlank, Bool.or_eq_true, decide_eq_true_eq] at hb
    rcases hb with ((rfl | rfl) | rfl) | rfl <;> rfl

/-! ## 3. Texts that are read -/

/-- A character with which a value may start. -/
def isStart (c : Char) : Bool :=
  c.isDigit || ['"', '\x7b', '[', '-', 'n', 't', 'f', 'N', 'I'].contains c

/-- A text that is read as a value, with fuel for twice its length and whatever follows it that does
not go on as a number. -/
structure Reads (text : List Char) (v : Value) : Prop where
  starts : text.head?.any isStart = true
  reads : ∀ fuel rest, 2 * text.length ≤ fuel → endsNumber rest = true →
    value fuel (text ++ rest) = .ok (v, rest)

theorem isBlank_of_isStart {c : Char} (h : isStart c = true) : isBlank c = false := by
  rw [← Bool.not_eq_true]
  intro hblank
  simp only [isBlank, Bool.or_eq_true, decide_eq_true_eq] at hblank
  rcases hblank with ((rfl | rfl) | rfl) | rfl <;> cases h

theorem any_head?_append {p : Char → Bool} {cs : List Char} (h : cs.head?.any p = true)
    (more : List Char) : (cs ++ more).head?.any p = true := by
  cases cs with
  | nil => cases h
  | cons c cs => exact h

/-- No blanks are skipped where a value starts. -/
theorem skip_of_starts {cs : List Char} (h : cs.head?.any isStart = true) : skip cs = cs := by
  cases cs with
  | nil => rfl
  | cons c cs => exact skip_cons (isBlank_of_isStart h) cs

/-- Where every text starts a value, so does what they make when they are put together. -/
theorem starts_intercalate {α : Type} {R : List Char → α → Prop}
    (hR : ∀ {text a}, R text a → text.head?.any isStart = true) (sep : List Char)
    {texts : List (List Char)} {as : List α} (h : List.Forall₂ R texts as) (hne : texts ≠ []) :
    (sep.intercalate texts).head?.any isStart = true := by
  cases h with
  | nil => exact absurd rfl hne
  | @cons text _ texts _ hfirst _ =>
    cases texts with
    | nil =>
      rw [List.intercalate_singleton]
      exact hR hfirst
    | cons next texts =>
      rw [List.intercalate_cons_cons, List.append_assoc]
      exact any_head?_append (hR hfirst) _

/-- Blanks before a value are skipped. -/
theorem skip_blanks {bs cs : List Char} (hbs : AreBlank bs) (h : cs.head?.any isStart = true)
    (more : List Char) : skip (bs ++ (cs ++ more)) = cs ++ more := by
  rw [skip_append hbs, skip_of_starts (any_head?_append h more)]

/-! ## 4. Entries -/

theorem length_intercalate_cons (bs text next : List Char) (texts : List (List Char)) :
    ((',' :: bs).intercalate (text :: next :: texts)).length
      = text.length + (1 + bs.length) + ((',' :: bs).intercalate (next :: texts)).length := by
  rw [List.intercalate_cons_cons, List.length_append, List.length_append, List.length_cons]
  omega

/-- What is done after an item of a list. -/
def afterElement (fuel : Nat) (v : Value) (rest : List Char) :
    Except Failure (List Value × List Char) :=
  match skip rest with
  | ']' :: rest => pure ([v], rest)
  | ',' :: rest => elements fuel (skip rest) >>= fun p => pure (v :: p.1, p.2)
  | rest => .error (.expectedComma, rest)

theorem elements_of_value {fuel : Nat} {cs rest : List Char} {v : Value}
    (h : value fuel cs = .ok (v, rest)) : elements (fuel + 1) cs = afterElement fuel v rest := by
  rw [elements, h]
  rfl

/-- **The items of a list are read up to the closing bracket.** -/
theorem elements_of_reads {bs close rest : List Char} (hbs : AreBlank bs) (hclose : AreBlank close)
    {texts : List (List Char)} {items : List Value} (hs : List.Forall₂ Reads texts items) :
    ∀ {fuel : Nat}, texts ≠ [] → 2 * ((',' :: bs).intercalate texts).length < fuel →
    elements fuel ((',' :: bs).intercalate texts ++ (close ++ ']' :: rest))
      = .ok (items, rest) := by
  induction hs with
  | nil => exact fun hne => absurd rfl hne
  | @cons text v texts items h hs ih =>
    intro fuel _ hfuel
    obtain ⟨fuel, rfl⟩ : ∃ n, fuel = n + 1 := ⟨fuel - 1, by omega⟩
    have hstarts := starts_intercalate Reads.starts (',' :: bs) hs
    cases hs with
    | nil =>
      rw [List.intercalate_singleton] at hfuel ⊢
      rw [elements_of_value (h.reads fuel _ (by omega) (endsNumber_of_blank hclose rfl rest)),
        afterElement, skip_append hclose, skip_cons rfl]
      rfl
    | @cons next _ texts _ _ _ =>
      have hlength := length_intercalate_cons bs text next texts
      rw [List.intercalate_cons_cons, List.append_assoc, List.append_assoc,
        elements_of_value (h.reads fuel _ (by omega) rfl), afterElement]
      change elements fuel (skip (bs ++ _)) >>= _ = _
      rw [skip_blanks hbs (hstarts (by simp)), ih (by simp) (by omega)]
      rfl

/-- A text that is read as a key with its value. -/
structure ReadsMember (text : List Char) (p : Scalar × Value) : Prop where
  spelled : ∃ (key : String) (bs valueText : List Char), p.1 = .str key ∧ AreBlank bs ∧
    Reads valueText p.2 ∧ text = (quoted key).toList ++ (':' :: (bs ++ valueText))

section Members

variable {fuel : Nat} {text rest more : List Char} {p : Scalar × Value}
  {entries es : List (Scalar × Value)}

theorem starts_member (h : ReadsMember text p) : text.head?.any isStart = true := by
  obtain ⟨key, bs, valueText, -, -, -, rfl⟩ := h.spelled
  rw [toList_quoted]
  rfl

/-- What is done after the value of a member. -/
def afterMember (fuel : Nat) (entries : List (Scalar × Value)) (rest : List Char) :
    Except Failure (List (Scalar × Value) × List Char) :=
  match skip rest with
  | '\x7d' :: rest => pure (entries, rest)
  | ',' :: rest => members fuel entries (skip rest)
  | rest => .error (.expectedComma, rest)

/-- What is done after the key of a member. -/
def afterKey (fuel : Nat) (key : Scalar) (entries : List (Scalar × Value)) (rest : List Char) :
    Except Failure (List (Scalar × Value) × List Char) :=
  match skip rest with
  | ':' :: rest => value fuel (skip rest) >>= fun p =>
      afterMember fuel (Entries.put key p.1 entries) p.2
  | rest => .error (.expectedColon, rest)

/-- A member is put into the entries that have been read. -/
theorem members_of_member (h : ReadsMember text p) (hfuel : 2 * text.length ≤ fuel)
    (hrest : endsNumber rest = true) :
    members (fuel + 1) entries (text ++ rest)
      = afterMember fuel (Entries.put p.1 p.2 entries) rest := by
  obtain ⟨key, bs, valueText, hkey, hbs, hvalue, rfl⟩ := h.spelled
  rw [toList_quoted] at hfuel ⊢
  have hlength := length_le_flatMap_escape key.toList
  simp only [List.cons_append, List.length_cons, List.length_append] at hfuel
  simp only [List.cons_append, List.append_assoc, List.nil_append]
  rw [members.eq_2, string_quoted _ _ (by omega)]
  change afterKey fuel (.str (String.ofList key.toList)) entries
    (':' :: (bs ++ (valueText ++ rest))) = _
  rw [afterKey, skip_cons rfl]
  change value fuel (skip (bs ++ (valueText ++ rest))) >>= _ = _
  rw [skip_blanks hbs hvalue.starts, hvalue.reads fuel rest (by omega) hrest, hkey,
    String.ofList_toList]
  rfl

/-- **The members of an object are read up to the closing brace**, and put at the end: their keys
are new. -/
theorem members_of_reads {bs close : List Char} (hbs : AreBlank bs) (hclose : AreBlank close)
    {texts : List (List Char)} (hs : List.Forall₂ ReadsMember texts es) :
    ∀ {entries : List (Scalar × Value)} {fuel : Nat}, texts ≠ [] →
    (Entries.keys entries ++ Entries.keys es).Nodup →
    2 * ((',' :: bs).intercalate texts).length < fuel →
    members fuel entries ((',' :: bs).intercalate texts ++ (close ++ '\x7d' :: rest))
      = .ok (entries ++ es, rest) := by
  induction hs with
  | nil => exact fun hne => absurd rfl hne
  | @cons text p texts es h hs ih =>
    intro entries fuel _ hkeys hfuel
    obtain ⟨fuel, rfl⟩ : ∃ n, fuel = n + 1 := ⟨fuel - 1, by omega⟩
    have hnew : p.1 ∉ Entries.keys entries := fun hmem =>
      (List.nodup_append.mp hkeys).2.2 _ hmem _ List.mem_cons_self rfl
    have hstarts := starts_intercalate starts_member (',' :: bs) hs
    cases hs with
    | nil =>
      rw [List.intercalate_singleton] at hfuel ⊢
      rw [members_of_member h (by omega) (endsNumber_of_blank hclose rfl rest),
        Entries.put_of_not_mem hnew, afterMember, skip_append hclose, skip_cons rfl]
      rfl
    | @cons next q texts es _ _ =>
      have hlength := length_intercalate_cons bs text next texts
      have hmore : (Entries.keys (entries ++ [p]) ++ Entries.keys (q :: es)).Nodup := by
        simpa using hkeys
      rw [List.intercalate_cons_cons, List.append_assoc, List.append_assoc,
        members_of_member h (by omega) rfl, Entries.put_of_not_mem hnew, afterMember]
      change members fuel (entries ++ [p]) (skip (bs ++ _)) = _
      rw [skip_blanks hbs (hstarts (by simp)),
        ih (by simp) hmore (by omega), List.append_assoc]
      rfl

end Members

/-! ## 5. Scalars -/

section Scalars

variable {text rest : List Char} {fuel : Nat} {s : Scalar}

/-- What starts with no quote, brace or bracket is read as a number or a word. -/
theorem value_scalar {c : Char} {cs : List Char}
    (hc : c ≠ '"' ∧ c ≠ '\x7b' ∧ c ≠ '[') : value (fuel + 1) (c :: cs) = scalar (c :: cs) := by
  rw [value.eq_5]
  · rintro _ ⟨⟩
    exact hc.1 rfl
  · rintro _ ⟨⟩
    exact hc.2.1 rfl
  · rintro _ ⟨⟩
    exact hc.2.2 rfl

theorem reads_of_scalar {c : Char} {cs : List Char}
    (hc : isStart c = true ∧ c ≠ '"' ∧ c ≠ '\x7b' ∧ c ≠ '[')
    (h : ∀ rest, endsNumber rest = true → scalar (c :: cs ++ rest) = .ok (.atom s, rest)) :
    Reads (c :: cs) (.atom s) where
  starts := hc.1
  reads := fun | _ + 1, rest, _, hrest => (value_scalar hc.2).trans (h rest hrest)

theorem reads_str (t : String) : Reads (quoted t).toList (.str t) where
  starts := by
    rw [toList_quoted]
    rfl
  reads fuel rest hfuel hrest := by
    have hlength := length_le_flatMap_escape t.toList
    rw [toList_quoted] at hfuel ⊢
    simp only [List.length_cons, List.length_append] at hfuel
    obtain ⟨fuel, rfl⟩ : ∃ n, fuel = n + 1 := ⟨fuel - 1, by omega⟩
    simp only [List.cons_append, List.append_assoc, List.nil_append]
    rw [value.eq_2, string_quoted _ _ (by omega)]
    change Except.ok (Value.str (String.ofList t.toList), rest) = _
    rw [String.ofList_toList]

theorem reads_numeral (h : IsNumeral text s) : Reads text (.atom s) := by
  obtain ⟨c, cs, rfl, hc⟩ : ∃ c cs, text = c :: cs ∧ (c.isDigit = true ∨ c = '-') := by
    obtain ⟨negative, body, rfl, hdigit, -⟩ := h.reads
    cases negative with
    | true => exact ⟨_, _, rfl, .inr rfl⟩
    | false =>
      cases body with
      | nil => cases hdigit
      | cons c cs => exact ⟨c, cs, rfl, .inl hdigit⟩
  refine reads_of_scalar ?_ fun rest hrest => scalar_of_isNumeral h hrest
  rcases hc with hc | rfl
  · refine ⟨by rw [isStart, hc, Bool.true_or], ?_, ?_, ?_⟩
    all_goals
      rintro rfl
      cases hc
  · decide

theorem reads_word {p : String × Scalar} (hp : p ∈ words) : Reads p.1.toList (.atom p.2) := by
  simp only [words, List.mem_cons, List.not_mem_nil, or_false] at hp
  rcases hp with rfl | rfl | rfl | rfl | rfl | rfl
  all_goals exact reads_of_scalar (by decide) fun rest _ => rfl

end Scalars

/-- **A scalar is read from what is written of it.** -/
theorem reads_writeScalar {s : Scalar} {text : String} (hs : s.isReadable = true)
    (h : writeScalar s = .ok text) :
    Reads text.toList (.atom s) := by
  cases s with
  | null =>
    cases h
    exact reads_word (p := ("null", .null)) (by decide)
  | bool b =>
    cases h
    cases b
    · exact reads_word (p := ("false", .bool false)) (by decide)
    · exact reads_word (p := ("true", .bool true)) (by decide)
  | int n =>
    rw [writeScalar, integerText] at h
    split at h
    · rename_i hwritable
      cases h
      exact reads_numeral (isNumeral_integer hwritable)
    · cases h
  | float x =>
    cases h
    cases x with
    | nan => exact reads_word (p := ("NaN", .float .nan)) (by decide)
    | infinite negative =>
      cases negative
      · exact reads_word (p := ("Infinity", .float (.infinite false))) (by decide)
      · exact reads_word (p := ("-Infinity", .float (.infinite true))) (by decide)
    | finite negative m e => exact reads_numeral (isNumeral_render hs)
  | str t =>
    cases h
    exact reads_str t
  | date | moment | bytes => cases hs

/-! ## 6. Containers -/

/-- What stands between the brackets of a list or an object that is not empty. -/
theorem toList_enclose (layout : Layout) (level : Nat) (opening closing : String)
    {entries : List String} (h : entries ≠ []) :
    ∃ before bs after, AreBlank before ∧ AreBlank bs ∧ AreBlank after ∧
      (enclose layout level opening closing entries).toList = opening.toList ++ (before ++
        ((',' :: bs).intercalate (entries.map String.toList) ++ (after ++ closing.toList))) := by
  obtain ⟨bs, hbs, hcomma⟩ := toList_comma layout (level + 1)
  refine ⟨_, bs, _, areBlank_lineBreak layout (level + 1), hbs, areBlank_lineBreak layout level, ?_⟩
  rw [enclose, if_neg (by simpa using h)]
  simp only [String.toList_append, String.toList_intercalate, hcomma, List.append_assoc]

section Containers

variable {fuel : Nat} {cs rest more : List Char} {items : List Value}
  {entries : List (Scalar × Value)}

theorem value_list (hstarts : (skip cs).head?.any isStart = true)
    (h : elements fuel (skip cs) = .ok (items, more)) :
    value (fuel + 1) ('[' :: cs) = .ok (.list items, more) := by
  rw [value.eq_4]
  split
  · rename_i heq
    rw [heq] at hstarts
    cases hstarts
  · rw [h]
    rfl

theorem value_map (hstarts : (skip cs).head?.any isStart = true)
    (h : members fuel [] (skip cs) = .ok (entries, more)) :
    value (fuel + 1) ('\x7b' :: cs) = .ok (.map entries, more) := by
  rw [value.eq_3]
  split
  · rename_i heq
    rw [heq] at hstarts
    cases hstarts
  · rw [h]
    rfl

end Containers

section Enclosed

variable {layout : Layout} {level : Nat} {entries : List String} {items : List Value}
  {es : List (Scalar × Value)}

/-- Entries between brackets are read as a value, if what reads them up to the closing bracket makes
it of them. -/
theorem reads_enclose {β : Type} {opening closing : String} {o c : Char} {v : Value} {b : β}
    (hopening : opening.toList = [o]) (hclosing : closing.toList = [c]) (ho : isStart o = true)
    (hne : entries ≠ [])
    (hstarts : ∀ sep : List Char,
      (sep.intercalate (entries.map String.toList)).head?.any isStart = true)
    (inner : Nat → List Char → Except Failure (β × List Char))
    (hvalue : ∀ {fuel cs more}, (skip cs).head?.any isStart = true →
      inner fuel (skip cs) = .ok (b, more) → value (fuel + 1) (o :: cs) = .ok (v, more))
    (hinner : ∀ {bs after rest fuel}, AreBlank bs → AreBlank after →
      2 * ((',' :: bs).intercalate (entries.map String.toList)).length < fuel →
      inner fuel ((',' :: bs).intercalate (entries.map String.toList) ++ (after ++ c :: rest))
        = .ok (b, rest)) :
    Reads (enclose layout level opening closing entries).toList v := by
  obtain ⟨before, bs, after, hbefore, hbs, hafter, htext⟩ :=
    toList_enclose layout level opening closing hne
  rw [htext, hopening, hclosing, List.singleton_append]
  refine ⟨ho, fun fuel rest hfuel _ => ?_⟩
  simp only [List.length_append, List.length_cons] at hfuel
  obtain ⟨fuel, rfl⟩ : ∃ n, fuel = n + 1 := ⟨fuel - 1, by omega⟩
  simp only [List.cons_append, List.append_assoc, List.nil_append]
  refine hvalue ?_ ?_
  · rw [skip_blanks hbefore (hstarts _)]
    exact any_head?_append (hstarts _) _
  · rw [skip_blanks hbefore (hstarts _)]
    exact hinner hbs hafter (by omega)

/-- **A list is read from its items between brackets.** -/
theorem reads_list (h : List.Forall₂ Reads (entries.map String.toList) items) :
    Reads (enclose layout level "[" "]" entries).toList (.list items) := by
  by_cases hne : entries = []
  · subst hne
    cases h
    have htext : (enclose layout level "[" "]" []).toList = ['[', ']'] := by
      simp [enclose]
    rw [htext]
    exact ⟨rfl, fun | fuel + 1, rest, _, _ => rfl⟩
  · have hne' : entries.map String.toList ≠ [] := by simpa using hne
    exact reads_enclose rfl rfl rfl hne (fun sep => starts_intercalate Reads.starts sep h hne')
      elements value_list fun hbs hafter => elements_of_reads hbs hafter h hne'

/-- **An object is read from its members between braces.** -/
theorem reads_map (h : List.Forall₂ ReadsMember (entries.map String.toList) es)
    (hkeys : (Entries.keys es).Nodup) :
    Reads (enclose layout level "\x7b" "\x7d" entries).toList (.map es) := by
  by_cases hne : entries = []
  · subst hne
    cases h
    have htext : (enclose layout level "\x7b" "\x7d" []).toList = ['\x7b', '\x7d'] := by
      simp [enclose]
    rw [htext]
    exact ⟨rfl, fun | fuel + 1, rest, _, _ => rfl⟩
  · have hne' : entries.map String.toList ≠ [] := by simpa using hne
    exact reads_enclose rfl rfl rfl hne (fun sep => starts_intercalate starts_member sep h hne')
      (members · []) value_map fun hbs hafter => members_of_reads hbs hafter h hne' hkeys

end Enclosed

/-! ## 7. Whole values -/

mutual

/-- **A value is read from what is written of it.** -/
theorem reads_writeAt (layout : Layout) (level : Nat) : ∀ {v : Value} {text : String},
    v.isReadable = true → writeAt layout level v = .ok text → Reads text.toList v
  | .atom s, text, hv, h => reads_writeScalar hv h
  | .list items, text, hv, h => by
    obtain ⟨entries, hentries, h⟩ := bind_eq_ok.mp h
    cases h
    exact reads_list (reads_writeItems layout (level + 1) hv hentries)
  | .map es, text, hv, h => by
    obtain ⟨entries, hentries, h⟩ := bind_eq_ok.mp h
    cases h
    rw [Value.isReadable, Bool.and_eq_true, decide_eq_true_eq] at hv
    exact reads_map (reads_writeMembers layout (level + 1) hv.2 hentries) hv.1

theorem reads_writeItems (layout : Layout) (level : Nat) :
    ∀ {items : List Value} {texts : List String}, Value.areReadable items = true →
    writeItems layout level items = .ok texts →
    List.Forall₂ Reads (texts.map String.toList) items
  | [], texts, _, h => by
    cases h
    exact .nil
  | v :: rest, texts, hv, h => by
    rw [Value.areReadable, Bool.and_eq_true] at hv
    obtain ⟨first, hfirst, h⟩ := bind_eq_ok.mp h
    obtain ⟨others, hothers, h⟩ := bind_eq_ok.mp h
    cases h
    exact .cons (reads_writeAt layout level hv.1 hfirst)
      (reads_writeItems layout level hv.2 hothers)

theorem reads_writeMembers (layout : Layout) (level : Nat) :
    ∀ {es : List (Scalar × Value)} {texts : List String}, Value.membersAreReadable es = true →
    writeMembers layout level es = .ok texts →
    List.Forall₂ ReadsMember (texts.map String.toList) es
  | [], texts, _, h => by
    cases h
    exact .nil
  | (.str key, v) :: rest, texts, hv, h => by
    rw [Value.membersAreReadable, Bool.and_eq_true, Bool.and_eq_true] at hv
    obtain ⟨first, hfirst, h⟩ := bind_eq_ok (x := writeAt layout level v).mp h
    obtain ⟨others, hothers, h⟩ := bind_eq_ok.mp h
    cases h
    obtain ⟨bs, hbs, hcolon⟩ := toList_colon layout
    refine .cons ⟨key, bs, first.toList, rfl, hbs, reads_writeAt layout level hv.1.2 hfirst, ?_⟩
      (reads_writeMembers layout level hv.2 hothers)
    rw [String.toList_append, String.toList_append, hcolon, List.append_assoc, List.cons_append]

end

/-- **What is written is read back.**  A value that a text stands for is, in every layout, what its
text is read as. -/
theorem read_write {layout : Layout} {v : Value} {text : String} (hv : v.isReadable = true)
    (h : write layout v = .ok text) : read text = .ok v := by
  have hreads := reads_writeAt layout 0 hv h
  have hskip : skip text.toList = text.toList := skip_of_starts hreads.starts
  have hmark : text.toList.head? ≠ some '\uFEFF' := by
    intro hhead
    have hstarts := hreads.starts
    rw [hhead] at hstarts
    cases hstarts
  have hvalue := hreads.reads (2 * (text.toList.length + 1)) [] (by omega) rfl
  rw [List.append_nil] at hvalue
  have hdocument : document text.toList = .ok v := by
    rw [document, if_neg hmark, hskip]
    simp only [hvalue]
    rfl
  rw [read, hdocument]
  rfl

end Schemata.Json
