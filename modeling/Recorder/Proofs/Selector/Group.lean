import Mathlib.Tactic.Common
import Recorder.Proofs.Selector.Condition

/-!
# Reading groups back

What is written of a group of selectors is read as that group (`ofChars_text`, `parse_text`). A
compound goes on up to the first character that starts no further condition (`EndsCompound`); at a
combinator, at a comma and at the end of a text none goes on. The chain that has been read is
extended from there, as chains are built from the left. Names and values may hold any characters;
`Printable` says of each part what is left to ask, and can be decided.
-/

namespace Recorder.Selector

open Text (isWhiteSpace asciiLower)

/-! ## Compounds -/

/-- No compound goes on at the start of a text. -/
def EndsCompound (cs : List Char) : Prop :=
  ∀ c ∈ cs.head?, isNameChar c = false ∧ c ≠ '\\' ∧ startsPart c = false

/-- Where no compound goes on, no name does. -/
theorem EndsCompound.endsName {cs : List Char} (h : EndsCompound cs) : EndsName cs :=
  fun c hc => ⟨(h c hc).1, (h c hc).2.1⟩

/-- No name goes on at the start of a condition. -/
theorem endsName_of_startsPart {c : Char} (h : startsPart c = true) (cs : List Char) :
    EndsName (c :: cs) := by
  rintro d ⟨⟩
  simp only [startsPart, Bool.or_eq_true, decide_eq_true_eq] at h
  rcases h with ((rfl | rfl) | rfl) | rfl <;> decide

/-- No name goes on at the start of conditions, and of what ends a compound. -/
theorem endsName_flatMap (ps : List Part) {rest : List Char} (h : EndsCompound rest) :
    EndsName (ps.flatMap Part.text ++ rest) := by
  cases ps with
  | nil => exact h.endsName
  | cons p ps =>
    obtain ⟨c, cs, htext, hc⟩ := p.exists_text_eq_cons
    rw [List.flatMap_cons, htext]
    exact endsName_of_startsPart hc _

/-- Where no compound goes on, no condition is read. -/
theorem part?_of_endsCompound {cs : List Char} (h : EndsCompound cs) :
    part? cs = .ok (none, cs) := by
  unfold part?
  split
  case h_5 => rfl
  all_goals exact absurd (h _ rfl).2.2 (by decide)

/-- A condition that is read is added, and the reading goes on behind it. -/
theorem parts_of_some (c : Compound) {cs rest : List Char} {p : Part}
    (h : part? cs = .ok (some p, rest)) : parts c cs = parts (c.add p) rest := by
  rw [parts]
  split <;> rename_i hpart <;> rw [h] at hpart <;> cases hpart
  rfl

/-- Where no condition is read, the compound is complete. -/
theorem parts_of_none (c : Compound) {cs rest : List Char} (h : part? cs = .ok (none, rest)) :
    parts c cs = .ok (c, rest) := by
  rw [parts]
  split <;> rename_i hpart <;> rw [h] at hpart <;> cases hpart
  rfl

/-- Conditions are read back, and added to the compound in front of them. -/
theorem parts_flatMap (c : Compound) {ps : List Part} (hps : ∀ p ∈ ps, p.Printable)
    {rest : List Char} (h : EndsCompound rest) :
    parts c (ps.flatMap Part.text ++ rest) = .ok (ps.foldl Compound.add c, rest) := by
  induction ps generalizing c with
  | nil => exact parts_of_none c (part?_of_endsCompound h)
  | cons p ps ih =>
    obtain ⟨hp, hps⟩ := List.forall_mem_cons.1 hps
    -- The name in a condition ends where the next condition starts.
    rw [List.flatMap_cons, List.append_assoc,
      parts_of_some c (part?_text hp (endsName_flatMap ps h))]
    exact ih (c.add p) hps

/-- The conditions of a compound behind its tag, in the order in which they are written. -/
def Compound.conditions (c : Compound) : List Part :=
  c.id.toList.map .id ++ c.classes.map .className ++ c.attributes.map .test ++
    c.nthChild.toList.map .nthChild

/-- The text of a compound is its tag and its conditions, or an asterisk. -/
theorem Compound.text_eq (c : Compound) :
    c.text = match c.tag with
      | some tag => tag.toList ++ c.conditions.flatMap Part.text
      | none =>
        if c.conditions.isEmpty then ['*'] else c.conditions.flatMap Part.text := by
  have hconditions : (c.id.elim [] fun s => '#' :: nameText s.toList) ++
      c.classes.flatMap (fun s => '.' :: nameText s.toList) ++
      c.attributes.flatMap AttributeTest.text ++
      c.nthChild.elim [] (fun n => ":nth-child(".toList ++ Nat.toDigits 10 n ++ [')']) =
      c.conditions.flatMap Part.text := by
    rw [conditions]
    simp only [List.flatMap_append, List.flatMap_map]
    congr 1
    · congr 1
      congr 1
      cases c.id <;> simp [Part.text]
    · cases c.nthChild <;> simp [Part.text]
  have hempty : (c.conditions.flatMap Part.text).isEmpty = c.conditions.isEmpty := by
    cases c.conditions with
    | nil => rfl
    | cons p ps =>
      obtain ⟨d, ds, htext, -⟩ := p.exists_text_eq_cons
      simp [htext]
  cases htag : c.tag with
  | some tag => simp only [Compound.text, htag, hconditions]
  | none => simp only [Compound.text, htag, hconditions, hempty]

/-- Classes are added behind the others. -/
theorem Compound.foldl_add_className (c : Compound) (classes : List String) :
    (classes.map .className).foldl Compound.add c =
      { c with classes := c.classes ++ classes } := by
  induction classes generalizing c with
  | nil => simp
  | cons s classes ih => simp [ih, add]

/-- Tests of attributes are added behind the others. -/
theorem Compound.foldl_add_test (c : Compound) (tests : List AttributeTest) :
    (tests.map .test).foldl Compound.add c =
      { c with attributes := c.attributes ++ tests } := by
  induction tests generalizing c with
  | nil => simp
  | cons t tests ih => simp [ih, add]

/-- A compound is made of its tag and its conditions. -/
theorem Compound.foldl_conditions (c : Compound) :
    c.conditions.foldl Compound.add { Compound.any with tag := c.tag } = c := by
  obtain ⟨tag, id, classes, attributes, nthChild⟩ := c
  simp only [conditions, List.foldl_append, foldl_add_className, foldl_add_test]
  cases id <;> cases nthChild <;> simp [add, any]

/-- The characters of tags: small letters, digits, hyphens and underscores. -/
def IsTagChar (c : Char) : Prop :=
  c.isLower = true ∨ c.isDigit = true ∨ c = '-' ∨ c = '_'

instance (c : Char) : Decidable (IsTagChar c) :=
  inferInstanceAs (Decidable (_ ∨ _ ∨ _ ∨ _))

/-- A tag that is read back starts with a small letter. -/
def IsTag (tag : String) : Prop :=
  ∃ first rest, tag.toList = first :: rest ∧ first.isLower = true ∧ ∀ c ∈ rest, IsTagChar c

instance (tag : String) : Decidable (IsTag tag) :=
  match h : tag.toList with
  | [] => .isFalse fun ⟨first, rest, hchars, _⟩ => by simp [h] at hchars
  | first :: rest =>
    decidable_of_iff (first.isLower = true ∧ rest.all (fun c => IsTagChar c) = true)
      (by simp [IsTag, h])

/-- The characters of tags are ASCII characters of names, and no capital letters. -/
theorem IsTagChar.isNameChar {c : Char} (h : IsTagChar c) :
    c.toNat < 0x80 ∧ isNameChar c = true ∧ c.isUpper = false := by
  have hascii : c.toNat < 0x80 := by
    rcases h with h | h | rfl | rfl
    · have hletter : (c.isUpper || c.isLower) = true := by simp [h]
      have halpha : c.isAlpha = true := hletter
      exact toNat_lt_of_isAlphanum (by simp [Char.isAlphanum, halpha])
    · exact toNat_lt_of_isAlphanum (by simp [Char.isAlphanum, h])
    · decide
    · decide
  have hall : c.isLower = true ∨ c.isDigit = true ∨ c = '-' ∨ c = '_' →
      Selector.isNameChar c = true ∧ c.isUpper = false :=
    of_ascii (p := fun c => c.isLower = true ∨ c.isDigit = true ∨ c = '-' ∨ c = '_' →
      Selector.isNameChar c = true ∧ c.isUpper = false) (by decide) hascii
  exact ⟨hascii, hall h⟩

/-- Small letters start tags, and nothing else. -/
theorem startsTag_of_isLower {c : Char} (h : c.isLower = true) :
    startsTag c = true ∧ c ≠ '*' ∧ c.isDigit = false ∧ isWhiteSpace c = false := by
  have hall : c.isLower = true →
      startsTag c = true ∧ c ≠ '*' ∧ c.isDigit = false ∧ isWhiteSpace c = false :=
    of_ascii (p := fun c => c.isLower = true →
      startsTag c = true ∧ c ≠ '*' ∧ c.isDigit = false ∧ isWhiteSpace c = false)
      (by decide) (IsTagChar.isNameChar (.inl h)).1
  exact hall h

/-- A compound that is read back: so are its tag and its conditions. -/
structure Compound.Printable (c : Compound) : Prop where
  /-- The tag is read back. -/
  tag : ∀ t, c.tag = some t → IsTag t
  /-- The conditions are read back. -/
  conditions : ∀ p ∈ c.conditions, p.Printable

instance (c : Compound) : Decidable c.Printable :=
  decidable_of_iff ((∀ t ∈ c.tag, IsTag t) ∧ ∀ p ∈ c.conditions, p.Printable)
    ⟨fun h => ⟨h.1, h.2⟩, fun h => ⟨h.tag, h.conditions⟩⟩

/-- A tag is read back. -/
theorem name_tag {tag : String} (htag : IsTag tag) {rest : List Char} (h : EndsName rest) :
    name (tag.toList ++ rest) = .ok (tag, rest) ∧ asciiLower tag = tag := by
  obtain ⟨first, more, hchars, hfirst, hmore⟩ := htag
  have hall : ∀ c ∈ first :: more, IsTagChar c := List.forall_mem_cons.2 ⟨.inl hfirst, hmore⟩
  have hself : nameText tag.toList = tag.toList := by
    rw [hchars]
    exact nameText_eq_self (startsTag_of_isLower hfirst).2.2.1 fun c hc =>
      (hall c hc).isNameChar.2.1
  have hne : tag ≠ "" := fun heq => by simp [heq] at hchars
  constructor
  · have hread := name_nameText hne h
    rwa [hself] at hread
  · exact asciiLower_eq_self fun c hc => (hall c (hchars ▸ hc)).isNameChar.2.2

/-- What is written of a compound starts with a character that is neither white space nor a comma
nor the sign of a combinator. -/
theorem Compound.exists_text_eq_cons {c : Compound} (hc : c.Printable) :
    ∃ d ds, c.text = d :: ds ∧ startsCompound d = true ∧ isWhiteSpace d = false ∧ d ≠ ',' ∧
      d ≠ '>' := by
  have hpart (ps : List Part) (hps : ps ≠ []) : ∃ d ds, ps.flatMap Part.text = d :: ds ∧
      startsPart d = true := by
    cases ps with
    | nil => exact absurd rfl hps
    | cons p ps =>
      obtain ⟨d, ds, htext, hd⟩ := p.exists_text_eq_cons
      exact ⟨d, _, by rw [List.flatMap_cons, htext]; rfl, hd⟩
  rw [text_eq]
  cases htag : c.tag with
  | some tag =>
    obtain ⟨first, more, hchars, hfirst, -⟩ := hc.tag tag htag
    obtain ⟨hstart, -, -, hspace⟩ := startsTag_of_isLower hfirst
    refine ⟨first, _, by simp only [hchars]; rfl, by simp [startsCompound, hstart], hspace, ?_, ?_⟩
    all_goals
      rintro rfl
      exact absurd hfirst (by decide)
  | none =>
    by_cases hempty : c.conditions = []
    · exact ⟨'*', [], by simp [hempty], by decide, by decide, by decide, by decide⟩
    · obtain ⟨d, ds, htext, hd⟩ := hpart c.conditions hempty
      refine ⟨d, ds, by simpa [hempty] using htext, by simp [startsCompound, hd], ?_⟩
      simp only [startsPart, Bool.or_eq_true, decide_eq_true_eq] at hd
      rcases hd with ((rfl | rfl) | rfl) | rfl <;> decide

/-- A compound is read back. -/
theorem compound_text {c : Compound} (hc : c.Printable) {rest : List Char}
    (h : EndsCompound rest) : compound (c.text ++ rest) = .ok (c, rest) := by
  have hparts := parts_flatMap { Compound.any with tag := c.tag } hc.conditions h
  rw [c.foldl_conditions] at hparts
  have hhead : compoundHead (c.text ++ rest) =
      .ok ({ Compound.any with tag := c.tag }, c.conditions.flatMap Part.text ++ rest) := by
    rw [Compound.text_eq]
    cases htag : c.tag with
    | some tag =>
      obtain ⟨hname, hlower⟩ := name_tag (hc.tag tag htag) (endsName_flatMap c.conditions h)
      obtain ⟨first, more, hchars, hfirst, -⟩ := hc.tag tag htag
      obtain ⟨hstart, hstar, -, -⟩ := startsTag_of_isLower hfirst
      simp only [hchars, List.cons_append, List.append_assoc] at hname ⊢
      rw [compoundHead, if_neg hstar, if_pos hstart, hname]
      simp only [hlower]
    | none =>
      cases hconditions : c.conditions with
      | nil => rfl
      | cons p ps =>
        -- A condition is neither an asterisk nor the start of a tag.
        obtain ⟨d, ds, htext, hd⟩ := p.exists_text_eq_cons
        have hstart : d ≠ '*' ∧ startsTag d = false := by
          simp only [startsPart, Bool.or_eq_true, decide_eq_true_eq] at hd
          rcases hd with ((rfl | rfl) | rfl) | rfl <;> decide
        simp only [List.isEmpty_cons, Bool.false_eq_true, if_false, List.flatMap_cons, htext,
          List.cons_append]
        rw [compoundHead, if_neg hstart.1, if_neg (by simp [hstart.2])]
        rfl
  obtain ⟨d, ds, htext, hd, -⟩ := Compound.exists_text_eq_cons hc
  have hstart : (c.text ++ rest).head?.any startsCompound = true := by simp [htext, hd]
  rw [compound, if_pos hstart, hhead]
  exact hparts

/-! ## Chains and groups -/

/-- A chain that is read back: so are its compounds. -/
def Complex.Printable : Complex → Prop
  | .compound c => c.Printable
  | .join left _ c => left.Printable ∧ c.Printable

/-- Whether a chain is read back can be decided, compound by compound. -/
def Complex.decidePrintable : (s : Complex) → Decidable s.Printable
  | .compound c => inferInstanceAs (Decidable c.Printable)
  | .join left _ c =>
    have := left.decidePrintable
    inferInstanceAs (Decidable (left.Printable ∧ c.Printable))

instance (s : Complex) : Decidable s.Printable :=
  s.decidePrintable

/-- No compound goes on at a space. -/
theorem endsCompound_combinator (k : Combinator) (cs : List Char) :
    EndsCompound (k.text ++ cs) := by
  cases k <;> rintro c ⟨⟩ <;> decide

/-- What is written of a chain starts as its first compound does. -/
theorem Complex.skipSpace_text {s : Complex} (hs : s.Printable) (rest : List Char) :
    skipSpace (s.text ++ rest) = s.text ++ rest := by
  induction s generalizing rest with
  | compound c =>
    obtain ⟨d, ds, htext, -, hspace, -⟩ := Compound.exists_text_eq_cons hs
    rw [text, htext]
    exact skipSpace_cons hspace _
  | join left k c ih =>
    rw [text, List.append_assoc, List.append_assoc]
    exact ih hs.1 _

/-- A combinator is read back in front of a compound. -/
theorem combinator?_text (k : Combinator) {c : Compound} (hc : c.Printable) (rest : List Char) :
    combinator? (k.text ++ (c.text ++ rest)) = .ok (some k, c.text ++ rest) := by
  obtain ⟨d, ds, htext, -, hspace, hcomma, hchild⟩ := Compound.exists_text_eq_cons hc
  rw [htext, List.cons_append]
  have hskip : skipSpace (d :: (ds ++ rest)) = d :: (ds ++ rest) := skipSpace_cons hspace _
  cases k with
  | child =>
    have hsign : skipSpace (Combinator.child.text ++ d :: (ds ++ rest)) =
        '>' :: ' ' :: d :: (ds ++ rest) := by
      show skipSpace (' ' :: '>' :: ' ' :: d :: (ds ++ rest)) = _
      rw [skipSpace_space, skipSpace_cons (by decide)]
    rw [combinator?]
    simp only [hsign, skipSpace_space, hskip]
    rfl
  | descendant =>
    have hspaces : skipSpace (Combinator.descendant.text ++ d :: (ds ++ rest)) =
        d :: (ds ++ rest) := by
      show skipSpace (' ' :: d :: (ds ++ rest)) = _
      rw [skipSpace_space, hskip]
    rw [combinator?]
    simp only [hspaces, if_neg hcomma, if_neg hchild]
    rfl

/-- A chain is read back as far as it goes, and is extended from there. -/
theorem complex_text {s : Complex} (hs : s.Printable) {rest : List Char} (h : EndsCompound rest) :
    complex (s.text ++ rest) = chain s rest := by
  induction s generalizing rest with
  | compound c =>
    rw [complex, Complex.skipSpace_text hs, Complex.text, compound_text hs h]
  | join left k c ih =>
    obtain ⟨hleft, hc⟩ := hs
    -- The chain on the left is read up to the combinator, and goes on with the last compound.
    rw [Complex.text, List.append_assoc, List.append_assoc,
      ih hleft (endsCompound_combinator k _), chain]
    split <;> rename_i hk <;> rw [combinator?_text k hc rest] at hk <;> cases hk
    split <;> rename_i hcompound <;> rw [compound_text hc h] at hcompound <;> cases hcompound
    rfl

/-- The ends of a chain: the end of the text and a comma. -/
theorem chain_of_head? {s : Complex} {cs : List Char} (h : ∀ c ∈ cs.head?, c = ',') :
    chain s cs = .ok (s, cs) := by
  have hnone : combinator? cs = .ok (none, cs) := by
    cases cs with
    | nil => rfl
    | cons c cs =>
      obtain rfl := h c rfl
      rw [combinator?]
      simp only [skipSpace_cons (show isWhiteSpace ',' = false by decide)]
      rfl
  rw [chain]
  split <;> rename_i hk <;> rw [hnone] at hk <;> cases hk
  rfl

/-- A chain is read back at the end of a text and in front of a comma. -/
theorem complex_text_of_head? {s : Complex} (hs : s.Printable) {rest : List Char}
    (h : ∀ c ∈ rest.head?, c = ',') : complex (s.text ++ rest) = .ok (s, rest) := by
  have hends : EndsCompound rest := fun c hc => by
    obtain rfl := h c hc
    decide
  rw [complex_text hs hends, chain_of_head? h]

/-- White space in front of a chain is skipped. -/
theorem complex_space (cs : List Char) : complex (' ' :: cs) = complex cs := by
  rw [complex, complex, skipSpace_space]

/-- What is written of the chains of a group behind the first one. -/
def moreText (more : List Complex) : List Char :=
  more.flatMap fun t => ',' :: ' ' :: t.text

/-- Behind a chain of a group the text ends, or a comma comes. -/
theorem head?_moreText (more : List Complex) : ∀ c ∈ (moreText more).head?, c = ',' := by
  cases more with
  | nil => simp [moreText]
  | cons t more =>
    rintro c ⟨⟩
    rfl

/-- The chains of a group are read back, once the first one is. -/
theorem alternatives_moreText {cs : List Char} {s : Complex} {more : List Complex}
    (hmore : ∀ t ∈ more, t.Printable) (h : complex cs = .ok (s, moreText more)) :
    alternatives cs = .ok (s :: more) := by
  induction more generalizing cs s with
  | nil =>
    rw [alternatives]
    split <;> rename_i hs <;> rw [h] at hs <;> cases hs
    rfl
  | cons t more ih =>
    obtain ⟨ht, hmore⟩ := List.forall_mem_cons.1 hmore
    have hnext : alternatives (' ' :: (t.text ++ moreText more)) = .ok (t :: more) := by
      refine ih hmore ?_
      rw [complex_space, complex_text_of_head? ht (head?_moreText more)]
    have hfirst : complex cs = .ok (s, ',' :: ' ' :: (t.text ++ moreText more)) := h
    rw [alternatives]
    split <;> rename_i hs <;> rw [hfirst] at hs <;> cases hs
    rw [if_pos rfl, hnext]

/-- The text of a group is that of its first chain and of those behind it. -/
theorem Group.text_cons (s : Complex) (more : List Complex) :
    (Group.mk (s :: more)).text = s.text ++ moreText more := by
  induction more generalizing s with
  | nil => simp [text, moreText]
  | cons t more ih =>
    have ht := ih t
    simp only [text, List.map_cons, moreText] at ht ⊢
    rw [List.intercalate_cons_cons, ht]
    simp

/-- A group that is read back: it has a chain, and its chains are read back. -/
structure Group.Printable (g : Group) : Prop where
  /-- There is a chain. -/
  selectors_ne : g.selectors ≠ []
  /-- The chains are read back. -/
  selectors : ∀ s ∈ g.selectors, s.Printable

instance (g : Group) : Decidable g.Printable :=
  decidable_of_iff (g.selectors ≠ [] ∧ ∀ s ∈ g.selectors, s.Printable)
    ⟨fun h => ⟨h.1, h.2⟩, fun h => ⟨h.selectors_ne, h.selectors⟩⟩

/-- What is written of a group is read as that group. -/
theorem ofChars_text {g : Group} (hg : g.Printable) : Group.ofChars g.text = .ok g := by
  obtain ⟨selectors⟩ := g
  cases selectors with
  | nil => exact absurd rfl hg.selectors_ne
  | cons s more =>
    obtain ⟨hs, hmore⟩ := List.forall_mem_cons.1 hg.selectors
    have hfirst := complex_text_of_head? hs (head?_moreText more)
    rw [Group.ofChars, Group.text_cons, alternatives_moreText hmore hfirst]

/-- The text of a group denotes that group. -/
theorem parse_text {g : Group} (hg : g.Printable) :
    Group.parse (String.ofList g.text) = .ok g := by
  have hread : Group.ofChars (String.ofList g.text).toList = .ok g := by
    rw [String.toList_ofList]
    exact ofChars_text hg
  rw [Group.parse, hread]

/-- Two chains in whose names and values stand the signs of the syntax, white space, quotation
marks, backslashes, digits at the start and letters that are not ASCII. -/
def signs : Group where
  selectors :=
    [.join
      (.join
        (.compound
          { Compound.any with
            tag := some "a-b_1"
            id := some "1 #x\n"
            classes := ["9.>", "größe"] })
        .child
        { Compound.any with
          attributes := [⟨"data=k", some "say \"hi\" \\]\n"⟩, ⟨"]\"", none⟩]
          nthChild := some (Text.wordBound - 1) })
      .descendant
      Compound.any,
    .compound { Compound.any with classes := [",\\"] }]

/-- Backslashes stand in front of the signs, and an asterisk for the compound without conditions. -/
theorem parse_text_signs :
    signs.Printable ∧
      String.ofList signs.text = "a-b_1#\\1\\ \\#x\\\n.\\9\\.\\>.größe > " ++
        "[data\\=k=\"say \\\"hi\\\" \\\\]\n\"][\\]\\\"]:nth-child(18446744073709551615) *, " ++
        ".\\,\\\\" ∧
      Group.parse (String.ofList signs.text) = .ok signs :=
  ⟨by decide +kernel, by decide +kernel, parse_text (by decide +kernel)⟩

end Recorder.Selector
