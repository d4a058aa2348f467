import Mathlib.Data.List.TakeWhile
import Mathlib.Tactic.Common
import Recorder.Proofs.Selector.Group
import Recorder.Selector.Match

/-!
# Selectors put together

Two selectors with a comma, a child sign or a space between them are a selector, and it matches what
its parts say (`parse_composition`). What is read of the first text stays the same when a text
follows in which no compound goes on: each reader takes the same part and leaves the same rest, with
the other text behind it (`compound_append`). A chain that ended with the first text is taken up
where white space may still be left of that text (`chain_append`), and goes on with the sign between
the two. Whoever matches from the right asks for the last compound first and then for the chain
around it, so a chain that is one compound longer asks for that chain at the parent or at an
ancestor.
-/

namespace Recorder.Selector

open Text (isWhiteSpace asciiLower)

variable {cs rest t : List Char}

/-! ## Texts that go on -/

/-- The first characters of a kind end where they do if another character follows them. -/
theorem while_append {p : Char → Bool} (h : cs.dropWhile p ≠ []) (t : List Char) :
    (cs ++ t).takeWhile p = cs.takeWhile p ∧ (cs ++ t).dropWhile p = cs.dropWhile p ++ t := by
  induction cs with
  | nil => exact absurd rfl h
  | cons c cs ih =>
    by_cases hc : p c = true
    · rw [List.dropWhile_cons_of_pos hc] at h
      obtain ⟨htake, hdrop⟩ := ih h
      simp [hc, htake, hdrop]
    · simp [hc]

/-- White space is skipped up to the same character if there is one. -/
theorem skipSpace_append (h : skipSpace cs ≠ []) (t : List Char) :
    skipSpace (cs ++ t) = skipSpace cs ++ t :=
  (while_append h t).2

/-- White space in front of a text is skipped. -/
theorem skipSpace_white {w : List Char} (hw : ∀ c ∈ w, isWhiteSpace c = true) (t : List Char) :
    skipSpace (w ++ t) = skipSpace t :=
  List.dropWhile_append_of_pos hw

/-- A text is the white space that is skipped and the rest. -/
theorem exists_white_append_skipSpace (cs : List Char) :
    ∃ w, (∀ c ∈ w, isWhiteSpace c = true) ∧ cs = w ++ skipSpace cs :=
  ⟨cs.takeWhile isWhiteSpace, fun _ hc => List.mem_takeWhile_imp hc,
    (List.takeWhile_append_dropWhile).symm⟩

/-- The characters of a name are the same if none follows in the other text. -/
theorem nameChars_append {n : List Char} (h : nameChars cs = .ok (n, rest)) (ht : EndsName t) :
    nameChars (cs ++ t) = .ok (n, rest ++ t) := by
  fun_induction nameChars cs generalizing n rest with
  | case1 =>
    obtain ⟨rfl, rfl⟩ : [] = n ∧ [] = rest := by simpa using h
    exact nameChars_of_endsName ht
  | case2 => simp at h
  | case3 e r n' rest' hr ih =>
    obtain ⟨rfl, rfl⟩ : e :: n' = n ∧ rest' = rest := by simpa using h
    rw [List.cons_append, List.cons_append, nameChars.eq_def]
    simp only [if_true, ih hr]
  | case4 => simp at h
  | case5 c cs hslash hname n' rest' hr ih =>
    obtain ⟨rfl, rfl⟩ : c :: n' = n ∧ rest' = rest := by simpa using h
    rw [List.cons_append, nameChars.eq_def]
    simp only [if_neg hslash, if_pos hname, ih hr]
  | case6 => simp at h
  | case7 c cs hslash hname =>
    obtain ⟨rfl, rfl⟩ : [] = n ∧ c :: cs = rest := by simpa using h
    rw [List.cons_append, nameChars.eq_def]
    simp only [if_neg hslash, if_neg hname]

/-- A name is the same if none of its characters follows in the other text. -/
theorem name_append {s : String} (h : name cs = .ok (s, rest)) (ht : EndsName t) :
    name (cs ++ t) = .ok (s, rest ++ t) := by
  unfold name at h ⊢
  cases hchars : nameChars cs with
  | error stop => simp [hchars] at h
  | ok r =>
    obtain ⟨n, rest'⟩ := r
    rw [nameChars_append hchars ht]
    cases n with
    | nil => simp [hchars] at h
    | cons c n =>
      obtain ⟨rfl, rfl⟩ : String.ofList (c :: n) = s ∧ rest' = rest := by simpa [hchars] using h
      rfl

/-- Where a name is read there is a character. -/
theorem ne_nil_of_name {s : String} (h : name cs = .ok (s, rest)) : cs ≠ [] := by
  rintro rfl
  simpa using length_name h

/-- A quoted string ends at its quote, whatever follows. -/
theorem quotedChars_append {quote : Char} {v : List Char} (h : quotedChars quote cs = .ok (v, rest))
    (t : List Char) : quotedChars quote (cs ++ t) = .ok (v, rest ++ t) := by
  fun_induction quotedChars quote cs generalizing v rest with
  | case1 => simp at h
  | case2 => simp at h
  | case3 e r v' rest' hr ih =>
    obtain ⟨rfl, rfl⟩ : e :: v' = v ∧ rest' = rest := by simpa using h
    rw [List.cons_append, List.cons_append, quotedChars.eq_def]
    simp only [if_true, ih hr]
  | case4 => simp at h
  | case5 cs hslash =>
    obtain ⟨rfl, rfl⟩ : [] = v ∧ cs = rest := by simpa using h
    rw [List.cons_append, quotedChars.eq_def]
    simp only [if_neg hslash, if_true]
  | case6 c cs hslash hquote v' rest' hr ih =>
    obtain ⟨rfl, rfl⟩ : c :: v' = v ∧ rest' = rest := by simpa using h
    rw [List.cons_append, quotedChars.eq_def]
    simp only [if_neg hslash, if_neg hquote, ih hr]
  | case7 => simp at h

/-- The value of an attribute is the same if no name goes on in the other text. -/
theorem attributeValue_append {s : String} (h : attributeValue cs = .ok (s, rest))
    (ht : EndsName t) : attributeValue (cs ++ t) = .ok (s, rest ++ t) := by
  cases cs with
  | nil => simpa using length_attributeValue h
  | cons c cs =>
    rw [List.cons_append, attributeValue]
    rw [attributeValue] at h
    split at h
    · rename_i hquote
      rw [if_pos hquote]
      cases hchars : quotedChars c cs with
      | error stop => simp [hchars] at h
      | ok r =>
        obtain ⟨v, rest'⟩ := r
        obtain ⟨rfl, rfl⟩ : String.ofList v = s ∧ rest' = rest := by simpa [hchars] using h
        rw [quotedChars_append hchars]
    · rename_i hquote
      rw [if_neg hquote]
      exact name_append h ht

/-- A bracket that ends the test of an attribute ends it whatever follows. -/
theorem closeAttribute_append {test u : AttributeTest} (h : closeAttribute test cs = .ok (u, rest))
    (t : List Char) : closeAttribute test (cs ++ t) = .ok (u, rest ++ t) := by
  unfold closeAttribute at h
  split at h
  · obtain ⟨rfl, rfl⟩ : test = u ∧ _ = rest := by simpa using h
    rfl
  · simp at h

/-- Where the test of an attribute is closed there is a character. -/
theorem ne_nil_of_closeAttribute {test u : AttributeTest}
    (h : closeAttribute test cs = .ok (u, rest)) : cs ≠ [] := by
  rintro rfl
  simpa using length_closeAttribute h

/-- The test of an attribute is the same if no name goes on in the other text. -/
theorem attributeTest_append {u : AttributeTest} (h : attributeTest cs = .ok (u, rest))
    (ht : EndsName t) : attributeTest (cs ++ t) = .ok (u, rest ++ t) := by
  unfold attributeTest at h ⊢
  cases hname : name (skipSpace cs) with
  | error stop => simp [hname] at h
  | ok r =>
    obtain ⟨n, rest'⟩ := r
    rw [skipSpace_append (ne_nil_of_name hname), name_append hname ht]
    simp only [hname] at h ⊢
    split at h
    · rename_i inside hsign
      have hskip : skipSpace (rest' ++ t) = '=' :: (inside ++ t) := by
        rw [skipSpace_append (by simp [hsign]), hsign]
        rfl
      simp only [hskip]
      cases hvalue : attributeValue (skipSpace inside) with
      | error stop => simp [hvalue] at h
      | ok r =>
        obtain ⟨v, rest''⟩ := r
        have hinside : skipSpace inside ≠ [] := fun hnil => by
          rw [hnil] at hvalue
          simpa using length_attributeValue hvalue
        simp only [hvalue] at h
        rw [skipSpace_append hinside, attributeValue_append hvalue ht]
        simp only [skipSpace_append (ne_nil_of_closeAttribute h)]
        exact closeAttribute_append h t
    · rename_i hsign
      have hskip := skipSpace_append (ne_nil_of_closeAttribute h) t
      rw [hskip]
      cases hrest : skipSpace rest' with
      | nil => exact absurd hrest (ne_nil_of_closeAttribute h)
      | cons d ds =>
        rw [hrest] at h
        have hd : d ≠ '=' := fun hd => hsign ds (hd ▸ hrest)
        simp only [List.cons_append]
        split
        · rename_i heq
          exact absurd (List.cons.inj heq).1 hd
        · exact closeAttribute_append h t

/-- A position is the same whatever follows its parenthesis. -/
theorem position_append {n : Nat} (h : position cs = .ok (n, rest)) (t : List Char) :
    position (cs ++ t) = .ok (n, rest ++ t) := by
  unfold position at h ⊢
  simp only at h ⊢
  cases hindex : index? ((skipSpace cs).takeWhile Char.isDigit) with
  | none => simp [hindex] at h
  | some m =>
    simp only [hindex] at h
    -- The parenthesis stands behind the digits, so these end within the text.
    have hclose : skipSpace ((skipSpace cs).dropWhile Char.isDigit) ≠ [] := fun hnil => by
      simp [hnil] at h
    have hdigits : (skipSpace cs).dropWhile Char.isDigit ≠ [] := fun hnil =>
      hclose (by rw [hnil]; rfl)
    have hskip : skipSpace cs ≠ [] := fun hnil => hdigits (by rw [hnil]; rfl)
    obtain ⟨htake, hdrop⟩ := while_append hdigits t
    rw [skipSpace_append hskip, htake, hdrop, skipSpace_append hclose, hindex]
    split at h
    · rename_i inside hparen
      obtain ⟨rfl, rfl⟩ : m = n ∧ inside = rest := by simpa using h
      simp [hparen]
    · simp at h

/-- A pseudo-class is the same if no name goes on in the other text. -/
theorem nthChild_append {n : Nat} (h : nthChild cs = .ok (n, rest)) (ht : EndsName t) :
    nthChild (cs ++ t) = .ok (n, rest ++ t) := by
  unfold nthChild at h ⊢
  cases hname : name cs with
  | error stop => simp [hname] at h
  | ok r =>
    obtain ⟨s, rest'⟩ := r
    rw [name_append hname ht]
    simp only [hname] at h ⊢
    split at h
    · split at h
      · rename_i inside hs
        simpa [hs] using position_append h t
      · simp at h
    · simp at h

/-- A part that is read in some way is the same if it is read the same way. -/
theorem asPart_append {α : Type} {f : α → Part} {read : List Char → Reading α} {p : Option Part}
    (hread : ∀ {a rest}, read cs = .ok (a, rest) → read (cs ++ t) = .ok (a, rest ++ t))
    (h : asPart f (read cs) = .ok (p, rest)) : asPart f (read (cs ++ t)) = .ok (p, rest ++ t) := by
  obtain ⟨a, ha, rfl⟩ := asPart_eq_ok h
  rw [hread ha]
  rfl

/-- A part of a compound is the same if no name goes on in the other text. -/
theorem part?_some_append {p : Part} (h : part? cs = .ok (some p, rest)) (ht : EndsName t) :
    part? (cs ++ t) = .ok (some p, rest ++ t) := by
  unfold part? at h
  split at h
  · exact asPart_append (fun ha => name_append ha ht) h
  · exact asPart_append (fun ha => name_append ha ht) h
  · exact asPart_append (fun ha => attributeTest_append ha ht) h
  · exact asPart_append (fun ha => nthChild_append ha ht) h
  · simp at h

/-- Where a text has no part of a compound, there is none either if no compound goes on in the other
text. -/
theorem part?_none_append (h : part? cs = .ok (none, rest)) (ht : EndsCompound t) :
    part? (cs ++ t) = .ok (none, rest ++ t) := by
  obtain rfl := eq_of_part?_none h
  cases rest with
  | nil => exact part?_of_endsCompound ht
  | cons c cs =>
    have hc : ¬ startsPart c = true := fun hc => part?_cons_ne_none hc h
    rw [List.cons_append]
    unfold part?
    split
    case h_5 => rfl
    all_goals
      rename_i heq
      obtain ⟨rfl, -⟩ := List.cons.inj heq
      exact absurd (by decide) hc

/-- The parts of a compound are the same if no compound goes on in the other text. -/
theorem parts_append {c d : Compound} (h : parts c cs = .ok (d, rest)) (ht : EndsCompound t) :
    parts c (cs ++ t) = .ok (d, rest ++ t) := by
  fun_induction parts c cs generalizing d rest with
  | case1 => simp at h
  | case2 c cs rest' hp =>
    obtain ⟨rfl, rfl⟩ : c = d ∧ rest' = rest := by simpa using h
    exact parts_of_none c (part?_none_append hp ht)
  | case3 c cs p rest' hp ih =>
    rw [parts_of_some c (part?_some_append hp ht.endsName)]
    exact ih h

/-- The start of a compound is the same if there is a character and no name goes on in the other
text. -/
theorem compoundHead_append {c : Compound} (hcs : cs ≠ []) (h : compoundHead cs = .ok (c, rest))
    (ht : EndsName t) : compoundHead (cs ++ t) = .ok (c, rest ++ t) := by
  cases cs with
  | nil => exact absurd rfl hcs
  | cons d ds =>
    rw [List.cons_append]
    unfold compoundHead at h ⊢
    simp only at h ⊢
    split_ifs at h ⊢
    · obtain ⟨rfl, rfl⟩ : Compound.any = c ∧ ds = rest := by simpa using h
      rfl
    · cases hname : name (d :: ds) with
      | error stop => simp [hname] at h
      | ok r =>
        obtain ⟨s, rest'⟩ := r
        rw [← List.cons_append, name_append hname ht]
        simp only [hname] at h ⊢
        obtain ⟨rfl, rfl⟩ :
            { Compound.any with tag := some (asciiLower s) } = c ∧ rest' = rest := by
          simpa using h
        rfl
    · obtain ⟨rfl, rfl⟩ : Compound.any = c ∧ d :: ds = rest := by simpa using h
      rfl

/-- Where a compound is read the text starts with one of its characters. -/
theorem exists_cons_of_compound {c : Compound} (h : compound cs = .ok (c, rest)) :
    ∃ d ds, cs = d :: ds ∧ startsCompound d = true := by
  unfold compound at h
  split at h
  · rename_i hstart
    cases cs with
    | nil => simp at hstart
    | cons d ds => exact ⟨d, ds, rfl, by simpa using hstart⟩
  · simp at h

/-- A compound is the same if none goes on in the other text. -/
theorem compound_append {c : Compound} (h : compound cs = .ok (c, rest)) (ht : EndsCompound t) :
    compound (cs ++ t) = .ok (c, rest ++ t) := by
  obtain ⟨d, ds, rfl, hd⟩ := exists_cons_of_compound h
  unfold compound at h ⊢
  rw [if_pos (by simpa using hd)] at h
  rw [if_pos (by simpa using hd)]
  cases hhead : compoundHead (d :: ds) with
  | error stop => simp [hhead] at h
  | ok r =>
    obtain ⟨head, rest'⟩ := r
    rw [compoundHead_append (List.cons_ne_nil d ds) hhead ht.endsName]
    simp only [hhead] at h ⊢
    exact parts_append h ht

/-! ## Chains that go on -/

/-- A chain goes on with a combinator and a compound. -/
theorem chain_of_some {left : Complex} {k : Combinator} {c : Compound} {rest' : List Char}
    (hk : combinator? cs = .ok (some k, rest)) (hc : compound rest = .ok (c, rest')) :
    chain left cs = chain (.join left k c) rest' := by
  rw [chain]
  split <;> rename_i h <;> rw [hk] at h <;> cases h
  split <;> rename_i h <;> rw [hc] at h <;> cases h
  rfl

/-- A chain ends where no combinator is. -/
theorem chain_of_none {left : Complex} (hk : combinator? cs = .ok (none, rest)) :
    chain left cs = .ok (left, rest) := by
  rw [chain]
  split <;> rename_i h <;> rw [hk] at h <;> cases h
  rfl

/-- Where no combinator is, white space is skipped. -/
theorem eq_skipSpace_of_combinator?_none (h : combinator? cs = .ok (none, rest)) :
    rest = skipSpace cs := by
  unfold combinator? at h
  cases hskip : skipSpace cs with
  | nil =>
    obtain rfl : [] = rest := by simpa [hskip] using h
    rfl
  | cons c inside =>
    simp only [hskip] at h
    split_ifs at h with hcomma
    · obtain rfl : c :: inside = rest := by simpa using h
      rfl
    all_goals simp at h

/-- A combinator is the same whatever follows behind it. -/
theorem combinator?_append {k : Combinator} (h : combinator? cs = .ok (some k, rest))
    (hrest : rest ≠ []) (t : List Char) : combinator? (cs ++ t) = .ok (some k, rest ++ t) := by
  unfold combinator? at h ⊢
  cases hskip : skipSpace cs with
  | nil => simp [hskip] at h
  | cons c inside =>
    have hhead : (cs ++ t).head? = cs.head? := by
      cases cs with
      | nil => simp [skipSpace] at hskip
      | cons d ds => rfl
    have hmore : skipSpace (cs ++ t) = c :: (inside ++ t) := by
      rw [skipSpace_append (by simp [hskip]), hskip]
      rfl
    simp only [hskip, hmore, hhead] at h ⊢
    split_ifs at h ⊢ with hcomma hchild hspace
    · simp at h
    · obtain ⟨rfl, rfl⟩ : Combinator.child = k ∧ skipSpace inside = rest := by simpa using h
      rw [skipSpace_append hrest]
    · obtain ⟨rfl, rfl⟩ : Combinator.descendant = k ∧ c :: inside = rest := by simpa using h
      rfl

/-- A chain that ends with a text is taken up there if another text follows. -/
theorem chain_append {left s : Complex} (h : chain left cs = .ok (s, rest)) (ht : EndsCompound t) :
    ∃ w, (∀ c ∈ w, isWhiteSpace c = true) ∧ chain left (cs ++ t) = chain s (w ++ (rest ++ t)) := by
  fun_induction chain left cs generalizing s rest with
  | case1 => simp at h
  | case2 left cs rest' hk =>
    obtain ⟨rfl, rfl⟩ : left = s ∧ rest' = rest := by simpa using h
    obtain ⟨w, hw, hcs⟩ := exists_white_append_skipSpace cs
    rw [← eq_skipSpace_of_combinator?_none hk] at hcs
    exact ⟨w, hw, by rw [← List.append_assoc, ← hcs]⟩
  | case3 => simp at h
  | case4 left cs k rest' hk c rest'' hc ih =>
    obtain ⟨d, ds, rfl, -⟩ := exists_cons_of_compound hc
    obtain ⟨w, hw, hchain⟩ := ih h
    have hmore := combinator?_append hk (List.cons_ne_nil d ds) t
    exact ⟨w, hw, (chain_of_some hmore (compound_append hc ht)).trans hchain⟩

/-- A chain that is extended has more than one compound. -/
theorem exists_join_of_chain_join {left s : Complex} {k : Combinator} {c : Compound}
    (h : chain (.join left k c) cs = .ok (s, rest)) : ∃ l k' c', s = .join l k' c' := by
  generalize hstart : Complex.join left k c = start at h
  fun_induction chain start cs generalizing left k c s rest with
  | case1 => simp at h
  | case2 start cs rest' hk =>
    obtain ⟨rfl, -⟩ : start = s ∧ rest' = rest := by simpa using h
    exact ⟨left, k, c, hstart.symm⟩
  | case3 => simp at h
  | case4 start cs k' rest' hk c' rest'' hc ih => exact ih rfl h

/-- A chain of one compound ends where the compound does. -/
theorem compound_of_complex {c : Compound} (h : complex cs = .ok (.compound c, rest)) :
    ∃ rest', compound (skipSpace cs) = .ok (c, rest') ∧
      combinator? rest' = .ok (none, rest) := by
  unfold complex at h
  split at h
  · simp at h
  · rename_i c' rest' hc
    rw [chain] at h
    split at h
    · simp at h
    · rename_i r hk
      obtain ⟨rfl, rfl⟩ : c' = c ∧ r = rest := by simpa using h
      exact ⟨rest', hc, hk⟩
    · split at h
      · simp at h
      · obtain ⟨l, k', c', heq⟩ := exists_join_of_chain_join h
        cases heq

/-- A chain is taken up behind a text that it ended with if another text follows. -/
theorem complex_append {s : Complex} (h : complex cs = .ok (s, rest)) (ht : EndsCompound t) :
    ∃ w, (∀ c ∈ w, isWhiteSpace c = true) ∧ complex (cs ++ t) = chain s (w ++ (rest ++ t)) := by
  unfold complex at h ⊢
  cases hc : compound (skipSpace cs) with
  | error stop => simp [hc] at h
  | ok r =>
    obtain ⟨c, rest'⟩ := r
    have hskip : skipSpace cs ≠ [] := by
      obtain ⟨d, ds, hcs, -⟩ := exists_cons_of_compound hc
      simp [hcs]
    rw [skipSpace_append hskip, compound_append hc ht]
    simp only [hc] at h ⊢
    exact chain_append h ht

/-! ## Groups with a comma in between -/

/-- No compound goes on at a comma. -/
theorem endsCompound_comma (cs : List Char) : EndsCompound (',' :: cs) := by
  rintro c ⟨⟩
  decide

/-- A chain ends at a comma. -/
theorem chain_comma (s : Complex) {w : List Char} (hw : ∀ c ∈ w, isWhiteSpace c = true)
    (cs : List Char) : chain s (w ++ ',' :: cs) = .ok (s, ',' :: cs) := by
  have hskip : skipSpace (w ++ ',' :: cs) = ',' :: cs := by
    rw [skipSpace_white hw, skipSpace_cons (by decide)]
  refine chain_of_none ?_
  rw [combinator?]
  simp only [hskip]
  rfl

/-- The chains of a group are one that ends at a comma and those behind it. -/
theorem alternatives_of_comma {s : Complex} {ts : List Complex}
    (hs : complex cs = .ok (s, ',' :: rest)) (hts : alternatives rest = .ok ts) :
    alternatives cs = .ok (s :: ts) := by
  rw [alternatives]
  split <;> rename_i h <;> rw [hs] at h <;> cases h
  rw [if_pos rfl, hts]

/-- The chains of two texts with a comma between them are those of the first and of the second. -/
theorem alternatives_append {ss ts : List Complex} {a b : List Char} (ha : alternatives a = .ok ss)
    (hb : alternatives b = .ok ts) : alternatives (a ++ ',' :: b) = .ok (ss ++ ts) := by
  fun_induction alternatives a generalizing ss with
  | case1 => simp at ha
  | case2 a s hs =>
    obtain rfl : [s] = ss := by simpa using ha
    obtain ⟨w, hw, hmore⟩ := complex_append hs (endsCompound_comma b)
    rw [List.nil_append, chain_comma s hw] at hmore
    exact alternatives_of_comma hmore hb
  | case3 a s rest more hmore hs ih =>
    obtain rfl : s :: more = ss := by simpa using ha
    obtain ⟨w, hw, hnext⟩ := complex_append hs (endsCompound_comma b)
    rw [List.cons_append, chain_comma s hw] at hnext
    exact alternatives_of_comma hnext (ih hmore)
  | case4 => simp at ha
  | case5 => simp at ha

/-! ## Chains with a combinator in between -/

/-- A group of one chain is a text of that chain alone. -/
theorem complex_of_alternatives {s : Complex} (h : alternatives cs = .ok [s]) :
    complex cs = .ok (s, []) := by
  have hne {cs : List Char} : alternatives cs ≠ .ok [] := by
    rw [alternatives]
    grind
  rw [alternatives] at h
  split at h
  · simp at h
  · rename_i s' hs
    obtain rfl : s' = s := by simpa using h
    exact hs
  · split at h
    · split at h
      · rename_i more hmore
        obtain ⟨-, rfl⟩ : _ ∧ more = [] := by simpa using h
        exact absurd hmore hne
      · simp at h
    · simp at h

/-- A text of one chain is a group of it. -/
theorem alternatives_of_complex {s : Complex} (h : complex cs = .ok (s, [])) :
    alternatives cs = .ok [s] := by
  rw [alternatives]
  split <;> rename_i hs <;> rw [h] at hs <;> cases hs
  rfl

/-- A combinator is read in front of a compound, whatever white space there is. -/
theorem combinator?_white (k : Combinator) {c : Compound} {w b : List Char}
    (hw : ∀ c ∈ w, isWhiteSpace c = true) (hc : compound (skipSpace b) = .ok (c, rest)) :
    combinator? (w ++ (k.text ++ b)) = .ok (some k, skipSpace b) := by
  obtain ⟨d, ds, hb, hd⟩ := exists_cons_of_compound hc
  have hstart : d ≠ ',' ∧ d ≠ '>' := by
    constructor <;> rintro rfl <;> exact absurd hd (by decide)
  have hhead : (w ++ (k.text ++ b)).head?.any isWhiteSpace = true := by
    cases w with
    | nil => cases k <;> rfl
    | cons d w => exact hw d List.mem_cons_self
  rw [combinator?]
  cases k with
  | child =>
    have hsign : skipSpace (w ++ (Combinator.child.text ++ b)) = '>' :: ' ' :: b := by
      rw [skipSpace_white hw]
      exact skipSpace_space _
    simp only [hsign, skipSpace_space]
    rfl
  | descendant =>
    have hspaces : skipSpace (w ++ (Combinator.descendant.text ++ b)) = d :: ds := by
      rw [skipSpace_white hw, ← hb]
      exact skipSpace_space _
    simp only [hspaces, hb, if_neg hstart.1, if_neg hstart.2, hhead, if_true]

/-- A chain, a combinator and a compound are the chain with the compound at its right end. -/
theorem complex_join (k : Combinator) {s : Complex} {c : Compound} {a b : List Char}
    (ha : complex a = .ok (s, [])) (hb : complex b = .ok (.compound c, [])) :
    complex (a ++ (k.text ++ b)) = .ok (.join s k c, []) := by
  obtain ⟨w, hw, hmore⟩ := complex_append ha (endsCompound_combinator k b)
  obtain ⟨rest, hc, hend⟩ := compound_of_complex hb
  rw [hmore, List.nil_append, chain_of_some (combinator?_white k hw hc) hc, chain_of_none hend]

/-! ## Texts and what they match -/

/-- A text denotes the group of its chains. -/
theorem parse_eq_ok_iff {a : String} {g : Group} :
    Group.parse a = .ok g ↔ alternatives a.toList = .ok g.selectors := by
  obtain ⟨ss⟩ := g
  rw [Group.parse, Group.ofChars]
  cases alternatives a.toList with
  | error stop => simp
  | ok ts => simp

/-- A compound matches an element that has its tag and its id, all its classes, passes all its tests
and has its position, as far as it asks for them. -/
theorem Compound.holds_iff {doc : Document} {n : NodeId} {c : Compound} :
    c.holds doc n = true ↔ ∃ e, doc.element? n = some e ∧ (∀ t ∈ c.tag, t = e.tag) ∧
      (∀ v ∈ c.id, e.attributes.get? "id" = some v) ∧ (∀ w ∈ c.classes, w ∈ e.classes) ∧
      (∀ t ∈ c.attributes, t.holds e = true) ∧ ∀ i ∈ c.nthChild, i = doc.elementIndex n := by
  rw [holds]
  cases doc.element? n with
  | none => simp
  | some e => simp [wantedOnly, Option.all_eq_true, and_assoc]

/-- The nodes that a combinator looks for what is on its left at: the parent or the ancestors. -/
def Combinator.Leads (doc : Document) (n : NodeId) : Combinator → NodeId → Prop
  | .child, p => doc.parent? n = some p
  | .descendant, p => p ∈ doc.ancestors n

/-- A chain with one more compound matches where the compound does and the chain matches at a node
that the combinator leads to. -/
theorem holds_join (doc : Document) (n : NodeId) (s : Complex) (k : Combinator) (c : Compound) :
    (Complex.join s k c).holds doc n = true ↔
      c.holds doc n = true ∧ ∃ p, k.Leads doc n p ∧ s.holds doc p = true := by
  cases k with
  | child => simp [Complex.holds, Combinator.Leads, Option.any_eq_true]
  | descendant => simp [Complex.holds, Combinator.Leads]

/-- A group of one chain matches what the chain does. -/
theorem holds_of_selectors {g : Group} {s : Complex} (hg : g.selectors = [s]) (doc : Document)
    (n : NodeId) : g.holds doc n = s.holds doc n := by
  simp [Group.holds, hg]

/-- A chain, a combinator and a compound as texts match where the compound does and the chain
matches at a node that the combinator leads to. -/
theorem parse_combinator {a b : String} {first second : Group} {s : Complex} {c : Compound}
    (ha : Group.parse a = .ok first) (hb : Group.parse b = .ok second) (hs : first.selectors = [s])
    (hc : second.selectors = [.compound c]) (k : Combinator) {text : String}
    (htext : text.toList = k.text) :
    ∃ g, Group.parse (a ++ text ++ b) = .ok g ∧ ∀ doc n, g.holds doc n = true ↔
      second.holds doc n = true ∧ ∃ p, k.Leads doc n p ∧ first.holds doc p = true := by
  rw [parse_eq_ok_iff] at ha hb
  rw [hs] at ha
  rw [hc] at hb
  have hchain := complex_join k (complex_of_alternatives ha) (complex_of_alternatives hb)
  refine ⟨⟨[.join s k c]⟩, ?_, fun doc n => ?_⟩
  · rw [parse_eq_ok_iff]
    simpa [htext] using alternatives_of_complex hchain
  · have hsecond : second.holds doc n = c.holds doc n := holds_of_selectors hc doc n
    simp only [hsecond, holds_of_selectors hs]
    rw [holds_of_selectors (s := .join s k c) rfl]
    exact holds_join doc n s k c

/-- Two selectors with a comma between them match what one of them matches. If the first one is a
chain and the second one a compound, then with a child sign between them they match what the second
one does inside of a parent that the first one matches, and with a space what the second one does
inside of an ancestor that the first one matches. -/
theorem parse_composition {a b : String} {first second : Group} (ha : Group.parse a = .ok first)
    (hb : Group.parse b = .ok second) :
    (∃ g, Group.parse (a ++ "," ++ b) = .ok g ∧ ∀ doc n,
      g.holds doc n = true ↔ first.holds doc n = true ∨ second.holds doc n = true) ∧
    ∀ s c, first.selectors = [s] → second.selectors = [.compound c] →
      (∃ g, Group.parse (a ++ " > " ++ b) = .ok g ∧ ∀ doc n, g.holds doc n = true ↔
        second.holds doc n = true ∧ ∃ p, doc.parent? n = some p ∧ first.holds doc p = true) ∧
      (∃ g, Group.parse (a ++ " " ++ b) = .ok g ∧ ∀ doc n, g.holds doc n = true ↔
        second.holds doc n = true ∧ ∃ p ∈ doc.ancestors n, first.holds doc p = true) := by
  constructor
  · refine ⟨⟨first.selectors ++ second.selectors⟩, ?_, fun doc n => ?_⟩
    · rw [parse_eq_ok_iff] at ha hb ⊢
      simpa using alternatives_append ha hb
    · simp [Group.holds]
  · intro s c hs hc
    exact ⟨parse_combinator ha hb hs hc .child rfl, parse_combinator ha hb hs hc .descendant rfl⟩

/-- A chain with white space around it, and an escaped space at the end of its last name. -/
def spacedChain : String := " ul > .x\\  "

/-- A compound with white space around it and inside of its parentheses. -/
def spacedCompound : String := " b:nth-child( 2 ) "

/-- The escaped space stays a part of the name, and all other white space between the two is that of
the combinator. -/
theorem parse_composition_spaced :
    let first : Group := ⟨[.join (.compound { Compound.any with tag := some "ul" }) .child
      { Compound.any with classes := ["x "] }]⟩
    let second : Group := ⟨[.compound { Compound.any with tag := some "b", nthChild := some 2 }]⟩
    Group.parse spacedChain = .ok first ∧ Group.parse spacedCompound = .ok second ∧
      (∃ g, Group.parse (spacedChain ++ "," ++ spacedCompound) = .ok g ∧ ∀ doc n,
        g.holds doc n = true ↔ first.holds doc n = true ∨ second.holds doc n = true) ∧
      (∃ g, Group.parse (spacedChain ++ " > " ++ spacedCompound) = .ok g ∧ ∀ doc n,
        g.holds doc n = true ↔
          second.holds doc n = true ∧ ∃ p, doc.parent? n = some p ∧ first.holds doc p = true) ∧
      (∃ g, Group.parse (spacedChain ++ " " ++ spacedCompound) = .ok g ∧ ∀ doc n,
        g.holds doc n = true ↔
          second.holds doc n = true ∧ ∃ p ∈ doc.ancestors n, first.holds doc p = true) := by
  intro first second
  have hfirst : Group.parse spacedChain = .ok first := by
    rw [parse_eq_ok_iff]
    decide +kernel
  have hsecond : Group.parse spacedCompound = .ok second := by
    rw [parse_eq_ok_iff]
    decide +kernel
  obtain ⟨hcomma, hmore⟩ := parse_composition hfirst hsecond
  exact ⟨hfirst, hsecond, hcomma, hmore _ _ rfl rfl⟩

end Recorder.Selector
