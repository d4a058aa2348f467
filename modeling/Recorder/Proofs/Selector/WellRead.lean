import Mathlib.Tactic.Common
import Recorder.Proofs.Selector.Condition

/-!
# What is read of selectors

Every reader of a part of a selector does two things (`WellRead`): what it reads is well formed, and
where it stops, it stops inside of the text that it was given, so that the place can be told by the
number of characters in front of it. Each reader is built of smaller ones, and what it does follows
from what these do.

The names in what is read are not empty, and where letters of either case mean the same there are no
capitals left (`Compound.WellFormed`). A chain ends only where the text does or at a comma
(`chain_wellRead`), so the reader of groups never finds anything else there
(`alternatives_wellRead`).
-/

namespace Recorder

/-- There is no Latin capital letter in the string. -/
def Text.HasNoCapital (s : String) : Prop :=
  ∀ c ∈ s.toList, c.isUpper = false

/-- A string in lower case has no capital letter. -/
theorem Text.hasNoCapital_asciiLower (s : String) : HasNoCapital (asciiLower s) := by
  intro c hc
  rw [asciiLower, String.toList_ofList] at hc
  obtain ⟨d, -, rfl⟩ := List.mem_map.1 hc
  exact Selector.isUpper_toLower d

/-- Nothing is lost of a string in lower case. -/
theorem Text.asciiLower_ne_empty {s : String} (h : s ≠ "") : asciiLower s ≠ "" := by
  intro hlower
  have hlist : (asciiLower s).toList = [] := by rw [hlower]; rfl
  rw [asciiLower, String.toList_ofList, List.map_eq_nil_iff] at hlist
  exact h (by rw [← String.ofList_toList (s := s), hlist])

namespace Selector

open Text (HasNoCapital asciiLower)

/-! ## Well-formed selectors -/

/-- The test of an attribute with a name, in lower case. -/
structure AttributeTest.WellFormed (t : AttributeTest) : Prop where
  /-- The name is not empty. -/
  name_ne : t.name ≠ ""
  /-- The name has no capital letter. -/
  name_lower : HasNoCapital t.name

/-- A condition in which no name is empty. -/
def Part.WellFormed : Part → Prop
  | .id value => value ≠ ""
  | .className word => word ≠ ""
  | .test t => t.WellFormed
  | .nthChild _ => True

/-- A compound in which no name is empty, and the names of tags and attributes are in lower case. -/
structure Compound.WellFormed (c : Compound) : Prop where
  /-- The tag is not empty. -/
  tag_ne : ∀ tag ∈ c.tag, tag ≠ ""
  /-- The tag has no capital letter. -/
  tag_lower : ∀ tag ∈ c.tag, HasNoCapital tag
  /-- The id is not empty. -/
  id_ne : ∀ value ∈ c.id, value ≠ ""
  /-- No class is empty. -/
  class_ne : ∀ word ∈ c.classes, word ≠ ""
  /-- The attributes that are tested have names in lower case. -/
  test : ∀ t ∈ c.attributes, t.WellFormed

namespace Compound.WellFormed

/-- The compound without conditions is well formed. -/
theorem any : Compound.any.WellFormed where
  tag_ne := by rintro tag ⟨⟩
  tag_lower := by rintro tag ⟨⟩
  id_ne := by rintro value ⟨⟩
  class_ne := by rintro word ⟨⟩
  test := by rintro t ⟨⟩

/-- A compound of a tag is well formed if the tag is a name, whatever its case. -/
theorem of_tag {tag : String} (h : tag ≠ "") :
    { Compound.any with tag := some (asciiLower tag) : Compound }.WellFormed where
  tag_ne := by
    rintro s ⟨⟩
    exact Text.asciiLower_ne_empty h
  tag_lower := by
    rintro s ⟨⟩
    exact Text.hasNoCapital_asciiLower tag
  id_ne := any.id_ne
  class_ne := any.class_ne
  test := any.test

/-- A compound stays well formed if a condition is added. -/
theorem add {c : Compound} (hc : c.WellFormed) {p : Part} (hp : p.WellFormed) :
    (c.add p).WellFormed := by
  cases p with
  | id value =>
    refine { hc with id_ne := ?_ }
    rintro s ⟨⟩
    exact hp
  | className word =>
    have hwords : ∀ s ∈ c.classes ++ [word], s ≠ "" :=
      List.forall_mem_append.2 ⟨hc.class_ne, List.forall_mem_singleton.2 hp⟩
    exact { hc with class_ne := hwords }
  | test t =>
    have htests : ∀ u ∈ c.attributes ++ [t], u.WellFormed :=
      List.forall_mem_append.2 ⟨hc.test, List.forall_mem_singleton.2 hp⟩
    exact { hc with test := htests }
  | nthChild index => exact { hc with }

end Compound.WellFormed

/-- The compounds of a chain, from the left. -/
def Complex.compounds : Complex → List Compound
  | .compound c => [c]
  | .join left _ c => left.compounds ++ [c]

/-- The combinators of a chain, from the left: each joins the compound at its place with the next
one. -/
def Complex.combinators : Complex → List Combinator
  | .compound _ => []
  | .join left k _ => left.combinators ++ [k]

/-- A chain of well-formed compounds. -/
def Complex.WellFormed (s : Complex) : Prop :=
  ∀ c ∈ s.compounds, c.WellFormed

/-- A chain of one well-formed compound is well formed. -/
theorem Complex.WellFormed.compound {c : Compound} (h : c.WellFormed) :
    (Complex.compound c).WellFormed :=
  List.forall_mem_singleton.2 h

/-- A well-formed chain stays well formed with one more compound. -/
theorem Complex.WellFormed.join {left : Complex} (hleft : left.WellFormed) (k : Combinator)
    {c : Compound} (h : c.WellFormed) : (Complex.join left k c).WellFormed :=
  List.forall_mem_append.2 ⟨hleft, List.forall_mem_singleton.2 h⟩

/-! ## Readers -/

/-- What is read of a text has a property, and where the reading stops, no more characters are left
than the text has, and the cause is not that something stands behind the last chain. -/
structure WellRead {β : Type} (P : β → Prop) (cs : List Char) (r : Except Stop β) : Prop where
  /-- What is read has the property. -/
  value : ∀ {b : β}, r = .ok b → P b
  /-- The reading stops inside of the text, for another cause. -/
  stop : ∀ {stop : Stop}, r = .error stop →
    stop.left ≤ cs.length ∧ stop.cause ≠ .trailingInput

namespace WellRead

variable {β : Type} {P : β → Prop} {cs ds : List Char}

/-- What has the property is well read. -/
theorem ok {b : β} (h : P b) : WellRead P cs (.ok b) where
  value := by
    rintro c ⟨⟩
    exact h
  stop := by rintro stop ⟨⟩

/-- A stop inside of the text is well read, but for one cause. -/
theorem error {stop : Stop} (h : stop.left ≤ cs.length ∧ stop.cause ≠ .trailingInput) :
    WellRead P cs (.error stop) where
  value := by rintro b ⟨⟩
  stop := by
    rintro s ⟨⟩
    exact h

/-- A reading that stops with some characters of the text left, but for one cause, is well read. -/
theorem fault {cause : Cause} {left : Nat} (hleft : left ≤ cs.length)
    (hcause : cause ≠ .trailingInput) : WellRead P cs (.error ⟨cause, left⟩) :=
  error ⟨hleft, hcause⟩

/-- Where a smaller reader stops in the rest of a text, it stops inside of the text. -/
theorem error_of_stop {stop : Stop} (h : stop.left ≤ ds.length ∧ stop.cause ≠ .trailingInput)
    (hle : ds.length ≤ cs.length) : WellRead P cs (.error stop) :=
  error ⟨Nat.le_trans h.1 hle, h.2⟩

/-- What is well read of the rest of a text is well read of the text. -/
theorem mono {r : Except Stop β} (h : WellRead P ds r) (hle : ds.length ≤ cs.length) :
    WellRead P cs r where
  value := h.value
  stop hstop := ⟨Nat.le_trans (h.stop hstop).1 hle, (h.stop hstop).2⟩

end WellRead

variable {cs : List Char}

/-- The characters of a name are well read. -/
theorem nameChars_wellRead (cs : List Char) : WellRead (fun _ => True) cs (nameChars cs) := by
  fun_induction nameChars cs with
  | case1 => exact .ok trivial
  | case2 => exact .fault (Nat.zero_le _) (by decide)
  | case3 => exact .ok trivial
  | case4 e rest stop hstop ih =>
    refine .error_of_stop (ih.stop hstop) ?_
    simp only [List.length_cons]
    omega
  | case5 => exact .ok trivial
  | case6 c cs _ _ stop hstop ih =>
    refine .error_of_stop (ih.stop hstop) ?_
    simp
  | case7 => exact .ok trivial

/-- A name is not empty. -/
theorem name_wellRead (cs : List Char) : WellRead (fun r => r.1 ≠ "") cs (name cs) := by
  have hchars := nameChars_wellRead cs
  unfold name
  split
  · next stop hstop => exact .error (hchars.stop hstop)
  · next rest hrest =>
    have hle := length_nameChars hrest
    exact .fault (Nat.le_trans (Nat.le_add_right _ _) hle) (by decide)
  · next c n rest _ =>
    refine .ok ?_
    simp

/-- A quoted string is well read. -/
theorem quotedChars_wellRead (quote : Char) (cs : List Char) :
    WellRead (fun _ => True) cs (quotedChars quote cs) := by
  fun_induction quotedChars quote cs with
  | case1 => exact .fault (Nat.zero_le _) (by decide)
  | case2 => exact .fault (Nat.zero_le _) (by decide)
  | case3 => exact .ok trivial
  | case4 e rest stop hstop ih =>
    refine .error_of_stop (ih.stop hstop) ?_
    simp only [List.length_cons]
    omega
  | case5 => exact .ok trivial
  | case6 => exact .ok trivial
  | case7 c cs _ _ stop hstop ih =>
    refine .error_of_stop (ih.stop hstop) ?_
    simp

/-- The value of an attribute is well read. -/
theorem attributeValue_wellRead (cs : List Char) :
    WellRead (fun _ => True) cs (attributeValue cs) := by
  have hname (ds : List Char) : WellRead (fun _ => True) ds (name ds) :=
    ⟨fun _ => trivial, (name_wellRead ds).stop⟩
  unfold attributeValue
  split
  · exact hname []
  · next c rest =>
    split
    · split
      · exact .ok trivial
      · next stop hstop =>
        refine .error_of_stop ((quotedChars_wellRead c rest).stop hstop) ?_
        simp
    · exact hname (c :: rest)

/-- The end of the test of an attribute leaves the test as it is. -/
theorem closeAttribute_wellRead (test : AttributeTest) (cs : List Char) :
    WellRead (fun r => r.1 = test) cs (closeAttribute test cs) := by
  unfold closeAttribute
  split
  · exact .ok rfl
  · exact .fault (Nat.le_refl _) (by decide)

/-- The test of an attribute is well formed. -/
theorem attributeTest_wellRead (cs : List Char) :
    WellRead (fun r => r.1.WellFormed) cs (attributeTest cs) := by
  have hspace := length_skipSpace_le cs
  -- The name is well formed, and so is a test of it, with or without a value.
  have hclose {n : String} (hn : n ≠ "") (value : Option String) {ds : List Char}
      (hds : ds.length ≤ cs.length) :
      WellRead (fun r => r.1.WellFormed) cs (closeAttribute ⟨asciiLower n, value⟩ ds) := by
    have hread := (closeAttribute_wellRead ⟨asciiLower n, value⟩ ds).mono hds
    refine ⟨fun {r} hr => ?_, hread.stop⟩
    have htest : r.1 = ⟨asciiLower n, value⟩ := hread.value hr
    rw [htest]
    exact ⟨Text.asciiLower_ne_empty hn, Text.hasNoCapital_asciiLower n⟩
  unfold attributeTest
  split
  · next stop hstop => exact .error_of_stop ((name_wellRead _).stop hstop) hspace
  · next n rest hname =>
    have hn : n ≠ "" := (name_wellRead _).value hname
    have hrest := length_name hname
    have hbehind := length_skipSpace_le rest
    split
    · next inside hsign =>
      have hinside : (skipSpace rest).length = inside.length + 1 := by simp [hsign]
      have hvalue := length_skipSpace_le inside
      split
      · next stop hstop =>
        refine .error_of_stop ((attributeValue_wellRead _).stop hstop) ?_
        omega
      · next v after hv =>
        have hafter := length_attributeValue hv
        have hend := length_skipSpace_le after
        exact hclose hn (some v) (by omega)
    · exact hclose hn none (by omega)

/-- A position is well read. -/
theorem position_wellRead (cs : List Char) : WellRead (fun _ => True) cs (position cs) := by
  have hspace := length_skipSpace_le cs
  have hdigits := (List.dropWhile_suffix Char.isDigit (l := skipSpace cs)).length_le
  have hbehind := length_skipSpace_le ((skipSpace cs).dropWhile Char.isDigit)
  unfold position
  simp only
  split
  · exact .fault (Nat.le_trans hdigits hspace) (by decide)
  · split
    · exact .ok trivial
    · exact .fault (Nat.le_trans hbehind (Nat.le_trans hdigits hspace)) (by decide)

/-- A pseudo-class is well read. -/
theorem nthChild_wellRead (cs : List Char) : WellRead (fun _ => True) cs (nthChild cs) := by
  unfold nthChild
  split
  · next stop hstop => exact .error ((name_wellRead cs).stop hstop)
  · next n rest hname =>
    have hrest := length_name hname
    split
    · next inside =>
      split
      · refine (position_wellRead inside).mono ?_
        simp only [List.length_cons] at hrest
        omega
      · exact .fault (Nat.le_of_lt hrest) (by decide)
    · exact .fault (Nat.le_of_lt hrest) (by decide)

/-- What is well read is well read as a part. -/
theorem asPart_wellRead {α : Type} {P : α → Prop} {f : α → Part} {r : Reading α}
    (h : WellRead (fun r => P r.1) cs r) (hf : ∀ {a}, P a → (f a).WellFormed) :
    WellRead (fun r => ∀ p ∈ r.1, p.WellFormed) cs (asPart f r) := by
  unfold asPart
  split
  · next a rest =>
    refine .ok ?_
    rintro p ⟨⟩
    exact hf (h.value rfl)
  · next stop => exact .error (h.stop rfl)

/-- A part of a compound is well formed. -/
theorem part?_wellRead (cs : List Char) :
    WellRead (fun r => ∀ p ∈ r.1, p.WellFormed) cs (part? cs) := by
  have hsign {c : Char} {rest : List Char} : rest.length ≤ (c :: rest).length := by simp
  unfold part?
  split
  · exact (asPart_wellRead (name_wellRead _) id).mono hsign
  · exact (asPart_wellRead (name_wellRead _) id).mono hsign
  · exact (asPart_wellRead (attributeTest_wellRead _) id).mono hsign
  · exact (asPart_wellRead (nthChild_wellRead _) id).mono hsign
  · refine .ok ?_
    rintro p ⟨⟩

/-- With parts added, a well-formed compound stays well formed. -/
theorem parts_wellRead {c : Compound} (hc : c.WellFormed) (cs : List Char) :
    WellRead (fun r => r.1.WellFormed) cs (parts c cs) := by
  fun_induction parts c cs with
  | case1 c cs stop hstop => exact .error ((part?_wellRead cs).stop hstop)
  | case2 => exact .ok hc
  | case3 c cs p rest hp ih =>
    have hpart : p.WellFormed := (part?_wellRead cs).value hp p rfl
    exact (ih (hc.add hpart)).mono (Nat.le_of_lt (length_part? hp))

/-- The start of a compound is well formed, and leaves no more than the text. -/
theorem compoundHead_wellRead (cs : List Char) :
    WellRead (fun r => r.1.WellFormed ∧ r.2.length ≤ cs.length) cs (compoundHead cs) := by
  unfold compoundHead
  split
  · exact .ok ⟨.any, Nat.le_refl _⟩
  · next c rest =>
    split
    · exact .ok ⟨.any, by simp⟩
    · split
      · split
        · next tag behind htag =>
          have hle := Nat.le_of_lt (length_name htag)
          exact .ok ⟨.of_tag ((name_wellRead _).value htag), hle⟩
        · next stop hstop => exact .error ((name_wellRead _).stop hstop)
      · exact .ok ⟨.any, Nat.le_refl _⟩

/-- A compound is well formed. -/
theorem compound_wellRead (cs : List Char) :
    WellRead (fun r => r.1.WellFormed) cs (compound cs) := by
  unfold compound
  split
  · split
    · next stop hstop => exact .error ((compoundHead_wellRead cs).stop hstop)
    · next head rest hhead =>
      obtain ⟨hwell, hle⟩ := (compoundHead_wellRead cs).value hhead
      exact (parts_wellRead hwell rest).mono hle
  · exact .fault (Nat.le_refl _) (by decide)

/-- A text that ends, or goes on with another chain. -/
def EndsChain (cs : List Char) : Prop :=
  ∀ c ∈ cs.head?, c = ','

/-- No combinator is read only where a chain ends. -/
theorem combinator?_wellRead (cs : List Char) :
    WellRead (fun r => r.1 = none → EndsChain r.2) cs (combinator? cs) := by
  have hspace := length_skipSpace_le cs
  unfold combinator?
  simp only
  split
  · next hnil =>
    have hends : EndsChain [] := by simp [EndsChain]
    rw [hnil]
    exact .ok fun _ => hends
  · next c inside hcons =>
    split
    · next hcomma =>
      have hends : EndsChain (c :: inside) := by simp [EndsChain, hcomma]
      rw [hcons]
      exact .ok fun _ => hends
    · split
      · exact .ok (by simp)
      · split
        · exact .ok (by simp)
        · exact .fault hspace (by decide)

/-- A well-formed chain stays well formed when it is extended, and the reading goes on to where
chains end. -/
theorem chain_wellRead {left : Complex} (hleft : left.WellFormed) (cs : List Char) :
    WellRead (fun r => r.1.WellFormed ∧ EndsChain r.2) cs (chain left cs) := by
  fun_induction chain left cs with
  | case1 left cs stop hstop => exact .error ((combinator?_wellRead cs).stop hstop)
  | case2 left cs rest hk => exact .ok ⟨hleft, (combinator?_wellRead cs).value hk rfl⟩
  | case3 left cs k rest hk stop hstop =>
    exact .error_of_stop ((compound_wellRead rest).stop hstop) (length_combinator? hk)
  | case4 left cs k rest hk c behind hc ih =>
    have hcompound : c.WellFormed := (compound_wellRead rest).value hc
    have hle : behind.length ≤ cs.length :=
      Nat.le_trans (Nat.le_of_lt (length_compound hc)) (length_combinator? hk)
    exact (ih (hleft.join k hcompound)).mono hle

/-- A chain is well formed and ends where chains do. -/
theorem complex_wellRead (cs : List Char) :
    WellRead (fun r => r.1.WellFormed ∧ EndsChain r.2) cs (complex cs) := by
  have hspace := length_skipSpace_le cs
  unfold complex
  split
  · next stop hstop => exact .error_of_stop ((compound_wellRead _).stop hstop) hspace
  · next c rest hc =>
    have hcompound : c.WellFormed := (compound_wellRead _).value hc
    have hrest := length_compound hc
    exact (chain_wellRead (.compound hcompound) rest).mono (by omega)

/-- The chains of a group are well formed, and there is one at least. -/
theorem alternatives_wellRead (cs : List Char) :
    WellRead (fun selectors => selectors ≠ [] ∧ ∀ s ∈ selectors, s.WellFormed) cs
      (alternatives cs) := by
  fun_induction alternatives cs with
  | case1 cs stop hstop => exact .error ((complex_wellRead cs).stop hstop)
  | case2 cs s hs =>
    have hwell : s.WellFormed := ((complex_wellRead cs).value hs).1
    exact .ok ⟨by simp, List.forall_mem_singleton.2 hwell⟩
  | case3 cs s rest more hmore hs ih =>
    have hwell : s.WellFormed := ((complex_wellRead cs).value hs).1
    exact .ok ⟨by simp, List.forall_mem_cons.2 ⟨hwell, (ih.value hmore).2⟩⟩
  | case4 cs s rest stop hstop hs ih =>
    have hlt := length_complex hs
    refine .error_of_stop (ih.stop hstop) ?_
    simp only [List.length_cons] at hlt
    omega
  | case5 cs s c rest hs hcomma =>
    -- A chain ends at nothing but a comma.
    exact absurd (((complex_wellRead cs).value hs).2 c rfl) hcomma

end Selector

end Recorder
