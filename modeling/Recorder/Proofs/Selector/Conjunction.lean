import Mathlib.Tactic.Common
import Recorder.Document.Snapshot
import Recorder.Proofs.Selector.Composition

/-!
# Compounds put together

A compound with another one right behind it, which starts with the sign of a condition, is again a
compound (`complex_append_sign`). Each reader takes its part from the start of a text and leaves the
end of it (`compound_suffix`), so a text without white space at its end is taken up to its end, and
the conditions of the second text are added to the compound of the first. Classes and tests are
added to those that are there, but an id and a position take the place of the one before
(`Compound.followedBy`). So both compounds match an element exactly if the whole does and they ask
for no two ids and for no two positions (`parse_conjunction`); where they do ask for two, the first
one is lost (`not_conjunction_twoIds`).
-/

namespace Recorder.Selector

open Text (isWhiteSpace)

variable {cs rest t : List Char}

/-! ## What is left of a text -/

/-- The text behind white space is the end of the text. -/
theorem skipSpace_suffix (cs : List Char) : skipSpace cs <:+ cs :=
  List.dropWhile_suffix _

/-- The characters of a name are taken from the start of a text. -/
theorem nameChars_suffix {n : List Char} (h : nameChars cs = .ok (n, rest)) : rest <:+ cs := by
  fun_induction nameChars cs generalizing n rest with
  | case1 => simp_all
  | case2 => simp at h
  | case3 e r n' rest' hr ih =>
    obtain ⟨-, rfl⟩ : e :: n' = n ∧ rest' = rest := by simpa using h
    exact (ih hr).trans ⟨['\\', e], rfl⟩
  | case4 => simp at h
  | case5 c cs _ _ n' rest' hr ih =>
    obtain ⟨-, rfl⟩ : c :: n' = n ∧ rest' = rest := by simpa using h
    exact (ih hr).trans (List.suffix_cons c cs)
  | case6 => simp at h
  | case7 c cs =>
    obtain ⟨-, rfl⟩ : [] = n ∧ c :: cs = rest := by simpa using h
    exact List.suffix_rfl

/-- A name is taken from the start of a text. -/
theorem name_suffix {s : String} (h : name cs = .ok (s, rest)) : rest <:+ cs := by
  unfold name at h
  split at h
  · simp at h
  · simp at h
  · next c n r hn =>
    obtain ⟨-, rfl⟩ : String.ofList (c :: n) = s ∧ r = rest := by simpa using h
    exact nameChars_suffix hn

/-- A quoted string is taken from the start of a text. -/
theorem quotedChars_suffix {quote : Char} {v : List Char}
    (h : quotedChars quote cs = .ok (v, rest)) : rest <:+ cs := by
  fun_induction quotedChars quote cs generalizing v rest with
  | case1 => simp at h
  | case2 => simp at h
  | case3 e r v' rest' hr ih =>
    obtain ⟨-, rfl⟩ : e :: v' = v ∧ rest' = rest := by simpa using h
    exact (ih hr).trans ⟨['\\', e], rfl⟩
  | case4 => simp at h
  | case5 cs =>
    obtain ⟨-, rfl⟩ : [] = v ∧ cs = rest := by simpa using h
    exact List.suffix_cons _ _
  | case6 c cs _ _ v' rest' hr ih =>
    obtain ⟨-, rfl⟩ : c :: v' = v ∧ rest' = rest := by simpa using h
    exact (ih hr).trans (List.suffix_cons c cs)
  | case7 => simp at h

/-- The value of an attribute is taken from the start of a text. -/
theorem attributeValue_suffix {s : String} (h : attributeValue cs = .ok (s, rest)) :
    rest <:+ cs := by
  unfold attributeValue at h
  split at h
  · exact name_suffix h
  · next c cs =>
    split at h
    · split at h
      · next v r hv =>
        obtain ⟨-, rfl⟩ : String.ofList v = s ∧ r = rest := by simpa using h
        exact (quotedChars_suffix hv).trans (List.suffix_cons c cs)
      · simp at h
    · exact name_suffix h

/-- The bracket that ends the test of an attribute is taken from the start of a text. -/
theorem closeAttribute_suffix {test u : AttributeTest}
    (h : closeAttribute test cs = .ok (u, rest)) : rest <:+ cs := by
  unfold closeAttribute at h
  split at h
  · next r =>
    obtain ⟨-, rfl⟩ : test = u ∧ r = rest := by simpa using h
    exact List.suffix_cons _ _
  · simp at h

/-- The test of an attribute is taken from the start of a text. -/
theorem attributeTest_suffix {u : AttributeTest} (h : attributeTest cs = .ok (u, rest)) :
    rest <:+ cs := by
  unfold attributeTest at h
  split at h
  · simp at h
  · next n r hn =>
    have hname : skipSpace r <:+ cs :=
      (skipSpace_suffix r).trans ((name_suffix hn).trans (skipSpace_suffix cs))
    split at h
    · next inside hsign =>
      rw [hsign] at hname
      have hinside : skipSpace inside <:+ cs :=
        (skipSpace_suffix inside).trans ((List.suffix_cons _ _).trans hname)
      split at h
      · simp at h
      · next v r' hv =>
        exact (closeAttribute_suffix h).trans
          ((skipSpace_suffix r').trans ((attributeValue_suffix hv).trans hinside))
    · exact (closeAttribute_suffix h).trans hname

/-- A position is taken from the start of a text. -/
theorem position_suffix {n : Nat} (h : position cs = .ok (n, rest)) : rest <:+ cs := by
  unfold position at h
  have hdigits : skipSpace ((skipSpace cs).dropWhile Char.isDigit) <:+ cs :=
    (skipSpace_suffix _).trans ((List.dropWhile_suffix _).trans (skipSpace_suffix cs))
  simp only at h
  split at h
  · simp at h
  · next m _ =>
    split at h
    · next r hclose =>
      obtain ⟨-, rfl⟩ : m = n ∧ r = rest := by simpa using h
      rw [hclose] at hdigits
      exact (List.suffix_cons _ _).trans hdigits
    · simp at h

/-- A pseudo-class is taken from the start of a text. -/
theorem nthChild_suffix {n : Nat} (h : nthChild cs = .ok (n, rest)) : rest <:+ cs := by
  unfold nthChild at h
  split at h
  · simp at h
  · next s r hs =>
    split at h
    · split at h
      · exact (position_suffix h).trans ((List.suffix_cons _ _).trans (name_suffix hs))
      · simp at h
    · simp at h

/-- A part of a compound is taken from the start of a text. -/
theorem part?_suffix {p : Option Part} (h : part? cs = .ok (p, rest)) : rest <:+ cs := by
  unfold part? at h
  split at h
  · obtain ⟨_, ha, -⟩ := asPart_eq_ok h
    exact (name_suffix ha).trans (List.suffix_cons _ _)
  · obtain ⟨_, ha, -⟩ := asPart_eq_ok h
    exact (name_suffix ha).trans (List.suffix_cons _ _)
  · obtain ⟨_, ha, -⟩ := asPart_eq_ok h
    exact (attributeTest_suffix ha).trans (List.suffix_cons _ _)
  · obtain ⟨_, ha, -⟩ := asPart_eq_ok h
    exact (nthChild_suffix ha).trans (List.suffix_cons _ _)
  · obtain ⟨-, rfl⟩ : none = p ∧ cs = rest := by simpa using h
    exact List.suffix_rfl

/-- The parts of a compound are taken from the start of a text. -/
theorem parts_suffix {c d : Compound} (h : parts c cs = .ok (d, rest)) : rest <:+ cs := by
  fun_induction parts c cs generalizing d rest with
  | case1 => simp at h
  | case2 c cs rest' hp =>
    obtain ⟨-, rfl⟩ : c = d ∧ rest' = rest := by simpa using h
    exact part?_suffix hp
  | case3 c cs p rest' hp ih => exact (ih h).trans (part?_suffix hp)

/-- The start of a compound is taken from the start of a text. -/
theorem compoundHead_suffix {c : Compound} (h : compoundHead cs = .ok (c, rest)) :
    rest <:+ cs := by
  unfold compoundHead at h
  split at h
  · obtain ⟨-, rfl⟩ : Compound.any = c ∧ [] = rest := by simpa using h
    exact List.suffix_rfl
  · next d ds =>
    split at h
    · obtain ⟨-, rfl⟩ : Compound.any = c ∧ ds = rest := by simpa using h
      exact List.suffix_cons d ds
    · split at h
      · split at h
        · next tag r hn =>
          obtain ⟨-, rfl⟩ : _ ∧ r = rest := by simpa using h
          exact name_suffix hn
        · simp at h
      · obtain ⟨-, rfl⟩ : Compound.any = c ∧ d :: ds = rest := by simpa using h
        exact List.suffix_rfl

/-- A compound is taken from the start of a text. -/
theorem compound_suffix {c : Compound} (h : compound cs = .ok (c, rest)) : rest <:+ cs := by
  unfold compound at h
  split at h
  · split at h
    · simp at h
    · next hhead => exact (parts_suffix h).trans (compoundHead_suffix hhead)
  · simp at h

/-- Nothing is left but white space only if nothing is, where the text does not end with it. -/
theorem eq_nil_of_suffix (h : rest <:+ cs) (hwhite : skipSpace rest = [])
    (hlast : ∀ c ∈ cs.getLast?, isWhiteSpace c = false) : rest = [] := by
  by_contra hne
  obtain ⟨used, rfl⟩ := h
  have hlastRest : rest.getLast hne ∈ (used ++ rest).getLast? := by
    simp [List.getLast?_append, List.getLast?_eq_some_getLast hne]
  have hspace : isWhiteSpace (rest.getLast hne) = true :=
    List.dropWhile_eq_nil_iff.1 hwhite _ (List.getLast_mem hne)
  simp [hlast _ hlastRest] at hspace

/-! ## Conditions behind a compound -/

namespace Compound

/-- The compound with the conditions of another one behind its own. It has one id and one position,
of which the last one counts. -/
def followedBy (c d : Compound) : Compound where
  tag := c.tag
  id := d.id.or c.id
  classes := c.classes ++ d.classes
  attributes := c.attributes ++ d.attributes
  nthChild := d.nthChild.or c.nthChild

/-- No condition comes behind. -/
theorem followedBy_any (c : Compound) : c.followedBy any = c := by
  simp [followedBy, any]

/-- One more condition comes behind. -/
theorem followedBy_add (c d : Compound) (p : Part) :
    c.followedBy (d.add p) = (c.followedBy d).add p := by
  cases p <;> simp [followedBy, add]

end Compound

/-- Conditions that are read behind a compound come behind its own. -/
theorem parts_followedBy (c : Compound) {d e : Compound} (h : parts d cs = .ok (e, rest)) :
    parts (c.followedBy d) cs = .ok (c.followedBy e, rest) := by
  fun_induction parts d cs generalizing e rest with
  | case1 => simp at h
  | case2 d cs rest' hp =>
    obtain ⟨rfl, rfl⟩ : d = e ∧ rest' = rest := by simpa using h
    exact parts_of_none _ hp
  | case3 d cs p rest' hp ih =>
    rw [parts_of_some _ hp, ← Compound.followedBy_add]
    exact ih h

/-- The parts of a text are read, and then those of the text behind it. -/
theorem parts_append_of_endsName {c d : Compound} (h : parts c cs = .ok (d, []))
    (ht : EndsName t) : parts c (cs ++ t) = parts d t := by
  fun_induction parts c cs generalizing d with
  | case1 => simp at h
  | case2 c cs rest' hp =>
    obtain ⟨rfl, rfl⟩ : c = d ∧ rest' = [] := by simpa using h
    rw [← eq_of_part?_none hp, List.nil_append]
  | case3 c cs p rest' hp ih => rw [parts_of_some c (part?_some_append hp ht), ih h]

/-- The sign of a condition is no asterisk, starts no tag and is no white space. -/
theorem ne_of_startsPart {sign : Char} (h : startsPart sign = true) :
    sign ≠ '*' ∧ startsTag sign = false ∧ isWhiteSpace sign = false := by
  simp only [startsPart, Bool.or_eq_true, decide_eq_true_eq] at h
  rcases h with ((rfl | rfl) | rfl) | rfl <;> decide

section Sign

variable {sign : Char} {more : List Char} {c d : Compound}

/-- A compound that starts with the sign of a condition has nothing but conditions. -/
theorem compound_sign (hsign : startsPart sign = true) :
    compound (sign :: more) = parts .any (sign :: more) := by
  obtain ⟨hstar, htag, -⟩ := ne_of_startsPart hsign
  rw [compound, if_pos (by simp [startsCompound, hsign]), compoundHead, if_neg hstar,
    if_neg (by simp [htag])]

/-- Conditions have no tag. -/
theorem tag_parts (h : parts c cs = .ok (d, rest)) : d.tag = c.tag := by
  fun_induction parts c cs generalizing d rest with
  | case1 => simp at h
  | case2 c cs rest' hp =>
    obtain ⟨rfl, -⟩ : c = d ∧ rest' = rest := by simpa using h
    rfl
  | case3 c cs p rest' hp ih =>
    rw [ih h]
    cases p <;> rfl

/-- A compound and one that starts with the sign of a condition are a compound. -/
theorem compound_append_sign (hc : compound cs = .ok (c, [])) (hsign : startsPart sign = true)
    (hd : compound (sign :: more) = .ok (d, rest)) :
    compound (cs ++ sign :: more) = .ok (c.followedBy d, rest) := by
  have hname : EndsName (sign :: more) := endsName_of_startsPart hsign more
  obtain ⟨x, xs, rfl, hx⟩ := exists_cons_of_compound hc
  rw [compound_sign hsign] at hd
  unfold compound at hc ⊢
  rw [if_pos (by simpa using hx)] at hc
  rw [if_pos (by simpa using hx)]
  cases hhead : compoundHead (x :: xs) with
  | error stop => simp [hhead] at hc
  | ok r =>
    obtain ⟨head, rest'⟩ := r
    rw [compoundHead_append (List.cons_ne_nil x xs) hhead hname]
    simp only [hhead] at hc ⊢
    have hconditions := parts_followedBy c hd
    rw [c.followedBy_any] at hconditions
    rw [parts_append_of_endsName hc hname, hconditions]

/-- A compound without white space at its end and one that starts with the sign of a condition are a
compound. -/
theorem complex_append_sign (hc : complex cs = .ok (.compound c, []))
    (hlast : ∀ x ∈ cs.getLast?, isWhiteSpace x = false) (hsign : startsPart sign = true)
    (hd : complex (sign :: more) = .ok (.compound d, [])) :
    complex (cs ++ sign :: more) = .ok (.compound (c.followedBy d), []) := by
  obtain ⟨left, hfirst, hwhite⟩ := compound_of_complex hc
  obtain ⟨rest, hsecond, hend⟩ := compound_of_complex hd
  obtain rfl : left = [] :=
    eq_nil_of_suffix ((compound_suffix hfirst).trans (skipSpace_suffix cs))
      (eq_skipSpace_of_combinator?_none hwhite).symm hlast
  rw [skipSpace_cons (ne_of_startsPart hsign).2.2] at hsecond
  obtain ⟨x, xs, hcs, -⟩ := exists_cons_of_compound hfirst
  rw [complex, skipSpace_append (by simp [hcs]), compound_append_sign hfirst hsign hsecond]
  exact chain_of_none hend

end Sign

/-! ## What both match -/

namespace Compound

variable {doc : Document} {n : NodeId} {c d : Compound}

/-- A compound without the conditions whose place those of another one behind it take: its id if
that one has an id, and its position if that one has a position. -/
def without (c d : Compound) : Compound :=
  { c with
    id := if d.id.isSome then none else c.id
    nthChild := if d.nthChild.isSome then none else c.nthChild }

/-- Two compounds ask for no two ids and for no two positions. -/
def Agrees (c d : Compound) : Prop :=
  (∀ v ∈ c.id, ∀ w ∈ d.id, v = w) ∧ ∀ i ∈ c.nthChild, ∀ j ∈ d.nthChild, i = j

instance (c d : Compound) : Decidable (c.Agrees d) :=
  inferInstanceAs (Decidable (_ ∧ _))

/-- With conditions behind it a compound asks for them, and for its own but those whose place they
take. -/
theorem holds_followedBy (htag : d.tag = none) :
    (c.followedBy d).holds doc n = true ↔
      (c.without d).holds doc n = true ∧ d.holds doc n = true := by
  simp only [holds_iff, followedBy, without, htag]
  cases doc.element? n with
  | none => simp
  | some e => cases d.id <;> cases d.nthChild <;> simp [or_imp, forall_and] <;> tauto

/-- Two compounds that hold ask for no two ids and for no two positions, as an element has one of
each. -/
theorem agrees_of_holds (hc : c.holds doc n = true) (hd : d.holds doc n = true) : c.Agrees d := by
  obtain ⟨e, he, -, hid, -, -, hposition⟩ := holds_iff.1 hc
  obtain ⟨e', he', -, hid', -, -, hposition'⟩ := holds_iff.1 hd
  obtain rfl : e = e' := Option.some.inj (he.symm.trans he')
  exact ⟨fun v hv w hw => Option.some.inj ((hid v hv).symm.trans (hid' w hw)),
    fun i hi j hj => (hposition i hi).trans (hposition' j hj).symm⟩

/-- A compound that holds does so without some of its conditions. -/
theorem holds_without (d : Compound) (hc : c.holds doc n = true) :
    (c.without d).holds doc n = true := by
  obtain ⟨e, he, htag, hid, hclasses, htests, hposition⟩ := holds_iff.1 hc
  refine holds_iff.2 ⟨e, he, htag, fun v hv => hid v ?_, hclasses, htests,
    fun i hi => hposition i ?_⟩
  · simp only [without] at hv
    split at hv
    · cases hv
    · exact hv
  · simp only [without] at hi
    split at hi
    · cases hi
    · exact hi

/-- The id and the position that take the place of those of a compound may as well be its own where
the two agree. -/
theorem holds_of_agrees (hc : (c.without d).holds doc n = true) (hd : d.holds doc n = true)
    (hagrees : c.Agrees d) : c.holds doc n = true := by
  obtain ⟨e, he, htag, hid, hclasses, htests, hposition⟩ := holds_iff.1 hc
  obtain ⟨e', he', -, hid', -, -, hposition'⟩ := holds_iff.1 hd
  obtain rfl : e = e' := Option.some.inj (he.symm.trans he')
  refine holds_iff.2 ⟨e, he, htag, fun v hv => ?_, hclasses, htests, fun i hi => ?_⟩
  · cases hdid : d.id with
    | none => exact hid v (by simpa [without, hdid] using hv)
    | some w => exact hagrees.1 v hv w hdid ▸ hid' w hdid
  · cases hdposition : d.nthChild with
    | none => exact hposition i (by simpa [without, hdposition] using hi)
    | some j => exact (hagrees.2 i hi j hdposition).trans (hposition' j hdposition)

/-- Two compounds hold if the first one does with the conditions of the second one behind it, and
the two agree. -/
theorem holds_and_holds_iff (htag : d.tag = none) :
    c.holds doc n = true ∧ d.holds doc n = true ↔
      (c.followedBy d).holds doc n = true ∧ c.Agrees d := by
  rw [holds_followedBy htag]
  constructor
  · rintro ⟨hc, hd⟩
    exact ⟨⟨holds_without d hc, hd⟩, agrees_of_holds hc hd⟩
  · rintro ⟨⟨hwithout, hd⟩, hagrees⟩
    exact ⟨holds_of_agrees hwithout hd hagrees, hd⟩

end Compound

/-- A text of a compound without white space at its end, and behind it the text of a compound that
starts with the sign of a condition, are the text of a compound. It matches what the second one does
and the first one without those conditions whose place the second one's take. Both match an element
if it does and they ask for no two ids and for no two positions. -/
theorem parse_conjunction {a b : String} {first second : Group} {c d : Compound}
    (ha : Group.parse a = .ok first) (hc : first.selectors = [.compound c])
    (hb : Group.parse b = .ok second) (hd : second.selectors = [.compound d])
    (hlast : ∀ x ∈ a.toList.getLast?, isWhiteSpace x = false)
    (hsign : ∃ x ∈ b.toList.head?, startsPart x = true) :
    ∃ g e, Group.parse (a ++ b) = .ok g ∧ g.selectors = [.compound e] ∧ ∀ doc n,
      (g.holds doc n = true ↔ (c.without d).holds doc n = true ∧ second.holds doc n = true) ∧
      (first.holds doc n = true ∧ second.holds doc n = true ↔
        g.holds doc n = true ∧ c.Agrees d) := by
  obtain ⟨sign, hsign, hstart⟩ := hsign
  obtain ⟨more, htext⟩ := List.head?_eq_some_iff.1 hsign
  rw [parse_eq_ok_iff, hc] at ha
  rw [parse_eq_ok_iff, hd, htext] at hb
  have hsecond := complex_of_alternatives hb
  have htag : d.tag = none := by
    obtain ⟨rest, hcompound, -⟩ := compound_of_complex hsecond
    rw [skipSpace_cons (ne_of_startsPart hstart).2.2, compound_sign hstart] at hcompound
    exact tag_parts hcompound
  have hboth := complex_append_sign (complex_of_alternatives ha) hlast hstart hsecond
  refine ⟨⟨[.compound (c.followedBy d)]⟩, c.followedBy d, ?_, rfl, fun doc n => ?_⟩
  · rw [parse_eq_ok_iff, String.toList_append, htext]
    exact alternatives_of_complex hboth
  · simp only [holds_of_selectors hc, holds_of_selectors hd,
      holds_of_selectors (s := .compound (c.followedBy d)) rfl, Complex.holds]
    exact ⟨Compound.holds_followedBy htag, Compound.holds_and_holds_iff htag⟩

/-- A compound with each kind of condition, and white space in front of it and inside of a name. -/
def spacedItem : String := " li#k.x\\ y[t]:nth-child(2)"

/-- Conditions that repeat the id and the position of that compound, with white space at the end. -/
def moreConditions : String := ":nth-child( 2 )[t='#'].x#k "

/-- The id and the position are the same, so the text of both matches what each of them does. -/
theorem parse_conjunction_spacedItem :
    let c : Compound := ⟨some "li", some "k", ["x y"], [⟨"t", none⟩], some 2⟩
    let d : Compound := ⟨none, some "k", ["x"], [⟨"t", some "#"⟩], some 2⟩
    Group.parse spacedItem = .ok ⟨[.compound c]⟩ ∧
      Group.parse moreConditions = .ok ⟨[.compound d]⟩ ∧
      (∀ x ∈ spacedItem.toList.getLast?, isWhiteSpace x = false) ∧
      (∃ x ∈ moreConditions.toList.head?, startsPart x = true) ∧ c.Agrees d ∧
      ∃ g e, Group.parse (spacedItem ++ moreConditions) = .ok g ∧ g.selectors = [.compound e] ∧
        ∀ doc n,
          (g.holds doc n = true ↔ (c.without d).holds doc n = true ∧
            (Group.mk [.compound d]).holds doc n = true) ∧
          ((Group.mk [.compound c]).holds doc n = true ∧
            (Group.mk [.compound d]).holds doc n = true ↔ g.holds doc n = true ∧ c.Agrees d) := by
  intro c d
  have hfirst : Group.parse spacedItem = .ok ⟨[.compound c]⟩ := by
    rw [parse_eq_ok_iff]
    decide +kernel
  have hsecond : Group.parse moreConditions = .ok ⟨[.compound d]⟩ := by
    rw [parse_eq_ok_iff]
    decide +kernel
  have hlast : ∀ x ∈ spacedItem.toList.getLast?, isWhiteSpace x = false := by
    have hend : spacedItem.toList.getLast? = some ')' := by decide +kernel
    rw [hend]
    rintro x ⟨⟩
    decide
  have hsign : ∃ x ∈ moreConditions.toList.head?, startsPart x = true := ⟨':', by decide, by decide⟩
  exact ⟨hfirst, hsecond, hlast, hsign, by decide,
    parse_conjunction hfirst rfl hsecond rfl hlast hsign⟩

/-- A page with one paragraph, whose id is `y`. -/
def namedParagraph : Document :=
  .ofSnapshot ⟨{ tag := "body" },
    [.element { tag := "p", attributes := .ofPairs [("id", "y")] } []]⟩

/-- Of two ids the first one is lost: the text of both denotes the second one alone, so it matches
an element that the first one does not. -/
theorem not_conjunction_twoIds :
    let x : Group := ⟨[.compound { Compound.any with id := some "x" }]⟩
    let y : Group := ⟨[.compound { Compound.any with id := some "y" }]⟩
    Group.parse "#x" = .ok x ∧ Group.parse "#y" = .ok y ∧ Group.parse ("#x" ++ "#y") = .ok y ∧
      namedParagraph.isElement ⟨1⟩ = true ∧ x.holds namedParagraph ⟨1⟩ = false ∧
      y.holds namedParagraph ⟨1⟩ = true := by
  intro x y
  have hx : Group.parse "#x" = .ok x := by
    rw [parse_eq_ok_iff]
    decide +kernel
  have hy : Group.parse "#y" = .ok y := by
    rw [parse_eq_ok_iff]
    decide +kernel
  have hboth : Group.parse ("#x" ++ "#y") = .ok y := by
    rw [parse_eq_ok_iff]
    decide +kernel
  exact ⟨hx, hy, hboth, by decide, by decide, by decide⟩

end Recorder.Selector
