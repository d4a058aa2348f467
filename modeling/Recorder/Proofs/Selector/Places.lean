import Mathlib.Tactic.Common
import Recorder.Proofs.Locator.Synthesis
import Recorder.Proofs.Selector.Composition
import Recorder.Proofs.Selector.WellRead

/-!
# Chains by places

A chain is kept here as two lists, its compounds and the combinators between them, and matched by
places in the two: from the last compound on, each turn asks for the compound at a place and for the
combinator in front of it. The lists are filled side by side, so there is always one compound more
(`length_linkLists`), and no turn asks for a place that a list does not have
(`holdsFrom?_eq_some`): the answer is that of the chain itself.

Together with what the readers do this gives all that can be relied on of a text that is read, and
of one that is refused (`parse_wellFormed`).
-/

namespace Recorder.Selector

variable {doc : Document}

/-! ## Filling the lists -/

/-- Extends the compounds and the combinators of a chain by those at the start of a text. At each
turn both lists get one more. -/
def linkLists (compounds : List Compound) (combinators : List Combinator) (cs : List Char) :
    Reading (List Compound × List Combinator) :=
  match _hk : combinator? cs with
  | .error stop => .error stop
  | .ok (none, rest) => .ok ((compounds, combinators), rest)
  | .ok (some k, rest) =>
    match _hc : compound rest with
    | .error stop => .error stop
    | .ok (c, behind) => linkLists (compounds ++ [c]) (combinators ++ [k]) behind
termination_by cs.length
decreasing_by
  have := length_combinator? _hk
  have := length_compound _hc
  omega

/-- The compounds and the combinators of the chain at the start of a text. -/
def complexLists (cs : List Char) : Reading (List Compound × List Combinator) :=
  match compound (skipSpace cs) with
  | .error stop => .error stop
  | .ok (c, rest) => linkLists [c] [] rest

/-- The lists are those of the chain that is read. -/
theorem linkLists_eq (left : Complex) (cs : List Char) :
    linkLists left.compounds left.combinators cs =
      (chain left cs).map fun r => ((r.1.compounds, r.1.combinators), r.2) := by
  fun_induction chain left cs with
  | case1 left cs stop hk => grind [linkLists, Except.map]
  | case2 left cs rest hk => grind [linkLists, Except.map]
  | case3 left cs k rest hk stop hc => grind [linkLists, Except.map]
  | case4 left cs k rest hk c behind hc ih =>
    -- The lists of the longer chain are the longer lists.
    have hturn : linkLists left.compounds left.combinators cs =
        linkLists (left.compounds ++ [c]) (left.combinators ++ [k]) behind := by
      grind [linkLists]
    rw [hturn]
    exact ih

/-- The lists of the chain at the start of a text are those of the chain that is read. -/
theorem complexLists_eq (cs : List Char) :
    complexLists cs =
      (complex cs).map fun r => ((r.1.compounds, r.1.combinators), r.2) := by
  rw [complexLists, complex]
  cases compound (skipSpace cs) with
  | error stop => rfl
  | ok first => exact linkLists_eq (.compound first.1) first.2

/-- One compound more than combinators stays one more. -/
theorem length_linkLists {compounds compounds' : List Compound}
    {combinators combinators' : List Combinator} {cs rest : List Char}
    (hlength : compounds.length = combinators.length + 1)
    (h : linkLists compounds combinators cs = .ok ((compounds', combinators'), rest)) :
    compounds'.length = combinators'.length + 1 := by
  fun_induction linkLists compounds combinators cs with
  | case1 => cases h
  | case2 => cases h; exact hlength
  | case3 => cases h
  | case4 compounds combinators cs k between hk c behind hc ih =>
    refine ih ?_ h
    simp only [List.length_append, List.length_singleton]
    omega

/-- A chain that is read has one compound more than combinators. -/
theorem length_complexLists {compounds : List Compound} {combinators : List Combinator}
    {cs rest : List Char} (h : complexLists cs = .ok ((compounds, combinators), rest)) :
    compounds.length = combinators.length + 1 := by
  unfold complexLists at h
  split at h
  · cases h
  · exact length_linkLists rfl h

/-! ## Matching by places -/

/-- Whether the compounds up to a place match a node, the compound at this place the node itself.
There is no answer where a list is asked for a place that it does not have. -/
def holdsFrom? (doc : Document) (compounds : List Compound) (combinators : List Combinator) :
    Nat → NodeId → Option Bool
  | 0, id => compounds[0]?.map fun c => c.holds doc id
  | i + 1, id =>
    match compounds[i + 1]? with
    | none => none
    | some c =>
      if c.holds doc id then
        match combinators[i]? with
        | none => none
        | some .child =>
          (doc.parent? id).elim (some false) fun p => holdsFrom? doc compounds combinators i p
        | some .descendant =>
          (doc.ancestors id).anyM fun a => holdsFrom? doc compounds combinators i a
      else some false

/-- Whether one of the alternatives matches a node, each of them from its last compound on. -/
def Group.holds? (doc : Document) (id : NodeId) (g : Group) : Option Bool :=
  g.selectors.anyM fun s =>
    match s.compounds.length with
    | 0 => none
    | i + 1 => holdsFrom? doc s.compounds s.combinators i id

/-- Where every test has an answer, so has the question whether one of them succeeds. -/
theorem anyM_eq_some {α : Type} {f : α → Option Bool} {p : α → Bool} {xs : List α}
    (h : ∀ x ∈ xs, f x = some (p x)) : xs.anyM f = some (xs.any p) := by
  induction xs with
  | nil => rfl
  | cons x xs ih =>
    obtain ⟨hx, hxs⟩ := List.forall_mem_cons.1 h
    rw [List.anyM, hx, List.any_cons]
    cases p x with
    | true => rfl
    | false => exact ih hxs

/-- What comes behind a place in the lists does not matter there. -/
theorem holdsFrom?_append {compounds : List Compound} {combinators : List Combinator} {i : Nat}
    (hi : i < compounds.length) (hk : i ≤ combinators.length) (more : List Compound)
    (more' : List Combinator) (id : NodeId) :
    holdsFrom? doc (compounds ++ more) (combinators ++ more') i id =
      holdsFrom? doc compounds combinators i id := by
  induction i generalizing id with
  | zero => rw [holdsFrom?, holdsFrom?, List.getElem?_append_left hi]
  | succ i ih =>
    have hbefore (n : NodeId) := ih (by omega) (by omega) n
    rw [holdsFrom?, holdsFrom?, List.getElem?_append_left hi, List.getElem?_append_left hk]
    simp only [hbefore]

/-- A chain with one compound more than combinators has an answer at every place that is asked for,
and it matches a node by places exactly if it matches it. -/
theorem holdsFrom?_eq_some (doc : Document) {s : Complex}
    (hlength : s.compounds.length = s.combinators.length + 1) (id : NodeId) :
    holdsFrom? doc s.compounds s.combinators s.combinators.length id =
      some (s.holds doc id) := by
  induction s generalizing id with
  | compound c => rfl
  | join left k c ih =>
    have hleft : left.compounds.length = left.combinators.length + 1 := by
      simpa [Complex.compounds, Complex.combinators] using hlength
    -- The chain on the left has the places in front of the last ones.
    have hbefore (n : NodeId) :
        holdsFrom? doc (left.compounds ++ [c]) (left.combinators ++ [k])
          left.combinators.length n = some (left.holds doc n) := by
      rw [holdsFrom?_append (by omega) (Nat.le_refl _), ih hleft]
    have hcompound : (left.compounds ++ [c])[left.combinators.length + 1]? = some c := by
      rw [← hleft, List.getElem?_concat_length]
    have hcombinator : (left.combinators ++ [k])[left.combinators.length]? = some k :=
      List.getElem?_concat_length
    rw [Complex.compounds, Complex.combinators, List.length_append, List.length_singleton,
      holdsFrom?, hcompound]
    simp only [hcombinator, hbefore]
    cases hc : c.holds doc id with
    | false =>
      cases k <;> simp [Complex.holds, hc]
    | true =>
      cases k with
      | child =>
        rw [Complex.holds, hc]
        cases doc.parent? id <;> rfl
      | descendant =>
        rw [Complex.holds, hc]
        exact anyM_eq_some fun _ _ => rfl

/-- A group of chains with one compound more than combinators has an answer for every node. -/
theorem Group.holds?_eq_some (doc : Document) (id : NodeId) {g : Group}
    (hg : ∀ s ∈ g.selectors, s.compounds.length = s.combinators.length + 1) :
    g.holds? doc id = some (g.holds doc id) := by
  refine anyM_eq_some fun s hs => ?_
  have hlength := hg s hs
  simp only [hlength]
  exact holdsFrom?_eq_some doc hlength id

/-! ## Texts that are read, and texts that are refused -/

/-- Each chain of a group is one that is read at the start of some text. -/
theorem exists_complex_of_mem {cs : List Char} {selectors : List Complex}
    (h : alternatives cs = .ok selectors) {s : Complex} (hs : s ∈ selectors) :
    ∃ text rest, complex text = .ok (s, rest) := by
  fun_induction alternatives cs generalizing selectors with
  | case1 => cases h
  | case2 cs t ht =>
    cases h
    exact ⟨cs, [], List.mem_singleton.1 hs ▸ ht⟩
  | case3 cs t rest more hmore ht ih =>
    cases h
    rcases List.mem_cons.1 hs with rfl | hs
    · exact ⟨cs, _, ht⟩
    · exact ih hmore hs
  | case4 => cases h
  | case5 => cases h

/-- A text that is read as a group gives one chain at least. Each of them is what the two lists are
filled with, one compound more than combinators, and no name in it is empty or, where it is a tag or
the name of an attribute, has a capital letter. So matching by places has an answer for every node
of every document. A text that is refused is refused with the number of characters in front of the
place, and never for what stands behind the last chain. -/
theorem parse_wellFormed (source : String) :
    (∀ g, Group.parse source = .ok g →
      g.selectors ≠ [] ∧
      (∀ s ∈ g.selectors,
        (∃ text rest, complexLists text = .ok ((s.compounds, s.combinators), rest)) ∧
        s.compounds.length = s.combinators.length + 1 ∧
        ∀ c ∈ s.compounds, c.WellFormed) ∧
      ∀ doc id, g.holds? doc id = some (g.holds doc id)) ∧
    ∀ error, Group.parse source = .error error →
      ∃ fault left, error = .invalidSelector source fault ∧ fault.cause ≠ .trailingInput ∧
        fault.offset ≤ source.length ∧
        alternatives source.toList = .error ⟨fault.cause, left⟩ ∧
        fault.offset + left = source.length := by
  have hread := alternatives_wellRead source.toList
  constructor
  · intro g hg
    have hchains : alternatives source.toList = .ok g.selectors := parse_eq_ok_iff.1 hg
    obtain ⟨hne, hwell⟩ := hread.value hchains
    have hlists : ∀ s ∈ g.selectors, ∃ text rest,
        complexLists text = .ok ((s.compounds, s.combinators), rest) := fun s hs => by
      obtain ⟨text, rest, hs⟩ := exists_complex_of_mem hchains hs
      exact ⟨text, rest, by rw [complexLists_eq, hs]; rfl⟩
    have hlength : ∀ s ∈ g.selectors, s.compounds.length = s.combinators.length + 1 :=
      fun s hs => by
        obtain ⟨text, rest, htext⟩ := hlists s hs
        exact length_complexLists htext
    exact ⟨hne, fun s hs => ⟨hlists s hs, hlength s hs, hwell s hs⟩,
      fun doc id => g.holds?_eq_some doc id hlength⟩
  · intro error herror
    rw [Group.parse, Group.ofChars] at herror
    cases hstop : alternatives source.toList with
    | ok selectors =>
      simp only [hstop] at herror
      cases herror
    | error stop =>
      obtain ⟨hleft, hcause⟩ := hread.stop hstop
      simp only [hstop] at herror
      rw [String.length_toList] at hleft herror
      refine ⟨⟨stop.cause, source.length - stop.left⟩, stop.left, ?_, hcause, Nat.sub_le _ _, rfl,
        Nat.sub_add_cancel hleft⟩
      exact (Except.error.inj herror).symm

/-- Two chains are read, of three compounds and of one; a text with a sign that starts nothing is
refused in front of the sign. -/
theorem parse_wellFormed_twoChains :
    (∃ g, Group.parse "NAV > .item a, [Data-K]" = .ok g ∧
      g.selectors.map (·.compounds.length) = [3, 1] ∧
      (∀ s ∈ g.selectors,
        (∃ text rest, complexLists text = .ok ((s.compounds, s.combinators), rest)) ∧
        s.compounds.length = s.combinators.length + 1 ∧
        ∀ c ∈ s.compounds, c.WellFormed) ∧
      ∀ doc id, g.holds? doc id = some (g.holds doc id)) ∧
    ∃ error, Group.parse "div $" = .error error ∧
      ∃ fault left, error = .invalidSelector "div $" fault ∧ fault.cause ≠ .trailingInput ∧
        fault.offset ≤ "div $".length ∧
        alternatives "div $".toList = .error ⟨fault.cause, left⟩ ∧
        fault.offset + left = "div $".length := by
  constructor
  · have hread : ((Group.parse "NAV > .item a, [Data-K]").toOption.map fun g =>
        g.selectors.map (·.compounds.length)) = some [3, 1] := by
      decide +kernel
    obtain ⟨g, hg, hlengths⟩ := Option.map_eq_some_iff.1 hread
    have hparse : Group.parse "NAV > .item a, [Data-K]" = .ok g := eq_ok_of_toOption_eq_some hg
    obtain ⟨-, hchains, hholds⟩ := (parse_wellFormed "NAV > .item a, [Data-K]").1 g hparse
    exact ⟨g, hparse, hlengths, hchains, hholds⟩
  · have hfault : Group.ofChars "div $".toList = .error ⟨.expectedSelector, 4⟩ := by
      decide +kernel
    have hparse : Group.parse "div $" =
        .error (.invalidSelector "div $" ⟨.expectedSelector, 4⟩) := by
      rw [Group.parse, hfault]
    exact ⟨_, hparse, (parse_wellFormed "div $").2 _ hparse⟩

end Recorder.Selector
