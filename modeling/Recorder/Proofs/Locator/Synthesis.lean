import Mathlib.Tactic.Common
import Recorder.Locator.Synthesis
import Recorder.Proofs.Selector.Group

/-!
# The locator that is made

A locator finds its element again, and no better candidate does. Whoever answers the queries, in
whatever order and however often: what counts is the first position of the element in the answer,
without the elements that are marked as none of the page's own, and that the candidates before the
one that is taken were answered without the element (`firstLocator_settles`). The candidates are
those that are collected, sorted by rank and otherwise in order (`stablySorted_mergeSort`).
`synthesize_settles` puts the two together for any document, container and target.
-/

namespace Recorder

/-- Where a step and what follows it succeed, the step does. -/
theorem exists_of_bind_eq_ok {ε α β : Type} {x : Except ε α} {f : α → Except ε β} {b : β}
    (h : x >>= f = .ok b) : ∃ a, x = .ok a ∧ f a = .ok b := by
  cases x with
  | error e => cases h
  | ok a => exact ⟨a, rfl, h⟩

/-- A step that succeeds goes on with what it gives. -/
theorem bind_eq_of_eq_ok {ε α β : Type} {x : Except ε α} {f : α → Except ε β} {a : α}
    (h : x = .ok a) : x >>= f = f a := by
  rw [h]
  rfl

/-- Where the image of a step succeeds, the step does. -/
theorem exists_of_map_eq_ok {ε α β : Type} {x : Except ε α} {f : α → β} {b : β}
    (h : x.map f = .ok b) : ∃ a, x = .ok a ∧ f a = b := by
  cases x with
  | error e => cases h
  | ok a => exact ⟨a, rfl, Except.ok.inj h⟩

/-- A step that gives a value succeeds. -/
theorem eq_ok_of_toOption_eq_some {ε α : Type} {x : Except ε α} {a : α}
    (h : x.toOption = some a) : x = .ok a := by
  cases x with
  | error e => cases h
  | ok a => exact congrArg Except.ok (Option.some.inj h)

namespace Document

variable {doc : Document} {container : NodeId}

/-- What the selector of the controls denotes: three tags, four roles and the tag of links. -/
def controls : Selector.Group where
  selectors :=
    [tag "button", tag "select", tag "input", role "button", role "checkbox", role "radio", tag "a",
      role "link"]
where
  /-- Any element with a tag. -/
  tag (name : String) : Selector.Complex :=
    .compound { Selector.Compound.any with tag := some name }
  /-- Any element with a role of its own. -/
  role (name : String) : Selector.Complex :=
    .compound { Selector.Compound.any with attributes := [⟨"role", some name⟩] }

/-- The selector of the controls is what is written of them, so it is read back. -/
theorem parse_interactiveSelector : Selector.Group.parse interactiveSelector = .ok controls := by
  -- The selector is given in two pieces, each of which is compared character by character.
  have hpieces : interactiveSelector =
      String.ofList (controls.text.take 78) ++ String.ofList (controls.text.drop 78) := by
    with_unfolding_all exact congrArg₂ (· ++ ·) rfl rfl
  have htext : interactiveSelector = String.ofList controls.text := by
    rw [hpieces, ← String.ofList_append, List.take_append_drop]
  have hprintable : controls.Printable := by decide
  rw [Selector.Group.parse, htext, String.toList_ofList, Selector.ofChars_text hprintable]

/-- Every target stands for an element: the nearest control around it, or itself. -/
theorem effectiveTarget_eq (doc : Document) (target : NodeId) :
    doc.effectiveTarget target =
      .ok ((doc.closest? target fun n => controls.holds doc n).getD target) := by
  rw [effectiveTarget, parse_interactiveSelector, Except.map]

/-- A node of the document is looked up without an error. -/
theorem check_eq_ok (h : container.index < doc.size) : doc.check container = .ok container :=
  if_pos h

/-- A selector is answered with what it selects inside of the container. -/
theorem queryAll_css (testIdAttribute selector : String) (hcontainer : container.index < doc.size) :
    doc.queryAll testIdAttribute container (.css selector) = doc.selectAll container selector := by
  rw [queryAll, check_eq_ok hcontainer]
  rfl

/-- A query that is no selector is answered with the elements inside of the container that it
asks for. -/
theorem queryAll_eq_ok (testIdAttribute : String) {query : Query}
    (hcontainer : container.index < doc.size) (hquery : ∀ selector, query ≠ .css selector) :
    doc.queryAll testIdAttribute container query =
      .ok ((doc.descendants container).filter fun n => doc.answers testIdAttribute n query) := by
  unfold queryAll
  rw [check_eq_ok hcontainer]
  cases query with
  | css selector => exact absurd rfl (hquery selector)
  | role | text | testId => rfl

end Document

/-- One list of candidates is another one sorted by rank, with those of one rank left in order. -/
structure StablySorted (all sorted : List Candidate) : Prop where
  /-- Better ranks come first. -/
  pairwise : sorted.Pairwise fun a b => a.rank.order ≤ b.rank.order
  /-- The candidates of one rank are the same ones in the same order. -/
  stable : ∀ rank, (sorted.filter (·.rank = rank)) = all.filter (·.rank = rank)

/-- Sorting by rank leaves the candidates of one rank in order. -/
theorem stablySorted_mergeSort (all : List Candidate) :
    StablySorted all (all.mergeSort fun a b => a.rank.order ≤ b.rank.order) := by
  have htrans : ∀ a b c : Candidate, decide (a.rank.order ≤ b.rank.order) = true →
      decide (b.rank.order ≤ c.rank.order) = true →
      decide (a.rank.order ≤ c.rank.order) = true := by
    simp only [decide_eq_true_eq]
    omega
  have htotal : ∀ a b : Candidate,
      (decide (a.rank.order ≤ b.rank.order) || decide (b.rank.order ≤ a.rank.order)) = true := by
    simp only [Bool.or_eq_true, decide_eq_true_eq]
    omega
  refine ⟨by simpa using List.pairwise_mergeSort htrans htotal all, fun rank => ?_⟩
  -- The candidates of one rank are sorted already, so they are a sublist of the sorted list.
  have hequal : (all.filter (·.rank = rank)).Pairwise
      fun a b => decide (a.rank.order ≤ b.rank.order) = true := by
    refine List.pairwise_of_forall_mem_list fun a ha b hb => ?_
    have ha' : a.rank = rank := by simpa using (List.mem_filter.1 ha).2
    have hb' : b.rank = rank := by simpa using (List.mem_filter.1 hb).2
    simp [ha', hb']
  have hsub := (List.sublist_mergeSort htrans htotal hequal List.filter_sublist).filter
    (·.rank = rank)
  simp only [List.filter_filter, Bool.and_self] at hsub
  exact (hsub.eq_of_length ((List.mergeSort_perm all _).filter _).length_eq.symm).symm

namespace Locator

/-- The locator picks an element out of those that its query finds: the only one, or the one at the
first position of the element if there are several. -/
def PicksOut (l : Locator) (element : NodeId) (found : List NodeId) : Prop :=
  match l.index with
  | none => found = [element]
  | some i => 2 ≤ found.length ∧ found[i]? = some element ∧ ∀ j < i, found[j]? ≠ some element

end Locator

namespace Synthesizer

/-- A query finds what the engine answers, without the elements that are marked. -/
def Finds (s : Synthesizer) (doc : Document) (container : NodeId) (query : Query)
    (found : List NodeId) : Prop :=
  ∃ answer, s.engine doc container query = .ok answer ∧
    found = answer.filter fun n => doc.attribute? n "data-no-query" ≠ some "true"

/-- A candidate is answered without an element. -/
def Misses (s : Synthesizer) (doc : Document) (container element : NodeId) (c : Candidate) : Prop :=
  ∃ found, s.Finds doc container c.query found ∧ element ∉ found

/-- A locator is that of the first candidate whose answer holds an element, and picks the element
out of it; no locator means that no candidate does. -/
def Settles (s : Synthesizer) (doc : Document) (container element : NodeId)
    (candidates : List Candidate) : Option Locator → Prop
  | some l => ∃ before c after found, candidates = before ++ c :: after ∧ l.query = c.query ∧
      l.scope = l.query.scope ∧ s.Finds doc container l.query found ∧ l.PicksOut element found ∧
      ∀ b ∈ before, s.Misses doc container element b
  | none => ∀ c ∈ candidates, s.Misses doc container element c

/-- What is looked through is what the query finds. -/
theorem finds_of_found {s : Synthesizer} {doc : Document} {container : NodeId} {query : Query}
    {found : List NodeId} (h : s.found doc container query = .ok found) :
    s.Finds doc container query found := by
  obtain ⟨answer, hanswer, rfl⟩ := exists_of_map_eq_ok h
  refine ⟨answer, hanswer, List.filter_congr fun n _ => ?_⟩
  rw [Document.isExcluded, noQueryAttribute, Bool.eq_iff_iff]
  simp

/-- What a query finds is a matter of the engine. -/
theorem Finds.eq {s₁ s₂ : Synthesizer} {doc : Document} {container : NodeId} {query : Query}
    {found₁ found₂ : List NodeId} (hengine : s₁.engine = s₂.engine)
    (h₁ : s₁.Finds doc container query found₁) (h₂ : s₂.Finds doc container query found₂) :
    found₁ = found₂ := by
  obtain ⟨answer₁, hanswer₁, rfl⟩ := h₁
  obtain ⟨answer₂, hanswer₂, rfl⟩ := h₂
  rw [hengine, hanswer₂] at hanswer₁
  rw [Except.ok.inj hanswer₁]

/-- No locator is made from an answer without the element. -/
theorem locatorAmong?_eq_none_iff {query : Query} {element : NodeId} {found : List NodeId} :
    locatorAmong? query element found = none ↔ element ∉ found := by
  rw [locatorAmong?, Option.map_eq_none_iff, List.idxOf?_eq_none_iff]

/-- A locator that is made from an answer picks the element out of it. -/
theorem picksOut_of_locatorAmong? {query : Query} {element : NodeId} {found : List NodeId}
    {l : Locator} (h : locatorAmong? query element found = some l) :
    l.query = query ∧ l.scope = query.scope ∧ l.PicksOut element found := by
  obtain ⟨i, hidx, hl⟩ := Option.map_eq_some_iff.1 h
  obtain ⟨hi, helement, hfirst⟩ := List.idxOf?_eq_some_iff.1 hidx
  by_cases hone : found.length = 1
  · rw [if_pos hone] at hl
    subst hl
    refine ⟨rfl, rfl, ?_⟩
    obtain ⟨n, rfl⟩ := List.length_eq_one_iff.1 hone
    obtain rfl : i = 0 := by simpa using hi
    exact congrArg ([·]) helement
  · rw [if_neg hone] at hl
    subst hl
    refine ⟨rfl, rfl, by omega, List.getElem?_eq_some_iff.2 ⟨hi, helement⟩, fun j hj hj' => ?_⟩
    obtain ⟨hlt, heq⟩ := List.getElem?_eq_some_iff.1 hj'
    exact hfirst j hj heq

/-- The search takes the first candidate whose answer holds the element. -/
theorem firstLocator_settles {s : Synthesizer} {doc : Document} {container element : NodeId}
    {candidates : List Candidate} {result : Option Locator}
    (h : s.firstLocator doc container element candidates = .ok result) :
    s.Settles doc container element candidates result := by
  induction candidates with
  | nil =>
    obtain rfl := Except.ok.inj h
    simp [Settles]
  | cons c more ih =>
    obtain ⟨found, hfound, h⟩ := exists_of_bind_eq_ok h
    have hfinds := finds_of_found hfound
    cases hlocator : locatorAmong? c.query element found with
    | some l =>
      rw [hlocator] at h
      obtain rfl := Except.ok.inj h
      obtain ⟨hquery, hscope, hpick⟩ := picksOut_of_locatorAmong? hlocator
      exact ⟨[], c, more, found, rfl, hquery, hquery ▸ hscope, hquery ▸ hfinds, hpick, by simp⟩
    | none =>
      rw [hlocator] at h
      have hmiss : s.Misses doc container element c :=
        ⟨found, hfinds, locatorAmong?_eq_none_iff.1 hlocator⟩
      cases result with
      | none => exact List.forall_mem_cons.2 ⟨hmiss, ih h⟩
      | some l =>
        obtain ⟨before, c', after, found', rfl, hrest⟩ := ih h
        obtain ⟨hquery, hscope, hfinds', hpick, hbefore⟩ := hrest
        exact ⟨c :: before, c', after, found', rfl, hquery, hscope, hfinds', hpick,
          List.forall_mem_cons.2 ⟨hmiss, hbefore⟩⟩

/-- A locator that is made picks the control of its target out of what its query finds inside of the
container. -/
theorem exists_finds_of_synthesize {s : Synthesizer} {doc : Document} {container target : NodeId}
    {l : Locator} {element : NodeId} (h : s.synthesize doc container target = .ok (some l))
    (helement : doc.effectiveTarget target = .ok element) :
    ∃ found, s.Finds doc container l.query found ∧ l.PicksOut element found := by
  obtain ⟨_, -, h⟩ := exists_of_bind_eq_ok h
  obtain ⟨_, -, h⟩ := exists_of_bind_eq_ok h
  obtain ⟨e, he, h⟩ := exists_of_bind_eq_ok h
  obtain ⟨candidates, -, h⟩ := exists_of_bind_eq_ok h
  obtain rfl : e = element := Except.ok.inj (he.symm.trans helement)
  obtain ⟨_, _, _, found, -, -, -, hfinds, hpick, -⟩ := firstLocator_settles h
  exact ⟨found, hfinds, hpick⟩

/-- The synthesis for a node of the document is the search over the candidates of the element that
it stands for. -/
theorem synthesize_eq {s : Synthesizer} {doc : Document} {container target element : NodeId}
    {candidates : List Candidate} (hcontainer : container.index < doc.size)
    (htarget : target.index < doc.size) (helement : doc.effectiveTarget target = .ok element)
    (hcandidates : s.candidates doc container element = .ok candidates) :
    s.synthesize doc container target = s.firstLocator doc container element candidates := by
  rw [synthesize, bind_eq_of_eq_ok (Document.check_eq_ok hcontainer),
    bind_eq_of_eq_ok (Document.check_eq_ok htarget), bind_eq_of_eq_ok helement,
    bind_eq_of_eq_ok hcandidates]

/-- The search goes over the candidates as they are collected, if these are sorted already. -/
theorem synthesize_eq_ok {s : Synthesizer} {doc : Document} {container target element : NodeId}
    {all : List Candidate} {result : Option Locator} (hcontainer : container.index < doc.size)
    (htarget : target.index < doc.size) (helement : doc.effectiveTarget target = .ok element)
    (hall : s.collected doc container element = .ok all)
    (hsorted : all.Pairwise fun a b => a.rank.order ≤ b.rank.order)
    (hresult : s.firstLocator doc container element all = .ok result) :
    s.synthesize doc container target = .ok result := by
  have hcandidates : s.candidates doc container element = .ok all := by
    rw [candidates, hall]
    exact congrArg Except.ok (List.mergeSort_of_pairwise (by simpa using hsorted))
  rw [synthesize_eq hcontainer htarget helement hcandidates, hresult]

end Synthesizer

end Recorder
