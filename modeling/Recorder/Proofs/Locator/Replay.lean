import Mathlib.Tactic.Common
import Recorder.Config
import Recorder.Proofs.Document.Descendants
import Recorder.Proofs.Locator.Synthesis

/-!
# Locators at replay

A locator is made from what its query finds inside of the container, and the code that is made for
it looks from the body: both `canvas` and `body` stand for it there. What the query finds inside of
the container stands in one piece in what it finds inside of the body. So the locator reaches its
element exactly where nothing that it takes on the way lies outside of the container
(`reaches_append_iff`); with the body for a container that is always so.
-/

namespace Recorder

namespace Locator

/-- The locator reaches an element in what its query finds: nothing else is found, or the element
stands at the index. -/
def Reaches (l : Locator) (element : NodeId) (found : List NodeId) : Prop :=
  match l.index with
  | none => found = [element]
  | some i => found[i]? = some element

/-- What a locator takes of what its query finds, up to its element: everything, or what comes up to
the index. -/
def taken (l : Locator) (found : List NodeId) : List NodeId :=
  match l.index with
  | none => found
  | some i => found.take (i + 1)

/-- What is taken has been found. -/
theorem mem_of_mem_taken {l : Locator} {found : List NodeId} {n : NodeId}
    (h : n ∈ l.taken found) : n ∈ found := by
  unfold taken at h
  split at h
  · exact h
  · exact List.mem_of_mem_take h

/-- A locator that picks an element out of what is found reaches it in what is found at more places
exactly where it takes nothing from the other places. -/
theorem reaches_append_iff {l : Locator} {element : NodeId} {before found after : List NodeId}
    (hpick : l.PicksOut element found) (hapart : ∀ n ∈ found, n ∉ before ∧ n ∉ after) :
    l.Reaches element (before ++ found ++ after) ↔
      ∀ n ∈ l.taken (before ++ found ++ after), n ∈ found := by
  unfold PicksOut at hpick
  unfold Reaches taken
  cases hindex : l.index with
  | none =>
    simp only [hindex] at hpick ⊢
    subst hpick
    refine ⟨fun h => by simp [h], fun h => ?_⟩
    have hbefore : before = [] := List.eq_nil_iff_forall_not_mem.2 fun n hn =>
      (hapart n (h n (by simp [hn]))).1 hn
    have hafter : after = [] := List.eq_nil_iff_forall_not_mem.2 fun n hn =>
      (hapart n (h n (by simp [hn]))).2 hn
    simp [hbefore, hafter]
  | some i =>
    simp only [hindex] at hpick ⊢
    obtain ⟨-, helement, hfirst⟩ := hpick
    have hi : i < found.length := (List.getElem?_eq_some_iff.1 helement).1
    have hmem : element ∈ found := List.mem_of_getElem? helement
    cases before with
    | nil =>
      -- Nothing comes first, so the same elements are taken as before.
      have htake : (found ++ after).take (i + 1) = found.take (i + 1) :=
        List.take_append_of_le_length hi
      rw [List.nil_append, htake, List.getElem?_append_left hi]
      exact iff_of_true helement fun n hn => List.mem_of_mem_take hn
    | cons b bs =>
      -- The first element is taken, and moves the others away from their positions.
      refine iff_of_false (fun h => ?_) fun h => (hapart b (h b (by simp))).1 (by simp)
      rw [List.append_assoc, List.getElem?_append] at h
      split at h
      · exact (hapart element hmem).1 (List.mem_of_getElem? h)
      · have hlt : i - (b :: bs).length < i := by simp only [List.length_cons] at *; omega
        rw [List.getElem?_append_left (Nat.lt_trans hlt hi)] at h
        exact hfirst _ hlt h

end Locator

namespace Document

/-- A container in which a query is answered has a number of the document. -/
theorem lt_size_of_queryAll {testIdAttribute : String} {doc : Document} {container : NodeId}
    {query : Query} {found : List NodeId}
    (h : doc.queryAll testIdAttribute container query = .ok found) :
    container.index < doc.size := by
  obtain ⟨_, hcheck, -⟩ := exists_of_bind_eq_ok h
  rw [check] at hcheck
  split at hcheck
  · assumption
  · cases hcheck

/-- What a query finds is a part of the elements inside of the container, and which part it is does
not depend on the container. -/
theorem exists_queryAll_eq_filter {testIdAttribute : String} {doc : Document} {container : NodeId}
    {query : Query} {found : List NodeId}
    (h : doc.queryAll testIdAttribute container query = .ok found) :
    ∃ p : NodeId → Bool, ∀ other, other.index < doc.size →
      doc.queryAll testIdAttribute other query = .ok ((doc.descendants other).filter p) := by
  -- A selector is read once for all elements, the other queries ask each of them.
  by_cases hcss : ∃ selector, query = .css selector
  · obtain ⟨selector, rfl⟩ := hcss
    obtain ⟨_, -, hselect⟩ := exists_of_bind_eq_ok h
    obtain ⟨g, hg, -⟩ := exists_of_map_eq_ok hselect
    refine ⟨fun n => g.holds doc n, fun other hother => ?_⟩
    rw [queryAll_css testIdAttribute selector hother, selectAll, hg]
    rfl
  · exact ⟨fun n => doc.answers testIdAttribute n query, fun other hother =>
      queryAll_eq_ok testIdAttribute hother fun selector hselector => hcss ⟨selector, hselector⟩⟩

end Document

namespace Config

/-- What a query finds inside of a container stands in one piece in what it finds inside of the
body. -/
theorem exists_finds_body {config : Config} {doc : Document} (hdoc : doc.Linked)
    {container : NodeId} (hcontainer : container ∈ doc.elements) {query : Query}
    {found : List NodeId} (h : config.synthesizer.Finds doc container query found) :
    ∃ before after,
      config.synthesizer.Finds doc Document.body query (before ++ found ++ after) ∧
      (∀ n ∈ found, n ∉ before ∧ n ∉ after) ∧
      ∀ n ∈ before ++ found ++ after, n ∈ found ↔ n ∈ doc.descendants container := by
  obtain ⟨answer, hanswer, rfl⟩ := h
  obtain ⟨p, hp⟩ := Document.exists_queryAll_eq_filter hanswer
  have hsize : container.index < doc.size := Document.lt_size_of_queryAll hanswer
  obtain rfl : answer = (doc.descendants container).filter p :=
    Except.ok.inj (hanswer.symm.trans (hp container hsize))
  obtain ⟨before, after, hpiece, hapart⟩ := hdoc.exists_elements_eq_append hcontainer
  have hbody := hp Document.body (Nat.lt_of_le_of_lt (Nat.zero_le _) hsize)
  rw [hpiece, List.filter_append, List.filter_append] at hbody
  refine ⟨_, _, ⟨_, hbody, by rw [List.filter_append, List.filter_append]⟩, fun n hn => ?_,
    fun n hn => ?_⟩
  · have hinside := hapart n (List.mem_of_mem_filter (List.mem_of_mem_filter hn))
    exact ⟨fun h => hinside.1 (List.mem_of_mem_filter (List.mem_of_mem_filter h)),
      fun h => hinside.2 (List.mem_of_mem_filter (List.mem_of_mem_filter h))⟩
  · simp only [List.mem_append, List.mem_filter] at hn ⊢
    grind

/-- A locator that is made with the body for a container reaches the control of its target. -/
theorem reaches_of_body {config : Config} {doc : Document} {target : NodeId} {l : Locator}
    {element : NodeId} (h : config.synthesizer.synthesize doc Document.body target = .ok (some l))
    (helement : doc.effectiveTarget target = .ok element) :
    ∃ found, config.synthesizer.Finds doc Document.body l.query found ∧
      l.Reaches element found := by
  obtain ⟨found, hfinds, hpick⟩ := Synthesizer.exists_finds_of_synthesize h helement
  refine ⟨found, hfinds, ?_⟩
  unfold Locator.PicksOut at hpick
  unfold Locator.Reaches
  cases hindex : l.index with
  | none => simpa only [hindex] using hpick
  | some i => simp only [hindex] at hpick ⊢; exact hpick.2.1

/-- A locator that is made reaches the control of its target from the body exactly where all that it
takes on the way lies inside of the container. -/
theorem reaches_from_body_iff {config : Config} {doc : Document} (hdoc : doc.Linked)
    {container target : NodeId} (hcontainer : container ∈ doc.elements) {l : Locator}
    {element : NodeId} (h : config.synthesizer.synthesize doc container target = .ok (some l))
    (helement : doc.effectiveTarget target = .ok element) :
    ∃ found, config.synthesizer.Finds doc Document.body l.query found ∧
      (l.Reaches element found ↔ ∀ n ∈ l.taken found, n ∈ doc.descendants container) := by
  obtain ⟨found, hfinds, hpick⟩ := Synthesizer.exists_finds_of_synthesize h helement
  obtain ⟨before, after, hbody, hapart, hinside⟩ := exists_finds_body hdoc hcontainer hfinds
  refine ⟨_, hbody, (Locator.reaches_append_iff hpick hapart).trans ?_⟩
  exact forall₂_congr fun n hn => hinside n (Locator.mem_of_mem_taken hn)

/-! ## A container that is not the body -/

/-- A page with an element of a kind in front of a box, and one in the box. -/
def boxedSpan : Document :=
  .ofSnapshot ⟨{ tag := "body" }, [.element { tag := "span" } [],
    .element { tag := "div" } [.element { tag := "span" } []]]⟩

/-- The span in the box is no control, nor part of one. -/
theorem effectiveTarget_boxedSpan : boxedSpan.effectiveTarget ⟨3⟩ = .ok ⟨3⟩ := by
  rw [Document.effectiveTarget_eq]
  exact congrArg Except.ok (by decide +kernel)

/-- The locator of the span inside of the box is its tag. -/
theorem synthesize_boxedSpan :
    ({} : Config).synthesizer.synthesize boxedSpan ⟨2⟩ ⟨3⟩ =
      .ok (some (.single (.css "span"))) := by
  have hcollected : ({} : Config).synthesizer.collected boxedSpan ⟨2⟩ ⟨3⟩ =
      .ok [⟨.css, .css "span"⟩] :=
    eq_ok_of_toOption_eq_some (by decide +kernel)
  exact Synthesizer.synthesize_eq_ok (by decide) (by decide) effectiveTarget_boxedSpan hcollected
    (List.pairwise_singleton _ _) (eq_ok_of_toOption_eq_some (by decide +kernel))

/-- From the body the tag finds the span in front of the box too, so the locator does not reach the
one in the box. -/
theorem not_reaches_boxedSpan :
    ({} : Config).synthesizer.synthesize boxedSpan ⟨2⟩ ⟨3⟩ = .ok (some (.single (.css "span"))) ∧
      boxedSpan.effectiveTarget ⟨3⟩ = .ok ⟨3⟩ ∧
      ({} : Config).synthesizer.Finds boxedSpan Document.body (.css "span") [⟨1⟩, ⟨3⟩] ∧
      ¬ (Locator.single (.css "span")).Reaches ⟨3⟩ [⟨1⟩, ⟨3⟩] := by
  have hfound : ({} : Config).synthesizer.found boxedSpan Document.body (.css "span") =
      .ok [⟨1⟩, ⟨3⟩] :=
    eq_ok_of_toOption_eq_some (by decide +kernel)
  exact ⟨synthesize_boxedSpan, effectiveTarget_boxedSpan,
    Synthesizer.finds_of_found hfound, by simp [Locator.Reaches, Locator.single]⟩

/-- The locator of the span in the box takes the span in front of the box. -/
theorem reaches_from_body_iff_boxedSpan :
    boxedSpan.Linked ∧ (⟨2⟩ : NodeId) ∈ boxedSpan.elements ∧
      ({} : Config).synthesizer.synthesize boxedSpan ⟨2⟩ ⟨3⟩ =
        .ok (some (.single (.css "span"))) ∧
      boxedSpan.effectiveTarget ⟨3⟩ = .ok ⟨3⟩ ∧
      ∃ found, ({} : Config).synthesizer.Finds boxedSpan Document.body (.css "span") found ∧
        ((Locator.single (.css "span")).Reaches ⟨3⟩ found ↔
          ∀ n ∈ (Locator.single (.css "span")).taken found, n ∈ boxedSpan.descendants ⟨2⟩) := by
  have hlinked : boxedSpan.Linked := Document.linked_ofSnapshot _
  have hcontainer : (⟨2⟩ : NodeId) ∈ boxedSpan.elements := by decide +kernel
  exact ⟨hlinked, hcontainer, synthesize_boxedSpan, effectiveTarget_boxedSpan,
    reaches_from_body_iff hlinked hcontainer synthesize_boxedSpan effectiveTarget_boxedSpan⟩

end Config

end Recorder
