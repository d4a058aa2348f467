import Recorder.Config
import Recorder.Proofs.CssPath.Matching

/-!
# Completeness of the synthesis

In the document of a snapshot with plain tags a target gets its locator without an error. The
candidates of an element are of a few kinds (`Document.Suggests`), and the only one whose query is
read from text is a CSS path, which is put together from parts that can be read
(`CssPath.settled_find`); so every query is answered, and the search over the candidates ends
(`Config.exists_synthesize`).

A candidate by role or by test id asks for what the element has. It finds the element unless this is
hidden or marked as none of the page's own, and the locator is then made from a candidate of at
least its rank (`Locator.MadeFrom`). What ranks are left is read off the kinds of candidates:
`synthesize_complete` is put together from that.
-/

namespace Recorder

/-! ## Candidates -/

namespace Document

/-- A CSS path that is settled gives a candidate, or leaves it out. -/
theorem exists_cssCandidate? {doc : Document} {milliseconds : Nat} {container id : NodeId}
    (h : CssPath.Settled doc container (CssPath.find milliseconds doc container id)) :
    ∃ css, doc.cssCandidate? milliseconds container id = .ok css := by
  rw [cssCandidate?]
  obtain hfind | ⟨selector, _, hfind, -⟩ := h <;> rw [hfind]
  · exact ⟨none, rfl⟩
  · exact ⟨some ⟨.css, .css selector⟩, rfl⟩

/-- What the candidates of an element are, rank by rank. -/
inductive Suggests (doc : Document) (s : Synthesizer) (container id : NodeId) : Candidate → Prop
    where
  /-- The role of the element together with its name. -/
  | roleWithName {role : String} (hrole : doc.role? id = some role)
      (hname : doc.accessibleName id ≠ []) : Suggests doc s container id
        ⟨.roleWithName, .role role (some (String.ofList (doc.accessibleName id)))⟩
  /-- One of its labels. -/
  | label {t : List Char} (h : t ∈ doc.labelTexts id) :
      Suggests doc s container id ⟨.label, .text .label (String.ofList t) .whole⟩
  /-- Its placeholder. -/
  | placeholder {p : String} (h : doc.attribute? id "placeholder" = some p) :
      Suggests doc s container id ⟨.placeholder, .text .placeholder p .whole⟩
  /-- Its role alone, as it has no name. -/
  | roleWithoutName {role : String} (hrole : doc.role? id = some role)
      (hname : doc.accessibleName id = []) :
      Suggests doc s container id ⟨.roleWithoutName, .role role none⟩
  /-- Its text. -/
  | textExact (t : String) (options : TextMatch) :
      Suggests doc s container id ⟨.textExact, .text .content t options⟩
  /-- The start of its text. -/
  | textPartial (t : String) (options : TextMatch) :
      Suggests doc s container id ⟨.textPartial, .text .content t options⟩
  /-- Its title. -/
  | title (t : String) : Suggests doc s container id ⟨.title, .text .title t .whole⟩
  /-- Its test id. -/
  | testId {v : String} (h : doc.attribute? id s.testIdAttribute = some v) :
      Suggests doc s container id ⟨.testId, .testId v⟩
  /-- A CSS path to it. -/
  | css {selector : String} (h : CssPath.find s.milliseconds doc container id = .ok selector) :
      Suggests doc s container id ⟨.css, .css selector⟩

end Document

namespace Synthesizer

variable {s : Synthesizer} {doc : Document} {container element : NodeId}

/-- Where a candidate comes from. -/
theorem mem_collected_iff {all : List Candidate} (h : s.collected doc container element = .ok all)
    {c : Candidate} : c ∈ all ↔
      doc.roleCandidate? element = some c ∨ c ∈ doc.labelCandidates element ∨
      doc.placeholderCandidate? element = some c ∨ doc.textCandidate? element = some c ∨
      doc.titleCandidate? element = some c ∨
      doc.testIdCandidate? s.testIdAttribute element = some c ∨
      doc.cssCandidate? s.milliseconds container element = .ok (some c) := by
  obtain ⟨css, hcss, rfl⟩ := exists_of_map_eq_ok h
  simp [hcss]

/-- The candidates that are collected are those of the element. -/
theorem suggests_of_mem_collected {all : List Candidate}
    (h : s.collected doc container element = .ok all) {c : Candidate} (hc : c ∈ all) :
    doc.Suggests s container element c := by
  -- One case for each source, in the order in which they are collected.
  rcases (mem_collected_iff h).1 hc with hc | hc | hc | hc | hc | hc | hc
  · obtain ⟨role, hrole, rfl⟩ := Option.map_eq_some_iff.1 hc
    split
    case h_1 hname => exact .roleWithoutName hrole hname
    case h_2 hname => exact .roleWithName hrole hname
  · obtain ⟨t, ht, rfl⟩ := List.mem_map.1 hc
    exact .label ht
  · rw [Document.placeholderCandidate?] at hc
    split at hc
    case isTrue =>
      obtain ⟨p, hp, rfl⟩ := Option.map_eq_some_iff.1 hc
      exact .placeholder (Option.filter_eq_some_iff.1 hp).1
    case isFalse => cases hc
  · rw [Document.textCandidate?, Document.candidateOfText?] at hc
    split at hc
    · cases hc
    · split at hc <;> cases hc
      · exact .textExact _ _
      · exact .textPartial _ _
  · obtain ⟨t, -, rfl⟩ := Option.map_eq_some_iff.1 hc
    exact .title t
  · obtain ⟨v, hv, rfl⟩ := Option.map_eq_some_iff.1 hc
    exact .testId (Option.filter_eq_some_iff.1 hv).1
  · rw [Document.cssCandidate?] at hc
    split at hc <;> cases hc
    exact .css ‹_›

/-- An element with a role but no name has a candidate by role alone. -/
theorem mem_collected_of_role_of_name_eq_nil {all : List Candidate}
    (h : s.collected doc container element = .ok all) {role : String}
    (hrole : doc.role? element = some role) (hname : doc.accessibleName element = []) :
    ⟨.roleWithoutName, .role role none⟩ ∈ all := by
  have hc : doc.roleCandidate? element = some ⟨.roleWithoutName, .role role none⟩ := by
    rw [Document.roleCandidate?, hrole, hname, Option.map_some]
  exact (mem_collected_iff h).2 (.inl hc)

/-- An element with a role and a name has a candidate by both. -/
theorem mem_collected_of_role_of_name_ne_nil {all : List Candidate}
    (h : s.collected doc container element = .ok all) {role : String}
    (hrole : doc.role? element = some role) (hname : doc.accessibleName element ≠ []) :
    ⟨.roleWithName, .role role (some (String.ofList (doc.accessibleName element)))⟩ ∈ all := by
  refine (mem_collected_iff h).2 (.inl ?_)
  rw [Document.roleCandidate?, hrole, Option.map_some]
  cases hcs : doc.accessibleName element with
  | nil => exact absurd hcs hname
  | cons c cs => rfl

/-- An element with a test id that is not empty has a candidate by it. -/
theorem mem_collected_of_testId {all : List Candidate}
    (h : s.collected doc container element = .ok all) {id : String}
    (hid : doc.attribute? element s.testIdAttribute = some id) (hne : id ≠ "") :
    ⟨.testId, .testId id⟩ ∈ all := by
  have hc : doc.testIdCandidate? s.testIdAttribute element = some ⟨.testId, .testId id⟩ := by
    simp [Document.testIdCandidate?, Document.nonEmpty?, hid, hne]
  exact (mem_collected_iff h).2 (.inr (.inr (.inr (.inr (.inr (.inl hc))))))

/-- The search over candidates ends if each of their queries is answered. -/
theorem exists_firstLocator {candidates : List Candidate}
    (h : ∀ c ∈ candidates, ∃ found, s.found doc container c.query = .ok found) :
    ∃ result, s.firstLocator doc container element candidates = .ok result := by
  induction candidates with
  | nil => exact ⟨none, rfl⟩
  | cons c more ih =>
    obtain ⟨⟨found, hfound⟩, hmore⟩ := List.forall_mem_cons.1 h
    rw [firstLocator, hfound]
    cases hlocator : locatorAmong? c.query element found with
    | some l => exact ⟨some l, by simp [bind, Except.bind, hlocator]; rfl⟩
    | none =>
      obtain ⟨result, hresult⟩ := ih hmore
      exact ⟨result, by simpa [bind, Except.bind, hlocator] using hresult⟩

/-- If one of the candidates finds the element, the locator is made from a candidate of at least
its rank. -/
theorem exists_candidate_of_finds {candidates : List Candidate} {result : Option Locator}
    (hsorted : candidates.Pairwise fun a b => a.rank.order ≤ b.rank.order)
    (hsettles : s.Settles doc container element candidates result)
    {c : Candidate} (hc : c ∈ candidates) (hfinds : ¬ s.Misses doc container element c) :
    ∃ l, result = some l ∧
      ∃ b ∈ candidates, l.query = b.query ∧ b.rank.order ≤ c.rank.order := by
  cases result with
  | none => exact absurd (hsettles c hc) hfinds
  | some l =>
    obtain ⟨before, b, after, found, rfl, hquery, -, -, -, hbefore⟩ := hsettles
    refine ⟨l, rfl, b, by simp, hquery, ?_⟩
    -- All candidates before the one taken miss the element, so this one is it or stands behind it.
    rcases List.mem_append.1 hc with hc | hc
    · exact absurd (hbefore c hc) hfinds
    · rcases List.mem_cons.1 hc with rfl | hc
      · exact le_rfl
      · exact (List.pairwise_cons.1 (List.pairwise_append.1 hsorted).2.1).1 c hc

/-- A candidate does not miss an element that is among what its query finds. -/
theorem not_misses_of_found {c : Candidate} {found : List NodeId}
    (h : s.found doc container c.query = .ok found) (hmem : element ∈ found) :
    ¬ s.Misses doc container element c := by
  rintro ⟨other, hother, hmiss⟩
  obtain rfl := (finds_of_found h).eq rfl hother
  exact hmiss hmem

end Synthesizer

/-! ## Locators by rank -/

namespace Locator

variable {s : Synthesizer} {doc : Document} {container element : NodeId} {l : Locator}

/-- A locator is made from a candidate of the element that has at least this rank. -/
def MadeFrom (l : Locator) (doc : Document) (s : Synthesizer) (container element : NodeId)
    (rank : Rank) : Prop :=
  ∃ b, doc.Suggests s container element b ∧ l.query = b.query ∧ b.rank.order ≤ rank.order

/-- A locator is by the role of an element and its name, by one of its labels, by its placeholder or
by its role alone. -/
inductive ByRoleOrLabel (l : Locator) (doc : Document) (id : NodeId) (role : String) : Prop where
  /-- By role and name. -/
  | roleWithName (hname : doc.accessibleName id ≠ [])
      (h : l.query = .role role (some (String.ofList (doc.accessibleName id))))
  /-- By a label. -/
  | label {t : List Char} (ht : t ∈ doc.labelTexts id)
      (h : l.query = .text .label (String.ofList t) .whole)
  /-- By the placeholder. -/
  | placeholder {p : String} (hp : doc.attribute? id "placeholder" = some p)
      (h : l.query = .text .placeholder p .whole)
  /-- By role alone. -/
  | roleWithoutName (hname : doc.accessibleName id = []) (h : l.query = .role role none)

/-- A locator of the best rank is by role and name. -/
theorem MadeFrom.query_eq (h : l.MadeFrom doc s container element .roleWithName) {role : String}
    (hrole : doc.role? element = some role) :
    l.query = .role role (some (String.ofList (doc.accessibleName element))) := by
  obtain ⟨b, hb, hquery, horder⟩ := h
  rw [hquery]
  cases hb with
  | roleWithName hrole' => rw [Option.some.inj (hrole'.symm.trans hrole)]
  | _ => simp [Rank.order] at horder

/-- A locator that is at least by role alone is by role or label. -/
theorem MadeFrom.byRoleOrLabel (h : l.MadeFrom doc s container element .roleWithoutName)
    {role : String} (hrole : doc.role? element = some role) : l.ByRoleOrLabel doc element role := by
  obtain ⟨b, hb, hquery, horder⟩ := h
  cases hb with
  | roleWithName hrole' hname =>
    rw [Option.some.inj (hrole'.symm.trans hrole)] at hquery
    exact .roleWithName hname hquery
  | label ht => exact .label ht hquery
  | placeholder hp => exact .placeholder hp hquery
  | roleWithoutName hrole' hname =>
    rw [Option.some.inj (hrole'.symm.trans hrole)] at hquery
    exact .roleWithoutName hname hquery
  | _ => simp [Rank.order] at horder

/-- A locator that is at least by test id is not by a selector. -/
theorem MadeFrom.query_ne_css (h : l.MadeFrom doc s container element .testId)
    (selector : String) : l.query ≠ .css selector := by
  obtain ⟨b, hb, hquery, horder⟩ := h
  rw [hquery]
  cases hb with
  | css => simp [Rank.order] at horder
  | _ => simp

end Locator

/-! ## Targets -/

namespace Document

variable {doc : Document}

/-- A node with an ancestor is in the document. -/
theorem lt_size_of_mem_ancestors {a n : NodeId} (h : a ∈ doc.ancestors n) : n.index < doc.size := by
  rw [ancestors] at h
  cases hparent : doc.parent? n with
  | none => simp [hparent] at h
  | some p => exact lt_size_of_parent? hparent

/-- A target is in the document if the element that it stands for is one. -/
theorem lt_size_of_effectiveTarget {target e : NodeId} (h : doc.effectiveTarget target = .ok e)
    (he : doc.isElement e = true) : target.index < doc.size := by
  -- The element is the target itself or one of its ancestors, and only nodes have ancestors.
  rw [effectiveTarget_eq] at h
  obtain rfl := Except.ok.inj h
  cases hfind : doc.closest? target fun n => controls.holds doc n with
  | none =>
    rw [hfind, Option.getD_none] at he
    exact lt_size_of_isElement he
  | some n =>
    rw [hfind, Option.getD_some] at he
    rcases List.mem_cons.1 (List.mem_of_find?_eq_some hfind) with rfl | hmem
    · exact lt_size_of_isElement he
    · exact lt_size_of_mem_ancestors hmem

end Document

/-! ## Completeness -/

namespace Config

variable (config : Config) {doc : Document} {container e : NodeId}

/-- What is looked through for a query that is no selector. -/
theorem found_eq_ok (hcontainer : container.index < doc.size) {query : Query}
    (hquery : ∀ selector, query ≠ .css selector) :
    config.synthesizer.found doc container query =
      .ok (((doc.descendants container).filter fun n =>
        doc.answers config.testIdAttribute n query).filter fun n => !doc.isExcluded n) :=
  congrArg (Except.map _) (Document.queryAll_eq_ok config.testIdAttribute hcontainer hquery)

/-- The queries of all candidates are answered if the CSS path is settled. -/
theorem exists_found_of_suggests (hcontainer : container.index < doc.size)
    (hpath : CssPath.Settled doc container (CssPath.find config.milliseconds doc container e))
    {c : Candidate} (h : doc.Suggests config.synthesizer container e c) :
    ∃ found, config.synthesizer.found doc container c.query = .ok found := by
  cases h with
  | css hfind =>
    -- The path that is asked for is the one that was selected with when it was looked for.
    rcases hpath with hnone | ⟨selector, found, hfind', hselect⟩
    · cases hnone.symm.trans hfind
    · cases hfind'.symm.trans hfind
      have hanswer := (Document.queryAll_css config.testIdAttribute _ hcontainer).trans hselect
      exact ⟨_, congrArg (Except.map _) hanswer⟩
  | _ => exact ⟨_, config.found_eq_ok hcontainer (by simp)⟩

/-- A target gets its locator without an error if the CSS path of the element that it stands for is
settled, and the locator is made from a candidate of at least the rank of any that finds the
element. -/
theorem exists_synthesize {target : NodeId} (hcontainer : container.index < doc.size)
    (htarget : target.index < doc.size) (heffective : doc.effectiveTarget target = .ok e)
    (hpath : CssPath.Settled doc container (CssPath.find config.milliseconds doc container e)) :
    ∃ all result, config.synthesizer.collected doc container e = .ok all ∧
      config.synthesizer.synthesize doc container target = .ok result ∧
      ∀ c ∈ all, ¬ config.synthesizer.Misses doc container e c →
        ∃ l, result = some l ∧ l.MadeFrom doc config.synthesizer container e c.rank := by
  obtain ⟨css, hcss⟩ := Document.exists_cssCandidate? hpath
  obtain ⟨all, hall⟩ : ∃ all, config.synthesizer.collected doc container e = .ok all :=
    ⟨_, congrArg (Except.map _) hcss⟩
  -- The candidates are looked through in another order than they are collected in.
  have hsorted := stablySorted_mergeSort all
  have hmem : ∀ {c : Candidate},
      c ∈ (all.mergeSort fun a b => a.rank.order ≤ b.rank.order) ↔ c ∈ all :=
    (List.mergeSort_perm all _).mem_iff
  have hsuggests : ∀ c ∈ (all.mergeSort fun a b => a.rank.order ≤ b.rank.order),
      doc.Suggests config.synthesizer container e c := fun c hc =>
    Synthesizer.suggests_of_mem_collected hall (hmem.1 hc)
  obtain ⟨result, hresult⟩ : ∃ result, config.synthesizer.firstLocator doc container e
      (all.mergeSort fun a b => a.rank.order ≤ b.rank.order) = .ok result :=
    Synthesizer.exists_firstLocator fun c hc =>
      exists_found_of_suggests config hcontainer hpath (hsuggests c hc)
  refine ⟨all, result, hall, ?_, fun c hc hfinds => ?_⟩
  · have hcandidates : config.synthesizer.candidates doc container e =
        .ok (all.mergeSort fun a b => a.rank.order ≤ b.rank.order) := by
      rw [Synthesizer.candidates, hall, Except.map]
    rw [Synthesizer.synthesize_eq hcontainer htarget heffective hcandidates, hresult]
  · obtain ⟨l, hl, b, hb, hquery, horder⟩ := Synthesizer.exists_candidate_of_finds
      hsorted.pairwise (Synthesizer.firstLocator_settles hresult) (hmem.2 hc) hfinds
    exact ⟨l, hl, b, hsuggests b hb, hquery, horder⟩

/-- A candidate that is no selector is not missed if the element is inside of the container, not
marked, and asked for. -/
theorem not_misses_of_answers (hcontainer : container.index < doc.size)
    (hinside : e ∈ doc.descendants container) (hmarked : doc.isExcluded e = false) {c : Candidate}
    (hquery : ∀ selector, c.query ≠ .css selector)
    (hanswers : doc.answers config.testIdAttribute e c.query = true) :
    ¬ config.synthesizer.Misses doc container e c := by
  have hmem : e ∈ ((doc.descendants container).filter fun n =>
      doc.answers config.testIdAttribute n c.query).filter fun n => !doc.isExcluded n := by
    simp [hinside, hmarked, hanswers]
  exact Synthesizer.not_misses_of_found (config.found_eq_ok hcontainer hquery) hmem

end Config

/-- In the document of a snapshot with plain tags every target gets its locator without an error,
if the element that it stands for is inside of the container and not marked as none of the page's
own, whatever the time for a CSS path. An element that has a role and is not hidden is located by
role or label, and by its role and name if it has a name; an element with a test id is not located
by a selector, even if it is hidden. The nodes of a document are numbered by machine words, so there
are fewer of them than `Text.wordBound`. -/
theorem synthesize_complete {body : BodySnapshot}
    (hbody : Snapshot.AllOf Element.HasPlainTag body.children)
    (hsize : (Document.ofSnapshot body).size < Text.wordBound) (config : Config)
    {container target e : NodeId}
    (hcontainer : (Document.ofSnapshot body).isElement container = true)
    (heffective : (Document.ofSnapshot body).effectiveTarget target = .ok e)
    (he : (Document.ofSnapshot body).isElement e = true) (hne : e ≠ container)
    (hinside : (Document.ofSnapshot body).contains container e = true)
    (hmarked : (Document.ofSnapshot body).attribute? e "data-no-query" ≠ some "true") :
    ∃ result,
      config.synthesizer.synthesize (Document.ofSnapshot body) container target = .ok result ∧
      (∀ role, (Document.ofSnapshot body).role? e = some role →
        (Document.ofSnapshot body).isHidden e = false →
        ∃ l, result = some l ∧ l.ByRoleOrLabel (Document.ofSnapshot body) e role ∧
          ((Document.ofSnapshot body).accessibleName e ≠ [] → l.query =
            .role role (some (String.ofList ((Document.ofSnapshot body).accessibleName e))))) ∧
      (∀ id, (Document.ofSnapshot body).attribute? e config.testIdAttribute = some id →
        id ≠ "" → ∃ l, result = some l ∧ ∀ selector, l.query ≠ .css selector) := by
  have hplain := Document.plain_ofSnapshot hbody
  have htree := Document.IsTree.ofSnapshot body
  generalize Document.ofSnapshot body = doc at *
  have hcontainerlt := Document.lt_size_of_isElement hcontainer
  have htarget := Document.lt_size_of_effectiveTarget heffective he
  have hpath :=
    CssPath.settled_find hplain hsize htree config.milliseconds hcontainer he hne hinside
  have hmem : e ∈ doc.descendants container :=
    htree.mem_descendants_iff_contains.2 ⟨he, hne, hinside⟩
  have hexcluded : doc.isExcluded e = false := by
    simpa [Document.isExcluded, noQueryAttribute] using hmarked
  obtain ⟨all, result, hall, hresult, hmade⟩ :=
    Config.exists_synthesize config hcontainerlt htarget heffective hpath
  have hfinds := fun c =>
    Config.not_misses_of_answers config (c := c) hcontainerlt hmem hexcluded
  refine ⟨result, hresult, fun role hrole hhidden => ?_, fun id hid hnonempty => ?_⟩
  · by_cases hname : doc.accessibleName e = []
    · have hc := Synthesizer.mem_collected_of_role_of_name_eq_nil hall hrole hname
      obtain ⟨l, hl, hfrom⟩ := hmade _ hc
        (hfinds _ (by simp) (by simp [Document.answers, hrole, hhidden]))
      exact ⟨l, hl, hfrom.byRoleOrLabel hrole, fun h => absurd hname h⟩
    · -- No rank is better than that of a role with its name, so no other candidate is taken.
      have hc := Synthesizer.mem_collected_of_role_of_name_ne_nil hall hrole hname
      obtain ⟨l, hl, hfrom⟩ := hmade _ hc
        (hfinds _ (by simp) (by simp [Document.answers, hrole, hhidden]))
      have hquery := hfrom.query_eq hrole
      exact ⟨l, hl, .roleWithName hname hquery, fun _ => hquery⟩
  · -- A test id is looked up also where the element is hidden, and only a CSS path ranks below it.
    have hc := Synthesizer.mem_collected_of_testId hall hid hnonempty
    obtain ⟨l, hl, hfrom⟩ := hmade _ hc (hfinds _ (by simp) (by simp [Document.answers, hid]))
    exact ⟨l, hl, hfrom.query_ne_css⟩

/-- A page with a button that has its text in a part of its own, and a hidden one with a test id. -/
def twoCaptions : BodySnapshot :=
  ⟨{ tag := "body" },
    [.element { tag := "button" } [.element { tag := "span" } [.text "Go"]],
      .element { tag := "button", attributes := .ofPairs [("hidden", ""), ("data-testid", "x")] }
        []]⟩

/-- The part of the button stands for the button, which is located by role and name; the hidden one
is not located by a selector, even without any time for one. -/
theorem synthesize_complete_twoCaptions :
    (∃ l, ({} : Config).synthesizer.synthesize (Document.ofSnapshot twoCaptions) Document.body ⟨2⟩ =
        .ok (some l) ∧ l.query = .role "button" (some "Go")) ∧
      ∃ l, ({ milliseconds := 0 } : Config).synthesizer.synthesize (Document.ofSnapshot twoCaptions)
        Document.body ⟨4⟩ = .ok (some l) ∧ ∀ selector, l.query ≠ .css selector := by
  have htags : Snapshot.AllOf Element.HasPlainTag twoCaptions.children := by decide
  have hsize : (Document.ofSnapshot twoCaptions).size < Text.wordBound := by decide
  have hbody : (Document.ofSnapshot twoCaptions).isElement Document.body = true := by
    decide
  constructor
  · have heffective : (Document.ofSnapshot twoCaptions).effectiveTarget ⟨2⟩ = .ok ⟨1⟩ := by
      rw [Document.effectiveTarget_eq]
      exact congrArg Except.ok (by decide +kernel)
    obtain ⟨_, hresult, hrole, -⟩ := synthesize_complete htags hsize {} hbody heffective
      (by decide +kernel) (by decide) (by decide +kernel) (by decide +kernel)
    obtain ⟨l, rfl, -, hquery⟩ := hrole "button" (by decide +kernel) (by decide +kernel)
    have hname : (Document.ofSnapshot twoCaptions).accessibleName ⟨1⟩ = ['G', 'o'] := by
      decide +kernel
    exact ⟨l, hresult, by simpa [hname] using hquery⟩
  · have heffective : (Document.ofSnapshot twoCaptions).effectiveTarget ⟨4⟩ = .ok ⟨4⟩ := by
      rw [Document.effectiveTarget_eq]
      exact congrArg Except.ok (by decide)
    obtain ⟨_, hresult, -, htestId⟩ := synthesize_complete htags hsize { milliseconds := 0 } hbody
      heffective (by decide +kernel) (by decide) (by decide +kernel) (by decide +kernel)
    obtain ⟨l, rfl, hquery⟩ := htestId "x" (by decide) (by decide)
    exact ⟨l, hresult, hquery⟩

end Recorder
