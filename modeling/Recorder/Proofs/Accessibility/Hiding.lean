import Recorder.Proofs.Document.Edits
import Recorder.Proofs.Locator.Synthesis

/-!
# Hiding an element

The role and the name of an element are read from the tree, from tags and texts, and from a few
attributes all over the document (`nameAttributes`). Documents that agree on these give every
element the same role and the same name (`NamedAlike.role?`, `NamedAlike.accessibleName`): each
function on the way agrees because those that it calls do. The attribute `hidden` is none of these.
It is only looked for from an element up to the body, so that giving it to an element hides what
this element contains and nothing else (`isHidden_hide`), and queries for roles lose this and
nothing else.
-/

namespace Recorder.Document

variable {doc changed : Document} {id : NodeId}

/-! ## What roles and names are read from -/

/-- The attributes that roles and names are read from. -/
def nameAttributes : List String :=
  ["alt", "aria-label", "aria-labelledby", "for", "href", "id", "multiple", "role", "size", "title",
   "type", "value"]

/-- Two documents have the same tree with the same tags and texts, and the same values of all
attributes that roles and names are read from. -/
structure NamedAlike (doc changed : Document) : Prop where
  /-- They have the same number of nodes. -/
  size : changed.size = doc.size
  /-- The nodes have the same children. -/
  children : changed.children = doc.children
  /-- The nodes have the same parents. -/
  parent? : changed.parent? = doc.parent?
  /-- The elements have the same tags. -/
  tag? : changed.tag? = doc.tag?
  /-- The texts are the same. -/
  ownText? : changed.ownText? = doc.ownText?
  /-- These attributes have the same values. -/
  attribute? : ∀ id, ∀ name ∈ nameAttributes, changed.attribute? id name = doc.attribute? id name

/-- What has a tag is an element, and all elements have one. -/
theorem isElement_eq (doc : Document) (id : NodeId) : doc.isElement id = (doc.tag? id).isSome := by
  rw [isElement, tag?, Option.isSome_map]

/-- The texts in a node are its own, or those in its children. -/
theorem textContent_eq (doc : Document) (id : NodeId) :
    doc.textContent id = match doc.ownText? id with
      | some t => t.toList
      | none => (doc.children id).flatMap fun c =>
        if id.index < c.index ∧ c.index < doc.size then doc.textContent c else [] := by
  rw [textContent, ownText?, Document.children]
  cases doc.node? id with
  | none => rfl
  | some n =>
    obtain ⟨parent, children, data⟩ := n
    cases data <;> simp

namespace NamedAlike

/-- The same nodes are elements. -/
theorem isElement (h : NamedAlike doc changed) : changed.isElement = doc.isElement := by
  funext id
  rw [isElement_eq, h.tag?, isElement_eq]

/-- The nodes have the same ancestors. -/
theorem ancestors (h : NamedAlike doc changed) (id : NodeId) :
    changed.ancestors id = doc.ancestors id := by
  rw [Document.ancestors, Document.ancestors, h.parent?]
  split
  · split
    · rw [h.ancestors]
    · rfl
  · rfl
termination_by id.index

/-- The nodes contain the same nodes. -/
theorem contains (h : NamedAlike doc changed) : changed.contains = doc.contains := by
  funext ancestor id
  rw [Document.contains, h.ancestors, Document.contains]

/-- The same elements are inside of a node, in one order. -/
theorem descendants (h : NamedAlike doc changed) (id : NodeId) :
    changed.descendants id = doc.descendants id := by
  have hinner : changed.innerChildren id = doc.innerChildren id := by
    rw [innerChildren, h.children, h.isElement, innerChildren]
  rw [descendants_eq_flatMap, descendants_eq_flatMap, hinner]
  refine List.flatMap_congr fun c hc => ?_
  obtain ⟨-, hlt, helement⟩ := mem_innerChildren.1 hc
  have := lt_size_of_isElement helement
  rw [h.descendants c]
termination_by doc.size - id.index
decreasing_by omega

/-- The nodes hold the same texts. -/
theorem textContent (h : NamedAlike doc changed) (id : NodeId) :
    changed.textContent id = doc.textContent id := by
  rw [textContent_eq, textContent_eq, h.ownText?, h.children, h.size]
  split
  · rfl
  · refine List.flatMap_congr fun c hc => ?_
    split
    · rw [h.textContent c]
    · rfl
termination_by doc.size - id.index
decreasing_by omega

/-- The same element is found by an id. -/
theorem elementById? (h : NamedAlike doc changed) : changed.elementById? = doc.elementById? := by
  funext value
  simp only [Document.elementById?, elements, h.descendants, h.attribute? _ "id" (by decide)]

/-! ## Roles -/

/-- Inputs have the same types. -/
theorem inputType? (h : NamedAlike doc changed) : changed.inputType? = doc.inputType? := by
  funext id
  rw [Document.inputType?, h.tag?, h.attribute? id "type" (by decide), Document.inputType?]

/-- Elements have the same roles. -/
theorem role? (h : NamedAlike doc changed) : changed.role? = doc.role? := by
  funext id
  have hexplicit : changed.explicitRole? id = doc.explicitRole? id := by
    rw [explicitRole?, h.attribute? id "role" (by decide), explicitRole?]
  have hsize : changed.selectSize id = doc.selectSize id := by
    rw [selectSize, h.attribute? id "size" (by decide), selectSize]
  have himplicit : changed.implicitRole? id = doc.implicitRole? id := by
    rw [implicitRole?, h.tag?, h.inputType?, hasAttribute, hasAttribute, hsize,
      h.attribute? id "href" (by decide), h.attribute? id "multiple" (by decide),
      h.attribute? id "alt" (by decide), implicitRole?, hasAttribute, hasAttribute]
  rw [Document.role?, hexplicit, himplicit, Document.role?]

/-! ## Labels and names -/

/-- Label elements can belong to the same elements. -/
theorem isLabelable (h : NamedAlike doc changed) : changed.isLabelable = doc.isLabelable := by
  funext id
  rw [Document.isLabelable, h.tag?, h.inputType?, Document.isLabelable]

/-- The same label elements belong to an element. -/
theorem associatedLabels (h : NamedAlike doc changed) :
    changed.associatedLabels = doc.associatedLabels := by
  funext id
  have hfirst (label : NodeId) : changed.firstLabelable? label = doc.firstLabelable? label := by
    rw [firstLabelable?, h.descendants, h.isLabelable, firstLabelable?]
  have hlabels (label : NodeId) : changed.labels id label = doc.labels id label := by
    rw [labels, h.attribute? label "for" (by decide), h.attribute? id "id" (by decide), h.contains,
      hfirst, labels]
  simp only [Document.associatedLabels, h.isLabelable, h.descendants, h.tag?, hlabels]

/-- The elements that an element names as its labels have the same texts. -/
theorem labelledByTexts? (h : NamedAlike doc changed) :
    changed.labelledByTexts? = doc.labelledByTexts? := by
  funext id
  have htexts : changed.textContent = doc.textContent := funext h.textContent
  rw [Document.labelledByTexts?, h.attribute? id "aria-labelledby" (by decide), h.elementById?,
    htexts, Document.labelledByTexts?]

/-- Attributes have the same texts. -/
theorem attributeText? (h : NamedAlike doc changed) (id : NodeId) (name : String)
    (hname : name ∈ nameAttributes) :
    changed.attributeText? id name = doc.attributeText? id name := by
  rw [Document.attributeText?, h.attribute? id name hname, Document.attributeText?]

/-- Elements have the same names. -/
theorem accessibleName (h : NamedAlike doc changed) :
    changed.accessibleName = doc.accessibleName := by
  funext id
  have htexts : changed.textContent = doc.textContent := funext h.textContent
  have hlabelledBy : changed.labelledByName? id = doc.labelledByName? id := by
    rw [labelledByName?, h.labelledByTexts?, labelledByName?]
  have hlabel : changed.ariaLabel? id = doc.ariaLabel? id := by
    rw [ariaLabel?, h.attribute? id "aria-label" (by decide), ariaLabel?]
  have hbutton : changed.buttonName? id = doc.buttonName? id := by
    rw [buttonName?, h.inputType?, h.attributeText? id "value" (by decide),
      h.attributeText? id "alt" (by decide), buttonName?]
  have hlabels : changed.labelName? id = doc.labelName? id := by
    rw [labelName?, h.associatedLabels, htexts, labelName?]
  have himage : changed.imageName? id = doc.imageName? id := by
    rw [imageName?, h.tag?, h.attributeText? id "alt" (by decide), imageName?]
  have hcontent : changed.contentName? id = doc.contentName? id := by
    rw [contentName?, h.textContent, h.role?, contentName?]
  rw [Document.accessibleName, rawName, hlabelledBy, hlabel, hbutton, hlabels, himage, hcontent,
    h.attributeText? id "title" (by decide), Document.accessibleName, rawName]

end NamedAlike

/-! ## Setting an attribute -/

/-- An attribute that is set at an element has its value there, and no other attribute of any
element changes. -/
theorem attribute?_setAttribute {name value : String}
    (h : doc.setAttribute id name value = .ok changed) (n : NodeId) (m : String) :
    changed.attribute? n m = if n = id ∧ m = name then some value else doc.attribute? n m := by
  have hset := element?_update h n
  obtain ⟨e, he, -⟩ := node?_update h
  rw [attribute?, hset, attribute?]
  by_cases hn : n = id
  · simp [hn, he, Attributes.get?_set]
  · simp [hn]

/-- No text changes where an element is changed. -/
theorem ownText?_update {f : Element → Element} (h : doc.update id f = .ok changed) :
    changed.ownText? = doc.ownText? := by
  obtain ⟨e, he, hnode⟩ := node?_update h
  obtain ⟨m, hm, hdata⟩ := Option.bind_eq_some_iff.1 ((element?_eq doc id).symm.trans he)
  funext n
  rw [Document.ownText?, hnode, Document.ownText?]
  by_cases hn : id.index = n.index
  · -- The node was an element before, too.
    obtain rfl : id = n := congrArg NodeId.mk hn
    obtain ⟨parent, children, data⟩ := m
    cases data with
    | element => simp [hm]
    | text => cases hdata
  · simp [hn]

/-- Setting an attribute that no role or name is read from keeps them all. -/
theorem namedAlike_setAttribute {name value : String} (hname : name ∉ nameAttributes)
    (h : doc.setAttribute id name value = .ok changed) : NamedAlike doc changed where
  size := size_update h
  children := (links_update h).1
  parent? := (links_update h).2
  tag? := funext fun n => tag?_update (f := fun e =>
    { e with attributes := e.attributes.set name value }) (fun _ => rfl) h n
  ownText? := ownText?_update h
  attribute? n m hm := by
    have hne : m ≠ name := fun heq => hname (heq ▸ hm)
    rw [attribute?_setAttribute h, if_neg fun hboth => hne hboth.2]

/-! ## Hiding -/

/-- An element that gets the attribute `hidden` hides itself, and all others do if they did. -/
theorem hidesItself_hide {value : String} (h : doc.setAttribute id "hidden" value = .ok changed)
    (n : NodeId) : changed.hidesItself n = (n == id || doc.hidesItself n) := by
  rw [hidesItself, hasAttribute, attribute?_setAttribute h, attribute?_setAttribute h,
    attribute?_setAttribute h, hidesItself, hasAttribute]
  by_cases hn : n = id <;> simp [hn]

/-- What an element contains that gets the attribute `hidden` is hidden, and all else is if it
was. -/
theorem isHidden_hide {value : String} (h : doc.setAttribute id "hidden" value = .ok changed)
    (n : NodeId) : changed.isHidden n = (doc.contains id n || doc.isHidden n) := by
  have hancestors : changed.ancestors n = doc.ancestors n :=
    (namedAlike_setAttribute (by decide) h).ancestors n
  rw [isHidden, hancestors, isHidden, Bool.eq_iff_iff]
  simp only [List.any_eq_true, Bool.or_eq_true, contains_iff, hidesItself_hide h, beq_iff_eq]
  grind

/-- A query for a role answers with an element after another one got the attribute `hidden` if it
did before, and the other one does not contain it. -/
theorem answers_hide {value : String} (h : doc.setAttribute id "hidden" value = .ok changed)
    (testIdAttribute role : String) (name : Option String) (n : NodeId) :
    changed.answers testIdAttribute n (.role role name) =
      (!doc.contains id n && doc.answers testIdAttribute n (.role role name)) := by
  have halike := namedAlike_setAttribute (by decide) h
  rw [answers, halike.role?, isHidden_hide h, halike.accessibleName, answers]
  cases doc.contains id n <;> simp

/-- No query is answered for a container that is no node. -/
theorem queryAll_eq_error (testIdAttribute : String) {container : NodeId} {query : Query}
    (h : ¬ container.index < doc.size) :
    doc.queryAll testIdAttribute container query = .error (.unknownNode container.index) := by
  unfold queryAll
  rw [check, if_neg h]
  rfl

/-- Hiding an element takes what it contains out of what queries for roles find, with or without a
name and in any container, and leaves the rest as it was, in the same order. -/
theorem queryAll_hide (h : doc.isElement id = true) :
    ∃ changed, doc.setAttribute id "hidden" "" = .ok changed ∧
      ∀ testIdAttribute container role name,
        changed.queryAll testIdAttribute container (.role role name) =
          (doc.queryAll testIdAttribute container (.role role name)).map
            (List.filter fun n => !doc.contains id n) := by
  obtain ⟨e, he⟩ := Option.isSome_iff_exists.1 h
  obtain ⟨changed, hset⟩ : ∃ changed, doc.setAttribute id "hidden" "" = .ok changed := by
    rw [setAttribute, update, he]
    exact ⟨_, rfl⟩
  refine ⟨changed, hset, fun testIdAttribute container role name => ?_⟩
  have halike := namedAlike_setAttribute (by decide) hset
  by_cases hcontainer : container.index < doc.size
  · have hchanged : container.index < changed.size := by rwa [halike.size]
    rw [queryAll_eq_ok testIdAttribute hchanged (by simp), halike.descendants,
      queryAll_eq_ok testIdAttribute hcontainer (by simp), Except.map, List.filter_filter]
    simp only [answers_hide hset]
  · -- The container is refused before and after.
    have hchanged : ¬ container.index < changed.size := by rwa [halike.size]
    rw [queryAll_eq_error testIdAttribute hchanged, queryAll_eq_error testIdAttribute hcontainer,
      Except.map]

/-- A page with a button in a box and one behind it. -/
def boxedButton : Document :=
  .ofSnapshot ⟨{ tag := "body" },
    [.element { tag := "div" } [.element { tag := "button" } [.text "Go"]],
     .element { tag := "button" } [.text "Go"]]⟩

/-- Both buttons are found by their name, and only the one behind the box once the box is
hidden. -/
theorem queryAll_hide_boxedButton :
    boxedButton.isElement ⟨1⟩ = true ∧
      boxedButton.queryAll "data-testid" body (.role "button" (some "Go")) = .ok [⟨2⟩, ⟨4⟩] ∧
      ∃ changed, boxedButton.setAttribute ⟨1⟩ "hidden" "" = .ok changed ∧
        changed.queryAll "data-testid" body (.role "button" (some "Go")) = .ok [⟨4⟩] := by
  have helement : boxedButton.isElement ⟨1⟩ = true := by decide +kernel
  have hbefore : boxedButton.queryAll "data-testid" body (.role "button" (some "Go")) =
      .ok [⟨2⟩, ⟨4⟩] :=
    eq_ok_of_toOption_eq_some (by decide +kernel)
  have hkept : [⟨2⟩, ⟨4⟩].filter (fun n => !boxedButton.contains ⟨1⟩ n) = [⟨4⟩] := by
    decide +kernel
  obtain ⟨changed, hset, hafter⟩ := queryAll_hide helement
  refine ⟨helement, hbefore, changed, hset, ?_⟩
  rw [hafter, hbefore, Except.map, hkept]

end Recorder.Document
