import Mathlib.Tactic.Common
import Recorder.Proofs.Document.Order

/-!
# Edits of a document

A document grows by new nodes in its elements, and its elements are changed in one attribute or one
field at a time (`Edit`). A change is made at any number: where there is no element it is refused
and nothing happens, and else it stays within what it is about (`Document.Confines`). Whatever the
edits are, the body stays the first node and the only one without a parent, every other node stands
behind the element that it is in, and the children of a node are those that have it for a parent, in
the order of their numbers (`Edited.wellFormed`). Each edit keeps this (`WellFormed.after`), and so
do the edits one after the other.
-/

namespace Recorder

namespace Attributes

/-- The first pair decides for its own name only. -/
theorem lookup_cons_eq (n v m : String) (pairs : List (String × String)) :
    ((n, v) :: pairs).lookup m = if m = n then some v else pairs.lookup m := by
  by_cases hm : m = n
  · rw [hm, List.lookup_cons_self, if_pos rfl]
  · rw [List.lookup_cons, beq_false_of_ne hm, if_neg hm]

/-- A pair that is put in its place is found there, and the others are found as before. -/
theorem lookup_insertPair (name value m : String) (pairs : List (String × String)) :
    (insertPair name value pairs).lookup m =
      if m = name then some value else pairs.lookup m := by
  induction pairs with
  | nil => rw [insertPair, lookup_cons_eq]
  | cons p rest ih =>
    obtain ⟨n, v⟩ := p
    rw [insertPair]
    split
    · rw [lookup_cons_eq]
    · next hlt =>
      split
      · next hgt =>
        have hne : n ≠ name := fun heq => String.lt_irrefl n (heq ▸ hgt)
        rw [lookup_cons_eq, lookup_cons_eq, ih]
        grind
      · next hgt =>
        -- Neither name comes first.
        obtain rfl : name = n := String.le_antisymm (String.not_lt.1 hgt) (String.not_lt.1 hlt)
        rw [lookup_cons_eq, lookup_cons_eq]
        grind

/-- An attribute that is given a value has it, and the others stay what they are. -/
theorem get?_set (as : Attributes) (name value m : String) :
    (as.set name value).get? m = if m = name then some value else as.get? m :=
  lookup_insertPair name value m as.pairs

/-- An attribute that is taken away is gone, and the others stay what they are. -/
theorem get?_erase (as : Attributes) (name m : String) :
    (as.erase name).get? m = if m = name then none else as.get? m := by
  obtain ⟨pairs, hsorted⟩ := as
  simp only [get?, erase]
  clear hsorted
  induction pairs with
  | nil => simp
  | cons p rest ih =>
    obtain ⟨n, v⟩ := p
    rw [List.filter_cons, lookup_cons_eq]
    by_cases hn : n = name
    · simp only [hn, bne_self_eq_false, Bool.false_eq_true, if_false, ih]
      grind
    · simp only [bne_iff_ne.2 hn, if_true, lookup_cons_eq, ih]
      grind

end Attributes

/-- A change of one attribute or one other field of an element. -/
inductive Change where
  /-- An attribute gets a value. -/
  | setAttribute (name value : String)
  /-- An attribute is taken away. -/
  | removeAttribute (name : String)
  /-- The current value of a control. -/
  | setValue (value : String)
  /-- Whether a checkbox or radio button is checked. -/
  | setChecked (checked : Bool)
  /-- The names of the files chosen. -/
  | setFiles (files : List String)
  /-- Whether an option is selected. -/
  | setSelected (selected : Bool)

namespace Change

/-- What the change makes of an element. -/
def apply : Change → Element → Element
  | .setAttribute name value, e => { e with attributes := e.attributes.set name value }
  | .removeAttribute name, e => { e with attributes := e.attributes.erase name }
  | .setValue value, e => { e with value := some value }
  | .setChecked checked, e => { e with checked := some checked }
  | .setFiles files, e => { e with files := files }
  | .setSelected selected, e => { e with selected := some selected }

/-- The second element is the first one in all but the field that the change is about, and has there
what the change says. Of the attributes only the one of this name differs. -/
def Alters : Change → Element → Element → Prop
  | .setAttribute name value, e, e' =>
    (∀ m, e'.attributes.get? m = if m = name then some value else e.attributes.get? m) ∧
      e' = { e with attributes := e'.attributes }
  | .removeAttribute name, e, e' =>
    (∀ m, e'.attributes.get? m = if m = name then none else e.attributes.get? m) ∧
      e' = { e with attributes := e'.attributes }
  | .setValue value, e, e' => e' = { e with value := some value }
  | .setChecked checked, e, e' => e' = { e with checked := some checked }
  | .setFiles files, e, e' => e' = { e with files := files }
  | .setSelected selected, e, e' => e' = { e with selected := some selected }

/-- A change alters nothing but the field that it is about. -/
theorem alters_apply (c : Change) (e : Element) : c.Alters e (c.apply e) := by
  cases c with
  | setAttribute name value => exact ⟨e.attributes.get?_set name value, rfl⟩
  | removeAttribute name => exact ⟨e.attributes.get?_erase name, rfl⟩
  | setValue | setChecked | setFiles | setSelected => rfl

/-- No change is about the tag. -/
theorem tag_apply (c : Change) (e : Element) : (c.apply e).tag = e.tag := by
  cases c <;> rfl

end Change

/-- A call that edits a document. -/
inductive Edit where
  /-- A new element in a node, with a text inside if one is given. -/
  | element (parent : NodeId) (element : Element) (text : Option String)
  /-- A new text in a node. -/
  | text (parent : NodeId) (text : String)
  /-- A change at a node. -/
  | change (id : NodeId) (change : Change)

namespace Document

variable {doc : Document}

/-- Makes a change at a node. -/
def set (doc : Document) (id : NodeId) : Change → Except Error Document
  | .setAttribute name value => doc.setAttribute id name value
  | .removeAttribute name => doc.removeAttribute id name
  | .setValue value => doc.setValue id value
  | .setChecked checked => doc.setChecked id checked
  | .setFiles files => doc.setFiles id files
  | .setSelected selected => doc.setSelected id selected

/-- The document after an edit. It stays what it is if the edit is refused. -/
def after (doc : Document) : Edit → Document
  | .element parent e text => ((doc.appendElement? parent e text).map Prod.snd).getD doc
  | .text parent t => ((doc.appendText? parent t).map Prod.snd).getD doc
  | .change id c => (doc.set id c).toOption.getD doc

/-- New nodes are put into elements that are there; a change may be tried anywhere. -/
def Admits (doc : Document) : Edit → Prop
  | .element parent _ _ => doc.isElement parent = true
  | .text parent _ => doc.isElement parent = true
  | .change _ _ => True

/-- The documents that come from an empty body or from a snapshot by edits. -/
inductive Edited : Document → Prop where
  /-- The empty body. -/
  | empty : Edited .empty
  /-- The document of a snapshot. -/
  | ofSnapshot (body : BodySnapshot) : Edited (.ofSnapshot body)
  /-- One more edit. -/
  | after {doc : Document} (edit : Edit) (hdoc : Edited doc) (h : doc.Admits edit) :
    Edited (doc.after edit)

/-! ## Changes -/

/-- All changes are made in one way. -/
theorem set_eq_update (doc : Document) (id : NodeId) (c : Change) :
    doc.set id c = doc.update id c.apply := by
  cases c <;> rfl

/-- Where the tag of an element stays, all tags do. -/
theorem tag?_update {id : NodeId} {f : Element → Element} {changed : Document}
    (hf : ∀ e, (f e).tag = e.tag) (h : doc.update id f = .ok changed) (n : NodeId) :
    changed.tag? n = doc.tag? n := by
  have htag : (fun e : Element => e.tag) ∘ f = fun e => e.tag := funext hf
  rw [tag?, tag?, element?_update h]
  split
  · rw [Option.map_map, htag]
  · rfl

/-- A change at a node that is no element is refused, and nothing happens; at an element it is made,
and no other node, no link and no other field of the element is touched. -/
def Confines (doc : Document) (id : NodeId) (c : Change) : Prop :=
  (doc.isElement id = false ∧ doc.set id c = .error (.unknownNode id.index) ∧
      doc.after (.change id c) = doc) ∨
    ∃ e e', doc.element? id = some e ∧ c.Alters e e' ∧
      doc.set id c = .ok (doc.after (.change id c)) ∧
      (doc.after (.change id c)).size = doc.size ∧
      ∀ n, (doc.after (.change id c)).node? n =
        (doc.node? n).map fun m => if n = id then { m with data := .element e' } else m

/-- Every change stays within what it is about. -/
theorem confines (doc : Document) (id : NodeId) (c : Change) : doc.Confines id c := by
  cases he : doc.element? id with
  | none =>
    have hset : doc.set id c = .error (.unknownNode id.index) := by
      rw [set_eq_update, update, he]
    exact .inl ⟨by rw [isElement, he]; rfl, hset, by rw [after, hset]; rfl⟩
  | some e =>
    obtain ⟨changed, hchanged⟩ : ∃ changed, doc.update id c.apply = .ok changed := by
      rw [update, he]
      exact ⟨_, rfl⟩
    have hafter : doc.after (.change id c) = changed := by
      rw [after, set_eq_update, hchanged]
      rfl
    obtain ⟨e', he', hnode⟩ := node?_update hchanged
    obtain rfl : e = e' := Option.some.inj (he.symm.trans he')
    refine .inr ⟨e, c.apply e, he, c.alters_apply e, ?_, ?_, fun n => ?_⟩
    · rw [hafter, set_eq_update, hchanged]
    · rw [hafter, size_update hchanged]
    · have hid : id.index = n.index ↔ n = id := by
        obtain ⟨i⟩ := id
        obtain ⟨j⟩ := n
        simp [eq_comm]
      rw [hafter, hnode]
      simp only [hid]

/-- A change that is not refused is an update. -/
theorem update_of_set {id : NodeId} {c : Change} (h : doc.isElement id = true) :
    doc.update id c.apply = .ok (doc.after (.change id c)) := by
  rcases doc.confines id c with ⟨hnot, -⟩ | ⟨-, -, -, -, hset, -⟩
  · simp [hnot] at h
  · rw [← set_eq_update, hset]

/-- Every edit is a step of a document that is built, so that what holds of the documents that are
built step by step holds of those that are edited. -/
theorem Edited.built (h : Edited doc) : Built doc := by
  induction h with
  | empty => exact .empty
  | ofSnapshot body => exact .ofSnapshot body
  | @after doc edit _ hadmits ih =>
    cases edit with
    | element parent e text =>
      rw [Document.after]
      cases hgrown : doc.appendElement? parent e text with
      | none => exact ih
      | some grown => exact .appendElement ih hadmits hgrown
    | text parent t =>
      rw [Document.after]
      cases hgrown : doc.appendText? parent t with
      | none => exact ih
      | some grown => exact .appendText ih hadmits hgrown
    | change id c =>
      rcases doc.confines id c with ⟨-, -, hsame⟩ | ⟨-, -, -, -, hset, -⟩
      · rwa [hsame]
      · exact .update ih (doc.set_eq_update id c ▸ hset)

/-! ## What every edit keeps -/

/-- A tree whose first node is the body, the only node without a parent, and in which the children
of a node stand in the order of their numbers. -/
structure WellFormed (doc : Document) : Prop extends IsTree doc where
  /-- The first node is the body. -/
  tag_body : doc.tag? body = some "body"
  /-- No other node is without a parent. -/
  parent?_eq_none_iff : ∀ {id : NodeId}, id.index < doc.size →
    (doc.parent? id = none ↔ id = body)
  /-- Children stand in the order of their numbers. -/
  increasing : ∀ p, (doc.children p).Pairwise fun a b => a.index < b.index

namespace WellFormed

/-- A new node in an element is put behind all others. -/
theorem push (hdoc : doc.WellFormed) {parent : NodeId} (hparent : doc.isElement parent = true)
    (data : NodeData) : (doc.push parent data).WellFormed where
  toIsTree := hdoc.toIsTree.push hparent data
  tag_body := by
    have hsize : body.index ≠ doc.size :=
      Nat.ne_of_lt (Nat.lt_of_le_of_lt (Nat.zero_le _) (lt_size_of_isElement hparent))
    rw [tag?, element?_push, if_neg hsize]
    exact hdoc.tag_body
  parent?_eq_none_iff {id} hid := by
    rw [size_push] at hid
    rw [parent?_push]
    by_cases hnew : id.index = doc.size
    · have hne : id ≠ body := by
        rintro rfl
        exact absurd (lt_size_of_isElement hparent) (by rw [← hnew]; exact Nat.not_lt_zero _)
      simp [hnew, hne]
    · rw [if_neg hnew]
      exact hdoc.parent?_eq_none_iff (by omega)
  increasing p := by
    rw [children_push (Nat.le_of_lt (lt_size_of_isElement hparent))]
    refine List.pairwise_append.2 ⟨hdoc.increasing p, ?_, fun c hc d hd => ?_⟩
    · split <;> simp
    · -- The children that are there have numbers of the document, the new one has the next.
      have hlt : c.index < doc.size := lt_size_of_parent? ((hdoc.mem_children p c).1 hc)
      split at hd
      · rw [List.mem_singleton.1 hd]
        exact hlt
      · simp at hd

/-- A change of an element that is not about its tag moves nothing. -/
theorem update (hdoc : doc.WellFormed) {id : NodeId} {f : Element → Element} {changed : Document}
    (hf : ∀ e, (f e).tag = e.tag) (h : doc.update id f = .ok changed) : changed.WellFormed := by
  obtain ⟨hchildren, hparent⟩ := links_update h
  refine ⟨hdoc.toIsTree.update h, ?_, fun {n} hn => ?_, fun p => ?_⟩
  · rw [tag?_update hf h]
    exact hdoc.tag_body
  · rw [size_update h] at hn
    rw [hparent]
    exact hdoc.parent?_eq_none_iff hn
  · rw [hchildren]
    exact hdoc.increasing p

/-- The document of a snapshot is well-formed. -/
theorem ofSnapshot (body : BodySnapshot) : (Document.ofSnapshot body).WellFormed := by
  refine ofSnapshot_induction (p := fun _ => True) body (Snapshot.allOf_of_forall (by simp) _) ?_
    (fun doc parent t hdoc hparent => hdoc.push hparent _)
    (fun doc parent e hdoc hparent _ => hdoc.push hparent _)
  have htree := IsTree.ofSnapshot ⟨body.element, []⟩
  have hparent := parent?_ofSnapshot_nil body.element
  refine ⟨htree, ?_, fun {id} hid => ?_, fun p => ?_⟩
  · rw [Document.ofSnapshot, pushSnapshots]
    rfl
  · have hid : id.index < 1 := by rwa [Document.ofSnapshot, pushSnapshots] at hid
    have hbody : id = Document.body := congrArg NodeId.mk (Nat.lt_one_iff.1 hid)
    exact iff_of_true (hparent id) hbody
  · have hchildren : (Document.ofSnapshot ⟨body.element, []⟩).children p = [] :=
      List.eq_nil_iff_forall_not_mem.2 fun c hc => by
        have := (htree.mem_children p c).1 hc
        simp [hparent] at this
    rw [hchildren]
    exact .nil

/-- Every edit keeps a document well-formed. -/
theorem after (hdoc : doc.WellFormed) {edit : Edit} (h : doc.Admits edit) :
    (doc.after edit).WellFormed := by
  cases edit with
  | element parent e text =>
    have hsize : parent.index ≤ doc.size := Nat.le_of_lt (lt_size_of_isElement h)
    have hpush := hdoc.push h (.element e.lowered)
    rw [Document.after, appendElement?, append?, if_pos hsize]
    cases text with
    | none => exact hpush
    | some t =>
      -- The text goes into the element that has just been put in.
      exact hpush.push (isElement_push_size doc parent e.lowered) (.text t)
  | text parent t =>
    have hsize : parent.index ≤ doc.size := Nat.le_of_lt (lt_size_of_isElement h)
    rw [Document.after, appendText?, append?, if_pos hsize]
    exact hdoc.push h (.text t)
  | change id c =>
    cases helement : doc.isElement id with
    | true => exact hdoc.update c.tag_apply (update_of_set helement)
    | false =>
      rcases doc.confines id c with ⟨-, -, hsame⟩ | ⟨e, -, he, -⟩
      · rwa [hsame]
      · simp [isElement, he] at helement

/-- The body is an element. -/
theorem isElement_body (hdoc : doc.WellFormed) : doc.isElement body = true := by
  obtain ⟨e, he, -⟩ := Option.map_eq_some_iff.1 hdoc.tag_body
  rw [isElement, he]
  rfl

/-- The body contains every node. -/
theorem contains_body (hdoc : doc.WellFormed) {n : NodeId} (hn : n.index < doc.size) :
    doc.contains body n = true := by
  rw [contains_iff]
  by_cases hbody : n = body
  · rw [hbody]
    exact List.mem_cons_self
  · -- The way up goes on at the parent, which has a smaller number.
    obtain ⟨p, hp⟩ := Option.ne_none_iff_exists'.1 (mt (hdoc.parent?_eq_none_iff hn).1 hbody)
    have hlt : p.index < n.index := hdoc.parent_lt hp
    have habove : body ∈ p :: doc.ancestors p :=
      contains_iff.1 (hdoc.contains_body (Nat.lt_trans hlt hn))
    rw [hdoc.ancestors_eq hp]
    exact List.mem_cons_of_mem n habove
termination_by n.index

/-- The body and the elements inside of it are all elements of the document. -/
theorem mem_elements_iff (hdoc : doc.WellFormed) {n : NodeId} :
    n ∈ doc.elements ↔ doc.isElement n = true := by
  constructor
  · intro h
    rcases List.mem_cons.1 h with rfl | h
    · exact hdoc.isElement_body
    · exact isElement_of_mem_descendants h
  · intro helement
    have hbody := hdoc.contains_body (lt_size_of_isElement helement)
    exact hdoc.mem_cons_descendants helement hbody

end WellFormed

/-- A document that is edited is well-formed. -/
theorem Edited.wellFormed (h : Edited doc) : doc.WellFormed := by
  induction h with
  | empty => exact WellFormed.ofSnapshot .empty
  | ofSnapshot body => exact WellFormed.ofSnapshot body
  | after edit _ h ih => exact ih.after h

/-- Whatever the edits of a document are, its first node is the body, which has no parent. Every
other node has an element with a smaller number for its parent. The children of a node are the nodes
that have it for a parent, in the order of their numbers. And no change at any number goes beyond
what it is about. -/
theorem Edited.numbered_tree (h : Edited doc) :
    doc.tag? body = some "body" ∧ doc.parent? body = none ∧
      (∀ id, id.index < doc.size → id ≠ body →
        ∃ p, doc.parent? id = some p ∧ doc.isElement p = true ∧ p.index < id.index) ∧
      (∀ p, (doc.children p).Pairwise (fun a b => a.index < b.index) ∧
        ∀ c, c ∈ doc.children p ↔ doc.parent? c = some p) ∧
      ∀ id c, doc.Confines id c := by
  have hdoc := h.wellFormed
  have hbody : body.index < doc.size := lt_size_of_isElement hdoc.isElement_body
  refine ⟨hdoc.tag_body, (hdoc.parent?_eq_none_iff hbody).2 rfl, fun id hid hne => ?_,
    fun p => ⟨hdoc.increasing p, hdoc.mem_children p⟩, doc.confines⟩
  obtain ⟨p, hp⟩ := Option.ne_none_iff_exists'.1 (mt (hdoc.parent?_eq_none_iff hid).1 hne)
  exact ⟨p, hp, hdoc.isElement_parent hp, hdoc.parent_lt hp⟩

/-- A page with a field in a form, whose value is set and a text that is taken for a field. -/
def editedForm : Document :=
  let form := (Document.ofSnapshot ⟨{ tag := "BODY" }, [.element { tag := "form" } []]⟩).after
    (.element ⟨1⟩ { tag := "INPUT" } (some "text"))
  (form.after (.change ⟨2⟩ (.setValue "Ada"))).after (.change ⟨3⟩ (.setAttribute "id" "name"))

/-- The field has its value, the text is left alone, and the document is well-formed. -/
theorem Edited.numbered_tree_editedForm :
    Edited editedForm ∧ (editedForm.element? ⟨2⟩).bind (·.value) = some "Ada" ∧
      editedForm.tag? body = some "body" ∧ editedForm.parent? body = none ∧
      (∀ id, id.index < editedForm.size → id ≠ body →
        ∃ p, editedForm.parent? id = some p ∧ editedForm.isElement p = true ∧ p.index < id.index) ∧
      (∀ p, (editedForm.children p).Pairwise (fun a b => a.index < b.index) ∧
        ∀ c, c ∈ editedForm.children p ↔ editedForm.parent? c = some p) ∧
      ∀ id c, editedForm.Confines id c := by
  have hfield : Edited ((Document.ofSnapshot
      ⟨{ tag := "BODY" }, [.element { tag := "form" } []]⟩).after
        (.element ⟨1⟩ { tag := "INPUT" } (some "text"))) :=
    .after (.element ⟨1⟩ _ _) (.ofSnapshot _)
      (by decide +kernel : (Document.ofSnapshot _).isElement ⟨1⟩ = true)
  have hvalue := Edited.after (.change ⟨2⟩ (.setValue "Ada")) hfield trivial
  have hform : Edited editedForm := .after (.change ⟨3⟩ (.setAttribute "id" "name")) hvalue trivial
  exact ⟨hform, by decide +kernel, Edited.numbered_tree hform⟩

end Document

end Recorder
