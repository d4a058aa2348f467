import Mathlib.Data.List.Nodup
import Mathlib.Data.Finset.Card
import Mathlib.Tactic.Common
import Recorder.CssPath
import Recorder.Proofs.Document.Descendants
import Recorder.Proofs.Selector.Composition
import Recorder.Proofs.Text.Words

/-!
# The parts of CSS paths

Each part of a path is what is written of a compound that matches the element the part is made for
(`describes_of_mem_parts`), and a path of one part or more is what is written of a chain of them. So
each path is read back (`parse_join`), and selecting with it does not fail
(`exists_selectAll_join`). This takes elements with plain tags, and positions that a word holds:
`Plain` says so of a document, and the document of a snapshot with tags of ASCII letters, digits,
hyphens and underscores is such a one.
-/

namespace Recorder

open Selector (IsTag IsTagChar Compound)

/-! ## Plain documents -/

/-- A tag as it may be written in a page: an ASCII letter, and ASCII letters, digits, hyphens and
underscores behind it. -/
def Element.HasPlainTag (e : Element) : Prop :=
  ∃ first rest, e.tag.toList = first :: rest ∧ first.isAlpha = true ∧
    ∀ c ∈ rest, c.isAlphanum = true ∨ c = '-' ∨ c = '_'

instance (e : Element) : Decidable e.HasPlainTag :=
  match htag : e.tag.toList with
  | [] => isFalse fun ⟨_, _, h, _⟩ => List.cons_ne_nil _ _ (h.symm.trans htag)
  | first :: rest =>
    decidable_of_iff
      (first.isAlpha = true ∧ rest.all (fun c => c.isAlphanum || c = '-' || c = '_') = true)
      ⟨fun ⟨hfirst, hrest⟩ => ⟨first, rest, htag, hfirst, by simpa [or_assoc] using hrest⟩,
        fun ⟨_, _, h, hfirst, hrest⟩ => by
          obtain ⟨rfl, rfl⟩ := List.cons.inj (h.symm.trans htag)
          exact ⟨hfirst, by simpa [or_assoc] using hrest⟩⟩

/-- Lower case makes a plain tag one that is read back. -/
theorem Element.HasPlainTag.isTag {e : Element} (h : e.HasPlainTag) : IsTag e.lowered.tag := by
  obtain ⟨first, rest, htag, hfirst, hrest⟩ := h
  have hascii {c : Char} (hc : c.isAlphanum = true ∨ c = '-' ∨ c = '_') : c.toNat < 0x80 := by
    rcases hc with hc | rfl | rfl
    · exact Selector.toNat_lt_of_isAlphanum hc
    · decide
    · decide
  have hletter : first.toLower.isLower = true :=
    Selector.of_ascii (p := fun c => c.isAlpha = true → c.toLower.isLower = true)
      (by decide) (hascii (.inl (by simp [Char.isAlphanum, hfirst]))) hfirst
  have hmore (c : Char) (hc : c ∈ rest) : IsTagChar c.toLower :=
    Selector.of_ascii (p := fun c => c.isAlphanum = true ∨ c = '-' ∨ c = '_' →
      c.toLower.isLower = true ∨ c.toLower.isDigit = true ∨ c.toLower = '-' ∨ c.toLower = '_')
      (by decide) (hascii (hrest c hc)) (hrest c hc)
  refine ⟨first.toLower, rest.map Char.toLower, ?_, hletter, ?_⟩
  · simp [lowered, Text.asciiLower, htag]
  · simpa using hmore

namespace Document

variable {doc : Document}

/-- A document whose nodes lie in elements, and whose elements have plain tags. -/
structure Plain (doc : Document) : Prop where
  /-- The links agree. -/
  linked : doc.Linked
  /-- Every parent is an element. -/
  isElement_parent : ∀ {c p}, doc.parent? c = some p → doc.isElement p = true
  /-- Every tag is plain. -/
  isTag : ∀ {id e}, doc.element? id = some e → IsTag e.tag

/-- A new node in an element keeps a document plain. -/
theorem Plain.push (hdoc : doc.Plain) {parent : NodeId} (hparent : doc.isElement parent = true)
    {data : NodeData} (hdata : ∀ e, data.element? = some e → IsTag e.tag) :
    (doc.push parent data).Plain where
  linked := hdoc.linked.push (Nat.le_of_lt (lt_size_of_isElement hparent)) data
  isElement_parent := isElement_parent_push hdoc.isElement_parent hparent data
  isTag {id e} h := by
    rw [element?_push] at h
    split at h
    · exact hdata e h
    · exact hdoc.isTag h

/-- The document of a snapshot with plain tags is plain. -/
theorem plain_ofSnapshot {body : BodySnapshot}
    (hbody : Snapshot.AllOf Element.HasPlainTag body.children) : (ofSnapshot body).Plain := by
  refine ofSnapshot_induction body hbody ?_
    (fun doc parent t hdoc hparent => hdoc.push hparent fun e he => by cases he)
    (fun doc parent e hdoc hparent he => hdoc.push hparent fun e' he' => by
      cases he'
      exact he.isTag)
  refine ⟨linked_ofSnapshot _, by simp [parent?_ofSnapshot_nil], fun {id e} h => ?_⟩
  rw [element?_eq] at h
  obtain ⟨n, hn, helement⟩ := Option.bind_eq_some_iff.1 h
  rw [eq_of_node?_ofSnapshot_nil hn] at helement
  obtain rfl := Option.some.inj helement
  have hletters : ∀ c ∈ ['o', 'd', 'y'], c.isLower = true := List.all_eq_true.1 (by decide)
  exact ⟨'b', ['o', 'd', 'y'], by simp, by decide, fun c hc => .inl (hletters c hc)⟩

/-- In a plain document the ancestors of a node are elements. -/
theorem Plain.isElement_of_mem_ancestors (hdoc : doc.Plain) {a n : NodeId}
    (h : a ∈ doc.ancestors n) : doc.isElement a = true :=
  Document.isElement_of_mem_ancestors hdoc.isElement_parent h

/-- No position is larger than the number of nodes. -/
theorem Linked.elementIndex_le_size (hdoc : doc.Linked) {id : NodeId}
    (hid : doc.isElement id = true) : doc.elementIndex id ≤ doc.size := by
  have hpos : 1 ≤ doc.size := Nat.one_le_iff_ne_zero.2 fun h =>
    absurd (lt_size_of_isElement hid) (by omega)
  rw [elementIndex]
  split
  · next p hp =>
    -- The siblings are different nodes of the document, so there are no more of them than nodes.
    have hlength : (doc.elementChildren p).length ≤ doc.size := by
      have hnodup : ((doc.elementChildren p).map NodeId.index).Nodup :=
        ((hdoc.nodup_children p).filter _).map fun a b hab => by
          cases a; cases b; exact congrArg NodeId.mk hab
      have hsubset : (doc.elementChildren p).map NodeId.index ⊆ List.range doc.size := by
        intro i hi
        obtain ⟨c, hc, rfl⟩ := List.mem_map.1 hi
        exact List.mem_range.2 (lt_size_of_isElement (List.mem_filter.1 hc).2)
      simpa using (hnodup.subperm hsubset).length_le
    cases hidx : (doc.elementChildren p).idxOf? id with
    | none => exact hpos
    | some i =>
      obtain ⟨hi, -⟩ := List.idxOf?_eq_some_iff.1 hidx
      show i + 1 ≤ doc.size
      omega
  · exact hpos

end Document

/-- No class of an element is empty. -/
theorem Element.ne_empty_of_mem_classes {e : Element} {s : String} (h : s ∈ e.classes) :
    s ≠ "" := by
  obtain ⟨w, hw, rfl⟩ := List.mem_map.1 h
  cases hclass : e.attributes.get? "class" with
  | none => simp [hclass] at hw
  | some v =>
    have hword : w ∈ Text.words v.toList := by simpa [hclass] using hw
    have hne : w ≠ [] := ((Text.hasWords_words v.toList).isWord_of_mem hword).ne_nil
    simpa [← String.toList_inj] using hne

namespace CssPath

variable {doc : Document}

/-! ## Parts -/

/-- A part of a path is what is written of a compound. -/
def IsCompoundText (part : String) : Prop :=
  ∃ c : Compound, c.Printable ∧ part.toList = c.text

/-- A part of a path describes a node: it is what is written of a compound that matches it. -/
def Describes (doc : Document) (id : NodeId) (part : String) : Prop :=
  ∃ c : Compound, c.Printable ∧ part.toList = c.text ∧ c.holds doc id = true

/-- A single condition that an element meets describes it. -/
theorem describes_of_condition {id : NodeId} {part : String} {c : Compound} {p : Selector.Part}
    (htag : c.tag = none) (hconditions : c.conditions = [p]) (hp : p.Printable)
    (hpart : part.toList = p.text) (hholds : c.holds doc id = true) : Describes doc id part := by
  refine ⟨c, ⟨by simp [htag], by simpa [hconditions] using hp⟩, ?_, hholds⟩
  rw [Compound.text_eq, htag, hconditions, hpart]
  simp

/-- A plain name is written as it stands. -/
theorem nameText_of_isPlainName {v : String} (h : isPlainName v = true) :
    Selector.nameText v.toList = v.toList := by
  rw [isPlainName] at h
  split at h
  · cases h
  · next c cs hchars =>
    simp only [Bool.and_eq_true, Bool.or_eq_true, decide_eq_true_eq, List.all_eq_true] at h
    have hdigit : c.isDigit = false := by
      rcases h.1 with hc | rfl
      · exact Selector.of_ascii (p := fun c => c.isAlpha = true → c.isDigit = false)
          (by decide)
          (Selector.toNat_lt_of_isAlphanum (by simp [Char.isAlphanum, hc])) hc
      · decide
    have hname : ∀ d ∈ c :: cs, Selector.isNameChar d = true := by
      refine List.forall_mem_cons.2 ⟨?_, fun d hd => ?_⟩
      · rcases h.1 with hc | hc <;> simp [Selector.isNameChar, Char.isAlphanum, hc]
      · rcases h.2 d hd with (hc | hc) | hc <;> simp [Selector.isNameChar, hc]
    rw [hchars]
    exact Selector.nameText_eq_self hdigit hname

/-- The part of an id describes the element. -/
theorem describes_idPart {id : NodeId} {e : Element} (he : doc.element? id = some e) {part : String}
    (h : idPart? e = some part) : Describes doc id part := by
  obtain ⟨v, hv, rfl⟩ := Option.map_eq_some_iff.1 h
  obtain ⟨hget, hne⟩ := Option.filter_eq_some_iff.1 hv
  have hne : v ≠ "" := by simpa using hne
  by_cases hplain : isPlainName v = true
  · rw [if_pos hplain]
    refine describes_of_condition (c := { Compound.any with id := some v }) rfl rfl
      (show Selector.Part.Printable (.id v) from hne)
      (by simp [Selector.Part.text, nameText_of_isPlainName hplain]) ?_
    exact Compound.holds_iff.2 ⟨e, he, by simp [Compound.any, hget]⟩
  · rw [if_neg hplain]
    have hprintable : Selector.AttributeTest.Printable ⟨"id", some v⟩ :=
      ⟨by simp, by simp⟩
    have htext : ("[id=" ++ Selector.quoteValue v ++ "]").toList =
        Selector.Part.text (.test ⟨"id", some v⟩) := by
      have hid : Selector.nameText ['i', 'd'] = ['i', 'd'] := by decide
      simp [Selector.Part.text, Selector.AttributeTest.text, Selector.quoteValue, hid]
    refine describes_of_condition
      (c := { Compound.any with attributes := [⟨"id", some v⟩] }) rfl rfl
      (show Selector.Part.Printable (.test ⟨"id", some v⟩) from hprintable) htext ?_
    exact Compound.holds_iff.2
      ⟨e, he, by simp [Compound.any, Selector.AttributeTest.holds, hget]⟩

/-- What the part with the tag and the position of an element asks for. -/
def positionCompound (doc : Document) (id : NodeId) (tag : String) : Compound :=
  { Compound.any with tag := some tag, nthChild := some (doc.elementIndex id) }

/-- The part with the position is what is written of a compound. -/
theorem toList_positionPart (doc : Document) (id : NodeId) (tag : String) :
    (positionPart doc id tag).toList = (positionCompound doc id tag).text := by
  simp [positionCompound, Compound.text_eq, Compound.conditions, Compound.any, positionPart,
    Selector.Part.text]

/-- The part with the position of an element is read back. -/
theorem printable_positionCompound (hdoc : doc.Plain) (hsize : doc.size < Text.wordBound)
    {id : NodeId} {e : Element} (he : doc.element? id = some e) :
    (positionCompound doc id e.tag).Printable := by
  have hindex : doc.elementIndex id < Text.wordBound :=
    Nat.lt_of_le_of_lt (hdoc.linked.elementIndex_le_size (by simp [Document.isElement, he])) hsize
  refine ⟨?_, ?_⟩
  · rintro t ⟨⟩
    exact hdoc.isTag he
  · simpa [positionCompound, Compound.conditions, Compound.any, Selector.Part.Printable]
      using hindex

/-- Another node matches what the part with the position of an element asks for if it is an element
of the same tag at the same position. -/
theorem holds_positionCompound {id n : NodeId} {tag : String} :
    (positionCompound doc id tag).holds doc n = true ↔
      doc.tag? n = some tag ∧ doc.elementIndex n = doc.elementIndex id := by
  rw [Compound.holds_iff, Document.tag?]
  cases doc.element? n with
  | none => simp
  | some e =>
    have hindex : doc.elementIndex id = doc.elementIndex n ↔
        doc.elementIndex n = doc.elementIndex id := eq_comm
    have htag : tag = e.tag ↔ e.tag = tag := eq_comm
    simp [positionCompound, Compound.any, hindex, htag]

/-- Each part describes the element it is made for. -/
theorem describes_of_mem_parts (hdoc : doc.Plain) (hsize : doc.size < Text.wordBound)
    {id : NodeId} {part : String} (h : part ∈ parts doc id) : Describes doc id part := by
  rw [parts] at h
  split at h
  · simp at h
  · next e he =>
    simp only [List.mem_append, Option.mem_toList, List.mem_map, List.mem_cons, List.not_mem_nil,
      or_false] at h
    rcases h with (h | ⟨w, hw, rfl⟩) | rfl | rfl
    · exact describes_idPart he h
    · refine describes_of_condition (c := { Compound.any with classes := [w] }) rfl rfl
        (show Selector.Part.Printable (.className w) from Element.ne_empty_of_mem_classes hw)
        (by simp [Selector.Part.text, Selector.escapeName]) ?_
      exact Compound.holds_iff.2 ⟨e, he, by simp [Compound.any, hw]⟩
    · -- The tag alone, and below the tag with the position among the siblings.
      refine ⟨{ Compound.any with tag := some e.tag }, ⟨?_, ?_⟩, ?_, ?_⟩
      · rintro t ⟨⟩
        exact hdoc.isTag he
      · simp [Compound.conditions, Compound.any]
      · simp [Compound.text_eq, Compound.conditions, Compound.any]
      · exact Compound.holds_iff.2 ⟨e, he, by simp [Compound.any]⟩
    · have htag : doc.tag? id = some e.tag := by rw [Document.tag?, he, Option.map_some]
      exact ⟨positionCompound doc id e.tag, printable_positionCompound hdoc hsize he,
        toList_positionPart doc id e.tag, holds_positionCompound.2 ⟨htag, rfl⟩⟩

/-- Each part is what is written of a compound. -/
theorem isCompoundText_of_mem_parts (hdoc : doc.Plain) (hsize : doc.size < Text.wordBound)
    {id : NodeId} {part : String} (h : part ∈ parts doc id) : IsCompoundText part := by
  obtain ⟨c, hc, htext, -⟩ := describes_of_mem_parts hdoc hsize h
  exact ⟨c, hc, htext⟩

/-! ## Paths -/

/-- The text of a path with one more part at its right end. -/
theorem join_concat {path : List String} (hpath : path ≠ []) (part : String) :
    (join (path ++ [part])).toList = (join path).toList ++ ' ' :: '>' :: ' ' :: part.toList := by
  rw [join, String.intercalate_append_of_ne_nil hpath (List.cons_ne_nil part []),
    String.intercalate_singleton, join]
  simp

/-- A path with one more part is what is written of a chain with one more compound. -/
theorem toList_join_concat {path : List String} (hpath : path ≠ []) {part : String}
    {left : Selector.Complex} {c : Compound} (hleft : (join path).toList = left.text)
    (hpart : part.toList = c.text) :
    (join (path ++ [part])).toList = (Selector.Complex.join left .child c).text := by
  rw [join_concat hpath, hleft, hpart, Selector.Complex.text, Selector.Combinator.text]
  simp

/-- A path is what is written of a chain. -/
theorem exists_complex {path : List String} (hpath : path ≠ [])
    (hparts : ∀ part ∈ path, IsCompoundText part) :
    ∃ s : Selector.Complex, s.Printable ∧ (join path).toList = s.text := by
  -- A chain is built from the left, so the last part is on the outside.
  induction path using List.reverseRecOn with
  | nil => exact absurd rfl hpath
  | append_singleton path part ih =>
    obtain ⟨c, hc, htext⟩ := hparts part (by simp)
    by_cases hfirst : path = []
    · subst hfirst
      exact ⟨.compound c, hc, by simpa [join, Selector.Complex.text] using htext⟩
    · obtain ⟨left, hleft, hjoin⟩ := ih hfirst fun p hp => hparts p (by simp [hp])
      exact ⟨.join left .child c, ⟨hleft, hc⟩, toList_join_concat hfirst hjoin htext⟩

/-- A path that is what is written of a chain denotes it. -/
theorem parse_join {path : List String} {s : Selector.Complex} (hs : s.Printable)
    (htext : (join path).toList = s.text) : Selector.Group.parse (join path) = .ok ⟨[s]⟩ := by
  have hgroup : (Selector.Group.mk [s]).text = s.text := by simp [Selector.Group.text]
  have hread : Selector.Group.ofChars (join path).toList = .ok ⟨[s]⟩ := by
    rw [htext, ← hgroup]
    exact Selector.ofChars_text ⟨by simp, by simpa using hs⟩
  rw [Selector.Group.parse, hread]

/-- Selecting with a path that denotes a chain gives what the chain matches. -/
theorem selectAll_join {path : List String} {s : Selector.Complex}
    (h : Selector.Group.parse (join path) = .ok ⟨[s]⟩) (doc : Document) (root : NodeId) :
    doc.selectAll root (join path) =
      .ok ((doc.descendants root).filter fun n => s.holds doc n) := by
  rw [Document.selectAll, h]
  simp [Except.map, Selector.holds_of_selectors (g := ⟨[s]⟩) rfl]

/-- Selecting with a path does not fail. -/
theorem exists_selectAll_join {path : List String} (hpath : path ≠ [])
    (hparts : ∀ part ∈ path, IsCompoundText part) (doc : Document) (root : NodeId) :
    ∃ found, doc.selectAll root (join path) = .ok found := by
  obtain ⟨s, hs, htext⟩ := exists_complex hpath hparts
  exact ⟨_, selectAll_join (parse_join hs htext) doc root⟩

end CssPath

end Recorder
