import Recorder.Yaml.Layout

/-!
# YAML nodes

From the tokens of a text to the node that is the root of its document. A node is written behind its
anchor and its tag, in either order; with one of them, or where the tokens around it show its place,
it may be left out and is an empty scalar then. Each function reads one part from the start of the
tokens and returns it with the rest, which is shorter than a bound, so the reading ends.

An alias is a number, and what the number means is known at the end of the document. The number of
an anchor is the number of names that stand in front of it. So an anchor that takes up an old name
shares its number with the next one whose name is new, and of anchors that share a number the last
one counts.
-/

namespace Recorder.Yaml

/-- A scalar with its full tag. -/
structure Leaf where
  /-- The tag. -/
  tag : Option String
  /-- The scalar. -/
  scalar : Scalar

/-- A node of a document. -/
inductive Node where
  /-- A scalar. -/
  | leaf (leaf : Leaf)
  /-- A sequence. -/
  | sequence (items : List Node)
  /-- A mapping, by its entries in order. -/
  | mapping (entries : List (Node × Node))
  /-- What the last anchor with a number stands in front of. -/
  | alias (number : Nat)

/-- What the numbers of anchors mean, the last ones first: a scalar, or nothing if it is a sequence
or a mapping. -/
abbrev Targets := List (Nat × Option Leaf)

/-- A document. -/
structure Document where
  /-- Its root. -/
  root : Node
  /-- What its aliases mean. -/
  targets : Targets

/-- The scalar that a node of the document is or means. -/
def Document.leaf? (d : Document) : Node → Option Leaf
  | .leaf l => some l
  | .alias n => (d.targets.lookup n).join
  | _ => none

/-- The full tag for one of the kinds of values that the format itself names. -/
def coreTag (kind : String) : String :=
  "tag:yaml.org,2002:" ++ kind

namespace Node

/-- The node that is left out. -/
def absent : Node :=
  .leaf ⟨none, .empty⟩

/-- What the handles of tags stand for. -/
abbrev Handles := List (String × String)

/-- The handles that need no directive. -/
def defaultHandles : Handles :=
  [("!", "!"), ("!!", coreTag "")]

/-- The anchors so far. -/
structure Anchors where
  /-- The names, each with the number of its last anchor. -/
  numbers : List (String × Nat)
  /-- What the numbers mean. -/
  targets : Targets

/-- No anchors. -/
def Anchors.none : Anchors :=
  ⟨[], []⟩

/-- What is read from the start of a list of tokens. -/
structure Part (α : Type) (bound : Nat) where
  /-- What is read. -/
  value : α
  /-- The anchors known behind it. -/
  anchors : Anchors
  /-- The tokens behind it. -/
  rest : List Token
  /-- They are fewer than the bound. -/
  length_lt : rest.length < bound

/-- The same part with another value and a larger bound. -/
def Part.map {α β : Type} {m n : Nat} (f : α → β) (p : Part α m) (h : m ≤ n) : Part β n :=
  ⟨f p.value, p.anchors, p.rest, Nat.lt_of_lt_of_le p.length_lt h⟩

/-- What stands in front of a node. -/
structure Properties where
  /-- The anchor. -/
  anchor : Option String
  /-- The tag. -/
  tag : Option Tag
  /-- The tokens behind them. -/
  rest : List Token

/-- The properties at the start of a list of tokens. -/
def properties : List Token → Properties
  | .anchor a :: .tag t :: rest => ⟨some a, some t, rest⟩
  | .tag t :: .anchor a :: rest => ⟨some a, some t, rest⟩
  | .anchor a :: rest => ⟨some a, none, rest⟩
  | .tag t :: rest => ⟨none, some t, rest⟩
  | rest => ⟨none, none, rest⟩

/-- Properties take room, if any. -/
theorem length_properties_le (ts : List Token) : (properties ts).rest.length ≤ ts.length := by
  unfold properties
  split <;> simp <;> omega

/-- There are properties only where they take room. -/
theorem length_properties_lt {ts : List Token}
    (h : (properties ts).anchor.isSome ∨ (properties ts).tag.isSome) :
    (properties ts).rest.length < ts.length := by
  revert h
  unfold properties
  split <;> grind

/-- Behind its first token a list is shorter than any that it is not longer than. -/
theorem length_lt_of_cons {rest ts us : List Token} {t : Token} (h : rest = t :: us)
    (hle : rest.length ≤ ts.length) : us.length < ts.length := by
  subst h
  exact hle

/-- A tag in full, if its handle stands for something. -/
def fullTag? (handles : Handles) (t : Tag) : Option String :=
  if t.handle = "" then some t.suffix else (handles.lookup t.handle).map (· ++ t.suffix)

/-- The full tag of a node, where there may be none. -/
def resolve? (handles : Handles) : Option Tag → Option (Option String)
  | none => some none
  | some t => (fullTag? handles t).map some

/-- Gives a node its anchor, if it has one. -/
def declare (name : Option String) (target : Option Leaf) (anchors : Anchors) : Anchors :=
  match name with
  | some a =>
    let n := anchors.numbers.length
    ⟨(a, n) :: anchors.numbers.filter (·.1 ≠ a), (n, target) :: anchors.targets⟩
  | none => anchors

/-- A scalar that is written; for it, a tag without a name says nothing. -/
def Leaf.ofScalar (tag : Option String) (s : Scalar) : Leaf :=
  ⟨tag.filter (· ≠ "!"), s⟩

/-- Where a node stands. -/
structure Place where
  /-- Block collections may start there. -/
  block : Bool
  /-- Items need no more indentation than the keys around them. -/
  loose : Bool
  /-- The tokens before which a node may be left out. -/
  stops : List Token

namespace Place

/-- Behind the dash of an item of a block sequence. -/
def item : Place := ⟨true, false, [.item, .blockEnd]⟩

/-- Behind the dash of an item that is not indented. -/
def looseItem : Place := ⟨true, false, [.item, .key, .value, .blockEnd]⟩

/-- As the key or the value of an entry of a block mapping. -/
def entry : Place := ⟨true, true, [.key, .value, .blockEnd]⟩

/-- In a sequence in brackets, or as a key in braces that has no mark. -/
def flow : Place := ⟨false, false, []⟩

/-- As the value of a pair in a sequence in brackets. -/
def pairValue : Place := ⟨false, false, [.comma, .flowSequenceEnd]⟩

/-- As a key with a mark in a mapping in braces. -/
def flowKey : Place := ⟨false, false, [.value, .comma, .flowMappingEnd]⟩

/-- As a value in a mapping in braces. -/
def flowValue : Place := ⟨false, false, [.comma, .flowMappingEnd]⟩

/-- As the root of a document that starts with a mark. -/
def root : Place := ⟨true, false, [.documentStart, .documentEnd]⟩

end Place

mutual

/-- A node that is not left out. -/
def read (handles : Handles) (place : Place) (known : Anchors) (ts : List Token) :
    Option (Part Node ts.length) :=
  match ts with
  | .alias name :: rest =>
    (known.numbers.lookup name).map fun n => ⟨.alias n, known, rest, by simp⟩
  | ts =>
    let p := properties ts
    have hp : p.rest.length ≤ ts.length := length_properties_le ts
    (resolve? handles p.tag).bind fun tag =>
      let within := declare p.anchor none known
      let leftOut : Option (Part Node ts.length) :=
        let v : Leaf := ⟨tag, .empty⟩
        if h : p.anchor.isSome ∨ p.tag.isSome then
          some ⟨.leaf v, declare p.anchor (some v) known, p.rest, length_properties_lt h⟩
        else none
      match _hr : p.rest with
      | .scalar s :: rest =>
        let v := Leaf.ofScalar tag s
        some ⟨.leaf v, declare p.anchor (some v) known, rest, length_lt_of_cons _hr hp⟩
      | .flowSequence :: rest =>
        (readFlowItems handles within rest).map
          (·.map .sequence (Nat.le_of_lt (length_lt_of_cons _hr hp)))
      | .flowMapping :: rest =>
        (readFlowEntries handles within rest).map
          (·.map .mapping (Nat.le_of_lt (length_lt_of_cons _hr hp)))
      | .blockSequence :: rest =>
        if place.block then
          (readItems handles within rest).map
            (·.map .sequence (Nat.le_of_lt (length_lt_of_cons _hr hp)))
        else leftOut
      | .blockMapping :: rest =>
        if place.block then
          (readEntries handles within rest).map
            (·.map .mapping (Nat.le_of_lt (length_lt_of_cons _hr hp)))
        else leftOut
      | .item :: rest =>
        if place.loose then
          (readLooseItems handles within rest).map
            (·.map .sequence (length_lt_of_cons _hr hp))
        else leftOut
      | _ => leftOut
termination_by 4 * ts.length
decreasing_by
  all_goals
    have hlt := length_lt_of_cons _hr hp
    omega

/-- A node that may be left out. -/
def readAt (handles : Handles) (place : Place) (known : Anchors) (ts : List Token) :
    Option (Part Node (ts.length + 1)) :=
  if ts.head?.all place.stops.contains then some ⟨absent, known, ts, by simp⟩
  else (read handles place known ts).map (·.map id (by simp))
termination_by 4 * ts.length + 1

/-- The value behind a key, which is left out without a colon. -/
def readValue (handles : Handles) (place : Place) (known : Anchors) (ts : List Token) :
    Option (Part Node (ts.length + 1)) :=
  match ts with
  | .value :: rest => (readAt handles place known rest).map (·.map id (by simp))
  | ts => some ⟨absent, known, ts, by simp⟩
termination_by 4 * ts.length + 1

/-- The items of a block sequence and its end. -/
def readItems (handles : Handles) (known : Anchors) (ts : List Token) :
    Option (Part (List Node) ts.length) :=
  match ts with
  | .item :: rest => do
    let v ← readAt handles .item known rest
    have := v.length_lt
    let vs ← readItems handles v.anchors v.rest
    return vs.map (v.value :: ·) (by simp; omega)
  | .blockEnd :: rest => some ⟨[], known, rest, by simp⟩
  | _ => none
termination_by 4 * ts.length + 2

/-- The items of a sequence that is not indented, behind its first dash. -/
def readLooseItems (handles : Handles) (known : Anchors) (ts : List Token) :
    Option (Part (List Node) (ts.length + 1)) := do
  let v ← readAt handles .looseItem known ts
  have := v.length_lt
  match _hv : v.rest with
  | .item :: rest =>
    have : rest.length < ts.length := by simp_all
    let vs ← readLooseItems handles v.anchors rest
    return vs.map (v.value :: ·) (by omega)
  | rest => return ⟨[v.value], v.anchors, rest, by simp_all⟩
termination_by 4 * ts.length + 2

/-- The entries of a block mapping and its end. -/
def readEntries (handles : Handles) (known : Anchors) (ts : List Token) :
    Option (Part (List (Node × Node)) ts.length) :=
  match ts with
  | .key :: rest => do
    let k ← readAt handles .entry known rest
    have := k.length_lt
    let v ← readValue handles .entry k.anchors k.rest
    have := v.length_lt
    let more ← readEntries handles v.anchors v.rest
    return more.map ((k.value, v.value) :: ·) (by simp; omega)
  | .blockEnd :: rest => some ⟨[], known, rest, by simp⟩
  | _ => none
termination_by 4 * ts.length + 2

/-- The items of a sequence in brackets, of which there may be no more, and its end. A question mark
makes an item a mapping with one entry; if nothing but a token of the brackets follows the mark,
that token stands for the key. -/
def readFlowItems (handles : Handles) (known : Anchors) (ts : List Token) :
    Option (Part (List Node) ts.length) :=
  match ts with
  | .flowSequenceEnd :: rest => some ⟨[], known, rest, by simp⟩
  | .key :: t :: rest => do
    let k : Part Node (rest.length + 2) ←
      if [.value, .comma, .flowSequenceEnd].contains t then
        some ⟨absent, known, rest, by omega⟩
      else (read handles .flow known (t :: rest)).map (·.map id (by simp))
    have := k.length_lt
    let v ← readValue handles .pairValue k.anchors k.rest
    have := v.length_lt
    let more ← readMoreItems handles v.anchors v.rest
    return more.map (.mapping [(k.value, v.value)] :: ·) (by simp; omega)
  | ts => do
    let v ← read handles .flow known ts
    have := v.length_lt
    let more ← readMoreItems handles v.anchors v.rest
    return more.map (v.value :: ·) (by omega)
termination_by 4 * ts.length + 2

/-- What follows an item in brackets: a comma and more, or the end. -/
def readMoreItems (handles : Handles) (known : Anchors) (ts : List Token) :
    Option (Part (List Node) ts.length) :=
  match ts with
  | .comma :: rest => (readFlowItems handles known rest).map (·.map id (by simp))
  | .flowSequenceEnd :: rest => some ⟨[], known, rest, by simp⟩
  | _ => none
termination_by 4 * ts.length + 3

/-- The entries of a mapping in braces, of which there may be no more, and its end. A key without a
mark has no value. -/
def readFlowEntries (handles : Handles) (known : Anchors) (ts : List Token) :
    Option (Part (List (Node × Node)) ts.length) :=
  match ts with
  | .flowMappingEnd :: rest => some ⟨[], known, rest, by simp⟩
  | .key :: rest => do
    let k ← readAt handles .flowKey known rest
    have := k.length_lt
    let v ← readValue handles .flowValue k.anchors k.rest
    have := v.length_lt
    let more ← readMoreEntries handles v.anchors v.rest
    return more.map ((k.value, v.value) :: ·) (by simp; omega)
  | ts => do
    let k ← read handles .flow known ts
    have := k.length_lt
    let more ← readMoreEntries handles k.anchors k.rest
    return more.map ((k.value, absent) :: ·) (by omega)
termination_by 4 * ts.length + 2

/-- What follows an entry in braces: a comma and more, or the end. -/
def readMoreEntries (handles : Handles) (known : Anchors) (ts : List Token) :
    Option (Part (List (Node × Node)) ts.length) :=
  match ts with
  | .comma :: rest => (readFlowEntries handles known rest).map (·.map id (by simp))
  | .flowMappingEnd :: rest => some ⟨[], known, rest, by simp⟩
  | _ => none
termination_by 4 * ts.length + 3

end

/-- What directives say in front of a document. -/
structure Preamble where
  /-- Whether the version has been given. -/
  versioned : Bool
  /-- What handles stand for. -/
  handles : Handles

/-- Adds a directive. The version is 1.1 or 1.2, and nothing is said twice. -/
def Preamble.add (p : Preamble) : Directive → Option Preamble
  | .version major minor =>
    if !p.versioned && major = 1 && (minor = 1 || minor = 2) then some { p with versioned := true }
    else none
  | .handle name start =>
    if (p.handles.lookup name).isSome then none
    else some { p with handles := (name, start) :: p.handles }

/-- The directives at the start of a list of tokens, and the rest. -/
def preamble? (p : Preamble) : List Token → Option (Preamble × List Token)
  | .directive d :: ts => (p.add d).bind fun p => preamble? p ts
  | ts => some (p, ts)

end Node

namespace Document

/-- The document whose root is a part of the tokens, and the tokens behind it. -/
def ofPart {bound : Nat} (root : Node.Part Node bound) : Document × List Token :=
  (⟨root.value, root.anchors.targets⟩, root.rest)

/-- The first document and the tokens behind it. -/
def read (ts : List Token) : Option (Document × List Token) :=
  match ts with
  | .directive _ :: _ | .documentStart :: _ => do
    let (p, ts) ← Node.preamble? ⟨false, []⟩ ts
    let .documentStart :: ts := ts | none
    (Node.readAt (p.handles ++ Node.defaultHandles) .root .none ts).map ofPart
  | ts => (Node.read Node.defaultHandles .root .none ts).map ofPart

/-- The document that a text is; there is none without any token, and an error if something other
than marks of the end follows the document. -/
def ofText? (text : String) : Option (Option Document) := do
  let ts ← Token.ofText? text
  if ts.isEmpty then return none
  else
    let (d, rest) ← read ts
    if rest.all (· = .documentEnd) then return some d else failure

end Document

end Recorder.Yaml
