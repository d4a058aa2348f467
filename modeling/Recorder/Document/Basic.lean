import Recorder.Document.Attributes
import Recorder.Error
import Recorder.Text.Basic

/-!
# Documents

A document is a tree of elements and texts, held as a list of nodes that know their parent and
their children by number. The body is the node 0, and a new node takes the next number, so that
every parent has a smaller number than its children.
-/

namespace Recorder

/-- A node of a document, by its number. -/
structure NodeId where
  /-- The number. -/
  index : Nat
deriving DecidableEq

/-- An element: its tag, its attributes, and what its user has changed of it. -/
structure Element where
  /-- The tag name, in lower case once the element is part of a document. -/
  tag : String
  /-- The attributes. -/
  attributes : Attributes := .empty
  /-- The current value of a control, where it is known apart from the attributes. -/
  value : Option String := none
  /-- Whether a checkbox or radio button is checked, where it is known apart from the attributes. -/
  checked : Option Bool := none
  /-- The names of the files chosen. -/
  files : List String := []
  /-- Whether an option is selected, where it is known apart from the attributes. -/
  selected : Option Bool := none
deriving DecidableEq

/-- The element with its tag in lower case. -/
def Element.lowered (e : Element) : Element :=
  { e with tag := Text.asciiLower e.tag }

/-- What a node is. -/
inductive NodeData where
  /-- An element. -/
  | element (element : Element)
  /-- A piece of text. -/
  | text (text : String)
deriving DecidableEq

/-- A node with its place in the tree. -/
structure Node where
  /-- The node that holds this one, none for the body. -/
  parent : Option NodeId
  /-- The nodes in this one, in order. -/
  children : List NodeId
  /-- What the node is. -/
  data : NodeData
deriving DecidableEq

/-- A tree of elements and texts. -/
structure Document where
  /-- The nodes by number. -/
  nodes : Array Node
deriving DecidableEq

namespace Document

/-- The body. -/
def body : NodeId := ⟨0⟩

/-- The document with an empty body. -/
def empty : Document :=
  ⟨#[⟨none, [], .element { tag := "body" }⟩]⟩

/-- The number of nodes. -/
def size (doc : Document) : Nat :=
  doc.nodes.size

/-- Whether there is nothing in the body. -/
def isEmpty (doc : Document) : Bool :=
  doc.size == 1

/-- The node of this number. -/
def node? (doc : Document) (id : NodeId) : Option Node :=
  doc.nodes[id.index]?

/-- Fails if there is no node of this number. -/
def check (doc : Document) (id : NodeId) : Except Error NodeId :=
  if id.index < doc.size then .ok id else .error (.unknownNode id.index)

/-- The element of this number; none for a text. -/
def element? (doc : Document) (id : NodeId) : Option Element :=
  match doc.node? id with
  | some ⟨_, _, .element e⟩ => some e
  | _ => none

/-- Whether the node is an element. -/
def isElement (doc : Document) (id : NodeId) : Bool :=
  (doc.element? id).isSome

/-- The tag name of an element. -/
def tag? (doc : Document) (id : NodeId) : Option String :=
  (doc.element? id).map (·.tag)

/-- The value of an attribute of an element. -/
def attribute? (doc : Document) (id : NodeId) (name : String) : Option String :=
  (doc.element? id).bind (·.attributes.get? name)

/-- Whether an element has an attribute. -/
def hasAttribute (doc : Document) (id : NodeId) (name : String) : Bool :=
  (doc.attribute? id name).isSome

/-- The parent of a node. -/
def parent? (doc : Document) (id : NodeId) : Option NodeId :=
  (doc.node? id).bind (·.parent)

/-- The children of a node, in order. -/
def children (doc : Document) (id : NodeId) : List NodeId :=
  ((doc.node? id).map (·.children)).getD []

/-- The children of a node that are elements, in order. -/
def elementChildren (doc : Document) (id : NodeId) : List NodeId :=
  (doc.children id).filter doc.isElement

/-- Adds a node behind the other children of its parent. -/
def push (doc : Document) (parent : NodeId) (data : NodeData) : Document :=
  let nodes := doc.nodes.push ⟨some parent, [], data⟩
  ⟨nodes.modify parent.index fun n => { n with children := n.children ++ [⟨nodes.size - 1⟩] }⟩

/-- Adds a node behind the other children of its parent, and gives it. The parent is looked
up once the new node has its place; it is refused if there is none then. -/
def append? (doc : Document) (parent : NodeId) (data : NodeData) : Option (NodeId × Document) :=
  if parent.index ≤ doc.size then some (⟨doc.size⟩, doc.push parent data) else none

/-- Adds an element, with a text inside if one is given, and gives the element. -/
def appendElement? (doc : Document) (parent : NodeId) (e : Element) (text : Option String) :
    Option (NodeId × Document) := do
  let (id, doc) ← doc.append? parent (.element e.lowered)
  match text with
  | some t => return (id, doc.push id (.text t))
  | none => return (id, doc)

/-- Adds a text, and gives it. -/
def appendText? (doc : Document) (parent : NodeId) (text : String) : Option (NodeId × Document) :=
  doc.append? parent (.text text)

/-- Changes an element; fails if there is none of this number. -/
def update (doc : Document) (id : NodeId) (f : Element → Element) : Except Error Document :=
  match doc.element? id with
  | some e => .ok ⟨doc.nodes.modify id.index fun n => { n with data := .element (f e) }⟩
  | none => .error (.unknownNode id.index)

/-- Gives an attribute of an element a value. -/
def setAttribute (doc : Document) (id : NodeId) (name value : String) : Except Error Document :=
  doc.update id fun e => { e with attributes := e.attributes.set name value }

/-- Takes an attribute of an element away. -/
def removeAttribute (doc : Document) (id : NodeId) (name : String) : Except Error Document :=
  doc.update id fun e => { e with attributes := e.attributes.erase name }

/-- Sets the current value of a control. -/
def setValue (doc : Document) (id : NodeId) (value : String) : Except Error Document :=
  doc.update id fun e => { e with value := some value }

/-- Sets whether a checkbox or radio button is checked. -/
def setChecked (doc : Document) (id : NodeId) (checked : Bool) : Except Error Document :=
  doc.update id fun e => { e with checked := some checked }

/-- Sets the names of the files chosen. -/
def setFiles (doc : Document) (id : NodeId) (files : List String) : Except Error Document :=
  doc.update id fun e => { e with files := files }

/-- Sets whether an option is selected. -/
def setSelected (doc : Document) (id : NodeId) (selected : Bool) : Except Error Document :=
  doc.update id fun e => { e with selected := some selected }

end Document

end Recorder
