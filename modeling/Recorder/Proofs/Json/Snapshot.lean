import Recorder.Document.Json
import Recorder.Proofs.Json.Decode
import Recorder.Proofs.Pairs

/-!
# Snapshots through JSON

A snapshot is read back from the JSON value that is written of it. Attributes are sorted by name, so
that putting them back one after the other appends each at the end (`ofPairs_pairs`). An element
leaves out the fields that are empty or not known, and each of them is read as such where it is
missing (`elementOfJson?_elementToJson`); its children are found by the name of their member
(`childrenOfMembers?_eq`). The induction is over the tree (`Snapshot.ofJson?_toJson`).
-/

namespace Recorder

open Json (optionalMember withDefault)

/-! ## Attributes -/

namespace Attributes

/-- A name behind all others is inserted at the end. -/
theorem insertPair_of_forall_lt {name : String} (value : String) {pairs : List (String × String)}
    (h : ∀ p ∈ pairs, p.1 < name) : insertPair name value pairs = pairs ++ [(name, value)] := by
  induction pairs with
  | nil => rfl
  | cons p rest ih =>
    obtain ⟨hp, hrest⟩ : p.1 < name ∧ ∀ q ∈ rest, q.1 < name := by simpa using h
    rw [insertPair, if_neg (String.lt_asymm hp), if_pos hp, ih hrest, List.cons_append]

/-- Attributes are those of their own pairs. -/
theorem ofPairs_pairs (as : Attributes) : ofPairs as.pairs = as := by
  -- along the fold, the attributes so far are those in front of the pairs to come
  suffices ∀ (rest : List (String × String)) (front : Attributes),
      (front.pairs ++ rest).Pairwise (fun a b => a.1 < b.1) →
      (rest.foldl (fun as p => as.set p.1 p.2) front).pairs = front.pairs ++ rest by
    have hpairs := this as.pairs empty as.sorted
    rcases as with ⟨pairs, sorted⟩
    rw [ofPairs]
    generalize List.foldl _ empty pairs = result at hpairs
    obtain ⟨found, hfound⟩ := result
    obtain rfl : found = pairs := hpairs
    rfl
  intro rest
  induction rest with
  | nil => simp
  | cons p rest ih =>
    intro front h
    have hlt : ∀ q ∈ front.pairs, q.1 < p.1 := fun q hq =>
      (List.pairwise_append.1 h).2.2 q hq p (by simp)
    have hset : (front.set p.1 p.2).pairs = front.pairs ++ [p] :=
      insertPair_of_forall_lt p.2 hlt
    rw [List.foldl_cons, ih _ (by simpa [hset] using h), hset, List.append_assoc,
      List.singleton_append]

/-- Attributes without pairs are the empty ones. -/
theorem eq_empty {as : Attributes} (h : as.pairs = []) : as = empty := by
  obtain ⟨pairs, sorted⟩ := as
  obtain rfl : pairs = [] := h
  rfl

/-- No name stands twice among attributes. -/
theorem nodup_names (as : Attributes) : (as.pairs.map Prod.fst).Nodup :=
  List.pairwise_map.2 (as.sorted.imp fun {a b} (hlt : a.1 < b.1) (heq : a.1 = b.1) =>
    String.lt_irrefl b.1 (heq ▸ hlt))

/-- Attributes are read back. -/
theorem ofJson?_toJson (as : Attributes) : ofJson? as.toJson = some as := by
  have hpairs : (as.pairs.map fun p => (p.1, Json.string p.2)).mapM
      (fun m => (Json.string? m.2).map (m.1, ·)) = some as.pairs := by
    induction as.pairs with
    | nil => rfl
    | cons p rest ih =>
      rw [List.map_cons, List.mapM_cons, ih]
      rfl
  rw [toJson, ofJson?, Json.map?, hpairs, Option.map_some, Option.map_some,
    mergePairs_eq_self as.nodup_names, ofPairs_pairs]

/-- The JSON value of attributes is readable. -/
@[simp]
theorem readable_toJson (as : Attributes) : as.toJson.readable = true := by
  simp [toJson]

end Attributes

/-! ## Elements -/

namespace Json

/-- The names that a member adds to an object if it has items. -/
theorem memberUnless_sublist (isEmpty : Bool) (name : String) (v : Json) :
    ((memberUnless isEmpty name v).map Prod.fst).Sublist [name] := by
  cases isEmpty <;> simp [memberUnless]

/-- A member that is left out if it has no items is found if it has some, and by its name only. -/
@[simp]
theorem lookup_memberUnless (key : String) (isEmpty : Bool) (name : String) (v : Json) :
    (memberUnless isEmpty name v).lookup key =
      if key = name then if isEmpty then none else some v else none := by
  cases isEmpty with
  | true => simp [memberUnless]
  | false =>
    by_cases h : key = name
    · simp [memberUnless, h]
    · simp [memberUnless, h, List.lookup_cons, beq_eq_false_iff_ne.2 h]

/-- A member that is left out if it has no items is readable if its value is. -/
@[simp]
theorem readable_memberUnless (isEmpty : Bool) (name : String) (v : Json) :
    ((memberUnless isEmpty name v).all fun m => m.2.readable) = (isEmpty || v.readable) := by
  cases isEmpty <;> simp [memberUnless]

/-- A value that is left out if it is the default is read back. -/
theorem withDefault_ite {empty : Prop} [Decidable empty] {f : Json → Option α} {otherwise a : α}
    {v : Json} (hempty : empty → a = otherwise) (h : f v = some a) :
    withDefault otherwise f (if empty then none else some v) = some a := by
  split
  case isTrue he => rw [hempty he, withDefault]
  case isFalse => rw [withDefault, h]

end Json

namespace Snapshot

/-- The members of the object of an element. -/
def members (e : Element) (children : List Json) : List (String × Json) :=
  [("tag", .string e.tag)] ++
    Json.memberUnless e.attributes.pairs.isEmpty "attributes" e.attributes.toJson ++
    Json.memberUnless children.isEmpty "children" (.array children) ++
    optionalMember "value" .string e.value ++ optionalMember "checked" .bool e.checked ++
    Json.memberUnless e.files.isEmpty "files" (Json.strings e.files) ++
    optionalMember "selected" .bool e.selected

/-- An element is written as the object of its members. -/
theorem elementToJson_eq (e : Element) (children : List Json) :
    elementToJson e children = .object (members e children) := rfl

/-- The fields of an element stand in the order of their names, each once at most. -/
theorem nodup_members (e : Element) (children : List Json) :
    ((members e children).map Prod.fst).Nodup := by
  have hsub : ((members e children).map Prod.fst).Sublist fieldNames := by
    simp only [members, List.map_append]
    exact ((((((List.Sublist.refl ["tag"]).append (Json.memberUnless_sublist ..)).append
      (Json.memberUnless_sublist ..)).append (Json.optionalMember_sublist ..)).append
      (Json.optionalMember_sublist ..)).append (Json.memberUnless_sublist ..)).append
      (Json.optionalMember_sublist ..)
  exact hsub.nodup (by decide)

/-- The fields of an element are read back, whatever its children are. -/
theorem elementOfJson?_elementToJson (e : Element) (children : List Json) :
    elementOfJson? (elementToJson e children) = some e := by
  obtain ⟨tag, attributes, value, checked, files, selected⟩ := e
  -- What is left out has the value that a missing field is read as.
  have hattributes : withDefault .empty Attributes.ofJson?
      (if attributes.pairs = [] then none else some attributes.toJson) = some attributes :=
    Json.withDefault_ite Attributes.eq_empty attributes.ofJson?_toJson
  have hfiles : withDefault [] (Json.list? Json.string?)
      (if files = [] then none else some (Json.strings files)) = some files :=
    Json.withDefault_ite id (Json.list?_strings files)
  have hvalue : Json.optional Json.string? (value.map .string) = some value :=
    Json.optional_map (by simp) fun _ _ => rfl
  have hchecked : Json.optional Json.bool? (checked.map .bool) = some checked :=
    Json.optional_map (by simp) fun _ _ => rfl
  have hselected : Json.optional Json.bool? (selected.map .bool) = some selected :=
    Json.optional_map (by simp) fun _ _ => rfl
  rw [elementToJson_eq, elementOfJson?, Json.fields?_object _ (nodup_members ..)]
  simp [members, List.lookup_append, List.lookup_cons, hattributes, hfiles, hvalue, hchecked,
    hselected, Json.required, Json.string?]

/-! ## Trees -/

/-- The children are those of the first member of their name. -/
theorem childrenOfMembers?_eq (members : List (String × Json)) :
    childrenOfMembers? members = withDefault [] childrenOf? (members.lookup "children") := by
  induction members with
  | nil => rfl
  | cons m ms ih =>
    obtain ⟨name, v⟩ := m
    rw [childrenOfMembers?]
    split
    case isTrue h => simp [h, withDefault]
    case isFalse h => simp [List.lookup_cons, beq_eq_false_iff_ne.2 (Ne.symm h), ih]

/-- The children of an element are read back by what reads their array back. -/
theorem withDefault_lookup_children (e : Element) {f : Json → Option (List Snapshot)}
    {children : List Snapshot} (h : f (.array (listToJson children)) = some children) :
    withDefault [] f ((members e (listToJson children)).lookup "children") = some children := by
  have hlookup : (members e (listToJson children)).lookup "children" =
      if listToJson children = [] then none else some (.array (listToJson children)) := by
    simp [members, List.lookup_append, List.lookup_cons]
  rw [hlookup]
  refine Json.withDefault_ite (fun hempty => ?_) h
  cases children with
  | nil => rfl
  | cons s rest => cases hempty

mutual

/-- A snapshot is read back. -/
theorem ofJson?_toJson : (s : Snapshot) → ofJson? s.toJson = some s
  | .text t => rfl
  | .element e children => by
    have hchildren := listOfJson?_listToJson children
    have helement := elementOfJson?_elementToJson e (listToJson children)
    rw [elementToJson_eq] at helement
    rw [toJson, elementToJson_eq, ofJson?, helement, childrenOfMembers?_eq,
      withDefault_lookup_children e hchildren]
    rfl

/-- Snapshots are read back. -/
theorem listOfJson?_listToJson :
    (ss : List Snapshot) → listOfJson? (listToJson ss) = some ss
  | [] => rfl
  | s :: rest => by
    rw [listToJson, listOfJson?, ofJson?_toJson s, listOfJson?_listToJson rest]
    rfl

end

/-- The JSON value of an element is readable if those of its children are. -/
theorem readable_elementToJson (e : Element) {children : List Json}
    (h : ∀ v ∈ children, v.readable = true) : (elementToJson e children).readable = true := by
  have hchildren : children.all Json.readable = true := List.all_eq_true.2 h
  have hstring := Json.readable_optionalMember Json.readable_string
  have hbool := Json.readable_optionalMember Json.readable_bool
  simp only [elementToJson_eq, members, Json.readable_object, List.all_append, hstring, hbool,
    Json.readable_memberUnless]
  simp [hchildren]

mutual

/-- The JSON value of a snapshot is readable. -/
theorem readable_toJson : (s : Snapshot) → s.toJson.readable = true
  | .text _ => rfl
  | .element e children => readable_elementToJson e (readable_listToJson children)

/-- The JSON values of snapshots are readable. -/
theorem readable_listToJson : (ss : List Snapshot) → ∀ v ∈ listToJson ss, v.readable = true
  | [] => by simp [listToJson]
  | s :: rest => by
    rw [listToJson, List.forall_mem_cons]
    exact ⟨readable_toJson s, readable_listToJson rest⟩

end

end Snapshot

/-- The snapshot of a body is read back. -/
theorem BodySnapshot.ofJson?_toJson (b : BodySnapshot) : ofJson? b.toJson = some b := by
  obtain ⟨e, children⟩ := b
  -- A body asks for children all of whose parts can be read before it reads them.
  have hreadable : (Json.array (Snapshot.listToJson children)).readable = true := by
    rw [Json.readable_array, List.all_eq_true]
    exact Snapshot.readable_listToJson children
  have hchildren := Snapshot.withDefault_lookup_children e
    (f := fun c => if c.readable then Snapshot.childrenOf? c else none)
    ((if_pos hreadable).trans (Snapshot.listOfJson?_listToJson children))
  have helement := Snapshot.elementOfJson?_elementToJson e (Snapshot.listToJson children)
  rw [Snapshot.elementToJson_eq] at helement
  rw [toJson, Snapshot.elementToJson_eq, ofJson?,
    Json.fields?_object _ (Snapshot.nodup_members ..), helement]
  simp [hchildren]

end Recorder
