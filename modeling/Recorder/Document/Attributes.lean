/-!
# Attributes

The attributes of an element, one value for each name. They are kept in the order of their names,
which is also the order in which they are written, so that equal sets of attributes are equal terms.
-/

namespace Recorder

/-- Pairs of a name and a value, in the order of the names and none of them twice. -/
structure Attributes where
  /-- The pairs in order. -/
  pairs : List (String × String)
  /-- Each name comes before those behind it. -/
  sorted : pairs.Pairwise fun a b => a.1 < b.1
deriving DecidableEq

namespace Attributes

/-- No attributes. -/
def empty : Attributes :=
  ⟨[], .nil⟩

/-- The value of the attribute of this name. -/
def get? (as : Attributes) (name : String) : Option String :=
  as.pairs.lookup name

/-- Whether there is an attribute of this name. -/
def has (as : Attributes) (name : String) : Bool :=
  (as.get? name).isSome

/-- Puts a pair at its place among sorted pairs. -/
def insertPair (name value : String) : List (String × String) → List (String × String)
  | [] => [(name, value)]
  | (n, v) :: rest =>
    if name < n then (name, value) :: (n, v) :: rest
    else if n < name then (n, v) :: insertPair name value rest
    else (n, value) :: rest

/-- A name behind the head of sorted pairs stays there when a pair is inserted behind it. -/
theorem lt_of_mem_insertPair {m name value : String} {pairs : List (String × String)}
    (hname : m < name) (hpairs : ∀ p ∈ pairs, m < p.1) :
    ∀ p ∈ insertPair name value pairs, m < p.1 := by
  induction pairs with
  | nil => simpa [insertPair] using hname
  | cons q rest ih =>
    obtain ⟨n, v⟩ := q
    have hn : m < n := hpairs (n, v) (by simp)
    have hrest : ∀ p ∈ rest, m < p.1 := fun p hp => hpairs p (by simp [hp])
    intro p hp
    rw [insertPair] at hp
    split at hp
    · rcases List.mem_cons.1 hp with rfl | hp
      · exact hname
      · exact hpairs p hp
    · split at hp
      · rcases List.mem_cons.1 hp with rfl | hp
        · exact hn
        · exact ih hrest p hp
      · rcases List.mem_cons.1 hp with rfl | hp
        · exact hn
        · exact hrest p hp

/-- Insertion keeps pairs sorted. -/
theorem sorted_insertPair (name value : String) {pairs : List (String × String)}
    (h : pairs.Pairwise fun a b => a.1 < b.1) :
    (insertPair name value pairs).Pairwise fun a b => a.1 < b.1 := by
  induction pairs with
  | nil => simp [insertPair]
  | cons q rest ih =>
    obtain ⟨n, v⟩ := q
    obtain ⟨hn, hrest⟩ := List.pairwise_cons.1 h
    rw [insertPair]
    split
    case isTrue hlt =>
      refine List.pairwise_cons.2 ⟨fun p hp => ?_, h⟩
      rcases List.mem_cons.1 hp with rfl | hp
      · exact hlt
      · exact String.lt_trans hlt (hn p hp)
    case isFalse =>
      split
      case isTrue hlt => exact List.pairwise_cons.2 ⟨lt_of_mem_insertPair hlt hn, ih hrest⟩
      case isFalse => exact List.pairwise_cons.2 ⟨hn, hrest⟩

/-- Gives an attribute a value, whether or not it is there already. -/
def set (as : Attributes) (name value : String) : Attributes :=
  ⟨insertPair name value as.pairs, sorted_insertPair name value as.sorted⟩

/-- Takes an attribute away, if it is there. -/
def erase (as : Attributes) (name : String) : Attributes :=
  ⟨as.pairs.filter fun p => p.1 != name, as.sorted.filter _⟩

/-- The attributes of a list of pairs, where the last value of a name counts. -/
def ofPairs (pairs : List (String × String)) : Attributes :=
  pairs.foldl (fun as p => as.set p.1 p.2) empty

end Attributes

end Recorder
