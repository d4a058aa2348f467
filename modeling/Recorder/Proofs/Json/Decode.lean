import Mathlib.Data.List.Nodup
import Recorder.Json.Decode

/-!
# Reading back what was written

The readers of records, variants and lists on what the writers make of them: an object of fields
none of which is written twice. Such an object is read field by field (`fields?_object`), whatever
other fields it has, and its kind can be taken off it (`variant?_object`). A list is read item by
item (`list?_map`).

What a writer leaves out is told apart by `lookup_optionalMember`: the field is there just if its
value is, and a field of another name is not touched.
-/

namespace Recorder

namespace Json

/-! ## Readable parts -/

/-- The items of an array are readable if each of them is. -/
theorem readableItems_eq_all (items : List Json) : readableItems items = items.all readable := by
  induction items with
  | nil => rfl
  | cons v vs ih => rw [readableItems, ih, List.all_cons]

/-- The members of an object are readable if the value of each of them is. -/
theorem readableMembers_eq_all (members : List (String × Json)) :
    readableMembers members = members.all fun m => m.2.readable := by
  induction members with
  | nil => rfl
  | cons m ms ih => rw [readableMembers, ih, List.all_cons]

/-- An array is readable if its items are. -/
@[simp]
theorem readable_array (items : List Json) :
    (Json.array items).readable = items.all readable := by
  rw [readable, readableItems_eq_all]

/-- An object is readable if the values of its members are. -/
@[simp]
theorem readable_object (members : List (String × Json)) :
    (Json.object members).readable = members.all fun m => m.2.readable := by
  rw [readable, readableMembers_eq_all]

/-- A string is readable. -/
@[simp]
theorem readable_string (s : String) : (Json.string s).readable = true := rfl

/-- A truth value is readable. -/
@[simp]
theorem readable_bool (b : Bool) : (Json.bool b).readable = true := rfl

/-- An array of strings is readable. -/
@[simp]
theorem readable_strings (items : List String) : (strings items).readable = true := by
  simp [strings]

/-! ## Lists -/

/-- A list is read back if its items are. -/
theorem list?_map {f : Json → Option α} {g : α → Json} {as : List α}
    (h : ∀ a ∈ as, f (g a) = some a) : list? f (.array (as.map g)) = some as := by
  rw [list?]
  induction as with
  | nil => rfl
  | cons a as ih =>
    rw [List.map_cons, List.mapM_cons, h a (by simp), ih fun b hb => h b (by simp [hb])]
    rfl

/-- Strings are read back. -/
@[simp]
theorem list?_strings (items : List String) : list? string? (strings items) = some items :=
  list?_map fun _ _ => rfl

/-! ## Records -/

/-- A name that stands once at most in a list of members without a repeated name. -/
theorem atMostOnce_of_nodup (name : String) {members : List (String × Json)}
    (h : (members.map Prod.fst).Nodup) : atMostOnce name members = true := by
  have hcount : ((members.map Prod.fst).filter (· == name)).length ≤ 1 := by
    rw [← List.countP_eq_length_filter]
    exact List.nodup_iff_count_le_one.1 h name
  rw [List.filter_map, List.length_map] at hcount
  exact decide_eq_true hcount

/-- An object without a repeated name is read field by field. -/
theorem fields?_object (names : List String) {members : List (String × Json)}
    (h : (members.map Prod.fst).Nodup) :
    fields? names (.object members) = some (members.lookup ·) := by
  rw [fields?, if_pos (List.all_eq_true.2 fun name _ => atMostOnce_of_nodup name h)]

/-- The kind that was put in front of the fields of a record is read back, with the record. -/
theorem variant?_object {tag : String} (kind : String) {members : List (String × Json)}
    (hreadable : ∀ m ∈ members, m.2.readable = true) (htag : tag ∉ members.map Prod.fst) :
    variant? tag (.object ((tag, .string kind) :: members)) = some (kind, .object members) := by
  have hne : ∀ m ∈ members, m.1 ≠ tag := fun m hm heq => htag (List.mem_map.2 ⟨m, hm, heq⟩)
  have hnone : members.filter (fun m => m.1 == tag) = [] := by simpa using hne
  have hall : members.filter (fun m => m.1 != tag) = members := by simpa using hne
  have hread : (Json.object ((tag, .string kind) :: members)).readable = true := by
    simpa using hreadable
  simp [variant?, hread, hnone, hall]

/-- The names that an optional member adds to an object. -/
theorem optionalMember_sublist (name : String) (f : α → Json) (a : Option α) :
    ((optionalMember name f a).map Prod.fst).Sublist [name] := by
  cases a <;> simp [optionalMember]

/-- An optional member is found just if its value is there, and only by its name. -/
@[simp]
theorem lookup_optionalMember (key name : String) (f : α → Json) (a : Option α) :
    (optionalMember name f a).lookup key = if key = name then a.map f else none := by
  cases a with
  | none => simp [optionalMember]
  | some a =>
    by_cases h : key = name
    · simp [optionalMember, h]
    · simp [optionalMember, h, List.lookup_cons, beq_eq_false_iff_ne.2 h]

/-- An optional member is readable if every value is. -/
theorem readable_optionalMember {f : α → Json} (h : ∀ a, (f a).readable = true) (name : String)
    (a : Option α) : ((optionalMember name f a).all fun m => m.2.readable) = true := by
  cases a <;> simp [optionalMember, h]

/-- A value that may be absent is read back from its member, as none is written as `null`. -/
theorem optional_map {f : Json → Option α} {g : α → Json} {a : Option α}
    (hnull : ∀ b, g b ≠ .null) (h : ∀ b ∈ a, f (g b) = some b) :
    optional f (a.map g) = some a := by
  cases a with
  | none => rfl
  | some a =>
    rw [Option.map_some, optional]
    · rw [h a rfl, Option.map_some]
    · simpa using hnull a

end Json

end Recorder
