import Recorder.Literal
import Recorder.Proofs.Json.Decode
import Recorder.Proofs.Number.Exact
import Recorder.Proofs.Pairs

/-!
# Literals through JSON

JSON has no value for `undefined` and for the numbers that are not finite, holds a fraction and a
large number by another numeral than source text does, and keeps one value for each key of a
record. `Literal.isLossless` leaves these out, all the way down; every other literal is read back
from its JSON value (`ofJson?_toJson`). An integer comes back since one below `integerBound` has
fewer than 53 bits.

The JSON value of any literal is readable, `undefined` being written as `null`.
-/

namespace Recorder

/-- A number that is written as an integer is the number of this integer. -/
theorem Number.ofInt_of_toInteger? {n : Number} {i : Int} (h : n.toInteger? = some i) :
    Number.ofInt i = n := by
  obtain _ | _ | v := n
  · cases h
  · cases h
  · simp only [Number.toInteger?] at h
    split at h
    case isFalse => cases h
    case isTrue hv =>
      obtain rfl : v.num = i := Option.some.inj h
      have hbound : v.num.natAbs < 2 ^ 53 := hv.2.trans (by decide)
      rw [Number.ofInt_eq_finite hbound, Rat.coe_int_num_of_den_eq_one hv.1]

namespace Literal

mutual

/-- Whether nothing of a literal is lost in JSON: no part is `undefined`, each number is an integer
that is written as such, and no record repeats a key. -/
def isLossless : Literal → Bool
  | .undefined => false
  | .number n => n.toInteger?.isSome
  | .array items => areLossless items
  | .object pairs => decide (pairs.map Prod.fst).Nodup && pairsAreLossless pairs
  | _ => true

/-- Whether nothing of the items of an array is lost in JSON. -/
def areLossless : List Literal → Bool
  | [] => true
  | v :: vs => v.isLossless && areLossless vs

/-- Whether nothing of the values of a record is lost in JSON. -/
def pairsAreLossless : List (String × Literal) → Bool
  | [] => true
  | (_, v) :: ps => v.isLossless && pairsAreLossless ps

end

/-- A number that is written as an integer is one in JSON. -/
theorem numberToJson_of_toInteger? {n : Number} {i : Int} (h : n.toInteger? = some i) :
    numberToJson n = .integer i := by
  unfold numberToJson
  rw [h]

mutual

/-- A literal is read back if nothing of it is lost. -/
theorem ofJson?_toJson : (v : Literal) → v.isLossless = true → ofJson? v.toJson = some v
  | .null, _ => rfl
  | .undefined, h => by cases h
  | .bool _, _ => rfl
  | .number n, h => by
    obtain ⟨i, hi⟩ := Option.isSome_iff_exists.1 h
    rw [toJson, numberToJson_of_toInteger? hi, ofJson?, Number.ofInt_of_toInteger? hi]
  | .string _, _ => rfl
  | .array items, h => by
    rw [toJson, ofJson?, itemsOfJson?_itemsToJson items h, Option.map_some]
  | .object pairs, h => by
    obtain ⟨hnodup, hpairs⟩ := (Bool.and_eq_true _ _).mp h
    rw [toJson, ofJson?, pairsOfJson?_pairsToJson pairs hpairs, Option.map_some,
      mergePairs_eq_self (of_decide_eq_true hnodup)]

/-- The items of an array are read back if nothing of them is lost. -/
theorem itemsOfJson?_itemsToJson :
    (items : List Literal) → areLossless items = true →
      itemsOfJson? (itemsToJson items) = some items
  | [], _ => rfl
  | v :: vs, h => by
    obtain ⟨hv, hvs⟩ := (Bool.and_eq_true _ _).mp h
    rw [itemsToJson, itemsOfJson?, ofJson?_toJson v hv, itemsOfJson?_itemsToJson vs hvs]
    rfl

/-- The pairs of a record are read back if nothing of their values is lost. -/
theorem pairsOfJson?_pairsToJson :
    (pairs : List (String × Literal)) → pairsAreLossless pairs = true →
      pairsOfJson? (pairsToJson pairs) = some pairs
  | [], _ => rfl
  | (key, v) :: ps, h => by
    obtain ⟨hv, hps⟩ := (Bool.and_eq_true _ _).mp h
    rw [pairsToJson, pairsOfJson?, ofJson?_toJson v hv, pairsOfJson?_pairsToJson ps hps]
    rfl

end

/-- The JSON value of a number is readable. -/
theorem readable_numberToJson (n : Number) : (numberToJson n).readable = true := by
  unfold numberToJson
  split
  · rfl
  · split <;> rfl

mutual

/-- The JSON value of a literal is readable. -/
theorem readable_toJson : (v : Literal) → v.toJson.readable = true
  | .null | .undefined | .bool _ | .string _ => rfl
  | .number n => readable_numberToJson n
  | .array items => readable_itemsToJson items
  | .object pairs => readable_pairsToJson pairs

/-- The JSON values of the items of an array are readable. -/
theorem readable_itemsToJson :
    (items : List Literal) → Json.readableItems (itemsToJson items) = true
  | [] => rfl
  | v :: vs => by
    rw [itemsToJson, Json.readableItems, readable_toJson v, readable_itemsToJson vs, Bool.and_self]

/-- The JSON values of the pairs of a record are readable. -/
theorem readable_pairsToJson :
    (pairs : List (String × Literal)) → Json.readableMembers (pairsToJson pairs) = true
  | [] => rfl
  | (_, v) :: ps => by
    rw [pairsToJson, Json.readableMembers, readable_toJson v, readable_pairsToJson ps,
      Bool.and_self]

end

/-- A list of arguments is read back if nothing of them is lost. -/
theorem list?_itemsToJson {args : List Literal} (h : areLossless args = true) :
    Json.list? ofJson? (.array (itemsToJson args)) = some args := by
  rw [Json.list?]
  induction args with
  | nil => rfl
  | cons v vs ih =>
    obtain ⟨hv, hvs⟩ := (Bool.and_eq_true _ _).mp h
    rw [itemsToJson, List.mapM_cons, ofJson?_toJson v hv, ih hvs]
    rfl

end Literal

end Recorder
