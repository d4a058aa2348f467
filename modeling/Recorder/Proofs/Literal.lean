import Recorder.Literal
import Recorder.Proofs.Text.Quoted
import Recorder.Text.Alphabetic
import Recorder.Text.Word

/-!
# Reading literals back

The source text of a literal without numbers says itself where it ends and which literal it is
(`text_append_inj`), and so does a list of arguments (`argumentsText_append_inj`). So no two lists
have the same source text (`formatArguments_inj`). The keys of records are written without quotes,
so they have to be such that they end at the colon behind them, as names do (`isKey_of_name`).
All lists are written with a comma and a blank between the items; `commaSeparated_append_inj` is the
one argument about them, for whatever the items are.
-/

namespace Recorder

/-- A delimiter that two texts do not hold is found in the same place behind both. -/
theorem Text.append_cons_inj {d : Char} {s t u v : List Char} (hs : d ∉ s) (ht : d ∉ t)
    (h : s ++ d :: u = t ++ d :: v) : s = t ∧ u = v := by
  induction s generalizing t with
  | nil =>
    cases t with
    | nil => exact ⟨rfl, (List.cons.inj h).2⟩
    | cons c t => exact absurd (List.cons.inj h).1 (by simp_all)
  | cons c s ih =>
    cases t with
    | nil => exact absurd (List.cons.inj h).1 (by grind)
    | cons c' t =>
      obtain ⟨rfl, htail⟩ := List.cons.inj h
      obtain ⟨rfl, hrest⟩ := ih (List.not_mem_of_not_mem_cons hs)
        (List.not_mem_of_not_mem_cons ht) htail
      exact ⟨rfl, hrest⟩

/-- Behind the first text each text has the separator in front. -/
theorem Text.intercalate_cons (separator t : List Char) (ts : List (List Char)) :
    separator.intercalate (t :: ts) = t ++ ts.flatMap (separator ++ ·) := by
  induction ts generalizing t with
  | nil => exact (List.intercalate_singleton).trans (List.append_nil t).symm
  | cons t' ts ih => rw [List.intercalate_cons_cons, ih t', List.flatMap_cons, List.append_assoc,
      List.append_assoc]

namespace Literal

/-- Behind the first text each text has a comma and a blank in front. -/
theorem commaSeparated_cons (t : List Char) (ts : List (List Char)) :
    commaSeparated (t :: ts) = t ++ ts.flatMap (',' :: ' ' :: ·) :=
  Text.intercalate_cons [',', ' '] t ts

section Separated

variable {α : Type} {f : α → List Char} {close : Char} {xs ys : List α} {u v : List Char}

/-- Items that each have a comma in front are read back one by one, up to a closing character. -/
theorem flatMap_comma_append_inj (hclose : close ≠ ',')
    (hinj : ∀ x ∈ xs, ∀ y ∈ ys, ∀ u v, f x ++ u = f y ++ v → x = y ∧ u = v)
    (h : xs.flatMap (',' :: ' ' :: f ·) ++ close :: u =
      ys.flatMap (',' :: ' ' :: f ·) ++ close :: v) : xs = ys ∧ u = v := by
  induction xs generalizing ys with
  | nil =>
    cases ys with
    | nil => exact ⟨rfl, (List.cons.inj h).2⟩
    | cons y ys => exact absurd (List.cons.inj h).1 hclose
  | cons x xs ih =>
    cases ys with
    | nil => exact absurd (List.cons.inj h).1.symm hclose
    | cons y ys =>
      simp only [List.flatMap_cons, List.cons_append, List.append_assoc] at h
      obtain ⟨rfl, htail⟩ := hinj x (by simp) y (by simp) _ _ (List.cons.inj (List.cons.inj h).2).2
      obtain ⟨rfl, hrest⟩ := ih (fun x hx y hy => hinj x (by simp [hx]) y (by simp [hy])) htail
      exact ⟨rfl, hrest⟩

/-- A list with commas between its items is read back up to a closing character that no item begins
with. -/
theorem commaSeparated_append_inj (hclose : close ≠ ',')
    (hinj : ∀ x ∈ xs, ∀ y ∈ ys, ∀ u v, f x ++ u = f y ++ v → x = y ∧ u = v)
    (hhead : ∀ x, x ∈ xs ∨ x ∈ ys → ∀ u v, f x ++ u ≠ close :: v)
    (h : commaSeparated (xs.map f) ++ close :: u = commaSeparated (ys.map f) ++ close :: v) :
    xs = ys ∧ u = v := by
  cases xs with
  | nil =>
    cases ys with
    | nil => exact ⟨rfl, (List.cons.inj h).2⟩
    | cons y ys =>
      rw [List.map_cons, commaSeparated_cons, List.append_assoc] at h
      exact absurd h.symm (hhead y (by simp) _ _)
  | cons x xs =>
    cases ys with
    | nil =>
      rw [List.map_cons, commaSeparated_cons, List.append_assoc] at h
      exact absurd h (hhead x (by simp) _ _)
    | cons y ys =>
      simp only [List.map_cons, commaSeparated_cons, List.append_assoc, List.flatMap_map] at h
      obtain ⟨rfl, htail⟩ := hinj x (by simp) y (by simp) _ _ h
      obtain ⟨rfl, hrest⟩ := flatMap_comma_append_inj hclose
        (fun x hx y hy => hinj x (by simp [hx]) y (by simp [hy])) htail
      exact ⟨rfl, hrest⟩

end Separated

/-- A key that is read back without quotes: it is not empty and holds neither a colon nor a
blank. -/
def IsKey (key : String) : Prop :=
  key.toList ≠ [] ∧ ':' ∉ key.toList ∧ ' ' ∉ key.toList

instance (key : String) : Decidable (IsKey key) :=
  inferInstanceAs (Decidable (_ ∧ _ ∧ _))

/-- Names are such keys: letters and digits of any script, `_` and `$`. -/
theorem isKey_of_name {key : String} (hne : key ≠ "")
    (h : ∀ c ∈ key.toList, Text.isAlphabetic c = true ∨ Text.isDecimalDigit c = true ∨ c = '_' ∨
      c = '$') : IsKey key := by
  refine ⟨fun hnil => hne (by simpa using hnil), fun hc => ?_, fun hc => ?_⟩
  · have hcolon := h ':' hc
    revert hcolon
    decide
  · have hblank := h ' ' hc
    revert hblank
    decide

/-- The literals that are read back: without numbers, and with such keys only. -/
inductive Readable : Literal → Prop where
  /-- The value `null`. -/
  | null : Readable .null
  /-- The value `undefined`. -/
  | undefined : Readable .undefined
  /-- A truth value. -/
  | bool (b : Bool) : Readable (.bool b)
  /-- A string. -/
  | string (s : String) : Readable (.string s)
  /-- An array of such literals. -/
  | array {items : List Literal} (h : ∀ v ∈ items, Readable v) : Readable (.array items)
  /-- A record of such literals. -/
  | object {pairs : List (String × Literal)} (hkey : ∀ p ∈ pairs, IsKey p.1)
    (h : ∀ p ∈ pairs, Readable p.2) : Readable (.object pairs)

/-- The texts of the items of an array. -/
theorem itemTexts_eq_map (items : List Literal) : itemTexts items = items.map text := by
  induction items with
  | nil => rfl
  | cons v vs ih => rw [itemTexts, ih, List.map_cons]

/-- The source text of a pair of a record. -/
def pairText (p : String × Literal) : List Char :=
  p.1.toList ++ ':' :: ' ' :: p.2.text

/-- The texts of the pairs of a record. -/
theorem pairTexts_eq_map (pairs : List (String × Literal)) :
    pairTexts pairs = pairs.map pairText := by
  induction pairs with
  | nil => rfl
  | cons p ps ih =>
    obtain ⟨key, v⟩ := p
    rw [pairTexts, ih, List.map_cons, pairText]

/-- The source text of `null`. -/
theorem text_null : null.text = ['n', 'u', 'l', 'l'] := rfl

/-- The source text of `undefined`. -/
theorem text_undefined :
    undefined.text = ['u', 'n', 'd', 'e', 'f', 'i', 'n', 'e', 'd'] := rfl

/-- The source text of a truth value. -/
theorem text_bool (b : Bool) :
    (bool b).text = if b then ['t', 'r', 'u', 'e'] else ['f', 'a', 'l', 's', 'e'] := by
  cases b <;> rfl

/-- The source text of a string. -/
theorem text_string (s : String) : (string s).text = Text.quote s.toList := rfl

/-- The source text of an array. -/
theorem text_array (items : List Literal) :
    (array items).text = '[' :: (commaSeparated (items.map text) ++ [']']) := by
  rw [← itemTexts_eq_map]
  rfl

/-- The source text of a record. -/
theorem text_object (pairs : List (String × Literal)) :
    (object pairs).text = '\x7b' :: ' ' :: (commaSeparated (pairs.map pairText) ++ [' ', '\x7d']) := by
  rw [← pairTexts_eq_map]
  rfl

/-- The first character of the source text of a literal without numbers. -/
def lead : Literal → Char
  | .null => 'n'
  | .undefined => 'u'
  | .bool b => if b then 't' else 'f'
  | .number _ => '0'
  | .string s => Text.quoteOf s.toList
  | .array _ => '['
  | .object _ => '\x7b'

/-- A literal that is read back is told by the first character of its source text. -/
theorem Readable.text_eq_cons {v : Literal} (h : v.Readable) : ∃ rest, v.text = v.lead :: rest := by
  cases h with
  | null => exact ⟨_, text_null⟩
  | undefined => exact ⟨_, text_undefined⟩
  | bool b => cases b <;> exact ⟨_, text_bool _⟩
  | string s => exact ⟨_, text_string s⟩
  | array => exact ⟨_, text_array _⟩
  | object => exact ⟨_, text_object _⟩

/-- Equal source texts, whatever stands behind them, begin with the same character. -/
theorem Readable.lead_eq {a b : Literal} (ha : a.Readable) (hb : b.Readable) {u v : List Char}
    (h : a.text ++ u = b.text ++ v) : a.lead = b.lead := by
  obtain ⟨ra, hta⟩ := ha.text_eq_cons
  obtain ⟨rb, htb⟩ := hb.text_eq_cons
  rw [hta, htb] at h
  exact (List.cons.inj h).1

/-- The source text of a literal that is read back begins with no character that closes a list. -/
theorem Readable.text_append_ne {v : Literal} (h : v.Readable) {close : Char}
    (hclose : close = ']' ∨ close = ')') (s t : List Char) : v.text ++ s ≠ close :: t := by
  obtain ⟨rest, htext⟩ := h.text_eq_cons
  rw [htext]
  intro heq
  have hlead : v.lead = close := (List.cons.inj heq).1
  cases h with
  | bool b => cases b <;> grind [lead]
  | string s => grind [lead, Text.quoteOf, Text.backTick]
  | _ => grind [lead]

/-- The source text of a pair begins with its key, which is no blank. -/
theorem pairText_append_ne {p : String × Literal} (h : IsKey p.1) (s t : List Char) :
    pairText p ++ s ≠ ' ' :: t := by
  obtain ⟨hne, -, hblank⟩ := h
  intro heq
  unfold pairText at heq
  cases hkey : p.1.toList with
  | nil => exact hne hkey
  | cons c cs =>
    rw [hkey] at heq hblank
    exact hblank (by rw [(List.cons.inj heq).1]; simp)

/-- The source text of a pair says where it ends and which pair it is, if that of its value does. -/
theorem pairText_append_inj {p q : String × Literal} (hp : IsKey p.1) (hq : IsKey q.1)
    (hval : ∀ u v, p.2.text ++ u = q.2.text ++ v → p.2 = q.2 ∧ u = v) {u v : List Char}
    (h : pairText p ++ u = pairText q ++ v) : p = q ∧ u = v := by
  simp only [pairText, List.append_assoc, List.cons_append] at h
  obtain ⟨hkey, htail⟩ := Text.append_cons_inj hp.2.1 hq.2.1 h
  obtain ⟨hvalue, hrest⟩ := hval u v (List.cons.inj htail).2
  exact ⟨Prod.ext (String.toList_inj.1 hkey) hvalue, hrest⟩

/-- The source text of a literal without numbers says where it ends and which literal it is. -/
theorem text_append_inj {a b : Literal} (ha : a.Readable) (hb : b.Readable) {u v : List Char}
    (h : a.text ++ u = b.text ++ v) : a = b ∧ u = v := by
  -- Literals of two kinds do not begin with the same character, so the two are of one kind.
  have hlead := ha.lead_eq hb h
  induction ha generalizing b u v with
  | null =>
    cases hb with
    | null => exact ⟨rfl, List.append_cancel_left h⟩
    | _ => grind [lead, Text.quoteOf, Text.backTick]
  | undefined =>
    cases hb with
    | undefined => exact ⟨rfl, List.append_cancel_left h⟩
    | _ => grind [lead, Text.quoteOf, Text.backTick]
  | bool x =>
    cases hb with
    | bool y =>
      obtain rfl : x = y := by cases x <;> cases y <;> grind [lead]
      exact ⟨rfl, List.append_cancel_left h⟩
    | _ => grind [lead, Text.quoteOf, Text.backTick]
  | string s =>
    cases hb with
    | string t =>
      obtain ⟨hst, hrest⟩ := Text.quote_append_inj h
      exact ⟨congrArg string (String.toList_inj.1 hst), hrest⟩
    | _ => grind [lead, Text.quoteOf, Text.backTick]
  | @array xs hitems ih =>
    cases hb with
    | @array ys hys =>
      rw [text_array, text_array, List.cons_append, List.cons_append, List.append_assoc,
        List.append_assoc] at h
      obtain ⟨rfl, hrest⟩ := commaSeparated_append_inj (by decide)
        (fun x hx y hy u v hxy => ih x hx (hys y hy) hxy ((hitems x hx).lead_eq (hys y hy) hxy))
        (fun x hx => (hx.elim (hitems x) (hys x)).text_append_ne (.inl rfl))
        (List.cons.inj h).2
      exact ⟨rfl, hrest⟩
    | _ => grind [lead, Text.quoteOf, Text.backTick]
  | @object ps hkeys hitems ih =>
    cases hb with
    | @object qs hkeys' hqs =>
      rw [text_object, text_object, List.cons_append, List.cons_append, List.cons_append,
        List.cons_append, List.append_assoc, List.append_assoc] at h
      obtain ⟨rfl, hrest⟩ := commaSeparated_append_inj (by decide)
        (fun p hp q hq u v hpq => pairText_append_inj (hkeys p hp) (hkeys' q hq)
          (fun u v huv => ih p hp (hqs q hq) huv ((hitems p hp).lead_eq (hqs q hq) huv)) hpq)
        (fun p hp => pairText_append_ne (hp.elim (hkeys p) (hkeys' p)))
        (List.cons.inj (List.cons.inj h).2).2
      exact ⟨rfl, (List.cons.inj hrest).2⟩
    | _ => grind [lead, Text.quoteOf, Text.backTick]

/-- The source text of a list of arguments, up to the parenthesis that closes it, says which
arguments they are. -/
theorem argumentsText_append_inj {xs ys : List Literal} (hx : ∀ x ∈ xs, x.Readable)
    (hy : ∀ y ∈ ys, y.Readable) {u v : List Char}
    (h : argumentsText xs ++ ')' :: u = argumentsText ys ++ ')' :: v) : xs = ys ∧ u = v := by
  rw [argumentsText, argumentsText, itemTexts_eq_map, itemTexts_eq_map] at h
  exact commaSeparated_append_inj (by decide)
    (fun x hxs y hys _ _ => text_append_inj (hx x hxs) (hy y hys))
    (fun x hxy => (hxy.elim (hx x) (hy x)).text_append_ne (.inr rfl)) h

/-- Lists of arguments without numbers, with keys that are read back at any depth, have the same
source text only if they are the same. -/
theorem formatArguments_inj {xs ys : List Literal} (hx : ∀ x ∈ xs, x.Readable)
    (hy : ∀ y ∈ ys, y.Readable) (h : formatArguments xs = formatArguments ys) : xs = ys := by
  have htext : argumentsText xs = argumentsText ys := String.ofList_injective h
  -- A parenthesis behind both texts is where the last item of each ends.
  have hclosed : argumentsText xs ++ [')'] = argumentsText ys ++ [')'] := by rw [htext]
  exact (argumentsText_append_inj hx hy hclosed).1

/-- An array of strings that hold what stands between strings, and a record with this inside. -/
def nestedSeparators (inner : List (String × Literal)) : List Literal :=
  [.array [.strings ["', '", "]"], .array []], .object [], .object [("straße_1$", .object inner)]]

/-- A record with a repeated key has the source text of one without, so it is merged into that. -/
theorem formatArguments_inj_nestedSeparators :
    (∀ x ∈ nestedSeparators (mergePairs [("x", .null), ("y", .undefined), ("x", .string "\\")]),
        x.Readable) ∧
      (∀ y ∈ nestedSeparators [("x", .string "\\"), ("y", .undefined)], y.Readable) ∧
      formatArguments
          (nestedSeparators (mergePairs [("x", .null), ("y", .undefined), ("x", .string "\\")])) =
        "[['\\', \\'', ']'], []], \x7b  \x7d, \x7b straße_1$: \x7b x: '\\\\', y: undefined \x7d \x7d" ∧
      nestedSeparators (mergePairs [("x", .null), ("y", .undefined), ("x", .string "\\")]) =
        nestedSeparators [("x", .string "\\"), ("y", .undefined)] := by
  have hname : "straße_1$".toList.all (fun c => Text.isAlphabetic c || Text.isDecimalDigit c ||
      c == '_' || c == '$') = true := by decide +kernel
  have hkey : IsKey "straße_1$" := isKey_of_name (by decide) fun c hc => by
    simpa [or_assoc] using List.all_eq_true.1 hname c hc
  have hreadable (inner : List (String × Literal)) (hkeys : ∀ p ∈ inner, IsKey p.1)
      (h : ∀ p ∈ inner, p.2.Readable) : ∀ x ∈ nestedSeparators inner, x.Readable := by
    have hstrings : (Literal.array [.strings ["', '", "]"], .array []]).Readable :=
      .array (by simpa [strings] using ⟨.array (by simpa using ⟨.string _, .string _⟩),
        .array (by simp)⟩)
    have hempty : (Literal.object []).Readable := .object (by simp) (by simp)
    have hinner : (Literal.object inner).Readable := .object hkeys h
    have hnested : (Literal.object [("straße_1$", .object inner)]).Readable :=
      .object (by simpa using hkey) (by simpa using hinner)
    simpa [nestedSeparators] using ⟨hstrings, hempty, hnested⟩
  have hmerged := hreadable (mergePairs [("x", .null), ("y", .undefined), ("x", .string "\\")])
    (by decide) (by simpa [mergePairs, putPair] using ⟨.string _, .undefined⟩)
  have hplain := hreadable [("x", .string "\\"), ("y", .undefined)]
    (by decide) (by simpa using ⟨.string _, .undefined⟩)
  exact ⟨hmerged, hplain, by decide +kernel, formatArguments_inj hmerged hplain (by decide +kernel)⟩

end Literal

end Recorder
