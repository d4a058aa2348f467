import Mathlib.Data.List.DropRight
import Mathlib.Tactic.Common
import Recorder.Proofs.Selector.Condition
import Recorder.Story

/-!
# Export names of stories

Four steps make an export name, and none of them loses, adds or moves a letter: what is dropped in
front and what may not stay are no letters (`capitals_dropLeading`, `capitals_filter_isNameChar`),
and where words are joined each letter keeps its place, some of them in upper case (`Joins`). What
is joined are letters and digits, and the separators behind the last of them stay (`exists_joins`).

A name in front of which more than one separator stands can begin with a digit, since only one
character is dropped in front of the digits. So an export name is an identifier exactly if what is
left of the name before words are joined ends in no separator and has a letter behind those in front
(`isIdentifier_exportName_iff`).
-/

namespace Recorder.Story

open Text (isDecimalDigit upperChar)

/-! ## Letters and digits -/

/-- Whether the character is a letter or a digit. -/
def isIdentifierChar (c : Char) : Bool :=
  isLetter c || c.isDigit

/-- The letters of a text, in order and in upper case. -/
def capitals (cs : List Char) : List Char :=
  (cs.filter isLetter).flatMap upperChar

/-- A text that starts with a letter and holds only letters and digits. -/
def IsIdentifier (cs : List Char) : Prop :=
  (∃ c ∈ cs.head?, isLetter c = true) ∧ ∀ c ∈ cs, isIdentifierChar c = true

/-- What holds of all ASCII letters and digits and of the two other letters holds of all letters and
digits. -/
theorem of_isIdentifierChar {p : Char → Prop}
    (hascii : ∀ n < 0x80, isIdentifierChar (Char.ofNat n) = true → p (Char.ofNat n))
    (hlong : p 'ſ') (hkelvin : p '\u212a') {c : Char} (h : isIdentifierChar c = true) : p c := by
  by_cases hother : c = 'ſ' ∨ c = '\u212a'
  · rcases hother with rfl | rfl
    · exact hlong
    · exact hkelvin
  · have halnum : c.isAlphanum = true := by
      simpa [isIdentifierChar, isLetter, hother, Char.isAlphanum, or_assoc] using h
    exact Selector.of_ascii (p := fun c => isIdentifierChar c = true → p c) hascii
      (Selector.toNat_lt_of_isAlphanum halnum) h

/-- The upper-case form of a letter or digit. -/
def capital (c : Char) : Char :=
  (upperChar c).headD c

/-- A letter or digit has one character for its upper-case form, which is a letter or a digit as it
is, and has itself for its upper-case form. -/
theorem capital_spec {c : Char} (h : isIdentifierChar c = true) :
    upperChar c = [capital c] ∧ isLetter (capital c) = isLetter c ∧
      (capital c).isDigit = c.isDigit ∧ upperChar (capital c) = [capital c] :=
  of_isIdentifierChar (p := fun c => upperChar c = [capital c] ∧
    isLetter (capital c) = isLetter c ∧ (capital c).isDigit = c.isDigit ∧
      upperChar (capital c) = [capital c])
    (by decide +kernel) (by decide +kernel) (by decide +kernel) h

/-- No decimal digit is a letter. -/
theorem isLetter_of_isDecimalDigit {c : Char} (h : isDecimalDigit c = true) :
    isLetter c = false := by
  by_contra hletter
  have hchar : isIdentifierChar c = true := by simp_all [isIdentifierChar]
  have hdigit : isLetter c = true → isDecimalDigit c = false :=
    of_isIdentifierChar (p := fun c => isLetter c = true → isDecimalDigit c = false)
      (by decide +kernel) (by decide +kernel) (by decide +kernel) hchar
  rw [hdigit (by simpa using hletter)] at h
  cases h

/-- No separator is a letter or a digit. -/
theorem isIdentifierChar_of_isSeparator {c : Char} (h : isSeparator c = true) :
    isIdentifierChar c = false := by
  rcases isSeparator_iff.1 h with rfl | rfl | rfl <;> decide

/-- No letter or digit is a separator. -/
theorem isSeparator_of_isIdentifierChar {c : Char} (h : isIdentifierChar c = true) :
    isSeparator c = false := by
  by_contra hseparator
  rw [isIdentifierChar_of_isSeparator (by simpa using hseparator)] at h
  cases h

/-- No separator is a letter. -/
theorem isLetter_of_isSeparator {c : Char} (h : isSeparator c = true) : isLetter c = false :=
  (Bool.or_eq_false_iff.1 (isIdentifierChar_of_isSeparator h)).1

/-! ## The letters of a text -/

/-- The letters of two texts one behind the other. -/
theorem capitals_append (cs ds : List Char) : capitals (cs ++ ds) = capitals cs ++ capitals ds := by
  rw [capitals, List.filter_append, List.flatMap_append, capitals, capitals]

/-- A letter stands in front of the others. -/
theorem capitals_cons (c : Char) (cs : List Char) :
    capitals (c :: cs) = (if isLetter c then upperChar c else []) ++ capitals cs := by
  cases h : isLetter c <;> simp [capitals, h]

/-- A character that is no letter adds none. -/
theorem capitals_cons_of_not_isLetter {c : Char} (h : isLetter c = false) (cs : List Char) :
    capitals (c :: cs) = capitals cs := by
  simp [capitals_cons, h]

/-- Where there are no letters, there are no capitals. -/
theorem capitals_eq_nil {cs : List Char} (h : ∀ c ∈ cs, isLetter c = false) : capitals cs = [] := by
  rw [capitals, List.filter_eq_nil_iff.2 (by simpa using h), List.flatMap_nil]

/-- What is dropped in front of a name are no letters. -/
theorem capitals_dropLeading (cs : List Char) : capitals (dropLeading cs) = capitals cs := by
  have hdigits (ds : List Char) : capitals (ds.dropWhile isDecimalDigit) = capitals ds := by
    have hnone : capitals (ds.takeWhile isDecimalDigit) = [] :=
      capitals_eq_nil fun c hc => isLetter_of_isDecimalDigit (List.mem_takeWhile_imp hc)
    calc capitals (ds.dropWhile isDecimalDigit)
        = capitals (ds.takeWhile isDecimalDigit ++ ds.dropWhile isDecimalDigit) := by
          rw [capitals_append, hnone, List.nil_append]
      _ = capitals ds := by rw [List.takeWhile_append_dropWhile]
  unfold dropLeading
  cases cs with
  | nil => rfl
  | cons c rest =>
    cases h : isLetter c with
    | true => simp [h, hdigits]
    | false => simp [h, hdigits, capitals_cons_of_not_isLetter h]

/-- What may not stay in a name are no letters. -/
theorem capitals_filter_isNameChar (cs : List Char) :
    capitals (cs.filter isNameChar) = capitals cs := by
  have hletter (c : Char) : (isLetter c && isNameChar c) = isLetter c := by
    cases h : isLetter c <;> simp [isNameChar, h]
  rw [capitals, List.filter_filter, capitals]
  simp only [hletter]

/-! ## Joining words -/

/-- What becomes of the words of a text: letters and digits, with the letters of the text, of which
the first is a letter exactly if it is one in the text. -/
structure Joins (cs run : List Char) : Prop where
  /-- There are letters and digits only. -/
  forall_mem : ∀ c ∈ run, isIdentifierChar c = true
  /-- The letters are those of the text. -/
  capitals_eq : capitals run = capitals cs
  /-- The first one is a letter if the first one in the text is, behind separators. -/
  head?_eq : run.head?.map isLetter = (cs.dropWhile isSeparator).head?.map isLetter

namespace Joins

/-- Nothing becomes of nothing. -/
theorem nil : Joins [] [] where
  forall_mem := by simp
  capitals_eq := rfl
  head?_eq := rfl

/-- Nothing becomes of a separator. -/
theorem separator {c : Char} (hc : isSeparator c = true) {cs run : List Char} (h : Joins cs run) :
    Joins (c :: cs) run where
  forall_mem := h.forall_mem
  capitals_eq := by rw [capitals_cons_of_not_isLetter (isLetter_of_isSeparator hc), h.capitals_eq]
  head?_eq := by rw [List.dropWhile_cons_of_pos hc, h.head?_eq]

/-- A letter or digit stays or is written in upper case. -/
theorem cons {c d : Char} (hc : isIdentifierChar c = true) (hd : d = c ∨ d = capital c)
    {cs run : List Char} (h : Joins cs run) : Joins (c :: cs) (d :: run) := by
  have hsame : isLetter d = isLetter c ∧ d.isDigit = c.isDigit ∧ upperChar d = upperChar c := by
    obtain ⟨hupper, hletter, hdigit, hstays⟩ := capital_spec hc
    rcases hd with rfl | rfl
    · exact ⟨rfl, rfl, rfl⟩
    · exact ⟨hletter, hdigit, hstays.trans hupper.symm⟩
  obtain ⟨hletter, hdigit, hupper⟩ := hsame
  refine ⟨?_, ?_, ?_⟩
  · have hchar : isIdentifierChar d = true := by
      rw [isIdentifierChar, hletter, hdigit]
      exact hc
    simpa [hchar] using h.forall_mem
  · rw [capitals_cons, hletter, hupper, h.capitals_eq, capitals_cons]
  · simp [isSeparator_of_isIdentifierChar hc, hletter]

/-- The words begin with a letter, if with anything, exactly if the text does behind separators. -/
theorem isLetter_head?_iff {cs run : List Char} (h : Joins cs run) :
    (∀ c ∈ run.head?, isLetter c = true) ↔
      ∀ c ∈ (cs.dropWhile isSeparator).head?, isLetter c = true := by
  have hmap (first : Option Char) : (∀ c ∈ first, isLetter c = true) ↔
      ∀ letter ∈ first.map isLetter, letter = true := by
    cases first <;> simp
  rw [hmap, h.head?_eq, ← hmap]

end Joins

/-- Separators in front of a letter or digit are not among those at the end. -/
theorem rtakeWhile_append_cons {c : Char} (hc : isSeparator c = false) (before after : List Char) :
    (before ++ c :: after).rtakeWhile isSeparator = after.rtakeWhile isSeparator := by
  rw [List.rtakeWhile, List.reverse_append, List.reverse_cons, List.append_assoc,
    List.takeWhile_append, List.rtakeWhile]
  split
  · next hall =>
    rw [(List.takeWhile_prefix isSeparator).eq_of_length hall]
    simp [hc]
  · rfl

/-- A text has no separators at the end exactly if its last character is none. -/
theorem rtakeWhile_isSeparator_eq_nil_iff (cs : List Char) :
    cs.rtakeWhile isSeparator = [] ↔ ∀ c ∈ cs.getLast?, isSeparator c = false := by
  rw [List.rtakeWhile_eq_nil_iff]
  cases hlast : cs.getLast? with
  | none => simp [List.getLast?_eq_none_iff.1 hlast]
  | some c =>
    obtain ⟨before, rfl⟩ := List.getLast?_eq_some_iff.1 hlast
    simp

/-- Letters and digits with separators behind them are nothing or an identifier exactly if there are
no separators and a letter is the first. -/
theorem isIdentifier_append_iff {run separators : List Char}
    (hrun : ∀ c ∈ run, isIdentifierChar c = true) (hends : ∀ c ∈ separators, isSeparator c = true) :
    (run ++ separators = [] ∨ IsIdentifier (run ++ separators)) ↔
      separators = [] ∧ ∀ c ∈ run.head?, isLetter c = true := by
  constructor
  · rintro (hempty | ⟨⟨c, hc, hletter⟩, hall⟩)
    · obtain ⟨rfl, rfl⟩ := List.append_eq_nil_iff.1 hempty
      simp
    · -- A separator at the end is neither a letter nor a digit.
      have hnone : separators = [] := List.eq_nil_iff_forall_not_mem.2 fun d hd => by
        have hchar := hall d (List.mem_append_right _ hd)
        rw [isIdentifierChar_of_isSeparator (hends d hd)] at hchar
        cases hchar
      refine ⟨hnone, fun d hd => ?_⟩
      rw [hnone, List.append_nil] at hc
      obtain rfl := Option.mem_unique hc hd
      exact hletter
  · rintro ⟨rfl, hletter⟩
    rw [List.append_nil]
    cases run with
    | nil => exact .inl rfl
    | cons c rest => exact .inr ⟨⟨c, rfl, hletter c rfl⟩, hrun⟩

/-- Where words are joined, letters and digits stand in front of the separators that the text ends
in. -/
theorem exists_joins {cs : List Char} (hcs : ∀ c ∈ cs, isNameChar c = true) {pending : List Char}
    (hpending : ∀ c ∈ pending, isSeparator c = true) :
    ∃ run, Joins cs run ∧
      joinWords pending cs = run ++ (pending ++ cs).rtakeWhile isSeparator := by
  induction cs generalizing pending with
  | nil =>
    refine ⟨[], .nil, ?_⟩
    rw [joinWords, List.append_nil, List.rtakeWhile_eq_self_iff.2 hpending, List.nil_append]
  | cons c cs ih =>
    obtain ⟨hc, hcs⟩ := List.forall_mem_cons.1 hcs
    cases hseparator : isSeparator c with
    | true =>
      have hmore : ∀ d ∈ pending ++ [c], isSeparator d = true :=
        List.forall_mem_append.2 ⟨hpending, by simpa using hseparator⟩
      obtain ⟨run, hrun, hjoin⟩ := ih hcs hmore
      refine ⟨run, hrun.separator hseparator, ?_⟩
      rw [joinWords, if_pos hseparator, hjoin, List.append_assoc, List.singleton_append]
    | false =>
      have hnone : ∀ d ∈ [], isSeparator d = true := by simp
      obtain ⟨run, hrun, hjoin⟩ := ih hcs hnone
      have hword : isIdentifierChar c = true := by
        simpa [isNameChar, isIdentifierChar, hseparator] using hc
      rw [joinWords, if_neg (by simp [hseparator]), hjoin, (capital_spec hword).1, List.nil_append,
        rtakeWhile_append_cons hseparator]
      split
      · exact ⟨c :: run, hrun.cons hword (.inl rfl), by simp⟩
      · exact ⟨capital c :: run, hrun.cons hword (.inr rfl), by simp⟩

/-! ## Export names -/

/-- What is left of a name before words are joined. -/
def kept (name : List Char) : List Char :=
  (dropLeading name).filter isNameChar

/-- An export name is made of letters and digits and of the separators that are left at the end. -/
theorem exists_exportName_eq (name : List Char) :
    ∃ run, Joins (kept name) run ∧ exportName name = run ++ (kept name).rtakeWhile isSeparator :=
  exists_joins (fun _ hc => (List.mem_filter.1 hc).2) (by simp)

/-- An export name is a run of letters and digits, with separators behind it and nowhere else, and
its letters are those of the name, in the same order, up to their case. Letters are those of ASCII,
U+017F and U+212A, and separators the hyphen, the underscore and the blank. -/
theorem exportName_camelCase (name : List Char) :
    (∀ c, isLetter c = true ↔
      ('A' ≤ c ∧ c ≤ 'Z') ∨ ('a' ≤ c ∧ c ≤ 'z') ∨ c = '\u017f' ∨ c = '\u212a') ∧
    (∀ c, isSeparator c = true ↔ c = '-' ∨ c = '_' ∨ c = ' ') ∧
    (∃ run separators, exportName name = run ++ separators ∧
      (∀ c ∈ run, isLetter c = true ∨ c.isDigit = true) ∧
      ∀ c ∈ separators, isSeparator c = true) ∧
    (exportName name).Pairwise (fun a b => isSeparator a = true →
      isLetter b = false ∧ b.isDigit = false) ∧
    ((exportName name).filter isLetter).flatMap upperChar =
      (name.filter isLetter).flatMap upperChar := by
  obtain ⟨run, hrun, hname⟩ := exists_exportName_eq name
  have hseparators : ∀ c ∈ (kept name).rtakeWhile isSeparator, isSeparator c = true :=
    fun c hc => List.mem_rtakeWhile_imp hc
  refine ⟨fun c => isLetter_iff, fun c => isSeparator_iff,
    ⟨run, _, hname, fun c hc => ?_, hseparators⟩, ?_, ?_⟩
  · simpa [isIdentifierChar] using hrun.forall_mem c hc
  · have hwords : ∀ c ∈ run, ¬ isSeparator c = true := fun c hc => by
      simp [isSeparator_of_isIdentifierChar (hrun.forall_mem c hc)]
    have hends : ∀ c ∈ (kept name).rtakeWhile isSeparator,
        isLetter c = false ∧ c.isDigit = false := fun c hc =>
      Bool.or_eq_false_iff.1 (isIdentifierChar_of_isSeparator (hseparators c hc))
    rw [hname]
    refine List.pairwise_append.2 ⟨?_, ?_, fun a ha _ _ hseparator =>
      absurd hseparator (hwords a ha)⟩
    · exact List.pairwise_of_forall_mem_list fun a ha _ _ hseparator =>
        absurd hseparator (hwords a ha)
    · exact List.pairwise_of_forall_mem_list fun _ _ b hb _ => hends b hb
  · calc capitals (exportName name)
        = capitals run := by
          rw [hname, capitals_append,
            capitals_eq_nil fun c hc => isLetter_of_isSeparator (hseparators c hc), List.append_nil]
      _ = capitals (kept name) := hrun.capitals_eq
      _ = capitals name := by rw [kept, capitals_filter_isNameChar, capitals_dropLeading]

/-- The export name of a name is empty, and then it has no names at all, or it is an identifier,
exactly if what is left of the name before words are joined ends in no separator and has a letter
behind the separators in front. -/
theorem isIdentifier_exportName_iff (name : String) :
    (exportName name.toList = [] ∧ names? name = none ∨ IsIdentifier (exportName name.toList)) ↔
      (∀ c ∈ (kept name.toList).getLast?, isSeparator c = false) ∧
        ∀ c ∈ ((kept name.toList).dropWhile isSeparator).head?, isLetter c = true := by
  obtain ⟨run, hrun, hname⟩ := exists_exportName_eq name.toList
  have hnames : exportName name.toList = [] → names? name = none := fun hempty => by
    simp [names?, hempty]
  rw [and_iff_left_of_imp hnames, hname,
    isIdentifier_append_iff hrun.forall_mem fun _ hc => List.mem_rtakeWhile_imp hc,
    rtakeWhile_isSeparator_eq_nil_iff, hrun.isLetter_head?_iff]

/-- Two separators in front hide the digit behind them, which is then the first character. -/
theorem not_isIdentifier_exportName_twoHyphens :
    exportName "--1a".toList = "1a".toList ∧
      ¬ (exportName "--1a".toList = [] ∧ names? "--1a" = none ∨
        IsIdentifier (exportName "--1a".toList)) := by
  have hname : exportName "--1a".toList = "1a".toList := by decide +kernel
  refine ⟨hname, ?_⟩
  rw [hname]
  rintro (⟨hempty, -⟩ | ⟨⟨c, hc, hletter⟩, -⟩)
  · cases hempty
  · obtain rfl : '1' = c := Option.some.inj hc
    exact absurd hletter (by decide)

end Recorder.Story
