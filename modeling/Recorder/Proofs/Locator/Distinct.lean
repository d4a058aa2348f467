import Mathlib.Tactic.Common
import Recorder.Config
import Recorder.Document.Snapshot
import Recorder.Proofs.Locator.Expression
import Recorder.Proofs.Locator.Synthesis
import Recorder.Proofs.Log.Rules

/-!
# Locators of different controls

No two controls of a page share a locator. A locator picks at most one element out of what its query
finds (`Locator.PicksOut.eq`), and what a query finds depends on nothing but the engine, the page
and the container. So targets with one locator have one control
(`effectiveTarget_eq_of_synthesize`), and typing into one control never reaches what was typed into
another one: not with a single entry (`synthesize_separates`), and not with all the typing that
follows (`typed_stays`).
-/

namespace Recorder

/-- A locator picks at most one element out of what its query finds. -/
theorem Locator.PicksOut.eq {l : Locator} {a b : NodeId} {found : List NodeId}
    (ha : l.PicksOut a found) (hb : l.PicksOut b found) : a = b := by
  unfold PicksOut at ha hb
  cases hindex : l.index with
  | none =>
    simp only [hindex] at ha hb
    have hsingle : [a] = [b] := ha.symm.trans hb
    exact List.singleton_inj.1 hsingle
  | some i =>
    simp only [hindex] at ha hb
    obtain ⟨-, ha, -⟩ := ha
    obtain ⟨-, hb, -⟩ := hb
    exact Option.some.inj (ha.symm.trans hb)

namespace Synthesizer

variable {s s₁ s₂ : Synthesizer} {doc : Document} {container t₁ t₂ e₁ e₂ : NodeId}

/-- Targets with one locator have one control. -/
theorem effectiveTarget_eq_of_synthesize {l : Locator} (hengine : s₁.engine = s₂.engine)
    (h₁ : s₁.synthesize doc container t₁ = .ok (some l))
    (h₂ : s₂.synthesize doc container t₂ = .ok (some l))
    (he₁ : doc.effectiveTarget t₁ = .ok e₁) (he₂ : doc.effectiveTarget t₂ = .ok e₂) : e₁ = e₂ := by
  obtain ⟨found₁, hfinds₁, hpick₁⟩ := exists_finds_of_synthesize h₁ he₁
  obtain ⟨found₂, hfinds₂, hpick₂⟩ := exists_finds_of_synthesize h₂ he₂
  -- Both runs ask the query of the one locator, so both elements are picked out of one answer.
  obtain rfl := hfinds₁.eq hengine hfinds₂
  exact hpick₁.eq hpick₂

/-- The locators of different controls do not have the same target. -/
theorem sameTarget_eq_false {l₁ l₂ : Locator} (hengine : s₁.engine = s₂.engine)
    (h₁ : s₁.synthesize doc container t₁ = .ok (some l₁))
    (h₂ : s₂.synthesize doc container t₂ = .ok (some l₂))
    (he₁ : doc.effectiveTarget t₁ = .ok e₁) (he₂ : doc.effectiveTarget t₂ = .ok e₂)
    (hne : e₁ ≠ e₂) : l₁.sameTarget l₂ = false := by
  refine Bool.eq_false_iff.2 fun hsame => hne ?_
  obtain rfl := Locator.eq_of_sameTarget hsame
  exact effectiveTarget_eq_of_synthesize hengine h₁ h₂ he₁ he₂

/-- The locators of different controls do not have the same target, so that typing into the second
control leaves whatever was typed into the first one. The two locators need not be made within the
same time, nor by the same attribute for tests: it is the engine that counts. -/
theorem synthesize_separates {l₁ l₂ : Locator} (hengine : s₁.engine = s₂.engine)
    (h₁ : s₁.synthesize doc container t₁ = .ok (some l₁))
    (h₂ : s₂.synthesize doc container t₂ = .ok (some l₂))
    (he₁ : doc.effectiveTarget t₁ = .ok e₁) (he₂ : doc.effectiveTarget t₂ = .ok e₂)
    (hne : e₁ ≠ e₂) :
    l₁.sameTarget l₂ = false ∧
      ∀ (log : Log) (i : Nat) (old value : String), log.entries[i]? = some ⟨l₁, .type old⟩ →
        (log.record ⟨l₂, .type value⟩).entries[i]? = some ⟨l₁, .type old⟩ := by
  have hsame := sameTarget_eq_false hengine h₁ h₂ he₁ he₂ hne
  exact ⟨hsame, fun log i old value hi => Merge.getElem?_coalesceType hi hsame value⟩

/-- A page with two fields that nothing but their places tells apart. -/
def twoFields : Document :=
  .ofSnapshot ⟨{ tag := "body" }, [.element { tag := "input" } [], .element { tag := "input" } []]⟩

/-- The fields are controls themselves. -/
theorem effectiveTarget_twoFields :
    twoFields.effectiveTarget ⟨1⟩ = .ok ⟨1⟩ ∧ twoFields.effectiveTarget ⟨2⟩ = .ok ⟨2⟩ := by
  rw [Document.effectiveTarget_eq, Document.effectiveTarget_eq]
  exact ⟨congrArg Except.ok (by decide), congrArg Except.ok (by decide)⟩

/-- The query of the two locators is the same one, as the role comes before the path. -/
theorem synthesize_twoFields :
    ({} : Config).synthesizer.synthesize twoFields Document.body ⟨1⟩ =
        .ok (some (.nth (.role "textbox" none) 0)) ∧
      ({} : Config).synthesizer.synthesize twoFields Document.body ⟨2⟩ =
        .ok (some (.nth (.role "textbox" none) 1)) := by
  obtain ⟨he₁, he₂⟩ := effectiveTarget_twoFields
  have hall₁ : ({} : Config).synthesizer.collected twoFields Document.body ⟨1⟩ =
      .ok [⟨.roleWithoutName, .role "textbox" none⟩, ⟨.css, .css "input:nth-child(1)"⟩] :=
    eq_ok_of_toOption_eq_some (by decide +kernel)
  have hall₂ : ({} : Config).synthesizer.collected twoFields Document.body ⟨2⟩ =
      .ok [⟨.roleWithoutName, .role "textbox" none⟩, ⟨.css, .css "input:nth-child(2)"⟩] :=
    eq_ok_of_toOption_eq_some (by decide +kernel)
  constructor
  · exact synthesize_eq_ok (by decide) (by decide) he₁ hall₁ (by decide)
      (eq_ok_of_toOption_eq_some (by decide +kernel))
  · exact synthesize_eq_ok (by decide) (by decide) he₂ hall₂ (by decide)
      (eq_ok_of_toOption_eq_some (by decide +kernel))

/-- Typing into the second field leaves what was typed into the first one, with a pressed Shift key
in between that the search passes over. -/
theorem synthesize_separates_twoFields :
    let first : Locator := .nth (.role "textbox" none) 0
    let second : Locator := .nth (.role "textbox" none) 1
    first.sameTarget second = false ∧
      (Log.record ⟨[⟨first, .type "ann"⟩, ⟨second, .keyDown .shift⟩]⟩
        ⟨second, .type "Bob"⟩).entries[0]? = some ⟨first, .type "ann"⟩ := by
  obtain ⟨he₁, he₂⟩ := effectiveTarget_twoFields
  obtain ⟨h₁, h₂⟩ := synthesize_twoFields
  obtain ⟨hsame, hstays⟩ := synthesize_separates rfl h₁ h₂ he₁ he₂ (by decide)
  exact ⟨hsame, hstays _ 0 "ann" "Bob" rfl⟩

/-! ## All the typing that follows -/

/-- An entry that is a typing into another control of the page. -/
def TypesElsewhere (s : Synthesizer) (doc : Document) (container control : NodeId) (e : Entry) :
    Prop :=
  ∃ target element value, e.event = .type value ∧
    s.synthesize doc container target = .ok (some e.locator) ∧
    doc.effectiveTarget target = .ok element ∧ element ≠ control

/-- However much is typed into the other controls of a page, what was typed into one stays. -/
theorem typed_stays {l : Locator} {control target : NodeId} {typings : List Entry}
    (h : s.synthesize doc container target = .ok (some l))
    (hcontrol : doc.effectiveTarget target = .ok control)
    (htypings : ∀ e ∈ typings, s.TypesElsewhere doc container control e) {log : Log} {i : Nat}
    {value : String} (hi : log.entries[i]? = some ⟨l, .type value⟩) :
    (typings.foldl Log.record log).entries[i]? = some ⟨l, .type value⟩ := by
  induction typings generalizing log with
  | nil => exact hi
  | cons e typings ih =>
    obtain ⟨he, hmore⟩ := List.forall_mem_cons.1 htypings
    obtain ⟨other, event⟩ := e
    obtain ⟨target', element, value', rfl, hother, helement, hne⟩ := he
    have hsame : l.sameTarget other = false :=
      sameTarget_eq_false rfl h hother hcontrol helement hne.symm
    exact ih hmore (Merge.getElem?_coalesceType hi hsame value')

end Synthesizer

end Recorder
