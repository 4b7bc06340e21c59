import Mathlib.Logic.Relation
import Mathlib.Data.List.Basic

/-!
# Runs of a labelled step relation

A component is a step relation `step : State → Label → State → Prop`, and everything said about it over time is said about its runs. A run carries the list of its labels, so a statement can speak of what happened before a step as well as of the state it reached. The rules here are the ones every state machine of this development uses: runs compose, an invariant of one step is an invariant of a run, and so is an invariant that also reads the labels so far. A condition on the steps of a run is a step relation of its own, `Guarded`.
-/

namespace FrontPanel

variable {State Label : Type*}

/-- `Run step before labels after`: the labels name consecutive steps from `before` to `after`. -/
inductive Run (step : State → Label → State → Prop) : State → List Label → State → Prop
  | nil (state : State) : Run step state [] state
  | cons {before middle after : State} {label : Label} {labels : List Label}
      (head : step before label middle) (tail : Run step middle labels after) :
      Run step before (label :: labels) after

namespace Run

variable {step : State → Label → State → Prop} {before middle after : State}
  {label : Label} {labels left right : List Label}

@[simp] theorem nil_iff : Run step before [] after ↔ after = before := by
  constructor
  · intro hrun
    cases hrun
    rfl
  · intro hsame
    obtain rfl := hsame
    exact .nil _

theorem cons_iff : Run step before (label :: labels) after ↔
    ∃ middle, step before label middle ∧ Run step middle labels after := by
  constructor
  · intro hrun
    cases hrun with
    | cons head tail => exact ⟨_, head, tail⟩
  · intro hgiven
    obtain ⟨_, head, tail⟩ := hgiven
    exact .cons head tail

theorem append_iff : Run step before (left ++ right) after ↔
    ∃ middle, Run step before left middle ∧ Run step middle right after := by
  induction left generalizing before with
  | nil => simp
  | cons label left ih =>
      simp only [List.cons_append, cons_iff, ih]
      constructor
      · intro hgiven
        obtain ⟨next, hstep, middle, hleft, hright⟩ := hgiven
        exact ⟨middle, ⟨next, hstep, hleft⟩, hright⟩
      · intro hgiven
        obtain ⟨middle, ⟨next, hstep, hleft⟩, hright⟩ := hgiven
        exact ⟨next, hstep, middle, hleft, hright⟩

theorem single (hstep : step before label after) : Run step before [label] after :=
  .cons hstep (.nil _)

theorem append (hleft : Run step before left middle) (hright : Run step middle right after) :
    Run step before (left ++ right) after :=
  append_iff.mpr ⟨middle, hleft, hright⟩

theorem snoc_iff : Run step before (labels ++ [label]) after ↔
    ∃ middle, Run step before labels middle ∧ step middle label after := by
  simp [append_iff, cons_iff]

theorem exists_append {property : State → Prop} (hleft : ∃ labels, Run step before labels middle)
    (hright : ∃ labels after, Run step middle labels after ∧ property after) :
    ∃ labels after, Run step before labels after ∧ property after := by
  obtain ⟨left, hleft⟩ := hleft
  obtain ⟨right, after, hright, hafter⟩ := hright
  exact ⟨left ++ right, after, hleft.append hright, hafter⟩

/-- The invariant rule: what every step keeps, every run keeps. -/
theorem invariant {Inv : State → Prop}
    (hstep : ∀ before label after, Inv before → step before label after → Inv after)
    (hrun : Run step before labels after) (hbefore : Inv before) : Inv after := by
  induction hrun with
  | nil => exact hbefore
  | cons head _ ih => exact ih (hstep _ _ _ hbefore head)

/-- The invariant rule for a property that also reads the labels passed so far. -/
theorem history_invariant (Inv : List Label → State → Prop)
    (hstep : ∀ passed before label after, Inv passed before → step before label after →
      Inv (passed ++ [label]) after)
    (hrun : Run step before labels after) (hbefore : Inv [] before) : Inv labels after := by
  suffices hgeneral : ∀ passed, Inv passed before → Inv (passed ++ labels) after by
    simpa using hgeneral [] hbefore
  clear hbefore
  induction hrun with
  | nil =>
      intro passed hpassed
      simpa using hpassed
  | cons head _ ih =>
      intro passed hpassed
      have hnext := ih _ (hstep _ _ _ _ hpassed head)
      simpa using hnext

/-- The simulation rule: if every step from related states is matched by a step of the specification with the same label, every run is a run of the specification. -/
theorem simulation {Spec : Type*} {spec : Spec → Label → Spec → Prop} {Related : State → Spec → Prop}
    (hstep : ∀ before label after abstract, Related before abstract → step before label after →
      ∃ abstract', spec abstract label abstract' ∧ Related after abstract')
    {abstract : Spec} (hrun : Run step before labels after) (hrelated : Related before abstract) :
    ∃ abstract', Run spec abstract labels abstract' ∧ Related after abstract' := by
  induction hrun generalizing abstract with
  | nil => exact ⟨abstract, .nil _, hrelated⟩
  | cons head _ ih =>
      obtain ⟨next, hspec, hnext⟩ := hstep _ _ _ _ hrelated head
      obtain ⟨final, hrest, hfinal⟩ := ih hnext
      exact ⟨final, .cons hspec hrest, hfinal⟩

end Run

/-- The steps of `step` that are taken where `condition` allows their label. -/
def Guarded (step : State → Label → State → Prop) (condition : State → Label → Prop) :
    State → Label → State → Prop :=
  fun before label after => step before label after ∧ condition before label

theorem Run.unguarded {step : State → Label → State → Prop} {condition : State → Label → Prop}
    {before after : State} {labels : List Label}
    (hrun : Run (Guarded step condition) before labels after) : Run step before labels after := by
  induction hrun with
  | nil => exact .nil _
  | cons head _ ih => exact .cons head.1 ih

/-- A condition on the labels alone can be checked on the list of labels. -/
theorem Run.guarded {step : State → Label → State → Prop} {condition : Label → Prop}
    {before after : State} {labels : List Label} (hrun : Run step before labels after)
    (hlabels : ∀ label ∈ labels, condition label) :
    Run (Guarded step fun _ label => condition label) before labels after := by
  induction hrun with
  | nil => exact .nil _
  | cons head _ ih =>
      exact .cons ⟨head, hlabels _ List.mem_cons_self⟩
        (ih fun label hmem => hlabels label (List.mem_cons_of_mem _ hmem))

theorem Run.guarded_of_forall {step : State → Label → State → Prop}
    {condition : State → Label → Prop} {before after : State} {labels : List Label}
    (hrun : Run step before labels after)
    (hlabels : ∀ label ∈ labels, ∀ state, condition state label) :
    Run (Guarded step condition) before labels after := by
  induction hrun with
  | nil => exact .nil _
  | cons head _ ih =>
      exact .cons ⟨head, hlabels _ List.mem_cons_self _⟩
        (ih fun label hmem => hlabels label (List.mem_cons_of_mem _ hmem))

end FrontPanel
