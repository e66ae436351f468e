import Mathlib.Tactic.Common

/-!
# Runs of a machine

A machine that takes one step for each event, whatever the order of the events.
`Along` says what every step of a run has; `Along.of_invariant` derives it from an
invariant that the steps keep as long as they meet a guard, and `Along.run` gives the
invariant at the end of such a run.  `Along.states_iff_of_step` is the rule for a property
that the guard characterises.
-/

namespace Machine

variable {S E : Type*} (step : S → E → S)

/-- The state behind a run. -/
def run (s : S) (es : List E) : S := es.foldl step s

@[simp] lemma run_nil (s : S) : run step s [] = s := rfl

@[simp] lemma run_cons (s : S) (e : E) (es : List E) :
    run step s (e :: es) = run step (step s e) es := rfl

lemma run_append (s : S) (es fs : List E) :
    run step s (es ++ fs) = run step (run step s es) fs :=
  List.foldl_append

/-- Every step of a run, given by its state and its event, has a property. -/
def Along (P : S → E → Prop) : S → List E → Prop
  | _, [] => True
  | s, e :: es => P s e ∧ Along P (step s e) es

instance decidableAlong (P : S → E → Prop) [∀ s e, Decidable (P s e)] :
    ∀ s es, Decidable (Along step P s es)
  | _, [] => isTrue trivial
  | s, e :: es =>
      have := decidableAlong P (step s e) es
      inferInstanceAs (Decidable (P s e ∧ Along step P (step s e) es))

namespace Along

variable {step} {P : S → E → Prop} {s : S} {es : List E}

@[simp] lemma nil : Along step P s [] := trivial

@[simp] lemma cons {e : E} : Along step P s (e :: es) ↔ P s e ∧ Along step P (step s e) es :=
  Iff.rfl

lemma append {fs : List E} : Along step P s (es ++ fs) ↔
    Along step P s es ∧ Along step P (Machine.run step s es) fs := by
  induction es generalizing s with
  | nil => exact (and_iff_right trivial).symm
  | cons e es ih => rw [List.cons_append, cons, cons, ih, run_cons, and_assoc]

/-- What all steps keep. -/
lemma run_always {Q : S → Prop} (hstay : ∀ s e, Q s → Q (step s e)) (hs : Q s) :
    Q (Machine.run step s es) := by
  induction es generalizing s with
  | nil => exact hs
  | cons e es ih => exact ih (hstay s e hs)

variable {Inv : S → Prop} (hkeep : ∀ s e, Inv s → P s e → Inv (step s e))
include hkeep

/-- An invariant of the guarded steps holds at the end of a guarded run. -/
theorem run (hs : Inv s) (h : Along step P s es) : Inv (Machine.run step s es) := by
  induction es generalizing s with
  | nil => exact hs
  | cons e es ih => exact ih (hkeep s e hs h.1) h.2

/-- What the guarded steps have in the states of an invariant, a guarded run has all
along. -/
theorem of_invariant {Q : S → E → Prop} (hstep : ∀ s e, Inv s → P s e → Q s e) (hs : Inv s)
    (h : Along step P s es) : Along step Q s es := by
  induction es generalizing s with
  | nil => trivial
  | cons e es ih => exact ⟨hstep s e hs h.1, ih (hkeep s e hs h.1) h.2⟩

/-- A step that does not meet the guard leads into a trap: a run with such a step ends there. -/
theorem trapped {Trap : S → Prop} (hfall : ∀ s e, Inv s → ¬ P s e → Trap (step s e))
    (hstay : ∀ s e, Trap s → Trap (step s e)) (hs : Inv s) (h : ¬ Along step P s es) :
    Trap (Machine.run step s es) := by
  induction es generalizing s with
  | nil => exact absurd trivial h
  | cons e es ih =>
      by_cases he : P s e
      · exact ih (hkeep s e hs he) fun hrest => h ⟨he, hrest⟩
      · rw [run_cons]
        exact run_always hstay (hfall s e hs he)

omit hkeep in
/-- A property of all the states of a run. -/
theorem states_iff {Q : S → Prop} :
    (∀ past, past <+: es → Q (Machine.run step s past)) ↔
      Q s ∧ Along step (fun s e => Q (step s e)) s es := by
  induction es generalizing s with
  | nil =>
      constructor
      · intro h
        exact ⟨h [] (List.prefix_refl _), trivial⟩
      · rintro ⟨hs, -⟩ past hpast
        rwa [List.prefix_nil.mp hpast]
  | cons e es ih =>
      constructor
      · intro h
        have hrest := ih.mp fun past hpast => h (e :: past) ((List.prefix_cons_inj e).mpr hpast)
        exact ⟨h [] List.nil_prefix, hrest⟩
      · rintro ⟨hs, hrest⟩ past hpast
        rcases List.prefix_cons_iff.mp hpast with rfl | ⟨past', rfl, hpast'⟩
        · exact hs
        · exact ih.mpr hrest past' hpast'

omit hkeep in
/-- A property that a step keeps exactly if it meets a guard holds in all the states of a
run exactly if all its steps meet the guard. -/
theorem states_iff_of_step {Q : S → Prop}
    (hstep : ∀ s e, Inv s → Q s → Inv (step s e) ∧ (Q (step s e) ↔ P s e)) (hs : Inv s)
    (hq : Q s) : (∀ past, past <+: es → Q (Machine.run step s past)) ↔ Along step P s es := by
  refine states_iff.trans ?_
  constructor
  · rintro ⟨-, h⟩
    have hkeep : ∀ s e, Inv s ∧ Q s → Q (step s e) → Inv (step s e) ∧ Q (step s e) := by
      rintro s e ⟨hs, hq⟩ hnext
      exact ⟨(hstep s e hs hq).1, hnext⟩
    exact of_invariant hkeep (fun s e h hnext => (hstep s e h.1 h.2).2.mp hnext) ⟨hs, hq⟩ h
  · intro h
    have hkeep : ∀ s e, Inv s ∧ Q s → P s e → Inv (step s e) ∧ Q (step s e) := by
      rintro s e ⟨hs, hq⟩ hguard
      exact ⟨(hstep s e hs hq).1, (hstep s e hs hq).2.mpr hguard⟩
    exact ⟨hq, of_invariant hkeep (fun s e h hguard => (hkeep s e h hguard).2) ⟨hs, hq⟩ h⟩

end Along

end Machine
