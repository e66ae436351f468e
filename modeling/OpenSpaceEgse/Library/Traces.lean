import OpenSpaceEgse.Library.Runs
import Mathlib.Data.List.Basic

/-!
# What a run puts out

A machine that puts something out in every step, and `trace`, all that a run puts out.
`trace_history` is the rule for an invariant between a state and the trace that led to it.
Two shapes of it come up again and again: a store, from which everything that was put in
is taken in the same order or is still there (`conserved`), and a part of the machine that
turns what it is fed into what it emits, however that is cut into steps (`transduced`).
-/

namespace Machine

variable {S E α β R : Type*} (step : S → E → S)

/-- What the steps of a run put out, one after the other. -/
def trace (out : S → E → List α) : S → List E → List α
  | _, [] => []
  | s, e :: es => out s e ++ trace out (step s e) es

section Trace

variable {step} {out : S → E → List α} {s : S} {es : List E}

@[simp] lemma trace_nil : trace step out s [] = [] := rfl

@[simp] lemma trace_cons {e : E} :
    trace step out s (e :: es) = out s e ++ trace step out (step s e) es := rfl

lemma trace_append (fs : List E) :
    trace step out s (es ++ fs) = trace step out s es ++ trace step out (run step s es) fs := by
  induction es generalizing s with
  | nil => rfl
  | cons e es ih => simp only [List.cons_append, trace_cons, ih, List.append_assoc, run_cons]

/-- Looking only at some of what is put out. -/
lemma filterMap_trace (f : α → Option β) :
    (trace step out s es).filterMap f = trace step (fun s e => (out s e).filterMap f) s es := by
  induction es generalizing s with
  | nil => rfl
  | cons e es ih => rw [trace_cons, trace_cons, List.filterMap_append, ih]

lemma flatMap_trace (f : α → List β) :
    (trace step out s es).flatMap f = trace step (fun s e => (out s e).flatMap f) s es := by
  induction es generalizing s with
  | nil => rfl
  | cons e es ih => rw [trace_cons, trace_cons, List.flatMap_append, ih]

end Trace

/-- What an event of the run has in every state. -/
lemma Along.of_mem {P : S → E → Prop} {s : S} {es : List E} (h : ∀ e ∈ es, ∀ s, P s e) :
    Along step P s es := by
  induction es generalizing s with
  | nil => trivial
  | cons e es ih => exact ⟨h e (by simp) s, ih fun e' he' => h e' (by simp [he'])⟩

/-- No guard. -/
lemma Along.always (s : S) (es : List E) : Along step (fun _ _ => True) s es :=
  Along.of_mem step fun _ _ _ => trivial

lemma trace_eq_nil {step : S → E → S} {out : S → E → List α} {s : S} {es : List E} :
    trace step out s es = [] ↔ Along step (fun s e => out s e = []) s es := by
  induction es generalizing s with
  | nil => exact ⟨fun _ => trivial, fun _ => rfl⟩
  | cons e es ih => rw [trace_cons, List.append_eq_nil_iff, Along.cons, ih]

section Rules

variable {step} {P : S → E → Prop} {out : S → E → List α} {s : S} {es : List E}

lemma trace_congr {out' : S → E → List α} (h : Along step (fun s e => out s e = out' s e) s es) :
    trace step out s es = trace step out' s es := by
  induction es generalizing s with
  | nil => rfl
  | cons e es ih => rw [trace_cons, trace_cons, h.1, ih h.2]

/-- An invariant between the state and everything that was put out before. -/
theorem trace_history {Inv : S → List α → Prop}
    (hkeep : ∀ s e past, Inv s past → P s e → Inv (step s e) (past ++ out s e))
    (past : List α) (hs : Inv s past) (h : Along step P s es) :
    Inv (run step s es) (past ++ trace step out s es) := by
  induction es generalizing s past with
  | nil => rwa [trace_nil, List.append_nil]
  | cons e es ih =>
      rw [trace_cons, ← List.append_assoc]
      exact ih _ (hkeep s e past hs h.1) h.2

/-- What is put out is taken from a stock. -/
theorem spent (stock : S → ℕ)
    (hstep : ∀ s e, P s e → (out s e).length + stock (step s e) ≤ stock s)
    (h : Along step P s es) : (trace step out s es).length + stock (run step s es) ≤ stock s := by
  induction es generalizing s with
  | nil => exact Nat.le_of_eq (Nat.zero_add _)
  | cons e es ih =>
      have hhere := hstep s e h.1
      have hrest := ih h.2
      rw [run_cons, trace_cons, List.length_append]
      omega

/-- What every output wears down is used up by as many outputs. -/
theorem worn_down (stock : S → ℕ)
    (hstep : ∀ s e, P s e → stock (step s e) ≤ stock s - (out s e).length)
    (h : Along step P s es) : stock (run step s es) ≤ stock s - (trace step out s es).length := by
  induction es generalizing s with
  | nil => exact Nat.le_refl _
  | cons e es ih =>
      have hhere := hstep s e h.1
      have hrest := ih h.2
      rw [run_cons, trace_cons, List.length_append]
      omega

/-- What is put into a store is taken out in the same order, or it is still there. -/
theorem conserved {stock : S → List α} {put take : S → E → List α}
    (h : ∀ s e, stock s ++ put s e = take s e ++ stock (step s e)) (s : S) (es : List E) :
    stock s ++ trace step put s es = trace step take s es ++ stock (run step s es) := by
  induction es generalizing s with
  | nil => rw [trace_nil, trace_nil, List.append_nil, run_nil, List.nil_append]
  | cons e es ih =>
      calc stock s ++ (put s e ++ trace step put (step s e) es)
          = take s e ++ (stock (step s e) ++ trace step put (step s e) es) := by
            rw [← List.append_assoc, h, List.append_assoc]
        _ = take s e ++ (trace step take (step s e) es ++ stock (run step (step s e) es)) := by
            rw [ih]
        _ = take s e ++ trace step take (step s e) es ++ stock (run step (step s e) es) :=
            (List.append_assoc ..).symm

/-- A part of the machine that turns its input into output: where the input is cut into
steps makes no difference. -/
theorem transduced (part : S → R) (put : S → E → List β) {Inv : S → Prop}
    {after : R → List α → R} {emit : R → List α → List β}
    (hafter_nil : ∀ r, after r [] = r) (hemit_nil : ∀ r, emit r [] = [])
    (hafter : ∀ r u v, after r (u ++ v) = after (after r u) v)
    (hemit : ∀ r u v, emit r (u ++ v) = emit r u ++ emit (after r u) v)
    (hkeep : ∀ s e, Inv s → P s e → Inv (step s e))
    (hstep : ∀ s e, Inv s → P s e →
      part (step s e) = after (part s) (out s e) ∧ put s e = emit (part s) (out s e))
    (hs : Inv s) (h : Along step P s es) :
    part (run step s es) = after (part s) (trace step out s es) ∧
      trace step put s es = emit (part s) (trace step out s es) := by
  induction es generalizing s with
  | nil => exact ⟨(hafter_nil _).symm, (hemit_nil _).symm⟩
  | cons e es ih =>
      obtain ⟨hpart, hput⟩ := hstep s e hs h.1
      obtain ⟨ihpart, ihput⟩ := ih (hkeep s e hs h.1) h.2
      rw [run_cons, trace_cons, trace_cons, hafter, hemit, ihpart, ihput, hpart, hput]
      exact ⟨rfl, rfl⟩

/-- A machine that follows another one through the events that this one knows, and stays where
it is in the others. -/
theorem run_visible {T F : Type*} {step' : T → F → T} (visible : E → Option F)
    {R : S → T → Prop}
    (hseen : ∀ s t e f, R s t → P s e → visible e = some f → R (step s e) (step' t f))
    (hhidden : ∀ s t e, R s t → P s e → visible e = none → R (step s e) t) {t : T} (hs : R s t)
    (h : Along step P s es) : R (run step s es) (run step' t (es.filterMap visible)) := by
  induction es generalizing s t with
  | nil => exact hs
  | cons e es ih =>
      cases hvisible : visible e with
      | none =>
          rw [List.filterMap_cons_none hvisible]
          exact ih (hhidden s t e hs h.1 hvisible) h.2
      | some f =>
          rw [List.filterMap_cons_some hvisible]
          exact ih (hseen s t e f hs h.1 hvisible) h.2

end Rules

end Machine
