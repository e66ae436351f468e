import Mathlib.Data.List.Basic
import Mathlib.Data.Nat.Notation

/-!
# An action that repeats itself through a timer

The action is started and stopped by hand.  While it runs, a timer is pending whose
firing performs it once and arms the next timer; only the last timer that was armed is
known, by its handle.  An action that fails does so before it arms anything, and nobody
stops it.

`Armed` is what the handle is good for: the action runs if and only if a timer is
pending, and it is the one that the handle names.  Every step keeps it, unless the action
fails, and then it is always lost.
-/

/-- Whether the action runs, the handle of the last timer, and the timers of the action
that have neither fired nor been cancelled. -/
structure Alarm where
  running : Bool
  handle : Option ℕ
  pending : List ℕ
deriving DecidableEq, Repr

namespace Alarm

/-- A new timer. -/
def arm (a : Alarm) (id : ℕ) : Alarm := { a with handle := some id, pending := a.pending ++ [id] }

/-- A timer fires, or is cancelled. -/
def drop (a : Alarm) (id : ℕ) : Alarm := { a with pending := a.pending.filter (· ≠ id) }

/-- The timer that the handle names, if there is one, is cancelled. -/
def cancel (a : Alarm) : Alarm :=
  match a.handle with
  | none => a
  | some id => a.drop id

def stop (a : Alarm) : Alarm := { a.cancel with running := false, handle := none }

/-- One timer is pending while the action runs, the one that the handle names, and none
while it does not. -/
structure Armed (a : Alarm) : Prop where
  pending_of_running : a.running = true → ∃ id, a.handle = some id ∧ a.pending = [id]
  pending_of_stopped : a.running = false → a.pending = []

/-- The steps of the alarm.  The label says whether the action failed in the step. -/
inductive Step : Alarm → Bool → Alarm → Prop where
  | stays (a : Alarm) : Step a false a
  | starts (a : Alarm) (id : ℕ) (h : a.running = false) :
      Step a false ({ a with running := true }.arm id)
  | startFails (a : Alarm) (h : a.running = false) : Step a true { a with running := true }
  | stops (a : Alarm) : Step a false a.stop
  | rearms (a : Alarm) (id : ℕ) (h : a.running = true) : Step a false (a.cancel.arm id)
  | repeats (a : Alarm) (old new : ℕ) (h : a.running = true) (hold : old ∈ a.pending) :
      Step a false ((a.drop old).arm new)
  | repeatFails (a : Alarm) (old : ℕ) (h : a.running = true) (hold : old ∈ a.pending) :
      Step a true (a.drop old)
  | lapses (a : Alarm) (old : ℕ) (h : a.running = false) : Step a false (a.drop old)

variable {a a' : Alarm}

@[simp] lemma drop_running (a : Alarm) (id : ℕ) : (a.drop id).running = a.running := rfl

@[simp] lemma cancel_running (a : Alarm) : a.cancel.running = a.running := by
  rw [cancel]
  split <;> rfl

/-- In an armed state, the only timer that can fire is the one that cancelling removes. -/
lemma Armed.drop_pending (ha : Armed a) {id : ℕ} (h : id ∈ a.pending) :
    (a.drop id).pending = [] := by
  cases hrunning : a.running with
  | true =>
      obtain ⟨id', -, hpending⟩ := ha.pending_of_running hrunning
      obtain rfl : id = id' := by simpa [hpending] using h
      simp [drop, hpending]
  | false =>
      rw [ha.pending_of_stopped hrunning] at h
      exact absurd h (by simp)

lemma Armed.cancel_pending (ha : Armed a) : a.cancel.pending = [] := by
  cases hrunning : a.running with
  | true =>
      obtain ⟨id, hhandle, hpending⟩ := ha.pending_of_running hrunning
      rw [cancel, hhandle]
      exact ha.drop_pending (by simp [hpending])
  | false =>
      have hpending := ha.pending_of_stopped hrunning
      rw [cancel]
      split
      · exact hpending
      · simp [drop, hpending]

/-- Arming is right if nothing is pending. -/
lemma armed_arm (a : Alarm) (h : a.running = true) (hpending : a.pending = []) (id : ℕ) :
    Armed (a.arm id) := by
  constructor
  · intro _
    exact ⟨id, rfl, by rw [arm, hpending]; rfl⟩
  · intro hstopped
    exact absurd (h.symm.trans hstopped) (by simp)

/-- An alarm that is supposed to run with nothing pending is not armed. -/
lemma not_armed_of_running (h : a.running = true) (hpending : a.pending = []) : ¬ Armed a := by
  intro ha
  obtain ⟨id, -, hsome⟩ := ha.pending_of_running h
  exact absurd (hpending.symm.trans hsome) (by simp)

/-- Steps in which the action does not fail keep the alarm armed. -/
theorem Step.armed (h : Step a false a') (ha : Armed a) : Armed a' := by
  cases h with
  | stays => exact ha
  | starts id hstopped =>
      exact armed_arm { a with running := true } rfl (ha.pending_of_stopped hstopped) id
  | stops =>
      constructor
      · intro hrunning
        exact absurd hrunning (by simp [stop])
      · intro _
        exact ha.cancel_pending
  | rearms id hrunning =>
      exact armed_arm a.cancel (by simpa using hrunning) ha.cancel_pending id
  | repeats old new hrunning hold =>
      exact armed_arm (a.drop old) hrunning (ha.drop_pending hold) new
  | lapses old hstopped =>
      constructor
      · intro hrunning
        exact absurd (hstopped.symm.trans hrunning) (by simp)
      · intro _
        simp [drop, ha.pending_of_stopped hstopped]

/-- A failure leaves an alarm behind that runs without a timer. -/
theorem Step.not_armed (h : Step a true a') (ha : Armed a) : ¬ Armed a' := by
  cases h with
  | startFails hstopped => exact not_armed_of_running rfl (ha.pending_of_stopped hstopped)
  | repeatFails old hrunning hold => exact not_armed_of_running hrunning (ha.drop_pending hold)

end Alarm
