import Mathlib.Data.Nat.Notation
import Mathlib.Tactic.Common

/-!
# Items laid end to end, and windows on them

Two rows of items with lengths are laid along the same line, each end to end.  The
items of the second row are windows, and an item of the first row is seen if it lies
inside one window.

* `seen_eq_flatMap`: the items that are seen are those seen in the first window, then
  those seen in the second, and so on;
* `inside_place_of_le`: a window that begins no later than the items sees the items
  that fit.
-/

namespace Wire

variable {α β : Type*}

/-- The items with the positions of their beginnings, the first one at `s`. -/
def place (len : α → ℕ) : ℕ → List α → List (ℕ × α)
  | _, [] => []
  | s, x :: xs => (s, x) :: place len (s + len x) xs

/-- The items among those placed that lie between `a` and `b`. -/
def inside (len : α → ℕ) (a b : ℕ) (qs : List (ℕ × α)) : List α :=
  (qs.filter fun q => a ≤ q.1 ∧ q.1 + len q.2 ≤ b).map Prod.snd

/-- The items among those placed that lie inside one of the windows. -/
def seen (len : α → ℕ) (width : β → ℕ) (ws : List (ℕ × β)) (qs : List (ℕ × α)) : List α :=
  (qs.filter fun q => ∃ w ∈ ws, w.1 ≤ q.1 ∧ q.1 + len q.2 ≤ w.1 + width w.2).map Prod.snd

/-- The items at the head of a row that fit into `n`. -/
def fitting (len : α → ℕ) : List α → ℕ → List α
  | [], _ => []
  | x :: xs, n => if len x ≤ n then x :: fitting len xs (n - len x) else []

variable (len : α → ℕ)

@[simp] lemma place_nil (s : ℕ) : place len s [] = [] := rfl

@[simp] lemma place_cons (s : ℕ) (x : α) (xs : List α) :
    place len s (x :: xs) = (s, x) :: place len (s + len x) xs := rfl

lemma map_snd_place (s : ℕ) (xs : List α) : (place len s xs).map Prod.snd = xs := by
  induction xs generalizing s with
  | nil => rfl
  | cons x xs ih => rw [place_cons, List.map_cons, ih]

lemma le_of_mem_place {s : ℕ} {xs : List α} {q : ℕ × α} (h : q ∈ place len s xs) : s ≤ q.1 := by
  induction xs generalizing s with
  | nil => exact absurd h (by simp)
  | cons x xs ih =>
      rcases List.mem_cons.mp h with rfl | hq
      · exact Nat.le_refl _
      · exact Nat.le_trans (Nat.le_add_right _ _) (ih hq)

/-- Of two items of a row, the first one ends before the second one begins. -/
lemma pairwise_place (s : ℕ) (xs : List α) :
    (place len s xs).Pairwise fun q r => q.1 + len q.2 ≤ r.1 := by
  induction xs generalizing s with
  | nil => exact List.Pairwise.nil
  | cons x xs ih => exact List.pairwise_cons.mpr ⟨fun q hq => le_of_mem_place len hq, ih _⟩

/-! ## One window -/

/-- A window that ends before the items begin sees nothing. -/
lemma inside_place_of_ge (hpos : ∀ x, 0 < len x) {a b s : ℕ} (h : b ≤ s) (xs : List α) :
    inside len a b (place len s xs) = [] := by
  rw [inside, List.map_eq_nil_iff, List.filter_eq_nil_iff]
  rintro ⟨t, x⟩ hq
  have hs := le_of_mem_place len hq
  have hx := hpos x
  simp only [decide_eq_true_eq, not_and] at hs ⊢
  omega

/-- A window that begins no later than the items sees those that fit. -/
lemma inside_place_of_le (hpos : ∀ x, 0 < len x) {a b s : ℕ} (h : a ≤ s) (hb : s ≤ b)
    (xs : List α) : inside len a b (place len s xs) = fitting len xs (b - s) := by
  induction xs generalizing s with
  | nil => rfl
  | cons x xs ih =>
      by_cases hx : s + len x ≤ b
      · have hrest := ih (s := s + len x) (by omega) hx
        have hfit : len x ≤ b - s := by omega
        have hsub : b - (s + len x) = b - s - len x := by omega
        rw [fitting, if_pos hfit, ← hsub, ← hrest, inside, place_cons,
          List.filter_cons_of_pos (by simp only [decide_eq_true_eq]; omega)]
        rfl
      · have hfit : ¬ len x ≤ b - s := by omega
        have hrest := inside_place_of_ge len hpos (a := a) (show b ≤ s + len x by omega) xs
        rw [fitting, if_neg hfit, inside, place_cons,
          List.filter_cons_of_neg (by simp only [decide_eq_true_eq]; omega)]
        exact hrest

/-- A window does not see an item that begins before it. -/
lemma inside_cons_of_lt {a b s : ℕ} (h : s < a) (x : α) (qs : List (ℕ × α)) :
    inside len a b ((s, x) :: qs) = inside len a b qs := by
  rw [inside, List.filter_cons_of_neg (by simp only [decide_eq_true_eq]; omega)]
  rfl

/-! ## All windows -/

/-- Two properties that no element shares, where no element with the second comes
before one with the first. -/
lemma filter_or_eq_append {P Q : α → Prop} [DecidablePred P] [DecidablePred Q] {l : List α}
    (hdisj : ∀ x, ¬ (P x ∧ Q x)) (hord : l.Pairwise fun x y => ¬ (Q x ∧ P y)) :
    l.filter (fun x => P x ∨ Q x) = l.filter (fun x => P x) ++ l.filter (fun x => Q x) := by
  induction l with
  | nil => rfl
  | cons x l ih =>
      obtain ⟨hx, hl⟩ := List.pairwise_cons.mp hord
      by_cases hP : P x
      · have hQ : ¬ Q x := fun hQ => hdisj x ⟨hP, hQ⟩
        rw [List.filter_cons_of_pos (by simp [hP]), List.filter_cons_of_pos (by simp [hP]),
          List.filter_cons_of_neg (by simp [hQ]), ih hl]
        rfl
      · by_cases hQ : Q x
        · -- nothing behind `x` has the first property
          have hnone : l.filter (fun y => P y) = [] := by
            rw [List.filter_eq_nil_iff]
            intro y hy
            simpa using fun hPy => hx y hy ⟨hQ, hPy⟩
          rw [List.filter_cons_of_pos (by simp [hQ]), List.filter_cons_of_neg (by simp [hP]),
            List.filter_cons_of_pos (by simp [hQ]), ih hl, hnone]
          rfl
        · rw [List.filter_cons_of_neg (by simp [hP, hQ]), List.filter_cons_of_neg (by simp [hP]),
            List.filter_cons_of_neg (by simp [hQ]), ih hl]

/-- The items that are seen, window by window. -/
theorem seen_eq_flatMap (width : β → ℕ) (hpos : ∀ x, 0 < len x) {s t : ℕ} (xs : List α)
    (ys : List β) :
    seen len width (place width t ys) (place len s xs) =
      (place width t ys).flatMap fun w =>
        inside len w.1 (w.1 + width w.2) (place len s xs) := by
  induction ys generalizing t with
  | nil => simp [seen]
  | cons y ys ih =>
      have hrest := ih (t := t + width y)
      rw [place_cons, List.flatMap_cons, ← hrest, inside, seen, seen, ← List.map_append]
      refine congrArg (List.map Prod.snd) ?_
      rw [← filter_or_eq_append]
      · apply List.filter_congr
        intro q _
        refine decide_eq_decide.mpr ⟨?_, ?_⟩
        · rintro ⟨w, hw, h⟩
          rcases List.mem_cons.mp hw with rfl | hw
          · exact Or.inl h
          · exact Or.inr ⟨w, hw, h⟩
        · rintro (h | ⟨w, hw, h⟩)
          · exact ⟨(t, y), List.mem_cons_self, h⟩
          · exact ⟨w, List.mem_cons_of_mem _ hw, h⟩
      · -- no item lies in two windows
        rintro q ⟨⟨-, hq⟩, w, hw, hwq, -⟩
        have hwin := le_of_mem_place width hw
        have hx := hpos q.2
        dsimp only at hq
        omega
      · -- a later item begins behind the window of an earlier one
        refine (pairwise_place len s xs).imp ?_
        rintro q r hqr ⟨⟨w, hw, hwq, -⟩, -, hr⟩
        have hwin := le_of_mem_place width hw
        have hx := hpos r.2
        dsimp only at hr
        omega

/-! ## Items that are strings -/

/-- The first position of the window from `a` to `a + n`, counted from `a`, at which an
item begins. -/
def FirstBegin (qs : List (ℕ × α)) (a n o : ℕ) : Prop :=
  o < n ∧ (∃ x, (a + o, x) ∈ qs) ∧ ∀ o' < o, ∀ x, (a + o', x) ∉ qs

section Strings

variable {γ : Type*} (enc : α → List γ)

/-- The length of the string of an item. -/
def size (x : α) : ℕ := (enc x).length

/-- An item is found at its position. -/
lemma take_drop_of_mem_place {s : ℕ} {xs : List α} {q : ℕ × α} (h : q ∈ place (size enc) s xs) :
    ((xs.flatMap enc).drop (q.1 - s)).take (size enc q.2) = enc q.2 := by
  induction xs generalizing s with
  | nil => exact absurd h (by simp)
  | cons x xs ih =>
      rcases List.mem_cons.mp h with rfl | hq
      · rw [Nat.sub_self, List.drop_zero, List.flatMap_cons, size, List.take_left]
      · have hs := le_of_mem_place (size enc) hq
        have hsub : q.1 - s = (enc x).length + (q.1 - (s + size enc x)) := by
          simp only [size] at hs ⊢
          omega
        rw [List.flatMap_cons, hsub, List.drop_length_add_append]
        exact ih hq

/-- A row that is cut off: the items that fit, and a proper prefix of the next one. -/
lemma take_flatMap (xs : List α) (n : ℕ) :
    ∃ rest, (xs.flatMap enc).take n = (fitting (size enc) xs n).flatMap enc ++ rest ∧
      (rest = [] ∨ ∃ x, rest <+: enc x ∧ rest.length < (enc x).length) := by
  induction xs generalizing n with
  | nil => exact ⟨[], by simp [fitting], Or.inl rfl⟩
  | cons x xs ih =>
      by_cases hx : size enc x ≤ n
      · obtain ⟨rest, hrest, hprop⟩ := ih (n - size enc x)
        refine ⟨rest, ?_, hprop⟩
        rw [fitting, if_pos hx, List.flatMap_cons, List.flatMap_cons, List.append_assoc, ← hrest,
          List.take_append, List.take_of_length_le hx, size]
      · have hlt : n < (enc x).length := Nat.lt_of_not_le hx
        refine ⟨(enc x).take n, ?_, Or.inr ⟨x, List.take_prefix _ _, ?_⟩⟩
        · rw [fitting, if_neg hx, List.flatMap_cons, List.take_append_of_le_length (by omega)]
          rfl
        · rw [List.length_take]
          omega

variable (hpos : ∀ x, 0 < size enc x)
include hpos

/-- From the first item that begins in a window, the row continues with items of which
the window sees those that fit. -/
lemma exists_suffix {s a b c : ℕ} {xs : List α} {x : α} (hx : (c, x) ∈ place (size enc) s xs)
    (hac : a ≤ c) (hcb : c ≤ b)
    (hfirst : ∀ c', a ≤ c' → c' < c → ∀ y, (c', y) ∉ place (size enc) s xs) :
    ∃ ys, (xs.flatMap enc).drop (c - s) = ys.flatMap enc ∧
      inside (size enc) a b (place (size enc) s xs) = fitting (size enc) ys (b - c) := by
  induction xs generalizing s with
  | nil => exact absurd hx (by simp)
  | cons y ys ih =>
      rcases List.mem_cons.mp hx with heq | hx'
      · obtain ⟨rfl, rfl⟩ := Prod.mk.inj heq
        refine ⟨x :: ys, ?_, inside_place_of_le (size enc) hpos hac hcb _⟩
        rw [Nat.sub_self, List.drop_zero]
      · -- the head begins before the window, since it begins before `c`
        have hle := le_of_mem_place (size enc) hx'
        have hy := hpos y
        have hlt : s < a := by
          by_contra hge
          exact hfirst s (by omega) (by omega) y List.mem_cons_self
        obtain ⟨zs, hdrop, hinside⟩ := ih hx' fun c' h₁ h₂ z hz =>
          hfirst c' h₁ h₂ z (List.mem_cons_of_mem _ hz)
        refine ⟨zs, ?_, ?_⟩
        · have hsub : c - s = (enc y).length + (c - (s + size enc y)) := by
            simp only [size] at hle ⊢
            omega
          rw [List.flatMap_cons, hsub, List.drop_length_add_append, hdrop]
        · rw [place_cons, inside_cons_of_lt (size enc) hlt, hinside]

/-- A window in which no item begins sees none. -/
lemma inside_eq_nil {s a n : ℕ} {xs : List α}
    (h : ∀ o < n, ∀ x, (a + o, x) ∉ place (size enc) s xs) :
    inside (size enc) a (a + n) (place (size enc) s xs) = [] := by
  rw [inside, List.map_eq_nil_iff, List.filter_eq_nil_iff]
  rintro ⟨c, x⟩ hx
  have hlen := hpos x
  simp only [decide_eq_true_eq, not_and]
  intro hac hcb
  refine h (c - a) (by omega) x ?_
  rwa [Nat.add_sub_cancel' hac]

/-- What stands in a window from its first item on: the items that the window sees, and
a proper prefix of the next one. -/
theorem window_content {a n o : ℕ} {xs : List α} (h : FirstBegin (place (size enc) 0 xs) a n o) :
    ∃ rest, (((xs.flatMap enc).drop a).take n).drop o =
        (inside (size enc) a (a + n) (place (size enc) 0 xs)).flatMap enc ++ rest ∧
      (rest = [] ∨ ∃ x, rest <+: enc x ∧ rest.length < (enc x).length) := by
  obtain ⟨hon, ⟨x, hx⟩, hfirst⟩ := h
  have hnone : ∀ c, a ≤ c → c < a + o → ∀ y, (c, y) ∉ place (size enc) 0 xs := by
    intro c hac hco y hy
    refine hfirst (c - a) (by omega) y ?_
    rwa [Nat.add_sub_cancel' hac]
  obtain ⟨ys, hdrop, hinside⟩ := exists_suffix enc hpos hx (Nat.le_add_right a o)
    (show a + o ≤ a + n by omega) hnone
  have hsub : a + n - (a + o) = n - o := by omega
  rw [Nat.sub_zero] at hdrop
  rw [hinside, hsub, List.drop_take, List.drop_drop, hdrop]
  exact take_flatMap enc ys (n - o)

end Strings

end Wire
