import OpenSpaceEgse.Library.Framer

/-!
# Byte stuffing

A stuffing scheme keeps the delimiter of a stream out of the frames: the
delimiter and the escape letter are each replaced by a pair that begins with the
escape letter.  `stuff` is the encoder.  `unstuff` is the reading of a whole
piece at once, by pattern matching, and `Unstuffer` the reading letter by letter,
with a flag for a pending escape; `inside_reading` says that the two agree.

* `decode_stuff`: a stuffed string is read back;
* `stuff_unstuff`: a piece is the stuffing of what it reads as, up to an escape
  letter that dangles at its end;
* `unstuff_prefix`: a proper prefix of a stuffed string reads as a proper prefix.
-/

namespace Wire

/-- The letters of a stuffing scheme: the delimiter, the escape, and what follows
the escape in place of each of the two. -/
structure Stuffing (α : Type*) where
  delim : α
  esc : α
  escDelim : α
  escEsc : α
  esc_ne_delim : esc ≠ delim
  escDelim_ne_delim : escDelim ≠ delim
  escEsc_ne_delim : escEsc ≠ delim
  escDelim_ne_esc : escDelim ≠ esc
  escEsc_ne_esc : escEsc ≠ esc
  escEsc_ne_escDelim : escEsc ≠ escDelim

/-- The state of a letter-by-letter reader inside a piece: the piece is void, or
it has read a buffer and knows whether an escape is pending. -/
inductive Unstuffer (α : Type*) where
  | void
  | reading (escape : Bool) (buffer : List α)

namespace Stuffing

variable {α : Type*} (S : Stuffing α)

/-- Every escape of a piece is followed by a letter that may follow it. -/
def Paired (w : List α) : Prop :=
  ∀ u v, w = u ++ S.esc :: v → ∃ b v', v = b :: v' ∧ (b = S.escDelim ∨ b = S.escEsc)

lemma paired_nil : S.Paired [] := by
  intro u v h
  simp at h

lemma not_paired_esc : ¬ S.Paired [S.esc] := by
  intro h
  obtain ⟨b, v', hv, -⟩ := h [] [] rfl
  exact absurd hv (by simp)

lemma paired_cons_of_ne {a : α} (ha : a ≠ S.esc) (w : List α) :
    S.Paired (a :: w) ↔ S.Paired w := by
  constructor
  · intro h u v hw
    exact h (a :: u) v (by rw [hw]; rfl)
  · intro h u v hw
    cases u with
    | nil =>
      simp only [List.nil_append, List.cons.injEq] at hw
      exact absurd hw.1 ha
    | cons c u =>
      simp only [List.cons_append, List.cons.injEq] at hw
      exact h u v hw.2

lemma paired_esc_cons {b : α} (hb : b = S.escDelim ∨ b = S.escEsc) (w : List α) :
    S.Paired (S.esc :: b :: w) ↔ S.Paired w := by
  have hbe : b ≠ S.esc := by
    rcases hb with rfl | rfl
    · exact S.escDelim_ne_esc
    · exact S.escEsc_ne_esc
  rw [← S.paired_cons_of_ne hbe w]
  constructor
  · intro h u v hw
    exact h (S.esc :: u) v (by rw [hw]; rfl)
  · intro h u v hw
    cases u with
    | nil =>
      simp only [List.nil_append, List.cons.injEq, true_and] at hw
      exact ⟨b, w, hw.symm, hb⟩
    | cons c u =>
      simp only [List.cons_append, List.cons.injEq] at hw
      exact h u v hw.2

variable [DecidableEq α]

/-- The image of one letter. -/
def stuffLetter (a : α) : List α :=
  if a = S.delim then [S.esc, S.escDelim]
  else if a = S.esc then [S.esc, S.escEsc]
  else [a]

/-- The image of a string. -/
def stuff (u : List α) : List α := u.flatMap S.stuffLetter

/-- The string that a piece stands for, unless an escape is followed by a letter
that cannot follow it.  An escape at the very end stands for nothing. -/
def unstuff : List α → Option (List α)
  | [] => some []
  | [a] => if a = S.esc then some [] else some [a]
  | a :: b :: w =>
      if a = S.esc then
        if b = S.escDelim then (unstuff w).map (S.delim :: ·)
        else if b = S.escEsc then (unstuff w).map (S.esc :: ·)
        else none
      else (unstuff (b :: w)).map (a :: ·)

/-- A piece ends in the middle of an escape. -/
def dangling : List α → Bool
  | [] => false
  | [a] => decide (a = S.esc)
  | a :: b :: w => if a = S.esc then dangling w else dangling (b :: w)

@[simp] lemma stuff_nil : S.stuff [] = [] := rfl

@[simp] lemma stuff_cons (a : α) (u : List α) :
    S.stuff (a :: u) = S.stuffLetter a ++ S.stuff u := by
  simp [stuff]

lemma stuffLetter_delim : S.stuffLetter S.delim = [S.esc, S.escDelim] := if_pos rfl

lemma stuffLetter_esc : S.stuffLetter S.esc = [S.esc, S.escEsc] := by
  rw [stuffLetter, if_neg S.esc_ne_delim, if_pos rfl]

lemma stuffLetter_of_ne {a : α} (hd : a ≠ S.delim) (he : a ≠ S.esc) : S.stuffLetter a = [a] := by
  rw [stuffLetter, if_neg hd, if_neg he]

/-- The three shapes of the image of a letter. -/
lemma stuffLetter_cases (a : α) :
    (a = S.delim ∧ S.stuffLetter a = [S.esc, S.escDelim]) ∨
      (a = S.esc ∧ S.stuffLetter a = [S.esc, S.escEsc]) ∨
      (a ≠ S.delim ∧ a ≠ S.esc ∧ S.stuffLetter a = [a]) := by
  by_cases hd : a = S.delim
  · exact Or.inl ⟨hd, by rw [hd, stuffLetter_delim]⟩
  · by_cases he : a = S.esc
    · exact Or.inr (Or.inl ⟨he, by rw [he, stuffLetter_esc]⟩)
    · exact Or.inr (Or.inr ⟨hd, he, S.stuffLetter_of_ne hd he⟩)

lemma length_stuff_le (u : List α) : (S.stuff u).length ≤ 2 * u.length := by
  induction u with
  | nil => exact Nat.le_refl 0
  | cons a u ih =>
      have hletter : (S.stuffLetter a).length ≤ 2 := by
        rcases S.stuffLetter_cases a with ⟨-, hs⟩ | ⟨-, hs⟩ | ⟨-, -, hs⟩ <;> simp [hs]
      rw [stuff_cons, List.length_append, List.length_cons]
      omega

/-- The delimiter does not occur in a stuffed string. -/
lemma delim_notMem_stuff (u : List α) : S.delim ∉ S.stuff u := by
  intro h
  simp only [stuff, List.mem_flatMap] at h
  obtain ⟨a, -, ha⟩ := h
  rcases S.stuffLetter_cases a with ⟨-, hs⟩ | ⟨-, hs⟩ | ⟨hd, -, hs⟩ <;>
    rw [hs] at ha <;> simp only [List.mem_cons, List.not_mem_nil, or_false] at ha
  · rcases ha with ha | ha
    · exact S.esc_ne_delim ha.symm
    · exact S.escDelim_ne_delim ha.symm
  · rcases ha with ha | ha
    · exact S.esc_ne_delim ha.symm
    · exact S.escEsc_ne_delim ha.symm
  · exact hd ha.symm

/-! ## Reading a piece at once -/

@[simp] lemma unstuff_nil : S.unstuff [] = some [] := rfl

@[simp] lemma unstuff_escDelim (w : List α) :
    S.unstuff (S.esc :: S.escDelim :: w) = (S.unstuff w).map (S.delim :: ·) := by
  simp [unstuff]

@[simp] lemma unstuff_escEsc (w : List α) :
    S.unstuff (S.esc :: S.escEsc :: w) = (S.unstuff w).map (S.esc :: ·) := by
  simp [unstuff, S.escEsc_ne_escDelim]

lemma unstuff_esc_of_ne {b : α} (hd : b ≠ S.escDelim) (he : b ≠ S.escEsc) (w : List α) :
    S.unstuff (S.esc :: b :: w) = none := by
  simp [unstuff, hd, he]

lemma unstuff_cons_of_ne {a : α} (ha : a ≠ S.esc) (w : List α) :
    S.unstuff (a :: w) = (S.unstuff w).map (a :: ·) := by
  cases w with
  | nil => simp [unstuff, ha]
  | cons b w => simp [unstuff, ha]

/-- A stuffed string is read back. -/
lemma unstuff_stuff (u : List α) : S.unstuff (S.stuff u) = some u := by
  induction u with
  | nil => rfl
  | cons a u ih =>
      rw [stuff_cons]
      rcases S.stuffLetter_cases a with ⟨rfl, hs⟩ | ⟨rfl, hs⟩ | ⟨-, he, hs⟩ <;> rw [hs]
      · simp [ih]
      · simp [ih]
      · simp [S.unstuff_cons_of_ne he, ih]

lemma dangling_cons_of_ne {a : α} (ha : a ≠ S.esc) (w : List α) :
    S.dangling (a :: w) = S.dangling w := by
  cases w with
  | nil => simp [dangling, ha]
  | cons b w => simp [dangling, ha]

@[simp] lemma dangling_esc_cons (b : α) (w : List α) :
    S.dangling (S.esc :: b :: w) = S.dangling w := by
  simp [dangling]

lemma dangling_stuff (u : List α) : S.dangling (S.stuff u) = false := by
  induction u with
  | nil => rfl
  | cons a u ih =>
      rw [stuff_cons]
      rcases S.stuffLetter_cases a with ⟨rfl, hs⟩ | ⟨rfl, hs⟩ | ⟨-, he, hs⟩ <;> rw [hs]
      · exact (S.dangling_esc_cons _ _).trans ih
      · exact (S.dangling_esc_cons _ _).trans ih
      · exact (S.dangling_cons_of_ne he _).trans ih

/-- Case analysis of a piece that is not void, following the recursion of
`unstuff`. -/
lemma unstuff_induction {motive : List α → List α → Prop}
    (nil : motive [] [])
    (lone : motive [S.esc] [])
    (pairDelim : ∀ w u, S.unstuff w = some u → motive w u →
      motive (S.esc :: S.escDelim :: w) (S.delim :: u))
    (pairEsc : ∀ w u, S.unstuff w = some u → motive w u →
      motive (S.esc :: S.escEsc :: w) (S.esc :: u))
    (plain : ∀ a w u, a ≠ S.esc → S.unstuff w = some u → motive w u → motive (a :: w) (a :: u)) :
    ∀ w u, S.unstuff w = some u → motive w u := by
  intro w
  induction w using unstuff.induct S with
  | case1 => rintro u h; cases h; exact nil
  | case2 => rintro u h; simp only [unstuff, if_true, Option.some.injEq] at h; subst h; exact lone
  | case3 a ha =>
      intro u h
      simp only [unstuff, ha, if_false, Option.some.injEq] at h
      subst h
      exact plain a [] [] ha rfl nil
  | case4 w ih =>
      intro u h
      rw [unstuff_escDelim, Option.map_eq_some_iff] at h
      obtain ⟨u', hu', rfl⟩ := h
      exact pairDelim w u' hu' (ih u' hu')
  | case5 w hne ih =>
      intro u h
      rw [unstuff_escEsc, Option.map_eq_some_iff] at h
      obtain ⟨u', hu', rfl⟩ := h
      exact pairEsc w u' hu' (ih u' hu')
  | case6 b w hd he =>
      intro u h
      rw [S.unstuff_esc_of_ne hd he] at h
      exact absurd h (by simp)
  | case7 a b w ha ih =>
      intro u h
      rw [S.unstuff_cons_of_ne ha, Option.map_eq_some_iff] at h
      obtain ⟨u', hu', rfl⟩ := h
      exact plain a (b :: w) u' ha hu' (ih u' hu')

/-- A piece without delimiter is the stuffing of what it reads as, followed by
the escape that dangles at its end, if one does. -/
theorem stuff_unstuff {w u : List α} (h : S.unstuff w = some u) (hw : S.delim ∉ w) :
    w = S.stuff u ++ (if S.dangling w then [S.esc] else []) := by
  revert hw
  refine S.unstuff_induction (motive := fun w u => S.delim ∉ w →
    w = S.stuff u ++ (if S.dangling w then [S.esc] else [])) ?_ ?_ ?_ ?_ ?_ w u h
  · intro _; rfl
  · intro _; simp [dangling]
  · intro w u _ ih hw
    have hw' : S.delim ∉ w := fun hc => hw (by simp [hc])
    rw [stuff_cons, stuffLetter_delim, dangling_esc_cons, List.append_assoc, ← ih hw']
    rfl
  · intro w u _ ih hw
    have hw' : S.delim ∉ w := fun hc => hw (by simp [hc])
    rw [stuff_cons, stuffLetter_esc, dangling_esc_cons, List.append_assoc, ← ih hw']
    rfl
  · intro a w u ha _ ih hw
    have hd : a ≠ S.delim := fun hc => hw (by simp [hc])
    have hw' : S.delim ∉ w := fun hc => hw (by simp [hc])
    rw [stuff_cons, S.stuffLetter_of_ne hd ha, S.dangling_cons_of_ne ha, List.append_assoc,
      ← ih hw']
    rfl

/-- A piece that is not void dangles exactly when its last letter is the escape. -/
lemma dangling_iff {w u : List α} (h : S.unstuff w = some u) :
    S.dangling w = true ↔ w.getLast? = some S.esc := by
  refine S.unstuff_induction (motive := fun w _ =>
    (S.dangling w = true ↔ w.getLast? = some S.esc)) ?_ ?_ ?_ ?_ ?_ w u h
  · simp [dangling]
  · simp [dangling]
  · intro w u _ ih
    rw [dangling_esc_cons, ih]
    cases w with
    | nil => simp [S.escDelim_ne_esc]
    | cons b w => simp
  · intro w u _ ih
    rw [dangling_esc_cons, ih]
    cases w with
    | nil => simp [S.escEsc_ne_esc]
    | cons b w => simp
  · intro a w u ha _ ih
    rw [S.dangling_cons_of_ne ha, ih]
    cases w with
    | nil => simp [ha]
    | cons b w => simp

/-- A piece that is not void has an unpaired escape exactly when it dangles. -/
lemma paired_iff {w u : List α} (h : S.unstuff w = some u) :
    S.Paired w ↔ S.dangling w = false := by
  refine S.unstuff_induction (motive := fun w _ =>
    (S.Paired w ↔ S.dangling w = false)) ?_ ?_ ?_ ?_ ?_ w u h
  · simp [S.paired_nil, dangling]
  · simp [S.not_paired_esc, dangling]
  · intro w u _ ih
    rw [S.paired_esc_cons (Or.inl rfl), dangling_esc_cons, ih]
  · intro w u _ ih
    rw [S.paired_esc_cons (Or.inr rfl), dangling_esc_cons, ih]
  · intro a w u ha _ ih
    rw [S.paired_cons_of_ne ha, S.dangling_cons_of_ne ha, ih]

/-- A prefix of the image of a letter that is escaped, followed by more. -/
lemma unstuff_prefix_pair {a c : α} {w v u : List α}
    (hc : ∀ v, S.unstuff (S.esc :: c :: v) = (S.unstuff v).map (a :: ·))
    (ih : ∀ w, w <+: v → ∃ j, S.unstuff w = some (u.take j) ∧ (w ≠ v → j < u.length))
    (h : w <+: S.esc :: c :: v) :
    ∃ j, S.unstuff w = some ((a :: u).take j) ∧
      (w ≠ S.esc :: c :: v → j < (a :: u).length) := by
  rcases w with _ | ⟨x, _ | ⟨y, w⟩⟩
  · exact ⟨0, rfl, fun _ => by simp⟩
  · -- the prefix ends between the escape and its partner
    have hx : x = S.esc := (List.cons_prefix_cons.1 h).1
    subst hx
    exact ⟨0, by simp [unstuff], fun _ => by simp⟩
  · obtain ⟨hx, h₁⟩ := List.cons_prefix_cons.1 h
    obtain ⟨hy, h₂⟩ := List.cons_prefix_cons.1 h₁
    subst hx; subst hy
    obtain ⟨j, hj, hlt⟩ := ih w h₂
    refine ⟨j + 1, by simp [hc, hj], ?_⟩
    intro hne
    have := hlt (fun hw => hne (by rw [hw]))
    simpa using this

/-- A proper prefix of a stuffed string reads as a proper prefix of the string. -/
theorem unstuff_prefix (u : List α) :
    ∀ w, w <+: S.stuff u →
      ∃ j, S.unstuff w = some (u.take j) ∧ (w ≠ S.stuff u → j < u.length) := by
  induction u with
  | nil =>
      intro w h
      rw [stuff_nil, List.prefix_nil] at h
      subst h
      exact ⟨0, rfl, fun hne => absurd rfl hne⟩
  | cons a u ih =>
      intro w h
      rw [stuff_cons] at h ⊢
      rcases S.stuffLetter_cases a with ⟨rfl, hs⟩ | ⟨rfl, hs⟩ | ⟨-, he, hs⟩ <;> rw [hs] at h ⊢
      · exact S.unstuff_prefix_pair S.unstuff_escDelim ih h
      · exact S.unstuff_prefix_pair S.unstuff_escEsc ih h
      · rcases w with _ | ⟨x, w⟩
        · exact ⟨0, rfl, fun _ => by simp⟩
        · obtain ⟨hx, h'⟩ := List.cons_prefix_cons.1 h
          subst hx
          obtain ⟨j, hj, hlt⟩ := ih w h'
          refine ⟨j + 1, by simp [S.unstuff_cons_of_ne he, hj], ?_⟩
          intro hne
          have := hlt (fun hw => hne (by rw [hw]; rfl))
          simpa using this

end Stuffing

/-! ## Reading letter by letter -/

namespace Unstuffer

variable {α β : Type*} [DecidableEq α] (S : Stuffing α)

/-- One letter inside a piece. -/
def step : Unstuffer α → α → Unstuffer α
  | void, _ => void
  | reading true buffer, a =>
      if a = S.escDelim then reading false (buffer ++ [S.delim])
      else if a = S.escEsc then reading false (buffer ++ [S.esc])
      else void
  | reading false buffer, a =>
      if a = S.esc then reading true buffer else reading false (buffer ++ [a])

/-- The framer that unstuffs its pieces and parses what they stand for. -/
def framer (parse : List α → Option β) : Framer α (Unstuffer α) β where
  delim := S.delim
  start := reading false []
  step := step S
  close
    | void => none
    | reading _ buffer => parse buffer

variable (parse : List α → Option β)

@[simp] lemma framer_delim : (framer S parse).delim = S.delim := rfl

@[simp] lemma framer_start : (framer S parse).start = reading false [] := rfl

@[simp] lemma framer_step (s : Unstuffer α) (a : α) : (framer S parse).step s a = step S s a := rfl

@[simp] lemma close_void : (framer S parse).close void = none := rfl

@[simp] lemma close_reading (e : Bool) (b : List α) :
    (framer S parse).close (reading e b) = parse b := rfl

lemma void_idle : (framer S parse).Idle void := ⟨fun _ => rfl, rfl⟩

lemma step_esc (b : List α) : step S (reading false b) S.esc = reading true b := if_pos rfl

lemma step_of_ne {a : α} (h : a ≠ S.esc) (b : List α) :
    step S (reading false b) a = reading false (b ++ [a]) := if_neg h

lemma step_escDelim (b : List α) :
    step S (reading true b) S.escDelim = reading false (b ++ [S.delim]) := if_pos rfl

lemma step_escEsc (b : List α) :
    step S (reading true b) S.escEsc = reading false (b ++ [S.esc]) := by
  rw [step, if_neg S.escEsc_ne_escDelim, if_pos rfl]

lemma step_illegal {a : α} (hd : a ≠ S.escDelim) (he : a ≠ S.escEsc) (b : List α) :
    step S (reading true b) a = void := by
  rw [step, if_neg hd, if_neg he]

/-- The two readings of a piece agree. -/
theorem inside_reading (w b : List α) :
    (framer S parse).inside (reading false b) w =
      match S.unstuff w with
      | none => void
      | some u => reading (S.dangling w) (b ++ u) := by
  induction w using Stuffing.unstuff.induct S generalizing b with
  | case1 => simp [Stuffing.dangling]
  | case2 => simp [Stuffing.unstuff, Stuffing.dangling, step_esc]
  | case3 a ha => simp [Stuffing.unstuff, Stuffing.dangling, step_of_ne S ha, ha]
  | case4 w ih =>
      rw [Framer.inside_cons, Framer.inside_cons, framer_step, framer_step, step_esc,
        step_escDelim, ih, Stuffing.unstuff_escDelim, Stuffing.dangling_esc_cons]
      cases S.unstuff w <;> simp
  | case5 w hne ih =>
      rw [Framer.inside_cons, Framer.inside_cons, framer_step, framer_step, step_esc,
        step_escEsc, ih, Stuffing.unstuff_escEsc, Stuffing.dangling_esc_cons]
      cases S.unstuff w <;> simp
  | case6 b' w hd he =>
      rw [Framer.inside_cons, Framer.inside_cons, framer_step, framer_step, step_esc,
        step_illegal S hd he, (void_idle S parse).inside_eq, S.unstuff_esc_of_ne hd he]
  | case7 a b' w ha ih =>
      rw [Framer.inside_cons, framer_step, step_of_ne S ha, ih, S.unstuff_cons_of_ne ha,
        S.dangling_cons_of_ne ha]
      cases S.unstuff (b' :: w) <;> simp

/-- The state inside a piece, from its beginning. -/
lemma inside_start (w : List α) :
    (framer S parse).inside (framer S parse).start w =
      (S.unstuff w).elim void (reading (S.dangling w)) := by
  rw [framer_start, inside_reading]
  cases S.unstuff w <;> simp

/-- The value of a piece is the parse of what it stands for. -/
theorem decode_eq (w : List α) :
    (framer S parse).decode w = (S.unstuff w).bind parse := by
  rw [Framer.decode, inside_start]
  cases S.unstuff w <;> simp

/-- A stuffed string is parsed as it is. -/
theorem decode_stuff (u : List α) : (framer S parse).decode (S.stuff u) = parse u := by
  rw [decode_eq, Stuffing.unstuff_stuff, Option.bind_some]

end Unstuffer

end Wire
