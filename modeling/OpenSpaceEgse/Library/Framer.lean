import Mathlib.Data.Nat.Notation
import Mathlib.Tactic.Common

/-!
# Transducers driven by a delimiter

A framer reads a stream of letters in which one letter, the delimiter, separates
the frames.  Between two delimiters it folds the letters of the piece into a
state; at a delimiter it closes the piece, possibly emitting a value, and starts
afresh.  Whatever happened before, the state after a delimiter is the same one,
and everything in this file rests on that.

* `out_eq_splitOn`: the run is the split of the stream at its delimiters followed
  by the decoding of each piece on its own;
* `outChunks_eq`: how the stream is cut into chunks does not matter;
* `out_interleave`: intact frames are recovered from between arbitrary noise.
-/

namespace Wire

/-- A transducer with a delimiter: the state right after a delimiter, the effect
of a letter inside a piece, and the value that closing a piece yields. -/
structure Framer (α σ β : Type*) where
  delim : α
  start : σ
  step : σ → α → σ
  close : σ → Option β

namespace Framer

variable {α σ β : Type*} (F : Framer α σ β)

/-- The state inside a piece. -/
def inside (s : σ) (p : List α) : σ := p.foldl F.step s

/-- The value of a piece, read on its own. -/
def decode (p : List α) : Option β := F.close (F.inside F.start p)

@[simp] lemma inside_nil (s : σ) : F.inside s [] = s := rfl

@[simp] lemma inside_cons (s : σ) (a : α) (p : List α) :
    F.inside s (a :: p) = F.inside (F.step s a) p := rfl

lemma inside_append (s : σ) (p q : List α) :
    F.inside s (p ++ q) = F.inside (F.inside s p) q := by
  simp [inside]

/-- A state in which the framer ignores everything up to the next delimiter. -/
structure Idle (s : σ) : Prop where
  step_eq : ∀ a, F.step s a = s
  close_eq : F.close s = none

variable {F} in
lemma Idle.inside_eq {s : σ} (h : F.Idle s) (p : List α) : F.inside s p = s := by
  induction p with
  | nil => rfl
  | cons a p ih => rw [inside_cons, h.step_eq, ih]

variable [DecidableEq α]

/-- The state after one letter. -/
def next (s : σ) (a : α) : σ := if a = F.delim then F.start else F.step s a

/-- The value emitted at one letter. -/
def emit (s : σ) (a : α) : Option β := if a = F.delim then F.close s else none

/-- The state after a stream. -/
def run (s : σ) (w : List α) : σ := w.foldl F.next s

/-- The values emitted along a stream. -/
def out : σ → List α → List β
  | _, [] => []
  | s, a :: w => (F.emit s a).toList ++ out (F.next s a) w

/-- The values emitted along a stream that arrives in chunks. -/
def outChunks : σ → List (List α) → List β
  | _, [] => []
  | s, c :: cs => F.out s c ++ outChunks (F.run s c) cs

@[simp] lemma next_delim (s : σ) : F.next s F.delim = F.start := if_pos rfl

@[simp] lemma emit_delim (s : σ) : F.emit s F.delim = F.close s := if_pos rfl

lemma next_of_ne {s : σ} {a : α} (h : a ≠ F.delim) : F.next s a = F.step s a := if_neg h

lemma emit_of_ne {s : σ} {a : α} (h : a ≠ F.delim) : F.emit s a = none := if_neg h

@[simp] lemma run_nil (s : σ) : F.run s [] = s := rfl

@[simp] lemma run_cons (s : σ) (a : α) (w : List α) :
    F.run s (a :: w) = F.run (F.next s a) w := rfl

@[simp] lemma out_nil (s : σ) : F.out s [] = [] := rfl

@[simp] lemma out_cons (s : σ) (a : α) (w : List α) :
    F.out s (a :: w) = (F.emit s a).toList ++ F.out (F.next s a) w := rfl

/-- Only closing a piece yields a value. -/
lemma exists_close_of_mem_out {s : σ} {w : List α} {b : β} (h : b ∈ F.out s w) :
    ∃ s', F.close s' = some b := by
  induction w generalizing s with
  | nil => exact absurd h (by simp)
  | cons a w ih =>
      rw [out_cons, List.mem_append, Option.mem_toList] at h
      rcases h with h | h
      · by_cases ha : a = F.delim
        · exact ⟨s, by rwa [ha, emit_delim] at h⟩
        · rw [F.emit_of_ne ha] at h
          exact absurd h (by simp)
      · exact ih h

/-! ## Concatenation -/

lemma run_append (s : σ) (u v : List α) : F.run s (u ++ v) = F.run (F.run s u) v := by
  simp [run]

lemma out_append (s : σ) (u v : List α) :
    F.out s (u ++ v) = F.out s u ++ F.out (F.run s u) v := by
  induction u generalizing s with
  | nil => rfl
  | cons a u ih => simp [ih]

/-- The cut of a stream into chunks leaves no trace in what is emitted. -/
theorem outChunks_eq (s : σ) (cs : List (List α)) : F.outChunks s cs = F.out s cs.flatten := by
  induction cs generalizing s with
  | nil => rfl
  | cons c cs ih => rw [outChunks, ih, List.flatten_cons, out_append]

/-! ## Pieces -/

lemma run_of_not_mem {w : List α} (h : F.delim ∉ w) (s : σ) : F.run s w = F.inside s w := by
  induction w generalizing s with
  | nil => rfl
  | cons a w ih =>
      have ha : a ≠ F.delim := fun hc => h (by simp [hc])
      have hw : F.delim ∉ w := fun hc => h (by simp [hc])
      rw [run_cons, inside_cons, F.next_of_ne ha, ih hw]

lemma out_of_not_mem {w : List α} (h : F.delim ∉ w) (s : σ) : F.out s w = [] := by
  induction w generalizing s with
  | nil => rfl
  | cons a w ih =>
      have ha : a ≠ F.delim := fun hc => h (by simp [hc])
      have hw : F.delim ∉ w := fun hc => h (by simp [hc])
      rw [out_cons, F.emit_of_ne ha, ih hw]
      rfl

lemma run_concat_delim (s : σ) (w : List α) : F.run s (w ++ [F.delim]) = F.start := by
  simp [run_append]

lemma run_delim_append (s : σ) (u v : List α) :
    F.run s (u ++ F.delim :: v) = F.run F.start v := by
  simp [run_append]

/-- A stream up to its first delimiter, and on from there. -/
lemma out_piece {p : List α} (h : F.delim ∉ p) (s : σ) (w : List α) :
    F.out s (p ++ F.delim :: w) = (F.close (F.inside s p)).toList ++ F.out F.start w := by
  simp [out_append, F.out_of_not_mem h, F.run_of_not_mem h]

/-- A delimited piece is decoded on its own, from whatever state. -/
lemma out_delimited {p : List α} (h : F.delim ∉ p) (s : σ) (w : List α) :
    F.out s (F.delim :: p ++ F.delim :: w)
      = (F.close s).toList ++ ((F.decode p).toList ++ F.out F.start w) := by
  rw [List.cons_append, out_cons, emit_delim, next_delim, F.out_piece h]
  rfl

/-- Induction on the pieces of a stream: it has no delimiter, or it begins with a
piece that a delimiter closes. -/
@[elab_as_elim]
theorem pieceInduction {motive : List α → Prop} (w : List α)
    (last : ∀ w, F.delim ∉ w → motive w)
    (closed : ∀ p v, F.delim ∉ p → motive v → motive (p ++ F.delim :: v)) : motive w := by
  induction w using (measure List.length).wf.induction with
  | _ w ih =>
      by_cases h : F.delim ∈ w
      · obtain ⟨p, v, rfl, hp⟩ := List.eq_append_cons_of_mem h
        refine closed p v hp (ih v ?_)
        show v.length < (p ++ F.delim :: v).length
        simp only [List.length_append, List.length_cons]
        omega
      · exact last w h

/-! ## The reference semantics: split, then decode -/

/-- The pieces of a stream that a delimiter closes, the first one apart. -/
def closedPieces (w : List α) : List (List α) := (w.splitOn F.delim).tail.dropLast

/-- The piece of a stream that no delimiter has closed yet. -/
def openPiece (w : List α) : List α := (w.splitOn F.delim).getLastD []

lemma closedPieces_of_not_mem {w : List α} (h : F.delim ∉ w) : F.closedPieces w = [] := by
  simp [closedPieces, List.splitOn_eq_singleton h]

lemma openPiece_of_not_mem {w : List α} (h : F.delim ∉ w) : F.openPiece w = w := by
  simp [openPiece, List.splitOn_eq_singleton h]

lemma openPiece_append_delim (u v : List α) :
    F.openPiece (u ++ F.delim :: v) = F.openPiece v := by
  have hne : v.splitOn F.delim ≠ [] := List.splitOn_ne_nil _ _
  rw [openPiece, openPiece, List.splitOn_append_cons_self, List.getLastD_eq_getLast?,
    List.getLastD_eq_getLast?, List.getLast?_append, List.getLast?_eq_some_getLast hne,
    Option.some_or]

/-- From the state after a delimiter, all closed pieces are emitted in turn. -/
lemma out_start_eq (w : List α) :
    F.out F.start w = ((w.splitOn F.delim).dropLast).filterMap F.decode := by
  induction w using F.pieceInduction with
  | last w h =>
      rw [F.out_of_not_mem h, List.splitOn_eq_singleton h]
      rfl
  | closed p v hp ih =>
      rw [F.out_piece hp, ih, List.splitOn_append_cons_self_of_not_mem hp,
        List.dropLast_cons_of_ne_nil (List.splitOn_ne_nil _ _)]
      show (F.decode p).toList ++ _ = _
      cases hd : F.decode p <;> simp [hd]

/-- From an idle state the framer emits the decodings of the closed pieces; the
piece before the first delimiter and the one after the last are ignored. -/
theorem out_eq_splitOn {s : σ} (hs : F.Idle s) (w : List α) :
    F.out s w = (F.closedPieces w).filterMap F.decode := by
  cases w using F.pieceInduction with
  | last w h =>
      rw [F.out_of_not_mem h, F.closedPieces_of_not_mem h]
      rfl
  | closed p v hp _ =>
      rw [F.out_piece hp, hs.inside_eq, hs.close_eq, out_start_eq, closedPieces,
        List.splitOn_append_cons_self_of_not_mem hp]
      rfl

/-- The state after a stream depends only on the piece that is still open. -/
theorem run_eq_openPiece (s : σ) (w : List α) :
    F.run s w = F.inside (if F.delim ∈ w then F.start else s) (F.openPiece w) := by
  induction w using F.pieceInduction generalizing s with
  | last w h => rw [if_neg h, F.openPiece_of_not_mem h, F.run_of_not_mem h]
  | closed p v hp ih =>
      rw [run_delim_append, ih F.start, openPiece_append_delim]
      simp

/-! ## Frames between noise -/

/-- Delimited frames with arbitrary strings before, between and after them. -/
def interleave : List α → List (List α × List α) → List α
  | g, [] => g
  | g, (p, g') :: rest => g ++ F.delim :: p ++ F.delim :: interleave g' rest

/-- What such a stream emits: the noise up to the delimiter that ends it, then
the frame, and so on from the state after a delimiter. -/
def expected : σ → List α → List (List α × List α) → List β
  | s, g, [] => F.out s g
  | s, g, (p, g') :: rest =>
      F.out s (g ++ [F.delim]) ++ ((F.decode p).toList ++ expected F.start g' rest)

/-- **Resynchronisation.**  Whatever surrounds a delimited frame, the frame is
emitted, and what comes after it is read as if from the start. -/
theorem out_interleave (items : List (List α × List α)) (h : ∀ i ∈ items, F.delim ∉ i.1)
    (s : σ) (g : List α) : F.out s (F.interleave g items) = F.expected s g items := by
  induction items generalizing s g with
  | nil => rfl
  | cons i items ih =>
      obtain ⟨p, g'⟩ := i
      have hp : F.delim ∉ p := h (p, g') (by simp)
      have hrest := ih (fun j hj => h j (by simp [hj])) F.start g'
      rw [interleave, List.append_assoc, out_append, F.out_delimited hp, hrest, expected,
        out_append]
      simp

/-- Frames one after the other, from a state that closes to nothing. -/
lemma out_frames (hstart : F.close F.start = none) (ps : List (List α))
    (h : ∀ p ∈ ps, F.delim ∉ p) {s : σ} (hs : F.close s = none) :
    F.out s (ps.flatMap fun p => F.delim :: p ++ [F.delim]) = ps.filterMap F.decode := by
  induction ps generalizing s with
  | nil => rfl
  | cons p ps ih =>
      have hp : F.delim ∉ p := h p (by simp)
      have hrest := ih (fun q hq => h q (by simp [hq])) hstart
      rw [List.flatMap_cons, List.append_assoc, List.singleton_append, F.out_delimited hp, hs,
        hrest]
      cases hd : F.decode p <;> simp [hd]

end Framer

end Wire
