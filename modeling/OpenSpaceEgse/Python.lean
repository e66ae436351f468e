import Mathlib.Data.Int.Notation
import OpenSpaceEgse.Library.Words

/-!
# The Python runtime, as far as the program relies on it

Byte strings are lists of bytes, integers are unbounded, and a call that may raise
returns an `Except`.  A method that changes its object returns, beside its result,
the object it leaves behind; the changes made before an exception was raised stay,
as they do in Python.
-/

namespace OpenSpaceEgse

open Wire

/-- The exceptions that the program raises or catches, with their messages.  `IOError` is
`OSError`; pyserial's `SerialException` is a subclass of it. -/
inductive PyError where
  | typeError (msg : String)
  | valueError (msg : String)
  | assertionError (msg : String)
  | osError (msg : String)
  | serialException (msg : String)
deriving DecidableEq, Repr

/-- A `do` block returns if and only if its first step does and the rest does then. -/
lemma bind_eq_ok {α β : Type} {x : Except PyError α} {f : α → Except PyError β} {b : β} :
    (x >>= f) = .ok b ↔ ∃ a, x = .ok a ∧ f a = .ok b := by
  cases x with
  | error e => simp [bind, Except.bind]
  | ok a => simp [bind, Except.bind]

/-- It raises what its first step raises, or what the rest raises. -/
lemma bind_eq_error {α β : Type} {x : Except PyError α} {f : α → Except PyError β} {e : PyError} :
    (x >>= f) = .error e ↔ x = .error e ∨ ∃ a, x = .ok a ∧ f a = .error e := by
  cases x with
  | error e => simp [bind, Except.bind]
  | ok a => simp [bind, Except.bind]

/-- A list of calls of which each returns. -/
lemma mapM_eq_ok {α β : Type} {f : α → Except PyError β} {g : α → β} {as : List α}
    (h : ∀ a ∈ as, f a = .ok (g a)) : as.mapM f = .ok (as.map g) := by
  induction as with
  | nil => rfl
  | cons a as ih =>
      have hhead := h a List.mem_cons_self
      have htail := ih fun a' ha' => h a' (List.mem_cons_of_mem a ha')
      rw [List.mapM_cons, hhead, htail]
      rfl

/-- A check that raises was passed if a value is returned. -/
lemma dite_eq_ok {α : Type*} {c : Prop} [Decidable c] {e : PyError} {x : ¬ c → Except PyError α}
    {a : α} (h : (if hc : c then .error e else x hc) = .ok a) : ∃ hc, x hc = .ok a := by
  by_cases hc : c
  · rw [dif_pos hc] at h
    exact absurd h (by simp)
  · rw [dif_neg hc] at h
    exact ⟨hc, h⟩

lemma ite_eq_ok {α : Type} {c : Prop} [Decidable c] {e : PyError} {x : Except PyError α} {a : α}
    (h : (if c then .error e else x) = .ok a) : x = .ok a := by
  by_cases hc : c
  · rw [if_pos hc] at h
    exact absurd h (by simp)
  · rwa [if_neg hc] at h

/-- The refusals of the validators are `ValueError`s. -/
def IsValueError (e : PyError) : Prop := ∃ msg, e = .valueError msg

/-- Whatever is raised is a `ValueError`. -/
def OnlyValueErrors {α : Type} (x : Except PyError α) : Prop := ∀ e, x = .error e → IsValueError e

namespace OnlyValueErrors

variable {α β : Type} {msg : String} {c : Prop} [Decidable c]

lemma ok (a : α) : OnlyValueErrors (.ok a) := by
  intro e h
  exact absurd h (by simp)

lemma valueError (msg : String) :
    OnlyValueErrors (.error (.valueError msg) : Except PyError α) := by
  intro e h
  exact ⟨msg, (Except.error.inj h).symm⟩

/-- One check more. -/
lemma check {x : ¬ c → Except PyError α} (hx : ∀ hc, OnlyValueErrors (x hc)) :
    OnlyValueErrors (if hc : c then .error (.valueError msg) else x hc) := by
  split
  · exact valueError msg
  · exact hx _

lemma ite {x y : Except PyError α} (hx : OnlyValueErrors x) (hy : OnlyValueErrors y) :
    OnlyValueErrors (if c then x else y) := by
  split
  · exact hx
  · exact hy

lemma bind {x : Except PyError α} {f : α → Except PyError β} (hx : OnlyValueErrors x)
    (hf : ∀ a, OnlyValueErrors (f a)) : OnlyValueErrors (x >>= f) := by
  intro e h
  rcases bind_eq_error.mp h with h | ⟨a, -, h⟩
  · exact hx e h
  · exact hf a e h

end OnlyValueErrors

/-- A `bytes` object. -/
abbrev Bytes : Type := List UInt8

/-- The slice `bs[i:j]`. -/
def slice (bs : Bytes) (i j : ℕ) : Bytes := (bs.drop i).take (j - i)

/-- The slice `bs[i:]`. -/
def sliceFrom (bs : Bytes) (i : ℕ) : Bytes := bs.drop i

/-- The slice `bs[-n:]`. -/
def sliceLast (bs : Bytes) (n : ℕ) : Bytes := bs.drop (bs.length - n)

/-- The item `bs[i]`, which is only read behind a check of the length. -/
def byteAt (bs : Bytes) (i : ℕ) : ℕ := (bs.getD i 0).toNat

lemma length_slice {bs : Bytes} {i j : ℕ} (h : j ≤ bs.length) : (slice bs i j).length = j - i := by
  simp only [slice, List.length_take, List.length_drop]
  omega

lemma slice_append_slice {bs : Bytes} {i j k : ℕ} (hij : i ≤ j) (hjk : j ≤ k) :
    slice bs i j ++ slice bs j k = slice bs i k := by
  have hdrop : bs.drop j = (bs.drop i).drop (j - i) := by
    rw [List.drop_drop, Nat.add_sub_cancel' hij]
  have hlen : k - i = (j - i) + (k - j) := by omega
  rw [slice, slice, slice, hdrop, hlen, List.take_add]

lemma slice_append_sliceFrom (bs : Bytes) {i j : ℕ} (hij : i ≤ j) :
    slice bs i j ++ sliceFrom bs j = sliceFrom bs i := by
  have hdrop : bs.drop j = (bs.drop i).drop (j - i) := by
    rw [List.drop_drop, Nat.add_sub_cancel' hij]
  rw [slice, sliceFrom, sliceFrom, hdrop, List.take_append_drop]

lemma slice_drop (b : Bytes) (offset i j : ℕ) :
    slice b (offset + i) (offset + j) = slice (b.drop offset) i j := by
  have hlen : offset + j - (offset + i) = j - i := by omega
  rw [slice, slice, List.drop_drop, hlen]

lemma slice_append_left {u : Bytes} (v : Bytes) {i j : ℕ} (h : j ≤ u.length) :
    slice (u ++ v) i j = slice u i j := by
  by_cases hij : i ≤ j
  · rw [slice, slice, List.drop_append_of_le_length (by omega),
      List.take_append_of_le_length (by rw [List.length_drop]; omega)]
  · have hzero : j - i = 0 := by omega
    rw [slice, slice, hzero, List.take_zero, List.take_zero]

lemma slice_zero_length (u v : Bytes) : slice (u ++ v) 0 u.length = u := by
  rw [slice, List.drop_zero, Nat.sub_zero, List.take_left]

/-- A slice whose bounds fall between the parts of a string is the part between them. -/
lemma slice_between (u v w : Bytes) {i j : ℕ} (hi : u.length = i) (hj : i + v.length = j) :
    slice (u ++ v ++ w) i j = v := by
  subst hi hj
  rw [slice_append_left w (by rw [List.length_append]), slice, List.drop_left,
    Nat.add_sub_cancel_left, List.take_length]

/-! ## Words of two bytes and of one -/

lemma fromBytes_slice_lt {b : Bytes} {i j : ℕ} (h : j ≤ b.length) (hj : j = i + 2) :
    fromBytes (slice b i j) < 256 ^ 2 := by
  have hlen : (slice b i j).length = 2 := by rw [length_slice h]; omega
  have := fromBytes_lt (slice b i j)
  rwa [hlen] at this

lemma toBytes_fromBytes_slice {b : Bytes} {i j : ℕ} (h : j ≤ b.length) (hj : j = i + 2) :
    toBytes (fromBytes (slice b i j)) 2 = slice b i j := by
  have hlen : (slice b i j).length = 2 := by rw [length_slice h]; omega
  have := toBytes_fromBytes (slice b i j)
  rwa [hlen] at this

lemma byteAt_lt (b : Bytes) (i : ℕ) : byteAt b i < 256 := (b.getD i 0).toNat_lt

lemma toBytes_byteAt {b : Bytes} {i j : ℕ} (h : j ≤ b.length) (hj : j = i + 1) :
    toBytes (byteAt b i) 1 = slice b i j := by
  subst hj
  have hi : i < b.length := h
  rw [slice, List.drop_eq_getElem_cons hi, Nat.add_sub_cancel_left, List.take_succ_cons,
    List.take_zero]
  simp [toBytes, byteAt, List.getElem?_eq_getElem hi]

end OpenSpaceEgse
