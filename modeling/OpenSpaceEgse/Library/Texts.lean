import Mathlib.Data.List.Basic

/-!
# Words and lines

A text is put together from words with a separator between them, from lines with a separator
behind each of them, or from blocks of one length.  In each case the parts can be told from
the text, if no word and no line contains the separator.
-/

namespace Texts

variable {α β : Type*}

section Separated

variable [DecidableEq α] {sep : α} {ls ls' : List (List α)}

/-- Words with a separator between them. -/
lemma intercalate_inj (hls : ∀ l ∈ ls, sep ∉ l) (hls' : ∀ l ∈ ls', sep ∉ l) (hne : ls ≠ [])
    (hne' : ls' ≠ []) (h : [sep].intercalate ls = [sep].intercalate ls') : ls = ls' := by
  rw [← List.splitOn_intercalate sep hls hne, h, List.splitOn_intercalate sep hls' hne']

omit [DecidableEq α] in
lemma mem_of_mem_intercalate {a : α} (h : a ∈ [sep].intercalate ls) :
    a = sep ∨ ∃ l ∈ ls, a ∈ l := by
  induction ls with
  | nil => exact absurd h List.not_mem_nil
  | cons l ls ih =>
      by_cases hne : ls = []
      · subst hne
        rw [List.intercalate_singleton] at h
        exact Or.inr ⟨l, List.mem_singleton_self l, h⟩
      · rw [List.intercalate_cons_of_ne_nil hne] at h
        rcases List.mem_append.mp h with h | h
        · rcases List.mem_append.mp h with h | h
          · exact Or.inr ⟨l, List.mem_cons_self, h⟩
          · exact Or.inl (List.mem_singleton.mp h)
        · rcases ih h with h | ⟨l', hl', h⟩
          · exact Or.inl h
          · exact Or.inr ⟨l', List.mem_cons_of_mem l hl', h⟩

/-- Lines with a separator behind each of them. -/
def terminate (sep : α) (ls : List (List α)) : List α := ls.flatMap fun l => l ++ [sep]

omit [DecidableEq α] in
lemma terminate_eq (sep : α) (ls : List (List α)) :
    terminate sep ls = [sep].intercalate (ls ++ [[]]) := by
  induction ls with
  | nil => rfl
  | cons l ls ih =>
      rw [List.cons_append, List.intercalate_cons_of_ne_nil (by simp), ← ih]
      rfl

lemma terminate_inj (hls : ∀ l ∈ ls, sep ∉ l) (hls' : ∀ l ∈ ls', sep ∉ l)
    (h : terminate sep ls = terminate sep ls') : ls = ls' := by
  have hempty : ∀ {ls : List (List α)}, (∀ l ∈ ls, sep ∉ l) → ∀ l ∈ ls ++ [[]], sep ∉ l := by
    intro ls hls l hl
    rcases List.mem_append.mp hl with hl | hl
    · exact hls l hl
    · rw [List.mem_singleton.mp hl]
      exact List.not_mem_nil
  rw [terminate_eq, terminate_eq] at h
  exact List.append_cancel_right
    (intercalate_inj (hempty hls) (hempty hls') (by simp) (by simp) h)

end Separated

/-- Blocks of one length. -/
lemma flatMap_block_injective {f : β → List α} {n : ℕ} (hlength : ∀ b, (f b).length = n + 1)
    (hf : Function.Injective f) : Function.Injective (List.flatMap f) := by
  intro bs bs' h
  induction bs generalizing bs' with
  | nil =>
      cases bs' with
      | nil => rfl
      | cons b' bs' =>
          have hlen := congrArg List.length h
          simp only [List.flatMap_nil, List.flatMap_cons, List.length_append, List.length_nil,
            hlength] at hlen
          omega
  | cons b bs ih =>
      cases bs' with
      | nil =>
          have hlen := congrArg List.length h
          simp only [List.flatMap_nil, List.flatMap_cons, List.length_append, List.length_nil,
            hlength] at hlen
          omega
      | cons b' bs' =>
          obtain ⟨hhead, htail⟩ := List.append_inj h (by rw [hlength, hlength])
          rw [hf hhead, ih htail]

end Texts
