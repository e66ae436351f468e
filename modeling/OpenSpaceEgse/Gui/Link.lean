import Mathlib.Data.List.Basic

/-!
# The connection, abstractly

What the application keeps about its connection: the current port and the one the
sender writes to, the queue between the two threads with its error markers, and the
port that the receive thread has in hand.  Ports are numbered in the order of opening,
so that no two of them are the same.

A tick takes the items of the queue in order, up to the first marker, or to the first
packet on which it stops for a reason of its own; the rest waits for the next tick.

An error marker does not say which port raised.  `Accounted` is the invariant that
makes up for it: as long as a port is open and a marker is queued, that port has raised.
`Step.accounted` shows it of the steps that are `Orderly`, and `Step.not_orderly` that
any other step ends in a state in which the next tick closes a port that never raised.
-/

namespace OpenSpaceEgse

variable {α : Type}

structure Link (α : Type) where
  port : Option ℕ
  writesTo : Option ℕ
  queue : List (Option α)
  inHand : Option ℕ
  opened : ℕ
  closed : List ℕ

namespace Link

/-- The items that a tick takes: up to the first marker, or the first packet on which it
stops. -/
def taken (stops : α → Bool) : List (Option α) → List (Option α)
  | [] => []
  | none :: _ => [none]
  | some a :: queue => if stops a then [some a] else some a :: taken stops queue

/-- The items that it leaves in the queue. -/
def left (stops : α → Bool) : List (Option α) → List (Option α)
  | [] => []
  | none :: queue => queue
  | some a :: queue => if stops a then queue else left stops queue

lemma taken_append_left (stops : α → Bool) (queue : List (Option α)) :
    taken stops queue ++ left stops queue = queue := by
  induction queue with
  | nil => rfl
  | cons item queue ih =>
      cases item with
      | none => rfl
      | some a =>
          rw [taken, left]
          split_ifs
          · rfl
          · rw [List.cons_append, ih]

lemma mem_of_mem_taken {stops : α → Bool} {queue : List (Option α)} {item : Option α}
    (h : item ∈ taken stops queue) : item ∈ queue := by
  rw [← taken_append_left stops queue]
  exact List.mem_append_left _ h

lemma mem_of_mem_left {stops : α → Bool} {queue : List (Option α)} {item : Option α}
    (h : item ∈ left stops queue) : item ∈ queue := by
  rw [← taken_append_left stops queue]
  exact List.mem_append_right _ h

/-- A tick that stops at no packet takes a marker if there is one. -/
lemma mem_taken_of_mem {queue : List (Option α)} (h : none ∈ queue) :
    none ∈ taken (fun _ => false) queue := by
  induction queue with
  | nil => exact h
  | cons item queue ih =>
      cases item with
      | none => exact List.mem_cons_self
      | some a =>
          have hmem : none ∈ queue := by simpa using h
          exact List.mem_cons_of_mem _ (ih hmem)

/-- The current port, if there is one, is closed. -/
def close (l : Link α) : Link α :=
  match l.port with
  | none => l
  | some p => { l with port := none, writesTo := none, closed := p :: l.closed }

variable {l l' : Link α} {r : Option ℕ} {raised : List ℕ} {stops : α → Bool}

lemma close_port (l : Link α) : l.close.port = none := by
  rw [close]
  split
  · assumption
  · rfl

@[simp] lemma close_inHand (l : Link α) : l.close.inHand = l.inHand := by
  rw [close]
  split <;> rfl

@[simp] lemma close_queue (l : Link α) : l.close.queue = l.queue := by
  rw [close]
  split <;> rfl

@[simp] lemma close_opened (l : Link α) : l.close.opened = l.opened := by
  rw [close]
  split <;> rfl

/-- Every port that is current, in hand or has raised was opened. -/
structure Numbered (l : Link α) (raised : List ℕ) : Prop where
  port_lt : ∀ p, l.port = some p → p < l.opened
  inHand_lt : ∀ p, l.inHand = some p → p < l.opened
  raised_lt : ∀ p ∈ raised, p < l.opened

/-- While a port is open and a marker is queued, that port has raised. -/
def Accounted (l : Link α) (raised : List ℕ) : Prop :=
  ∀ p, l.port = some p → none ∈ l.queue → p ∈ raised

/-- A port is opened only while no marker is queued, and a port that raises is the
current one, if there is one that has not raised before. -/
def Orderly (l : Link α) (r : Option ℕ) (l' : Link α) (raised : List ℕ) : Prop :=
  (l.port = none → l'.port ≠ none → none ∉ l.queue) ∧
    ∀ q ∈ r, ∀ p ∈ l.port, p = q ∨ p ∈ raised

lemma orderly_of_quiet (h : l'.port = l.port ∨ l'.port = none) : Orderly l none l' raised := by
  constructor
  · intro hnone hsome
    rcases h with h | h
    · exact absurd (h.trans hnone) hsome
    · exact absurd h hsome
  · intro q hq
    exact absurd hq (by simp)

/-! ## The steps -/

variable [DecidableEq α]

/-- A tick that takes a marker closes the port. -/
def tick (l : Link α) (stops : α → Bool) : Link α :=
  if none ∈ taken stops l.queue then { l with queue := left stops l.queue }.close
  else { l with queue := left stops l.queue }

/-- The steps of the connection.  The label is the port that raised in the step. -/
inductive Step : Link α → Option ℕ → Link α → Prop where
  | stays (l : Link α) : Step l none l
  | refuses (l : Link α) (h : l.port = none) :
      Step l none { l with port := none, writesTo := none }
  | drops (l : Link α) (h : l.port = none) :
      Step l none { l with port := none, writesTo := none, opened := l.opened + 1 }
  | opens (l : Link α) (h : l.port = none) :
      Step l none { l with
        port := some l.opened
        writesTo := some l.opened
        opened := l.opened + 1 }
  | closes (l : Link α) : Step l none l.close
  | ticks (l : Link α) (stops : α → Bool) : Step l none (l.tick stops)
  | picks (l : Link α) (p : ℕ) (h : l.port = some p) : Step l none { l with inHand := some p }
  | delivers (l : Link α) (items : List α) :
      Step l none { l with queue := l.queue ++ items.map some, inHand := none }
  | fails (l : Link α) (p : ℕ) (h : l.inHand = some p) :
      Step l (some p) { l with queue := l.queue ++ [none], inHand := none }
  | ends (l : Link α) : Step l none { l with inHand := none }

@[simp] lemma tick_inHand (l : Link α) : (l.tick stops).inHand = l.inHand := by
  rw [tick]
  split_ifs
  · exact close_inHand _
  · rfl

@[simp] lemma tick_opened (l : Link α) : (l.tick stops).opened = l.opened := by
  rw [tick]
  split_ifs
  · exact close_opened _
  · rfl

@[simp] lemma tick_queue (l : Link α) : (l.tick stops).queue = left stops l.queue := by
  rw [tick]
  split_ifs
  · exact close_queue _
  · rfl

/-- A tick closes the port exactly if it takes a marker. -/
lemma tick_port (l : Link α) :
    (l.tick stops).port = if none ∈ taken stops l.queue then none else l.port := by
  rw [tick]
  split_ifs
  · exact close_port _
  · rfl

lemma Step.numbered (h : Step l r l') (hn : Numbered l raised) :
    Numbered l' (r.toList ++ raised) := by
  obtain ⟨hport, hhand, hraised⟩ := hn
  cases h with
  | stays => exact ⟨hport, hhand, hraised⟩
  | refuses => exact ⟨fun p hp => absurd hp (by simp), hhand, hraised⟩
  | drops =>
      -- the number of the dropped port is used up
      refine ⟨?_, ?_, ?_⟩
      · intro p hp
        exact absurd hp (by simp)
      · intro p hp
        exact Nat.lt_succ_of_lt (hhand p hp)
      · intro p hp
        exact Nat.lt_succ_of_lt (hraised p hp)
  | opens =>
      refine ⟨?_, ?_, ?_⟩
      · intro p hp
        exact (Option.some.inj hp).symm ▸ Nat.lt_succ_self l.opened
      · intro p hp
        exact Nat.lt_succ_of_lt (hhand p hp)
      · intro p hp
        exact Nat.lt_succ_of_lt (hraised p hp)
  | closes =>
      refine ⟨fun p hp => absurd hp (by simp [close_port]), ?_, ?_⟩
      · simpa using hhand
      · simpa using hraised
  | ticks =>
      refine ⟨?_, ?_, ?_⟩
      · intro p hp
        rw [tick_port] at hp
        split_ifs at hp
        rw [tick_opened]
        exact hport p hp
      · simpa using hhand
      · simpa using hraised
  | picks p h =>
      refine ⟨hport, ?_, hraised⟩
      intro q hq
      exact (Option.some.inj hq) ▸ hport p h
  | delivers => exact ⟨hport, fun p hp => absurd hp (by simp), hraised⟩
  | fails p h =>
      -- the port that raises is the one in hand, which was opened before
      refine ⟨hport, ?_, ?_⟩
      · intro q hq
        exact absurd hq (by simp)
      · intro q hq
        rcases List.mem_cons.mp hq with rfl | hq
        · exact hhand q h
        · exact hraised q hq
  | ends => exact ⟨hport, fun p hp => absurd hp (by simp), hraised⟩

/-- Orderly steps keep the markers accounted for. -/
theorem Step.accounted (h : Step l r l') (ho : Orderly l r l' raised)
    (ha : Accounted l raised) : Accounted l' (r.toList ++ raised) := by
  obtain ⟨hopens, hraises⟩ := ho
  cases h with
  | stays => exact ha
  | refuses => exact fun p hp => absurd hp (by simp)
  | drops => exact fun p hp => absurd hp (by simp)
  | opens h =>
      -- no marker is left over for the new port
      intro p hp hmarker
      exact absurd hmarker (hopens h (by simp))
  | closes => exact fun p hp => absurd hp (by simp [close_port])
  | ticks =>
      -- the port is still open, and what is queued was queued before
      intro p hp hmarker
      rw [tick_port] at hp
      rw [tick_queue] at hmarker
      split_ifs at hp
      exact ha p hp (mem_of_mem_left hmarker)
  | picks => exact ha
  | delivers items =>
      intro p hp hmarker
      refine ha p hp ?_
      simpa using hmarker
  | fails q h =>
      intro p hp _
      rcases hraises q rfl p hp with rfl | hmem
      · exact List.mem_cons_self
      · exact List.mem_cons_of_mem _ hmem
  | ends => exact ha

/-- In a state that is accounted for, a tick only closes a port that has raised. -/
lemma Accounted.tick (ha : Accounted l raised) {p : ℕ} (hp : l.port = some p)
    (htick : (l.tick stops).port = none) : p ∈ raised := by
  refine ha p hp ?_
  by_contra hmarker
  rw [tick_port, if_neg fun h => hmarker (mem_of_mem_taken h), hp] at htick
  exact absurd htick (by simp)

/-- Behind a step that is not orderly, a tick that stops at no packet closes a port that never
raised. -/
theorem Step.not_orderly (h : Step l r l') (hn : Numbered l raised)
    (hno : ¬ Orderly l r l' raised) :
    ∃ p, l'.port = some p ∧ p ∉ r.toList ++ raised ∧
      (l'.tick fun _ => false).port = none := by
  cases h with
  | opens h =>
      have hmarker : none ∈ l.queue := by
        by_contra hnot
        exact hno ⟨fun _ _ => hnot, fun q hq => absurd hq (by simp)⟩
      -- the new port has a number that nothing has raised under
      refine ⟨l.opened, rfl, ?_, ?_⟩
      · intro hmem
        exact Nat.lt_irrefl _ (hn.raised_lt _ hmem)
      · rw [tick_port, if_pos (mem_taken_of_mem hmarker)]
  | fails q h =>
      -- `q` is not the current port, and leaves its marker behind all the same
      obtain ⟨p, hp, hpq, hnot⟩ : ∃ p, l.port = some p ∧ p ≠ q ∧ p ∉ raised := by
        by_contra hall
        refine hno ⟨fun hnone hsome => absurd hnone hsome, ?_⟩
        rintro q' hq' p hp
        obtain rfl := Option.some.inj hq'
        by_contra hneither
        exact hall ⟨p, hp, fun heq => hneither (Or.inl heq), fun hmem => hneither (Or.inr hmem)⟩
      refine ⟨p, hp, ?_, ?_⟩
      · intro hmem
        rcases List.mem_cons.mp hmem with heq | hmem
        · exact hpq heq
        · exact hnot hmem
      · rw [tick_port, if_pos (mem_taken_of_mem (by simp))]
  | stays => exact absurd (orderly_of_quiet (Or.inl rfl)) hno
  | refuses => exact absurd (orderly_of_quiet (Or.inr rfl)) hno
  | drops => exact absurd (orderly_of_quiet (Or.inr rfl)) hno
  | closes => exact absurd (orderly_of_quiet (Or.inr (close_port l))) hno
  | ticks =>
      refine absurd (orderly_of_quiet ?_) hno
      rw [tick_port]
      split_ifs
      · exact Or.inr rfl
      · exact Or.inl rfl
  | picks => exact absurd (orderly_of_quiet (Or.inl rfl)) hno
  | delivers => exact absurd (orderly_of_quiet (Or.inl rfl)) hno
  | ends => exact absurd (orderly_of_quiet (Or.inl rfl)) hno

end Link

end OpenSpaceEgse
