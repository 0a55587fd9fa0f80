import Mathlib

/-!
# Pools of slots

A pool gives out slots of a fixed array. A slot that is freed keeps its octets, and they
are found there by whoever is given the slot next. A pointer is the index of a slot; it
stays what it is when the slot is freed or given out again.
-/

/-- The slots that are in use, and what is in each slot. -/
structure Pool (α : Type*) where
  live : Nat → Bool
  mem : Nat → α

namespace Pool
variable {α : Type*} {p : Pool α} {i j : Nat} {f : α → α}

/-- A pool of which no slot is in use. -/
def unused (mem : Nat → α) : Pool α := ⟨fun _ => false, mem⟩

/-- Give out a slot. -/
def alloc (p : Pool α) (i : Nat) : Pool α := { p with live := Function.update p.live i true }

/-- Take a slot back. -/
def free (p : Pool α) (i : Nat) : Pool α := { p with live := Function.update p.live i false }

/-- Write to a slot through a pointer. -/
def modify (p : Pool α) (i : Nat) (f : α → α) : Pool α :=
  { p with mem := Function.update p.mem i (f (p.mem i)) }

@[simp, grind =] theorem live_unused (mem : Nat → α) : (unused mem).live i = false := rfl

@[simp, grind =] theorem mem_unused (mem : Nat → α) : (unused mem).mem = mem := rfl

@[simp, grind =] theorem live_alloc : (p.alloc i).live j = if j = i then true else p.live j := by
  simp [alloc, Function.update_apply]

@[simp, grind =] theorem mem_alloc : (p.alloc i).mem = p.mem := rfl

@[simp, grind =] theorem live_free : (p.free i).live j = if j = i then false else p.live j := by
  simp [free, Function.update_apply]

@[simp, grind =] theorem mem_free : (p.free i).mem = p.mem := rfl

@[simp, grind =] theorem live_modify : (p.modify i f).live = p.live := rfl

@[simp, grind =] theorem mem_modify :
    (p.modify i f).mem j = if j = i then f (p.mem i) else p.mem j := by
  simp [modify, Function.update_apply]

theorem modify_modify {g : α → α} : (p.modify i f).modify i g = p.modify i fun a => g (f a) := by
  simp [modify]

theorem modify_eq_self (h : f (p.mem i) = p.mem i) : p.modify i f = p := by
  rw [modify, h, Function.update_eq_self]

/-- A write to other fields than the one that is read. -/
theorem apply_mem_modify {β : Type*} {g : α → β} (hg : ∀ a, g (f a) = g a) :
    g ((p.modify i f).mem j) = g (p.mem j) := by
  rw [mem_modify]
  split
  · rename_i hji
    rw [hg, hji]
  · rfl

theorem live_foldl_free (l : List Nat) (p : Pool α) :
    (l.foldl free p).live j = if j ∈ l then false else p.live j := by
  induction l generalizing p with
  | nil => simp
  | cons i l ih =>
    rw [List.foldl_cons, ih, live_free]
    by_cases hl : j ∈ l
    · simp [hl]
    · simp [hl]

@[simp] theorem mem_foldl_free (l : List Nat) (p : Pool α) : (l.foldl free p).mem = p.mem := by
  induction l generalizing p with
  | nil => rfl
  | cons i l ih => rw [List.foldl_cons, ih, mem_free]

/-! ## Pools whose free slots are cleared -/

/-- Clearing a free slot once more changes nothing. -/
def Cleared (clear : α → α) (p : Pool α) : Prop :=
  ∀ i, p.live i = false → clear (p.mem i) = p.mem i

variable {clear : α → α}

theorem Cleared.add (h : p.Cleared clear) (i : Nat) (f : α → α) :
    ((p.alloc i).modify i f).Cleared clear := by
  intro j hj
  by_cases hji : j = i
  · subst hji
    simp at hj
  · simp only [live_modify, live_alloc, if_neg hji] at hj
    simpa [hji] using h j hj

/-- A write to a slot in use. -/
theorem Cleared.modify (h : p.Cleared clear) (hi : p.live i = true) (f : α → α) :
    (p.modify i f).Cleared clear := by
  intro j hj
  rw [live_modify] at hj
  have hji : j ≠ i := by
    rintro rfl
    rw [hi] at hj
    cases hj
  simpa [hji] using h j hj

/-- A write to other fields than those that are cleared. -/
theorem Cleared.modify_of_comm (h : p.Cleared clear) (i : Nat)
    (hf : ∀ a, clear a = a → clear (f a) = f a) : (p.modify i f).Cleared clear := by
  intro j hj
  rw [live_modify] at hj
  rw [mem_modify]
  split
  · rename_i hji
    subst hji
    exact hf _ (h j hj)
  · exact h j hj

theorem Cleared.free (h : p.Cleared clear) (hi : clear (p.mem i) = p.mem i) :
    (p.free i).Cleared clear := by
  intro j hj
  rw [mem_free]
  by_cases hji : j = i
  · rw [hji]
    exact hi
  · rw [live_free, if_neg hji] at hj
    exact h j hj

/-- A slot is cleared and taken back. -/
theorem Cleared.remove (h : p.Cleared clear) (hclear : ∀ a, clear (clear a) = clear a) (i : Nat) :
    ((p.modify i clear).free i).Cleared clear := by
  apply (h.modify_of_comm i fun a _ => hclear a).free
  simp [hclear]

end Pool
