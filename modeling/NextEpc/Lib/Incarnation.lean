import Mathlib

/-!
# Incarnations of slots

A pool gives out slots, and a slot that was freed is given out again. A pointer is a slot; it is
valid as long as the slot holds the object that it held when the pointer was taken. The births of
a slot tell its objects apart. Objects have owners, which are freed with all that they own.
-/

/-- Which slots are in use, and how many objects each slot has held. -/
structure Slots (κ : Type*) where
  live : κ → Bool
  births : κ → Nat

namespace Slots
variable {κ : Type*}

/-- A pointer, with the object that was there when it was taken. -/
structure Ref (κ : Type*) where
  slot : κ
  birth : Option Nat
  deriving DecidableEq

def unused : Slots κ := ⟨fun _ => false, fun _ => 0⟩

/-- A pointer to what is in a slot now. -/
def refer (s : Slots κ) (k : κ) : Ref κ := ⟨k, if s.live k then some (s.births k) else none⟩

/-- The object that was pointed to is still there. -/
def Valid (s : Slots κ) (r : Ref κ) : Prop :=
  s.live r.slot = true ∧ r.birth = some (s.births r.slot)

def alloc [DecidableEq κ] (s : Slots κ) (k : κ) : Slots κ where
  live := Function.update s.live k true
  births := Function.update s.births k (s.births k + 1)

/-- All objects of a set are freed. -/
def free (s : Slots κ) (gone : κ → Bool) : Slots κ :=
  { s with live := fun k => s.live k && !gone k }

/-- The owner of an object is there. -/
def Closed (s : Slots κ) (owner : κ → Option κ) : Prop :=
  ∀ k o, s.live k = true → owner k = some o → s.live o = true

section
variable {s : Slots κ} {owner owner' : κ → Option κ} {gone : κ → Bool} {r : Ref κ} {k x : κ}

theorem valid_refer_iff : s.Valid (s.refer k) ↔ s.live k = true := by
  constructor
  · exact And.left
  · intro hk
    exact ⟨hk, if_pos hk⟩

theorem live_free : (s.free gone).live k = true ↔ s.live k = true ∧ gone k = false := by
  simp [free]

theorem Valid.free (h : s.Valid r) (hkept : gone r.slot = false) : (s.free gone).Valid r :=
  ⟨live_free.mpr ⟨h.1, hkept⟩, h.2⟩

/-- A set that contains, with an object, all that it owns. -/
theorem Closed.free (h : s.Closed owner)
    (hgone : ∀ k o, owner k = some o → gone o = true → gone k = true) :
    (s.free gone).Closed owner := by
  intro k o hk ho
  obtain ⟨hlive, hkept⟩ := live_free.mp hk
  apply live_free.mpr
  refine ⟨h k o hlive ho, ?_⟩
  by_contra hne
  have hlost := hgone k o ho (Bool.eq_true_of_not_eq_false hne)
  exact Bool.false_ne_true (hkept.symm.trans hlost)

variable [DecidableEq κ]

theorem live_alloc : (s.alloc k).live x = true ↔ x = k ∨ s.live x = true := by
  by_cases hx : x = k
  · simp [alloc, hx]
  · simp [alloc, hx]

theorem Valid.alloc (h : s.Valid r) (hk : s.live k = false) : (s.alloc k).Valid r := by
  have hne : r.slot ≠ k := by
    rintro rfl
    exact Bool.false_ne_true (hk.symm.trans h.1)
  refine ⟨live_alloc.mpr (Or.inr h.1), ?_⟩
  change r.birth = some (Function.update s.births k (s.births k + 1) r.slot)
  rw [Function.update_of_ne hne]
  exact h.2

/-- A new object, whose owner is there. -/
theorem Closed.alloc (h : s.Closed owner) (hother : ∀ x, x ≠ k → owner' x = owner x)
    (howner : ∀ o, owner' k = some o → s.live o = true) : (s.alloc k).Closed owner' := by
  intro x o hx ho
  apply live_alloc.mpr
  right
  by_cases hxk : x = k
  · subst hxk
    exact howner o ho
  · rw [hother x hxk] at ho
    exact h x o ((live_alloc.mp hx).resolve_left hxk) ho

end

end Slots
