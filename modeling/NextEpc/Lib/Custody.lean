import Mathlib

/-!
# Records in custody

Threads take records out of a store to work on them, and put them back. A record is alive while it
is stored or a thread would put it back. Custody is exclusive if nothing is stored under a key
that a thread has, and no key is with two threads. Taking a record then changes nothing about what
is alive, and a thread that gives one back decides about its key alone.
-/

namespace Custody
variable {τ κ α : Type*} {stored stored' : κ → Option α}
  {held held' : τ → Option (κ × Option α)} {t t' : τ} {k k' : κ} {a a' : α} {o : Option α}

/-- A thread holds at most one key, with the record it would put back, if any. -/
def Alive (stored : κ → Option α) (held : τ → Option (κ × Option α)) (k : κ) (a : α) : Prop :=
  stored k = some a ∨ ∃ t, held t = some (k, some a)

/-- The relation with another record, or none, under one key. -/
def Replaced (r : κ → α → Prop) (k : κ) (o : Option α) : κ → α → Prop :=
  fun k' a => (k' = k ∧ o = some a) ∨ (k' ≠ k ∧ r k' a)

structure Exclusive (stored : κ → Option α) (held : τ → Option (κ × Option α)) : Prop where
  absent : ∀ t k o, held t = some (k, o) → stored k = none
  distinct : ∀ t t' k o o', held t = some (k, o) → held t' = some (k, o') → t = t'

theorem Exclusive.unique (h : Exclusive stored held) (ha : Alive stored held k a)
    (ha' : Alive stored held k a') : a = a' := by
  rcases ha with ha | ⟨t, ht⟩
  · rcases ha' with ha' | ⟨t', ht'⟩
    · exact Option.some.inj (ha.symm.trans ha')
    · cases ha.symm.trans (h.absent t' k _ ht')
  · rcases ha' with ha' | ⟨t', ht'⟩
    · cases ha'.symm.trans (h.absent t k _ ht)
    · cases h.distinct t t' k _ _ ht ht'
      cases ht.symm.trans ht'
      rfl

theorem Exclusive.not_alive (h : Exclusive stored held) (ht : held t = some (k, none)) :
    ¬Alive stored held k a := by
  rintro (hstored | ⟨t', ht'⟩)
  · cases hstored.symm.trans (h.absent t k none ht)
  · cases h.distinct t t' k _ _ ht ht'
    cases ht.symm.trans ht'

/-! ## Taking a record -/

variable [DecidableEq τ]

theorem Exclusive.take [DecidableEq κ] (h : Exclusive stored held) (hk : stored k = some a) :
    Exclusive (Function.update stored k none) (Function.update held t (some (k, o))) := by
  constructor
  · intro t' k' o' ht'
    rw [Function.update_apply] at ht' ⊢
    split
    · rfl
    · rename_i hne
      split at ht'
      · cases ht'
        exact absurd rfl hne
      · exact h.absent t' k' o' ht'
  · intro t₁ t₂ k' o₁ o₂ h₁ h₂
    rw [Function.update_apply] at h₁ h₂
    split at h₁
    · rename_i heq₁
      cases h₁
      split at h₂
      · rename_i heq₂
        rw [heq₁, heq₂]
      · cases hk.symm.trans (h.absent t₂ k o₂ h₂)
    · split at h₂
      · cases h₂
        cases hk.symm.trans (h.absent t₁ k o₁ h₁)
      · exact h.distinct t₁ t₂ k' o₁ o₂ h₁ h₂

/-- A thread that had nothing takes a record: what is alive stays so. -/
theorem alive_take [DecidableEq κ] (hk : stored k = some a) (ht : held t = none) :
    Alive (Function.update stored k none) (Function.update held t (some (k, some a))) k' a' ↔
      Alive stored held k' a' := by
  constructor
  · rintro (hstored | ⟨t', ht'⟩)
    · rw [Function.update_apply] at hstored
      split at hstored
      · cases hstored
      · exact Or.inl hstored
    · rw [Function.update_apply] at ht'
      split at ht'
      · cases ht'
        exact Or.inl hk
      · exact Or.inr ⟨t', ht'⟩
  · rintro (hstored | ⟨t', ht'⟩)
    · by_cases heq : k' = k
      · subst heq
        cases hk.symm.trans hstored
        exact Or.inr ⟨t, Function.update_self _ _ _⟩
      · exact Or.inl ((Function.update_of_ne heq _ _).trans hstored)
    · refine Or.inr ⟨t', (Function.update_of_ne ?_ _ _).trans ht'⟩
      rintro rfl
      cases ht.symm.trans ht'

/-- A key under which nothing is stored, and which no thread has, is taken without a record. -/
theorem Exclusive.reserve (h : Exclusive stored held) (hk : stored k = none)
    (hfree : ∀ t o, held t ≠ some (k, o)) :
    Exclusive stored (Function.update held t (some (k, o))) := by
  constructor
  · intro t' k' o' ht'
    rw [Function.update_apply] at ht'
    split at ht'
    · cases ht'
      exact hk
    · exact h.absent t' k' o' ht'
  · intro t₁ t₂ k' o₁ o₂ h₁ h₂
    rw [Function.update_apply] at h₁ h₂
    split at h₁
    · rename_i heq₁
      cases h₁
      split at h₂
      · rename_i heq₂
        rw [heq₁, heq₂]
      · exact absurd h₂ (hfree t₂ o₂)
    · split at h₂
      · cases h₂
        exact absurd h₁ (hfree t₁ o₁)
      · exact h.distinct t₁ t₂ k' o₁ o₂ h₁ h₂

theorem alive_reserve (ht : held t = none) :
    Alive stored (Function.update held t (some (k, none))) k' a' ↔ Alive stored held k' a' := by
  apply or_congr_right
  constructor
  · rintro ⟨t', ht'⟩
    rw [Function.update_apply] at ht'
    split at ht'
    · cases ht'
    · exact ⟨t', ht'⟩
  · rintro ⟨t', ht'⟩
    refine ⟨t', (Function.update_of_ne ?_ _ _).trans ht'⟩
    rintro rfl
    cases ht.symm.trans ht'

/-! ## Giving it back -/

/-- A thread stores a record under its key, or gives the key up. -/
theorem Exclusive.put [DecidableEq κ] (h : Exclusive stored held) (ht : held t = some (k, o)) :
    Exclusive (Function.update stored k o) (Function.update held t none) := by
  constructor
  · intro t' k' o' ht'
    rw [Function.update_apply] at ht'
    split at ht'
    · cases ht'
    · rename_i hne
      rw [Function.update_of_ne]
      · exact h.absent t' k' o' ht'
      · rintro rfl
        exact hne (h.distinct t' t k' o' o ht' ht)
  · intro t₁ t₂ k' o₁ o₂ h₁ h₂
    rw [Function.update_apply] at h₁ h₂
    split at h₁
    · cases h₁
    · split at h₂
      · cases h₂
      · exact h.distinct t₁ t₂ k' o₁ o₂ h₁ h₂

theorem alive_put [DecidableEq κ] (h : Exclusive stored held) (ht : held t = some (k, o)) :
    Alive (Function.update stored k o) (Function.update held t none) k' a' ↔
      Alive stored held k' a' := by
  constructor
  · rintro (hstored | ⟨t', ht'⟩)
    · rw [Function.update_apply] at hstored
      split at hstored
      · rename_i heq
        rw [heq]
        exact Or.inr ⟨t, ht.trans (by rw [hstored])⟩
      · exact Or.inl hstored
    · rw [Function.update_apply] at ht'
      split at ht'
      · cases ht'
      · exact Or.inr ⟨t', ht'⟩
  · rintro (hstored | ⟨t', ht'⟩)
    · refine Or.inl ((Function.update_of_ne ?_ _ _).trans hstored)
      rintro rfl
      cases hstored.symm.trans (h.absent t k' o ht)
    · by_cases heq : t' = t
      · subst heq
        cases ht.symm.trans ht'
        exact Or.inl (Function.update_self _ _ _)
      · exact Or.inr ⟨t', (Function.update_of_ne heq _ _).trans ht'⟩

/-! ## Working on it -/

theorem Exclusive.work (h : Exclusive stored held) (ht : held t = some (k, o)) {o' : Option α} :
    Exclusive stored (Function.update held t (some (k, o'))) := by
  constructor
  · intro t' k' o₁ ht'
    rw [Function.update_apply] at ht'
    split at ht'
    · cases ht'
      exact h.absent t k o ht
    · exact h.absent t' k' o₁ ht'
  · intro t₁ t₂ k' o₁ o₂ h₁ h₂
    rw [Function.update_apply] at h₁ h₂
    split at h₁
    · rename_i heq₁
      cases h₁
      split at h₂
      · rename_i heq₂
        rw [heq₁, heq₂]
      · rw [heq₁]
        exact h.distinct t t₂ k o o₂ ht h₂
    · split at h₂
      · rename_i heq₂
        cases h₂
        rw [heq₂]
        exact h.distinct t₁ t k o₁ o h₁ ht
      · exact h.distinct t₁ t₂ k' o₁ o₂ h₁ h₂

/-- What a thread would put back is alive under its key, and nothing else there. -/
theorem alive_work (h : Exclusive stored held) (ht : held t = some (k, o)) {o' : Option α} :
    Alive stored (Function.update held t (some (k, o'))) k' a' ↔
      Replaced (Alive stored held) k o' k' a' := by
  constructor
  · rintro (hstored | ⟨t', ht'⟩)
    · refine Or.inr ⟨?_, Or.inl hstored⟩
      rintro rfl
      cases hstored.symm.trans (h.absent t k' o ht)
    · rw [Function.update_apply] at ht'
      split at ht'
      · cases ht'
        exact Or.inl ⟨rfl, rfl⟩
      · rename_i hne
        refine Or.inr ⟨?_, Or.inr ⟨t', ht'⟩⟩
        rintro rfl
        exact hne (h.distinct t' t k' _ o ht' ht)
  · rintro (⟨rfl, rfl⟩ | ⟨hne, hstored | ⟨t', ht'⟩⟩)
    · exact Or.inr ⟨t, Function.update_self _ _ _⟩
    · exact Or.inl hstored
    · refine Or.inr ⟨t', (Function.update_of_ne ?_ _ _).trans ht'⟩
      rintro rfl
      cases ht.symm.trans ht'
      exact hne rfl

/-! ## In one step -/

/-- A thread does nothing here. -/
theorem Exclusive.stays (h : Exclusive stored held) {x : Option (κ × Option α)} (ht : held t = x) :
    Exclusive stored (Function.update held t x) ∧
      Alive stored (Function.update held t x) = Alive stored held := by
  rw [Function.update_eq_self_iff.mpr ht.symm]
  exact ⟨h, rfl⟩

theorem Exclusive.reserves (h : Exclusive stored held) (hk : stored k = none)
    (hfree : ∀ t o, held t ≠ some (k, o)) (ht : held t = none) :
    Exclusive stored (Function.update held t (some (k, none))) ∧
      Alive stored (Function.update held t (some (k, none))) = Alive stored held :=
  ⟨h.reserve hk hfree, funext fun _ => funext fun _ => propext (alive_reserve ht)⟩

theorem Exclusive.works (h : Exclusive stored held) (ht : held t = some (k, o)) (o' : Option α) :
    Exclusive stored (Function.update held t (some (k, o'))) ∧
      Alive stored (Function.update held t (some (k, o'))) = Replaced (Alive stored held) k o' :=
  ⟨h.work ht, funext fun _ => funext fun _ => propext (alive_work h ht)⟩

variable [DecidableEq κ]

theorem Exclusive.takes (h : Exclusive stored held) (hk : stored k = some a) (ht : held t = none) :
    Exclusive (Function.update stored k none) (Function.update held t (some (k, some a))) ∧
      Alive (Function.update stored k none) (Function.update held t (some (k, some a))) =
        Alive stored held :=
  ⟨h.take hk, funext fun _ => funext fun _ => propext (alive_take hk ht)⟩

/-- A record is taken and worked on. -/
theorem Exclusive.takesAs (h : Exclusive stored held) (hk : stored k = some a) (ht : held t = none)
    (o : Option α) :
    Exclusive (Function.update stored k none) (Function.update held t (some (k, o))) ∧
      Alive (Function.update stored k none) (Function.update held t (some (k, o))) =
        Replaced (Alive stored held) k o := by
  obtain ⟨htaken, halive⟩ := h.takes hk ht
  refine ⟨h.take hk, funext fun k' => funext fun a' => propext ?_⟩
  have hwork := @alive_work _ _ _ _ _ t k k' a' _ _ htaken (Function.update_self _ _ _) o
  rwa [halive, Function.update_idem] at hwork

theorem Exclusive.puts (h : Exclusive stored held) (ht : held t = some (k, o)) :
    Exclusive (Function.update stored k o) (Function.update held t none) ∧
      Alive (Function.update stored k o) (Function.update held t none) = Alive stored held :=
  ⟨h.put ht, funext fun _ => funext fun _ => propext (alive_put h ht)⟩

/-- A record is worked on and put back. -/
theorem Exclusive.putsAs (h : Exclusive stored held) (ht : held t = some (k, o)) (o' : Option α) :
    Exclusive (Function.update stored k o') (Function.update held t none) ∧
      Alive (Function.update stored k o') (Function.update held t none) =
        Replaced (Alive stored held) k o' := by
  obtain ⟨hworked, halive⟩ := h.works ht o'
  obtain ⟨hput, halive'⟩ := hworked.puts (Function.update_self t (some (k, o')) held)
  rw [Function.update_idem] at hput halive'
  exact ⟨hput, halive'.trans halive⟩

/-- A key is given up, with what there was under it. -/
theorem Exclusive.drops (h : Exclusive stored held) (ht : held t = some (k, o)) :
    Exclusive stored (Function.update held t none) ∧
      Alive stored (Function.update held t none) = Replaced (Alive stored held) k none := by
  have hdropped := h.putsAs ht none
  rwa [Function.update_eq_self_iff.mpr (h.absent t k o ht).symm] at hdropped

/-- A key without a record is given up. -/
theorem Exclusive.releases (h : Exclusive stored held) (ht : held t = some (k, none)) :
    Exclusive stored (Function.update held t none) ∧
      Alive stored (Function.update held t none) = Alive stored held := by
  have hput := h.puts ht
  rwa [Function.update_eq_self_iff.mpr (h.absent t k none ht).symm] at hput

end Custody
