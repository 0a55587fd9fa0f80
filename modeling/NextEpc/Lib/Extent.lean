import Mathlib

/-!
# Extents of a memory

A memory is a function of addresses. `Within lo hi m m'` says that `m'` was made from `m` by
writes to addresses from `lo` up to `hi` only, and `SameOn lo hi m m'` that the two have the
same contents there. Code that keeps to its own extent leaves what is known of any other
extent true. `Rewrites P f m m'` says exactly what has become of the memory: at the places of `P`
the contents are what `f` makes of them, and everywhere else they are as before.
-/

namespace Extent
variable {α : Type*} {m m' m'' : Nat → α} {lo hi lo' hi' : Nat}

def SameOn (lo hi : Nat) (m m' : Nat → α) : Prop := ∀ a, lo ≤ a → a < hi → m a = m' a

def Within (lo hi : Nat) (m m' : Nat → α) : Prop := ∀ a, a < lo ∨ hi ≤ a → m' a = m a

theorem Within.refl (lo hi : Nat) (m : Nat → α) : Within lo hi m m := fun _ _ => rfl

theorem Within.trans (h : Within lo hi m m') (h' : Within lo hi m' m'') : Within lo hi m m'' := by
  intro a ha
  rw [h' a ha, h a ha]

theorem Within.mono (h : Within lo hi m m') (hlo : lo' ≤ lo) (hhi : hi ≤ hi') :
    Within lo' hi' m m' := by
  intro a ha
  refine h a ?_
  omega

theorem Within.update {a : Nat} (hlo : lo ≤ a) (hhi : a < hi) (m : Nat → α) (x : α) :
    Within lo hi m (Function.update m a x) := by
  intro b hb
  have hne : b ≠ a := by omega
  rw [Function.update_of_ne hne]

/-- Writes to one extent leave a disjoint one as it is. -/
theorem Within.sameOn (h : Within lo hi m m') (hd : hi' ≤ lo ∨ hi ≤ lo') :
    SameOn lo' hi' m m' := by
  intro a hlo hhi
  refine (h a ?_).symm
  omega

theorem SameOn.mono (h : SameOn lo hi m m') (hlo : lo ≤ lo') (hhi : hi' ≤ hi) :
    SameOn lo' hi' m m' :=
  fun a ha ha' => h a (by omega) (by omega)

/-! ## Rewriting at places -/

section
variable {ι : Type*} {P Q : ι → Nat → Prop} {f : ι → α → α}

def Rewrites (P : ι → Nat → Prop) (f : ι → α → α) (m m' : Nat → α) : Prop :=
  (∀ i a, P i a → m' a = f i (m a)) ∧ ∀ a, (∀ i, ¬P i a) → m' a = m a

theorem Rewrites.none (h : ∀ i a, ¬P i a) (m : Nat → α) : Rewrites P f m m :=
  ⟨fun i a hp => absurd hp (h i a), fun _ _ => rfl⟩

theorem Rewrites.congr (h : Rewrites P f m m') (hiff : ∀ i a, P i a ↔ Q i a) :
    Rewrites Q f m m' := by
  constructor
  · intro i a hq
    exact h.1 i a ((hiff i a).mpr hq)
  · intro a hq
    exact h.2 a fun i hp => hq i ((hiff i a).mp hp)

theorem Rewrites.update (i : ι) (a : Nat) (m : Nat → α) :
    Rewrites (fun j b => j = i ∧ b = a) f m (Function.update m a (f i (m a))) := by
  constructor
  · rintro j b ⟨rfl, rfl⟩
    rw [Function.update_self]
  · intro b hb
    have hne : b ≠ a := fun heq => hb i ⟨rfl, heq⟩
    rw [Function.update_of_ne hne]

/-- One after the other, at places that are not the same. -/
theorem Rewrites.trans (h : Rewrites P f m m') (h' : Rewrites Q f m' m'')
    (hd : ∀ i j a, P i a → ¬Q j a) : Rewrites (fun i a => P i a ∨ Q i a) f m m'' := by
  constructor
  · rintro i a (hp | hq)
    · rw [h'.2 a fun j => hd i j a hp, h.1 i a hp]
    · rw [h'.1 i a hq, h.2 a fun j hp => hd j i a hp hq]
  · intro a ha
    rw [h'.2 a fun i hq => ha i (.inr hq), h.2 a fun i hp => ha i (.inl hp)]

/-- What `f` leaves alone is left alone everywhere. -/
theorem Rewrites.apply_eq {β : Type*} {g : α → β} (h : Rewrites P f m m')
    (hg : ∀ i x, g (f i x) = g x) (a : Nat) : g (m' a) = g (m a) := by
  by_cases hp : ∃ i, P i a
  · obtain ⟨i, hp⟩ := hp
    rw [h.1 i a hp, hg]
  · rw [h.2 a fun i hpi => hp ⟨i, hpi⟩]

/-- The memory is the same if and only if the contents of each place are what `f` makes of them. -/
theorem Rewrites.eq_iff (h : Rewrites P f m m') : m' = m ↔ ∀ i a, P i a → f i (m a) = m a := by
  constructor
  · intro heq i a hp
    rw [← h.1 i a hp, heq]
  · intro hf
    funext a
    by_cases hp : ∃ i, P i a
    · obtain ⟨i, hp⟩ := hp
      rw [h.1 i a hp, hf i a hp]
    · exact h.2 a fun i hpi => hp ⟨i, hpi⟩

end

/-! ## One write after the other -/

section
variable {ι : Type*} [DecidableEq ι]

/-- The memory after some writes. -/
def writeAll (m : ι → α) (writes : List (ι × α)) : ι → α :=
  writes.foldl (fun m w => Function.update m w.1 w.2) m

theorem writeAll_append (m : ι → α) (ws ws' : List (ι × α)) :
    writeAll m (ws ++ ws') = writeAll (writeAll m ws) ws' := List.foldl_append

theorem writeAll_of_forall_ne {i : ι} (m : ι → α) {ws : List (ι × α)} (h : ∀ w ∈ ws, w.1 ≠ i) :
    writeAll m ws i = m i := by
  induction ws generalizing m with
  | nil => rfl
  | cons w ws ih =>
    have hrest := ih (Function.update m w.1 w.2) fun w' hw' => h w' (List.mem_cons_of_mem _ hw')
    have hne : i ≠ w.1 := (h w List.mem_cons_self).symm
    rw [writeAll, List.foldl_cons]
    exact hrest.trans (Function.update_of_ne hne _ _)

/-- A place that is written holds what one of the writes has put there. -/
theorem exists_of_writeAll {i : ι} (m : ι → α) {ws : List (ι × α)} (h : ∃ w ∈ ws, w.1 = i) :
    ∃ w ∈ ws, w.1 = i ∧ writeAll m ws i = w.2 := by
  induction ws generalizing m with
  | nil => exact absurd h (by simp)
  | cons w ws ih =>
    by_cases hrest : ∃ w' ∈ ws, w'.1 = i
    · obtain ⟨w', hw', hi, heq⟩ := ih (Function.update m w.1 w.2) hrest
      exact ⟨w', List.mem_cons_of_mem _ hw', hi, heq⟩
    · have hlast := writeAll_of_forall_ne (Function.update m w.1 w.2)
        fun w' hw' hi => hrest ⟨w', hw', hi⟩
      have hi : w.1 = i := by
        obtain ⟨w', hw', hi⟩ := h
        rcases List.mem_cons.mp hw' with rfl | hw'
        · exact hi
        · exact absurd ⟨w', hw', hi⟩ hrest
      refine ⟨w, List.mem_cons_self, hi, hlast.trans ?_⟩
      rw [← hi, Function.update_self]

end

end Extent
