import Mathlib

/-!
# Loops over lists

What every round of a loop does to the state, the whole loop does: a relation that is reflexive
and transitive holds between the state before and the state after.
-/

namespace Loop
variable {σ α β : Type*} {R : σ → σ → Prop} {l : List α} {s t : σ}

theorem foldl_rel {f : σ → α → σ} (hrefl : ∀ s, R s s)
    (htrans : ∀ s t u, R s t → R t u → R s u) (hf : ∀ u, ∀ i ∈ l, R u (f u i)) :
    R s (l.foldl f s) := by
  induction l generalizing s with
  | nil => exact hrefl s
  | cons i l ih =>
    have hrest : ∀ u, ∀ j ∈ l, R u (f u j) := fun u j hj => hf u j (List.mem_cons_of_mem i hj)
    exact htrans _ _ _ (hf s i List.mem_cons_self) (ih hrest)

/-- A loop that ends when a round fails. -/
theorem foldlM_rel {f : σ → α → Option σ} (hrefl : ∀ s, R s s)
    (htrans : ∀ s t u, R s t → R t u → R s u) (hf : ∀ u, ∀ i ∈ l, ∀ v, f u i = some v → R u v)
    (h : l.foldlM f s = some t) : R s t := by
  induction l generalizing s with
  | nil =>
    cases h
    exact hrefl t
  | cons i l ih =>
    rw [List.foldlM_cons, Option.bind_eq_bind, Option.bind_eq_some_iff] at h
    obtain ⟨u, hu, h⟩ := h
    have hrest : ∀ u, ∀ j ∈ l, ∀ v, f u j = some v → R u v :=
      fun u j hj => hf u j (List.mem_cons_of_mem i hj)
    exact htrans _ _ _ (hf s i List.mem_cons_self u hu) (ih hrest h)

/-- What no round changes. -/
theorem foldl_proj {f : σ → α → σ} (g : σ → β) (hf : ∀ u, ∀ i ∈ l, g (f u i) = g u) :
    g (l.foldl f s) = g s :=
  @foldl_rel _ _ (fun s t => g t = g s) l s f (fun _ => rfl) (fun _ _ _ h h' => h'.trans h) hf

theorem foldlM_proj {f : σ → α → Option σ} (g : σ → β)
    (hf : ∀ u, ∀ i ∈ l, ∀ v, f u i = some v → g v = g u) (h : l.foldlM f s = some t) :
    g t = g s :=
  @foldlM_rel _ _ (fun s t => g t = g s) l s t f (fun _ => rfl) (fun _ _ _ h h' => h'.trans h) hf h

/-! ## Filling an array -/

section
variable {f : σ → α → Option σ} {n : σ → Nat} {w : α → Nat} {p : α → Prop} {bound : Nat}

/-- A loop of which every round takes `w` entries of an array. -/
theorem foldlM_count (hn : ∀ u, ∀ a ∈ l, ∀ v, f u a = some v → n v = n u + w a)
    (h : l.foldlM f s = some t) : n t = n s + (l.map w).sum := by
  induction l generalizing s with
  | nil =>
    cases h
    simp
  | cons a l ih =>
    rw [List.foldlM_cons, Option.bind_eq_bind, Option.bind_eq_some_iff] at h
    obtain ⟨u, hu, h⟩ := h
    have hrest : ∀ u, ∀ b ∈ l, ∀ v, f u b = some v → n v = n u + w b :=
      fun u b hb => hn u b (List.mem_cons_of_mem a hb)
    rw [ih hrest h, hn s a List.mem_cons_self u hu, List.map_cons, List.sum_cons, Nat.add_assoc]

/-- It gets to its end if the entries are enough and no round has another reason to fail. -/
theorem foldlM_bounded (hle : ∀ u, n u ≤ bound)
    (hf : ∀ u, ∀ a ∈ l, (∃ v, f u a = some v) ↔ n u + w a ≤ bound ∧ p a)
    (hn : ∀ u, ∀ a ∈ l, ∀ v, f u a = some v → n v = n u + w a) :
    (∃ t, l.foldlM f s = some t) ↔ n s + (l.map w).sum ≤ bound ∧ ∀ a ∈ l, p a := by
  induction l generalizing s with
  | nil => simp [hle s]
  | cons a l ih =>
    have hround := hf s a List.mem_cons_self
    have hrest := fun u => @ih u (fun u b hb => hf u b (List.mem_cons_of_mem a hb))
      (fun u b hb => hn u b (List.mem_cons_of_mem a hb))
    rw [List.map_cons, List.sum_cons, List.forall_mem_cons]
    constructor
    · rintro ⟨t, h⟩
      rw [List.foldlM_cons, Option.bind_eq_bind, Option.bind_eq_some_iff] at h
      obtain ⟨u, hu, h⟩ := h
      obtain ⟨hsum, hall⟩ := (hrest u).mp ⟨t, h⟩
      rw [hn s a List.mem_cons_self u hu] at hsum
      exact ⟨by omega, (hround.mp ⟨u, hu⟩).2, hall⟩
    · rintro ⟨hsum, ha, hall⟩
      obtain ⟨u, hu⟩ := hround.mpr ⟨by omega, ha⟩
      have hcount := hn s a List.mem_cons_self u hu
      obtain ⟨t, ht⟩ := (hrest u).mpr ⟨by omega, hall⟩
      refine ⟨t, ?_⟩
      rw [List.foldlM_cons, hu]
      exact ht

end

end Loop
