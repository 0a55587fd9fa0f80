import NextEpc.Lib.Fallible

/-!
# Programs that return

Whether a program returns is decided step by step: by the condition of each assertion, the presence
of each value that is asserted to be there, and what the rest does with the results so far.
-/

namespace Fallible
variable {ι α β : Type}

/-- The program ends in no fault. -/
def Returns (x : Fallible ι α) : Prop := ∃ a, x = .ok a

@[simp] theorem returns_ok (a : α) : Returns (.ok a : Fallible ι α) := ⟨a, rfl⟩

@[simp] theorem not_returns_error (e : Fault ι) : ¬Returns (.error e : Fallible ι α) := by
  rintro ⟨a, h⟩
  cases h

theorem returns_bind {x : Fallible ι α} {f : α → Fallible ι β} :
    Returns (x >>= f) ↔ ∃ a, x = .ok a ∧ Returns (f a) := by
  cases x with
  | error e => simp [Bind.bind, Except.bind]
  | ok a => simp [Bind.bind, Except.bind]

/-- What follows does not look at the result, as far as it matters. -/
theorem returns_bind_iff {x : Fallible ι α} {f : α → Fallible ι β} {p : Prop}
    (h : ∀ a, x = .ok a → (Returns (f a) ↔ p)) : Returns (x >>= f) ↔ Returns x ∧ p := by
  rw [returns_bind]
  constructor
  · rintro ⟨a, ha, hf⟩
    exact ⟨⟨a, ha⟩, (h a ha).mp hf⟩
  · rintro ⟨⟨a, ha⟩, hp⟩
    exact ⟨a, ha, (h a ha).mpr hp⟩

/-- What follows only puts the result together. -/
theorem returns_then_ok {x : Fallible ι α} {f : α → β} :
    Returns (x >>= fun a => (.ok (f a) : Fallible ι β)) ↔ Returns x := by
  rw [returns_bind_iff (p := True), and_true]
  exact fun a _ => iff_of_true ⟨_, rfl⟩ trivial

@[simp] theorem returns_assert {site : ι} {p : Prop} [Decidable p] :
    Returns (assert site p) ↔ p := by
  unfold assert
  split <;> simp_all

@[simp] theorem returns_assert_bind {site : ι} {p : Prop} [Decidable p]
    {f : Unit → Fallible ι β} : Returns (assert site p >>= f) ↔ p ∧ Returns (f ()) := by
  unfold assert
  split <;> simp_all

@[simp] theorem returns_assertSome {site : ι} {o : Option α} :
    Returns (assertSome site o) ↔ ∃ a, o = some a := by
  cases o <;> simp [assertSome]

@[simp] theorem returns_assertSome_bind {site : ι} {o : Option α} {f : α → Fallible ι β} :
    Returns (assertSome site o >>= f) ↔ ∃ a, o = some a ∧ Returns (f a) := by
  cases o <;> simp [assertSome]

theorem returns_ite {p : Prop} [Decidable p] {x y : Fallible ι α} :
    Returns (if p then x else y) ↔ (p → Returns x) ∧ (¬p → Returns y) := by
  split <;> simp_all

/-- A loop returns if every round does in the state that those before lead to. -/
theorem returns_foldlM {σ : Type} {f : σ → α → Fallible ι σ} {p : σ → α → Prop}
    (hf : ∀ s a, Returns (f s a) ↔ p s a) {l : List α} {s : σ} : Returns (l.foldlM f s) ↔
      ∀ before a after t, l = before ++ a :: after → before.foldlM f s = .ok t → p t a := by
  induction l generalizing s with
  | nil => simp [List.foldlM_nil, pure_eq_ok]
  | cons b l ih =>
    rw [List.foldlM_cons, returns_bind]
    constructor
    · rintro ⟨u, hu, h⟩ before a after t hl hrun
      cases before with
      | nil =>
        cases hl
        cases hrun
        exact (hf s b).mp ⟨u, hu⟩
      | cons c before =>
        cases hl
        rw [List.foldlM_cons, hu, ok_bind] at hrun
        exact ih.mp h before a after t rfl hrun
    · intro h
      obtain ⟨u, hu⟩ := (hf s b).mpr (h [] b l s rfl rfl)
      refine ⟨u, hu, ih.mpr fun before a after t hl hrun => h (b :: before) a after t ?_ ?_⟩
      · rw [hl, List.cons_append]
      · rw [List.foldlM_cons, hu, ok_bind, hrun]

end Fallible
