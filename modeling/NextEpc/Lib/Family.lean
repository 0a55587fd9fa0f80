import Mathlib

/-!
# Parents and their lists of children

Each object of one kind points to its parent, an object of another kind, which has a list of
its children. `Linked` says that both sides agree for the objects in use. The rules give the
state after an operation by what it does to these functions.
-/

namespace Family
variable {ι κ : Type*} {live live' : ι → Prop} {childLive childLive' : κ → Prop}
  {parent parent' : κ → ι} {list list' : ι → List κ} {p : ι} {c : κ}

/-- The list of a parent in use has each of its children in use once, and nothing else, and the
parent of a child in use is in use. -/
structure Linked (live : ι → Prop) (childLive : κ → Prop) (parent : κ → ι)
    (list : ι → List κ) : Prop where
  nodup : ∀ p, live p → (list p).Nodup
  mem_iff : ∀ p, live p → ∀ c, c ∈ list p ↔ childLive c ∧ parent c = p
  live : ∀ c, childLive c → live (parent c)

theorem Linked.mem (h : Linked live childLive parent list) (hc : childLive c) :
    c ∈ list (parent c) :=
  (h.mem_iff (parent c) (h.live c hc) c).mpr ⟨hc, rfl⟩

theorem linked_of_none (hlive : ∀ p, ¬live p) (hchild : ∀ c, ¬childLive c) :
    Linked live childLive parent list := by
  constructor
  · intro p hp
    exact absurd hp (hlive p)
  · intro p hp
    exact absurd hp (hlive p)
  · intro c hc
    exact absurd hc (hchild c)

theorem Linked.congr (h : Linked live childLive parent list) (hlive : ∀ q, live' q ↔ live q)
    (hchild : ∀ d, childLive' d ↔ childLive d) (hparent : ∀ d, childLive d → parent' d = parent d)
    (hlist : ∀ q, live q → list' q = list q) : Linked live' childLive' parent' list' := by
  constructor
  · intro q hq
    rw [hlive q] at hq
    rw [hlist q hq]
    exact h.nodup q hq
  · intro q hq d
    rw [hlive q] at hq
    rw [hlist q hq, h.mem_iff q hq, hchild d]
    apply and_congr_right
    intro hd
    rw [hparent d hd]
  · intro d hd
    rw [hchild d] at hd
    rw [hlive, hparent d hd]
    exact h.live d hd

/-- A child is added at the end of the list of its parent. -/
theorem Linked.addChild (h : Linked live childLive parent list) (hp : live p)
    (hc : ¬childLive c) (hlive : ∀ q, live' q ↔ live q)
    (hchild : ∀ d, childLive' d ↔ d = c ∨ childLive d) (hself : parent' c = p)
    (hparent : ∀ d, d ≠ c → parent' d = parent d) (hlist : list' p = list p ++ [c])
    (hother : ∀ q, q ≠ p → list' q = list q) : Linked live' childLive' parent' list' := by
  constructor
  · intro q hq
    rw [hlive q] at hq
    by_cases hqp : q = p
    · subst hqp
      rw [hlist, List.nodup_append]
      refine ⟨h.nodup q hq, List.nodup_singleton c, ?_⟩
      intro d hd e he
      cases List.mem_singleton.mp he
      rintro rfl
      exact hc ((h.mem_iff q hq d).mp hd).1
    · rw [hother q hqp]
      exact h.nodup q hq
  · intro q hq d
    rw [hlive q] at hq
    rw [hchild d]
    have hmem := h.mem_iff q hq d
    by_cases hdc : d = c
    · subst hdc
      rw [hself]
      by_cases hqp : q = p
      · subst hqp
        simp [hlist]
      · rw [hother q hqp, hmem]
        simp [hc, Ne.symm hqp]
    · rw [hparent d hdc]
      by_cases hqp : q = p
      · subst hqp
        simp [hlist, hmem, hdc]
      · rw [hother q hqp, hmem]
        simp [hdc]
  · intro d hd
    rw [hlive]
    by_cases hdc : d = c
    · rw [hdc, hself]
      exact hp
    · rw [hparent d hdc]
      exact h.live d (((hchild d).mp hd).resolve_left hdc)

/-- A child is taken out of the list of its parent. -/
theorem Linked.removeChild [DecidableEq κ] (h : Linked live childLive parent list)
    (hlive : ∀ q, live' q ↔ live q) (hchild : ∀ d, childLive' d ↔ d ≠ c ∧ childLive d)
    (hparent : ∀ d, d ≠ c → parent' d = parent d)
    (hlist : list' (parent c) = (list (parent c)).erase c)
    (hother : ∀ q, q ≠ parent c → list' q = list q) :
    Linked live' childLive' parent' list' := by
  constructor
  · intro q hq
    rw [hlive q] at hq
    by_cases hqp : q = parent c
    · subst hqp
      rw [hlist]
      exact (h.nodup _ hq).erase c
    · rw [hother q hqp]
      exact h.nodup q hq
  · intro q hq d
    rw [hlive q] at hq
    rw [hchild d]
    have hmem := h.mem_iff q hq d
    by_cases hqp : q = parent c
    · subst hqp
      rw [hlist, (h.nodup _ hq).mem_erase_iff, hmem, and_assoc]
      apply and_congr_right
      intro hdc
      rw [hparent d hdc]
    · rw [hother q hqp, hmem]
      constructor
      · rintro ⟨hd, rfl⟩
        have hdc : d ≠ c := fun heq => hqp (congrArg parent heq)
        exact ⟨⟨hdc, hd⟩, hparent d hdc⟩
      · rintro ⟨⟨hdc, hd⟩, hp⟩
        exact ⟨hd, (hparent d hdc).symm.trans hp⟩
  · intro d hd
    have hd := (hchild d).mp hd
    rw [hlive, hparent d hd.1]
    exact h.live d hd.2

/-- A parent is added without children. -/
theorem Linked.addParent (h : Linked live childLive parent list) (hp : ¬live p)
    (hlive : ∀ q, live' q ↔ q = p ∨ live q) (hlist : list' p = [])
    (hother : ∀ q, q ≠ p → list' q = list q) : Linked live' childLive parent list' := by
  constructor
  · intro q hq
    by_cases hqp : q = p
    · rw [hqp, hlist]
      exact List.nodup_nil
    · rw [hother q hqp]
      exact h.nodup q (((hlive q).mp hq).resolve_left hqp)
  · intro q hq d
    by_cases hqp : q = p
    · subst hqp
      rw [hlist]
      apply iff_of_false List.not_mem_nil
      rintro ⟨hd, rfl⟩
      exact hp (h.live d hd)
    · rw [hother q hqp]
      exact h.mem_iff q (((hlive q).mp hq).resolve_left hqp) d
  · intro d hd
    exact (hlive _).mpr (Or.inr (h.live d hd))

/-- A parent without children is removed. -/
theorem Linked.removeParent (h : Linked live childLive parent list)
    (hnone : list p = []) (hlive : ∀ q, live' q ↔ q ≠ p ∧ live q)
    (hother : ∀ q, q ≠ p → list' q = list q) : Linked live' childLive parent list' := by
  constructor
  · intro q hq
    have hq := (hlive q).mp hq
    rw [hother q hq.1]
    exact h.nodup q hq.2
  · intro q hq d
    have hq := (hlive q).mp hq
    rw [hother q hq.1]
    exact h.mem_iff q hq.2 d
  · intro d hd
    rw [hlive]
    refine ⟨?_, h.live d hd⟩
    intro heq
    have hmem := h.mem hd
    rw [heq, hnone] at hmem
    exact List.not_mem_nil hmem

/-- A parent is removed with its children. -/
theorem Linked.removeFamily (h : Linked live childLive parent list)
    (hlive : ∀ q, live' q ↔ q ≠ p ∧ live q) (hchild : ∀ d, childLive' d ↔ childLive d ∧ parent d ≠ p)
    (hother : ∀ q, q ≠ p → list' q = list q) : Linked live' childLive' parent list' := by
  constructor
  · intro q hq
    have hq := (hlive q).mp hq
    rw [hother q hq.1]
    exact h.nodup q hq.2
  · intro q hq d
    have hq := (hlive q).mp hq
    rw [hother q hq.1, h.mem_iff q hq.2, hchild d, and_assoc]
    apply and_congr_right
    intro _
    constructor
    · rintro rfl
      exact ⟨hq.1, rfl⟩
    · exact And.right
  · intro d hd
    have hd := (hchild d).mp hd
    exact (hlive _).mpr ⟨hd.2, h.live d hd.1⟩

end Family
