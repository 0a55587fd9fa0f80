import Mathlib

/-!
# Histories

A history lists what has happened, the latest first. A property of runs may be a property
of the items that are recorded: each of them in order with the items before it.
-/

namespace History
variable {α β : Type*}

/-- Every item is in order with the items before it. -/
def Always (P : α → List α → Prop) : List α → Prop
  | [] => True
  | a :: past => P a past ∧ Always P past

/-- The items since the last one of a kind. -/
def since (p : α → Bool) (l : List α) : List α := l.takeWhile fun a => !p a

/-- What the latest item of a kind says. -/
def latest (f : α → Option β) (l : List α) : Option β := l.findSome? f

variable {P Q : α → List α → Prop} {p q : α → Bool} {f : α → Option β} {a : α} {b : β}
  {l past : List α}

@[simp] theorem always_nil : Always P [] := trivial

@[simp] theorem always_cons : Always P (a :: past) ↔ P a past ∧ Always P past := Iff.rfl

theorem Always.mono (himp : ∀ a past, P a past → Q a past) (h : Always P l) : Always Q l := by
  induction l with
  | nil => trivial
  | cons a past ih => exact ⟨himp a past h.1, ih h.2⟩

/-- Each item with what was before it. -/
theorem always_iff :
    Always P l ↔ ∀ newer a past, l = newer ++ a :: past → P a past := by
  constructor
  · intro h newer a past hl
    subst hl
    induction newer with
    | nil => exact h.1
    | cons _ _ ih => exact ih h.2
  · intro h
    induction l with
    | nil => trivial
    | cons a past ih =>
      refine ⟨h [] a past rfl, ih fun newer b older hl => h (a :: newer) b older ?_⟩
      rw [hl]
      rfl

instance instDecidableAlways [∀ a past, Decidable (P a past)] :
    (l : List α) → Decidable (Always P l)
  | [] => .isTrue trivial
  | a :: past =>
    have := instDecidableAlways past
    inferInstanceAs (Decidable (P a past ∧ Always P past))

/-- What is in order in a history was so from the beginning. -/
theorem Always.of_append {l' : List α} (h : Always P (l' ++ l)) : Always P l := by
  induction l' with
  | nil => exact h
  | cons _ l' ih => exact ih h.2

theorem since_cons_of (h : p a = true) : since p (a :: past) = [] := by
  simp [since, h]

theorem since_cons_of_not (h : p a = false) : since p (a :: past) = a :: since p past := by
  simp [since, h]

theorem mem_of_mem_since (h : a ∈ since p l) : a ∈ l :=
  (List.takeWhile_prefix _).subset h

theorem since_subset (hpq : ∀ a, p a = true → q a = true) :
    since q l ⊆ since p l := by
  induction l with
  | nil => exact fun _ h => h
  | cons a past ih =>
    cases hq : q a with
    | true =>
      rw [since_cons_of hq]
      exact List.nil_subset _
    | false =>
      have hp : p a = false := by
        by_contra hp
        rw [hpq a (by simpa using hp)] at hq
        cases hq
      rw [since_cons_of_not hq, since_cons_of_not hp]
      exact List.cons_subset_cons a ih

@[simp] theorem latest_nil : latest f ([] : List α) = none := rfl

theorem latest_cons_of (h : f a = some b) : latest f (a :: past) = some b := by
  simp [latest, h]

theorem latest_cons_of_none (h : f a = none) : latest f (a :: past) = latest f past := by
  simp [latest, h]

/-- The latest item that says something. -/
theorem latest_eq_some_iff : latest f l = some b ↔
    ∃ newer a older, l = newer ++ a :: older ∧ f a = some b ∧ ∀ a ∈ newer, f a = none := by
  unfold latest
  rw [List.findSome?_eq_some_iff]

end History
