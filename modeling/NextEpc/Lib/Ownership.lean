import Mathlib

/-!
# Exclusive ownership

Holders hold resources. Ownership is exclusive if no resource has two holders, a resource
is in use exactly if somebody holds it, and nobody holds one twice. A new holder with unused
resources keeps this, and so does a holder that leaves and gives up all it holds.
-/

namespace Ownership
variable {ι ρ : Type*} {live : ι → Prop} {held : ι → List ρ} {used : ρ → Prop} {i : ι} {a : ρ}

/-- The live holders share no resource; each resource is free and nobody holds it, or in use
and held by exactly one of them. -/
structure Exclusive (live : ι → Prop) (held : ι → List ρ) (used : ρ → Prop) : Prop where
  distinct : ∀ i j a, live i → live j → a ∈ held i → a ∈ held j → i = j
  accounted : ∀ a, (¬used a ∧ ∀ i, live i → a ∉ held i) ∨ (used a ∧ ∃! i, live i ∧ a ∈ held i)
  nodup : ∀ i, live i → (held i).Nodup

theorem Exclusive.used_iff (h : Exclusive live held used) (a : ρ) :
    used a ↔ ∃ i, live i ∧ a ∈ held i := by
  rcases h.accounted a with ⟨hfree, hnone⟩ | ⟨hused, i, hi, -⟩
  · refine iff_of_false hfree ?_
    rintro ⟨i, hi, ha⟩
    exact hnone i hi ha
  · exact iff_of_true hused ⟨i, hi⟩

theorem Exclusive.of_used_iff
    (hdistinct : ∀ i j a, live i → live j → a ∈ held i → a ∈ held j → i = j)
    (hused : ∀ a, used a ↔ ∃ i, live i ∧ a ∈ held i)
    (hnodup : ∀ i, live i → (held i).Nodup) : Exclusive live held used := by
  refine ⟨hdistinct, fun a => ?_, hnodup⟩
  by_cases ha : used a
  · right
    obtain ⟨i, hi, hheld⟩ := (hused a).mp ha
    exact ⟨ha, i, ⟨hi, hheld⟩, fun j hj => hdistinct j i a hj.1 hi hj.2 hheld⟩
  · left
    exact ⟨ha, fun i hi hheld => ha ((hused a).mpr ⟨i, hi, hheld⟩)⟩

/-- What holders that are not live hold does not matter. -/
theorem Exclusive.congr {live' : ι → Prop} {held' : ι → List ρ} {used' : ρ → Prop}
    (h : Exclusive live held used) (hlive : ∀ i, live' i ↔ live i)
    (hheld : ∀ i, live i → held' i = held i) (hused : ∀ a, used' a ↔ used a) :
    Exclusive live' held' used' := by
  have hlive : live' = live := funext fun i => propext (hlive i)
  subst hlive
  have hused : used' = used := funext fun a => propext (hused a)
  subst hused
  apply Exclusive.of_used_iff
  · intro i j a hi hj hai haj
    rw [hheld i hi] at hai
    rw [hheld j hj] at haj
    exact h.distinct i j a hi hj hai haj
  · intro a
    rw [h.used_iff a]
    apply exists_congr
    intro i
    apply and_congr_right
    intro hi
    rw [hheld i hi]
  · intro i hi
    rw [hheld i hi]
    exact h.nodup i hi

/-- A new holder takes resources that are not in use. -/
theorem Exclusive.acquire [DecidableEq ι] (h : Exclusive live held used) {new : List ρ}
    (hnew : new.Nodup) (hfree : ∀ a ∈ new, ¬used a) (hi : ¬live i) :
    Exclusive (fun j => j = i ∨ live j) (Function.update held i new)
      (fun a => a ∈ new ∨ used a) := by
  have hother : ∀ j, live j → Function.update held i new j = held j := by
    intro j hj
    rw [Function.update_of_ne]
    rintro rfl
    exact hi hj
  have hunused : ∀ j a, live j → a ∈ held j → a ∉ new := fun j a hj ha hmem =>
    hfree a hmem ((h.used_iff a).mpr ⟨j, hj, ha⟩)
  apply Exclusive.of_used_iff
  · rintro j k a (rfl | hj) (rfl | hk) hja hka
    · rfl
    · rw [Function.update_self] at hja
      rw [hother k hk] at hka
      exact absurd hja (hunused k a hk hka)
    · rw [Function.update_self] at hka
      rw [hother j hj] at hja
      exact absurd hka (hunused j a hj hja)
    · rw [hother j hj] at hja
      rw [hother k hk] at hka
      exact h.distinct j k a hj hk hja hka
  · intro a
    constructor
    · rintro (ha | ha)
      · exact ⟨i, Or.inl rfl, by rwa [Function.update_self]⟩
      · obtain ⟨j, hj, hheld⟩ := (h.used_iff a).mp ha
        exact ⟨j, Or.inr hj, by rwa [hother j hj]⟩
    · rintro ⟨j, rfl | hj, hheld⟩
      · rw [Function.update_self] at hheld
        exact Or.inl hheld
      · rw [hother j hj] at hheld
        exact Or.inr ((h.used_iff a).mpr ⟨j, hj, hheld⟩)
  · rintro j (rfl | hj)
    · rwa [Function.update_self]
    · rw [hother j hj]
      exact h.nodup j hj

/-- A holder gives up some of what it holds, and takes resources that are not in use. -/
theorem Exclusive.update [DecidableEq ι] (h : Exclusive live held used) {new : List ρ}
    (hi : live i) (hnew : new.Nodup) (hfree : ∀ a ∈ new, a ∈ held i ∨ ¬used a) :
    Exclusive live (Function.update held i new) (fun a => a ∈ new ∨ used a ∧ a ∉ held i) := by
  have hother : ∀ j a, j ≠ i → live j → a ∈ held j → a ∉ new := by
    intro j a hji hj ha hmem
    rcases hfree a hmem with hheld | hunused
    · exact hji (h.distinct j i a hj hi ha hheld)
    · exact hunused ((h.used_iff a).mpr ⟨j, hj, ha⟩)
  apply Exclusive.of_used_iff
  · intro j k a hj hk hja hka
    by_cases hji : j = i
    · by_cases hki : k = i
      · rw [hji, hki]
      · rw [hji, Function.update_self] at hja
        rw [Function.update_of_ne hki] at hka
        exact absurd hja (hother k a hki hk hka)
    · rw [Function.update_of_ne hji] at hja
      by_cases hki : k = i
      · rw [hki, Function.update_self] at hka
        exact absurd hka (hother j a hji hj hja)
      · rw [Function.update_of_ne hki] at hka
        exact h.distinct j k a hj hk hja hka
  · intro a
    constructor
    · rintro (ha | ⟨ha, hout⟩)
      · exact ⟨i, hi, by rwa [Function.update_self]⟩
      · obtain ⟨j, hj, hheld⟩ := (h.used_iff a).mp ha
        have hji : j ≠ i := by
          rintro rfl
          exact hout hheld
        exact ⟨j, hj, by rwa [Function.update_of_ne hji]⟩
    · rintro ⟨j, hj, hheld⟩
      by_cases hji : j = i
      · rw [hji, Function.update_self] at hheld
        exact Or.inl hheld
      · rw [Function.update_of_ne hji] at hheld
        refine Or.inr ⟨(h.used_iff a).mpr ⟨j, hj, hheld⟩, ?_⟩
        exact fun hmem => hji (h.distinct j i a hj hi hheld hmem)
  · intro j hj
    by_cases hji : j = i
    · rwa [hji, Function.update_self]
    · rw [Function.update_of_ne hji]
      exact h.nodup j hj

/-- A holder leaves and what it holds is free again. -/
theorem Exclusive.release (h : Exclusive live held used) (hi : live i) :
    Exclusive (fun j => j ≠ i ∧ live j) held (fun a => a ∉ held i ∧ used a) := by
  apply Exclusive.of_used_iff
  · exact fun j k a hj hk => h.distinct j k a hj.2 hk.2
  · intro a
    constructor
    · rintro ⟨hout, ha⟩
      obtain ⟨j, hj, hheld⟩ := (h.used_iff a).mp ha
      refine ⟨j, ⟨?_, hj⟩, hheld⟩
      rintro rfl
      exact hout hheld
    · rintro ⟨j, ⟨hne, hj⟩, hheld⟩
      refine ⟨fun hmem => hne (h.distinct j i a hj hi hheld hmem), ?_⟩
      exact (h.used_iff a).mpr ⟨j, hj, hheld⟩
  · exact fun j hj => h.nodup j hj.2

end Ownership
