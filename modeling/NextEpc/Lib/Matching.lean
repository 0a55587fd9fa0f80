import Mathlib

/-!
# Partial matchings

A partner function `f : ι → Option ι` is a partial matching when being partners is
symmetric and nobody is its own partner. Linking two free elements and unlinking two
partners keep a matching.
-/

namespace Matching
variable {ι : Type*} [DecidableEq ι] {f : ι → Option ι}

/-- Symmetric and irreflexive partner functions. -/
structure IsMatching (f : ι → Option ι) : Prop where
  symm : ∀ {x y}, f x = some y → f y = some x
  irrefl : ∀ x, f x ≠ some x

/-- The partner function after `x` and `y` became partners. -/
def link (f : ι → Option ι) (x y : ι) : ι → Option ι :=
  Function.update (Function.update f x (some y)) y (some x)

/-- The partner function after `x` and `y` stopped being partners. -/
def unlink (f : ι → Option ι) (x y : ι) : ι → Option ι :=
  Function.update (Function.update f x none) y none

omit [DecidableEq ι] in
theorem isMatching_empty : IsMatching (fun _ : ι => none) :=
  ⟨by simp, by simp⟩

omit [DecidableEq ι] in
theorem IsMatching.comm (h : IsMatching f) {x y : ι} : f x = some y ↔ f y = some x :=
  ⟨h.symm, h.symm⟩

theorem IsMatching.link (h : IsMatching f) {x y : ι} (hx : f x = none) (hy : f y = none)
    (hxy : x ≠ y) : IsMatching (link f x y) := by
  have hfree : ∀ z w, f z = some w → w ≠ x ∧ w ≠ y := by
    intro z w hz
    have hw := h.symm hz
    constructor
    · rintro rfl
      simp [hx] at hw
    · rintro rfl
      simp [hy] at hw
  constructor
  · intro z w hz
    simp only [Matching.link, Function.update_apply] at hz ⊢
    split_ifs at hz with h1 h2
    · cases hz
      simp [hxy, h1]
    · cases hz
      simp [h2]
    · have hw := hfree z w hz
      simp [hw.1, hw.2, h.symm hz]
  · intro z
    simp only [Matching.link, Function.update_apply]
    split_ifs with h1 h2
    · simpa [h1] using hxy
    · simpa [h2] using Ne.symm hxy
    · exact h.irrefl z

theorem IsMatching.unlink (h : IsMatching f) {x y : ι} (hxy : f x = some y) :
    IsMatching (unlink f x y) := by
  have hyx := h.symm hxy
  constructor
  · intro z w hz
    simp only [Matching.unlink, Function.update_apply] at hz ⊢
    split_ifs at hz with h1 h2
    have hwx : w ≠ x := by
      rintro rfl
      have := h.symm hz
      rw [hxy] at this
      exact h1 (Option.some.inj this).symm
    have hwy : w ≠ y := by
      rintro rfl
      have := h.symm hz
      rw [hyx] at this
      exact h2 (Option.some.inj this).symm
    simp [hwx, hwy, h.symm hz]
  · intro z
    simp only [Matching.unlink, Function.update_apply]
    split_ifs with h1 h2
    · simp
    · simp
    · exact h.irrefl z

@[simp] theorem unlink_left (f : ι → Option ι) (x y : ι) : unlink f x y x = none := by
  simp [unlink, Function.update_apply]

@[simp] theorem unlink_right (f : ι → Option ι) (x y : ι) : unlink f x y y = none := by
  simp [unlink]

end Matching
