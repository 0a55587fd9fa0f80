import Mathlib

/-!
# Fallible programs

C code either returns or ends in a fault: an `assert` whose condition is false, an
access outside an array, or the use of an object that has been freed. `Fallible ι`
is the corresponding computation type; `ι` names the places where the program asserts.
-/

/-- The ways in which a call does not return. -/
inductive Fault (ι : Type)
  | assert (site : ι)
  | outOfBounds
  | dangling
  deriving DecidableEq, Repr

/-- Computations that return or end in a fault. -/
abbrev Fallible (ι : Type) := Except (Fault ι)

namespace Fallible
variable {ι α β : Type}

/-- Continue only if `p` holds. -/
def assert (site : ι) (p : Prop) [Decidable p] : Fallible ι Unit :=
  if p then .ok () else .error (.assert site)

/-- The value of a pointer that is asserted not to be null. -/
def assertSome (site : ι) : Option α → Fallible ι α
  | some a => .ok a
  | none => .error (.assert site)

/-- The call does not end in the given fault. -/
def Avoids (e : Fault ι) (x : Fallible ι α) : Prop := x ≠ .error e

theorem bind_eq_ok {x : Fallible ι α} {f : α → Fallible ι β} {b : β} :
    (x >>= f) = .ok b ↔ ∃ a, x = .ok a ∧ f a = .ok b := by
  cases x <;> simp [Bind.bind, Except.bind]

theorem bind_eq_error {x : Fallible ι α} {f : α → Fallible ι β} {e : Fault ι} :
    (x >>= f) = .error e ↔ x = .error e ∨ ∃ a, x = .ok a ∧ f a = .error e := by
  cases x <;> simp [Bind.bind, Except.bind]

@[simp] theorem ok_bind (a : α) (f : α → Fallible ι β) :
    ((Except.ok a : Fallible ι α) >>= f) = f a := rfl

@[simp] theorem error_bind (e : Fault ι) (f : α → Fallible ι β) :
    ((Except.error e : Fallible ι α) >>= f) = .error e := rfl

@[simp] theorem pure_eq_ok (a : α) : (pure a : Fallible ι α) = .ok a := rfl

@[simp] theorem assert_eq_ok {site : ι} {p : Prop} [Decidable p] {u : Unit} :
    assert site p = .ok u ↔ p := by
  unfold assert
  split <;> simp_all

@[simp] theorem assert_eq_error {site : ι} {p : Prop} [Decidable p] {e : Fault ι} :
    assert site p = .error e ↔ ¬p ∧ e = .assert site := by
  unfold assert
  split
  · simp_all
  · simp_all [eq_comm]

theorem assert_of {site : ι} {p : Prop} [Decidable p] (h : p) : assert site p = .ok () :=
  assert_eq_ok.mpr h

@[simp] theorem assertSome_eq_ok {site : ι} {o : Option α} {a : α} :
    assertSome site o = .ok a ↔ o = some a := by
  cases o <;> simp [assertSome]

@[simp] theorem assertSome_eq_error {site : ι} {o : Option α} {e : Fault ι} :
    assertSome site o = .error e ↔ o = none ∧ e = .assert site := by
  cases o <;> simp [assertSome, eq_comm]

@[simp] theorem avoids_ok (e : Fault ι) (a : α) : Avoids e (.ok a : Fallible ι α) := by
  simp [Avoids]

@[simp] theorem avoids_throw {e e' : Fault ι} :
    Avoids e (throw e' : Fallible ι α) ↔ e' ≠ e := by
  simp [Avoids, throw, throwThe, MonadExceptOf.throw]

@[simp] theorem avoids_assert {e : Fault ι} {site : ι} {p : Prop} [Decidable p] :
    Avoids e (assert site p) ↔ e = .assert site → p := by
  unfold Avoids
  rw [ne_eq, assert_eq_error]
  tauto

@[simp] theorem avoids_assertSome {e : Fault ι} {site : ι} {o : Option α} :
    Avoids e (assertSome site o) ↔ e = .assert site → o.isSome = true := by
  unfold Avoids
  rw [ne_eq, assertSome_eq_error]
  cases o <;> simp

theorem avoids_bind {e : Fault ι} {x : Fallible ι α} {f : α → Fallible ι β} :
    Avoids e (x >>= f) ↔ Avoids e x ∧ ∀ a, x = .ok a → Avoids e (f a) := by
  simp only [Avoids, ne_eq, bind_eq_error, not_or, not_exists, not_and]

theorem toOption_eq_some {x : Fallible ι α} {a : α} : x.toOption = some a ↔ x = .ok a := by
  cases x <;> simp [Except.toOption]

@[simp] theorem assertSome_some (site : ι) (a : α) : assertSome site (some a) = .ok a := rfl

/-- A list that was computed element by element. -/
theorem forall₂_of_mapM {f : α → Fallible ι β} {l : List α} {r : List β}
    (h : l.mapM f = .ok r) : List.Forall₂ (fun a b => f a = .ok b) l r := by
  induction l generalizing r with
  | nil =>
    cases h
    exact List.Forall₂.nil
  | cons a l ih =>
    rw [List.mapM_cons] at h
    obtain ⟨b, hb, h⟩ := bind_eq_ok.mp h
    obtain ⟨bs, hbs, h⟩ := bind_eq_ok.mp h
    cases h
    exact List.Forall₂.cons hb (ih hbs)

/-- Where every element can be computed, so can the list. -/
theorem exists_mapM {f : α → Fallible ι β} {p : α → β → Prop} {l : List α}
    (h : ∀ a ∈ l, ∃ b, f a = .ok b ∧ p a b) : ∃ r, l.mapM f = .ok r ∧ List.Forall₂ p l r := by
  induction l with
  | nil => exact ⟨[], rfl, List.Forall₂.nil⟩
  | cons a l ih =>
    obtain ⟨b, hb, hp⟩ := h a List.mem_cons_self
    obtain ⟨bs, hbs, hps⟩ := ih fun a' ha' => h a' (List.mem_cons_of_mem _ ha')
    refine ⟨b :: bs, ?_, List.Forall₂.cons hp hps⟩
    rw [List.mapM_cons, hb, ok_bind, hbs, ok_bind, pure_eq_ok]

end Fallible
