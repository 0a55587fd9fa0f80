import NextEpc.Lib.Fallible
import NextEpc.Lib.Pool

/-!
# What a program leaves alone

A program that returns has written to some of the objects that it works on, and to no others. For
each operation this is a fact about the slots of a pool, and the rules below put these facts
together along the program.
-/

namespace Fallible
variable {ι α β : Type} {P Q : α → Prop} {R : β → Prop}

/-- What the program returns, if it returns, has the property. -/
def Ensures (x : Fallible ι α) (Q : α → Prop) : Prop := ∀ a, x = .ok a → Q a

theorem ensures_ok {a : α} (h : Q a) : Ensures (.ok a : Fallible ι α) Q := by
  rintro _ ⟨⟩
  exact h

theorem ensures_error (e : Fault ι) : Ensures (.error e : Fallible ι α) Q := nofun

theorem Ensures.mono {x : Fallible ι α} (h : Ensures x P) (hPQ : ∀ a, P a → Q a) : Ensures x Q :=
  fun a ha => hPQ a (h a ha)

theorem Ensures.bind {x : Fallible ι α} {f : α → Fallible ι β} (hx : Ensures x P)
    (hf : ∀ a, P a → Ensures (f a) R) : Ensures (x >>= f) R := by
  intro b hb
  obtain ⟨a, ha, hb⟩ := bind_eq_ok.mp hb
  exact hf a (hx a ha) b hb

theorem ensures_bind {x : Fallible ι α} {f : α → Fallible ι β}
    (hf : ∀ a, x = .ok a → Ensures (f a) R) : Ensures (x >>= f) R :=
  Ensures.bind (fun _ => id) hf

/-- After an assertion its condition holds. -/
theorem ensures_assert {site : ι} {p : Prop} [Decidable p] {f : Unit → Fallible ι β}
    (hf : p → Ensures (f ()) R) : Ensures (assert site p >>= f) R :=
  ensures_bind fun _ h => hf (assert_eq_ok.mp h)

theorem ensures_assertSome {site : ι} {o : Option α} {f : α → Fallible ι β}
    (hf : ∀ a, o = some a → Ensures (f a) R) : Ensures (assertSome site o >>= f) R :=
  ensures_bind fun a h => hf a (assertSome_eq_ok.mp h)

theorem ensures_ite {p : Prop} [Decidable p] {x y : Fallible ι α} (hx : p → Ensures x Q)
    (hy : ¬p → Ensures y Q) : Ensures (if p then x else y) Q := by
  split
  · exact hx (by assumption)
  · exact hy (by assumption)

/-- What every round of a loop keeps. -/
theorem ensures_foldlM {γ : Type} {f : α → γ → Fallible ι α} {l : List γ}
    (hf : ∀ a, P a → ∀ c ∈ l, Ensures (f a c) P) {a : α} (ha : P a) :
    Ensures (l.foldlM f a) P := by
  induction l generalizing a with
  | nil => exact ensures_ok ha
  | cons c l ih =>
    rw [List.foldlM_cons]
    refine (hf a ha c List.mem_cons_self).bind ?_
    intro b hb
    exact ih (fun b hb d hd => hf b hb d (List.mem_cons_of_mem c hd)) hb

end Fallible

namespace Pool
variable {α : Type*} {S T : Set Nat} {p q r : Pool α} {i : Nat}

/-- The pools are the same outside of a set of slots. -/
def EqOff (S : Set Nat) (p q : Pool α) : Prop := ∀ i, i ∉ S → q.live i = p.live i ∧ q.mem i = p.mem i

theorem EqOff.refl (S : Set Nat) (p : Pool α) : EqOff S p p := fun _ _ => ⟨rfl, rfl⟩

theorem EqOff.trans (h : EqOff S p q) (h' : EqOff S q r) : EqOff S p r := by
  intro i hi
  exact ⟨(h' i hi).1.trans (h i hi).1, (h' i hi).2.trans (h i hi).2⟩

theorem eqOff_modify (hi : i ∈ S) (p : Pool α) (f : α → α) : EqOff S p (p.modify i f) := by
  intro j hj
  have hne : j ≠ i := by
    rintro rfl
    exact hj hi
  rw [live_modify, mem_modify, if_neg hne]
  exact ⟨rfl, rfl⟩

theorem eqOff_alloc (hi : i ∈ S) (p : Pool α) : EqOff S p (p.alloc i) := by
  intro j hj
  have hne : j ≠ i := by
    rintro rfl
    exact hj hi
  rw [live_alloc, mem_alloc, if_neg hne]
  exact ⟨rfl, rfl⟩

theorem eqOff_free (hi : i ∈ S) (p : Pool α) : EqOff S p (p.free i) := by
  intro j hj
  have hne : j ≠ i := by
    rintro rfl
    exact hj hi
  rw [live_free, mem_free, if_neg hne]
  exact ⟨rfl, rfl⟩

end Pool
