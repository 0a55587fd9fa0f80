import Mathlib

/-!
# Labelled step relations

A system is a step relation `step : σ → α → σ → Prop` whose labels carry whatever a
step consumes and returns. `Trace step s tr` says that `tr` lists, in order, the labels
of a run from `s` with the state each of them leads to; `Reaches step s t` forgets the
labels. The rules below turn a statement about one step into one about whole runs.
-/

namespace Lts
variable {σ α : Type*} {step : σ → α → σ → Prop}

/-- Some run leads from the first state to the second. -/
def Reaches (step : σ → α → σ → Prop) : σ → σ → Prop :=
  Relation.ReflTransGen (fun s t => ∃ a, step s a t)

/-- The labels and the successive states of a run. -/
inductive Trace (step : σ → α → σ → Prop) : σ → List (α × σ) → Prop
  | nil (s : σ) : Trace step s []
  | cons {s t : σ} {a : α} {tr : List (α × σ)} :
      step s a t → Trace step t tr → Trace step s ((a, t) :: tr)

/-- The state a trace ends in. -/
def finalState (s : σ) : List (α × σ) → σ
  | [] => s
  | (_, t) :: tr => finalState t tr

/-- Steps whose label meets a condition on the state they start from. -/
def Restrict (cond : σ → α → Prop) (step : σ → α → σ → Prop) : σ → α → σ → Prop :=
  fun s a t => cond s a ∧ step s a t

theorem Reaches.invariant {I : σ → Prop} (hstep : ∀ s a t, I s → step s a t → I t)
    {s t : σ} (h : Reaches step s t) (hs : I s) : I t := by
  induction h with
  | refl => exact hs
  | tail _ ha ih =>
    obtain ⟨a, ha⟩ := ha
    exact hstep _ a _ ih ha

/-- An invariant may be proved with the help of a fact already known of every state. -/
theorem Reaches.invariant_with {I J : σ → Prop} (hJ : ∀ s a t, J s → step s a t → J t)
    (hstep : ∀ s a t, J s → I s → step s a t → I t)
    {s t : σ} (h : Reaches step s t) (hJs : J s) (hs : I s) : I t :=
  (Reaches.invariant (I := fun u => J u ∧ I u)
    (fun u a v huv hst => ⟨hJ u a v huv.1 hst, hstep u a v huv.1 huv.2 hst⟩) h ⟨hJs, hs⟩).2

theorem Reaches.snoc {s t u : σ} {a : α} (h : Reaches step s t) (ha : step t a u) :
    Reaches step s u :=
  Relation.ReflTransGen.tail h ⟨a, ha⟩

theorem Reaches.of_restrict {cond : σ → α → Prop} {s t : σ}
    (h : Reaches (Restrict cond step) s t) : Reaches step s t := by
  induction h with
  | refl => exact Relation.ReflTransGen.refl
  | tail _ ha ih =>
    obtain ⟨a, _, ha⟩ := ha
    exact ih.snoc ha

/-- A system whose every step is a run of another one has its runs there. -/
theorem Reaches.simulate {τ β : Type*} {step' : τ → β → τ → Prop} {view : σ → τ}
    (hstep : ∀ s a t, step s a t → Reaches step' (view s) (view t)) {s t : σ}
    (h : Reaches step s t) : Reaches step' (view s) (view t) := by
  induction h with
  | refl => exact Relation.ReflTransGen.refl
  | tail _ ha ih =>
    obtain ⟨a, ha⟩ := ha
    exact ih.trans (hstep _ a _ ha)

/-- The state after some events, each of which is a step. -/
theorem reaches_of_foldlM {ε : Type*} {f : σ → ε → Option σ}
    (hf : ∀ s e t, f s e = some t → ∃ a, step s a t) {es : List ε} {s t : σ}
    (h : es.foldlM f s = some t) : Reaches step s t := by
  induction es generalizing s with
  | nil =>
    cases h
    exact Relation.ReflTransGen.refl
  | cons e es ih =>
    rw [List.foldlM_cons] at h
    obtain ⟨u, hu, hrest⟩ := Option.bind_eq_some_iff.mp h
    exact Relation.ReflTransGen.head (hf s e u hu) (ih hrest)

theorem Trace.append {s : σ} {tr tr' : List (α × σ)} (h : Trace step s tr)
    (h' : Trace step (finalState s tr) tr') : Trace step s (tr ++ tr') := by
  induction h with
  | nil => exact h'
  | cons ha _ ih => exact Trace.cons ha (ih h')

/-- The runs of a system are runs of one that has its steps. -/
theorem Trace.mono {step' : σ → α → σ → Prop} (himp : ∀ s a t, step s a t → step' s a t) {s : σ}
    {tr : List (α × σ)} (h : Trace step s tr) : Trace step' s tr := by
  induction h with
  | nil s => exact Trace.nil s
  | cons ha _ ih => exact Trace.cons (himp _ _ _ ha) ih

theorem Trace.reaches {s : σ} {tr : List (α × σ)} (h : Trace step s tr) :
    ∀ p ∈ tr, Reaches step s p.2 := by
  induction h with
  | nil => simp
  | cons ha _ ih =>
    intro p hp
    rcases List.mem_cons.mp hp with rfl | hp
    · exact Relation.ReflTransGen.single ⟨_, ha⟩
    · exact Relation.ReflTransGen.head ⟨_, ha⟩ (ih p hp)

theorem Trace.invariant {I : σ → Prop} {s : σ} {tr : List (α × σ)}
    (hstep : ∀ s a t, I s → step s a t → I t) (h : Trace step s tr) (hs : I s) :
    ∀ p ∈ tr, I p.2 := by
  intro p hp
  exact (h.reaches p hp).invariant hstep hs

/-- An invariant may use what is known of the labels and states of one run. -/
theorem Trace.invariant_of {I : σ → Prop} {Q : α × σ → Prop}
    (hstep : ∀ s a t, I s → step s a t → Q (a, t) → I t) {s : σ} {tr : List (α × σ)}
    (h : Trace step s tr) (hQ : ∀ p ∈ tr, Q p) (hs : I s) :
    ∀ p ∈ tr, ∃ u, I u ∧ step u p.1 p.2 ∧ I p.2 := by
  induction h with
  | nil => simp
  | @cons s t a tr ha _ ih =>
    have ht : I t := hstep s a t hs ha (hQ (a, t) List.mem_cons_self)
    intro p hp
    rcases List.mem_cons.mp hp with rfl | hp
    · exact ⟨s, hs, ha, ht⟩
    · exact ih (fun q hq => hQ q (List.mem_cons_of_mem _ hq)) ht p hp

/-- Where a condition on a step says exactly when it keeps an invariant, the invariant holds
in every state of a run if and only if all steps meet the condition. -/
theorem Trace.invariant_iff {I J : σ → Prop} {C : σ → α → Prop}
    (hJ : ∀ s a t, J s → step s a t → J t)
    (hiff : ∀ s a t, J s → I s → step s a t → (I t ↔ C s a))
    {s : σ} {tr : List (α × σ)} (h : Trace step s tr) (hJs : J s) (hs : I s) :
    (∀ p ∈ tr, I p.2) ↔ Trace (Restrict C step) s tr := by
  induction h with
  | nil s => exact ⟨fun _ => Trace.nil s, fun _ p hp => absurd hp List.not_mem_nil⟩
  | @cons s t a tr ha _ ih =>
    have hJt : J t := hJ s a t hJs ha
    have hcond : I t ↔ C s a := hiff s a t hJs hs ha
    constructor
    · intro hI
      have ht : I t := hI (a, t) List.mem_cons_self
      refine Trace.cons ⟨hcond.mp ht, ha⟩ ((ih hJt ht).mp fun p hp => ?_)
      exact hI p (List.mem_cons_of_mem _ hp)
    · intro htrace p hp
      cases htrace with
      | cons hstep hrest =>
        have ht : I t := hcond.mpr hstep.1
        rcases List.mem_cons.mp hp with rfl | hp
        · exact ht
        · exact (ih hJt ht).mpr hrest p hp

/-- Where a condition on a step says exactly when the step does what it should, all steps of a
run do if and only if all of them meet the condition. -/
theorem Trace.labels_iff {J : σ → Prop} {P : α × σ → Prop} {C : σ → α → Prop}
    (hJ : ∀ s a t, J s → step s a t → J t)
    (hiff : ∀ s a t, J s → step s a t → (P (a, t) ↔ C s a))
    {s : σ} {tr : List (α × σ)} (h : Trace step s tr) (hJs : J s) :
    (∀ p ∈ tr, P p) ↔ Trace (Restrict C step) s tr := by
  induction h with
  | nil s => exact ⟨fun _ => Trace.nil s, fun _ p hp => absurd hp List.not_mem_nil⟩
  | @cons s t a tr ha _ ih =>
    have hrest := ih (hJ s a t hJs ha)
    have hcond : P (a, t) ↔ C s a := hiff s a t hJs ha
    constructor
    · intro hP
      apply Trace.cons ⟨hcond.mp (hP (a, t) List.mem_cons_self), ha⟩
      exact hrest.mp fun p hp => hP p (List.mem_cons_of_mem _ hp)
    · intro htrace p hp
      cases htrace with
      | cons hstep htail =>
        rcases List.mem_cons.mp hp with rfl | hp
        · exact hcond.mpr hstep.1
        · exact hrest.mpr htail p hp

/-- What each step of a run says of the state before it and the state after it. -/
theorem Trace.isChain {I : σ → Prop} {R : σ → σ → Prop}
    (hstep : ∀ s a t, I s → step s a t → I t ∧ R s t) {s : σ} {tr : List (α × σ)}
    (h : Trace step s tr) (hs : I s) : List.IsChain R (s :: tr.map Prod.snd) := by
  induction h with
  | nil => exact List.isChain_singleton _
  | cons ha _ ih =>
    obtain ⟨ht, hR⟩ := hstep _ _ _ hs ha
    exact List.IsChain.cons_cons hR (ih ht)

/-- Two relations with the same steps from the states that can be met have the same runs. -/
theorem Trace.congr {step' : σ → α → σ → Prop} {J : σ → Prop}
    (hJ : ∀ s a t, J s → step s a t → J t)
    (hiff : ∀ s a t, J s → (step s a t ↔ step' s a t)) {s : σ} (hs : J s) {tr : List (α × σ)} :
    Trace step s tr ↔ Trace step' s tr := by
  induction tr generalizing s with
  | nil => exact iff_of_true (Trace.nil s) (Trace.nil s)
  | cons p tr ih =>
    obtain ⟨a, t⟩ := p
    constructor
    · rintro (_ | ⟨ha, htr⟩)
      exact Trace.cons ((hiff s a t hs).mp ha) ((ih (hJ s a t hs ha)).mp htr)
    · rintro (_ | ⟨ha, htr⟩)
      have ha := (hiff s a t hs).mpr ha
      exact Trace.cons ha ((ih (hJ s a t hs ha)).mpr htr)

theorem Trace.reaches_final {s : σ} {tr : List (α × σ)} (h : Trace step s tr) :
    Reaches step s (finalState s tr) := by
  induction h with
  | nil => exact Relation.ReflTransGen.refl
  | cons ha _ ih =>
    exact Relation.ReflTransGen.head ⟨_, ha⟩ ih

end Lts
