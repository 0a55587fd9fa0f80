import Mathlib

/-!
# Hash tables that point to their keys

An entry keeps the hash that its key had when it was made and a pointer to the key. The key
itself stays with its owner, who may overwrite it: the entry then has a hash that no longer
fits, and is not found, unless the new key happens to have the same hash. `read` is what the
pointers point to at the moment. Of the functions of a table nothing is used but what `HashTable`
says of them.
-/

namespace KeyTable

structure Entry (η π ν : Type*) where
  hash : η
  key : π
  val : ν
  deriving DecidableEq

variable {η π κ ν : Type*} [DecidableEq η] [DecidableEq κ]

section
variable (read : π → κ) (hash : κ → η)

/-- What is compared in a search. -/
def Entry.matches (e : Entry η π ν) (k : κ) : Bool :=
  decide (e.hash = hash k) && decide (read e.key = k)

/-- An entry that a search can find. -/
def Entry.Active (e : Entry η π ν) : Prop := e.hash = hash (read e.key)

instance (e : Entry η π ν) : Decidable (e.Active read hash) := inferInstanceAs (Decidable (_ = _))

/-- A search has found an entry of the key, or there is none. -/
def IsGet (t : List (Entry η π ν)) (k : κ) : Option ν → Prop
  | some v => ∃ e ∈ t, e.matches read hash k = true ∧ e.val = v
  | none => ∀ e ∈ t, e.matches read hash k ≠ true

/-- A value is set for the key that a pointer points to. An entry of the key keeps its own
pointer. -/
def IsSet (t : List (Entry η π ν)) (p : π) (v : ν) (t' : List (Entry η π ν)) : Prop :=
  (∃ e l, t.Perm (e :: l) ∧ e.matches read hash (read p) = true ∧
    t'.Perm ({ e with val := v } :: l)) ∨
  (∀ e ∈ t, e.matches read hash (read p) ≠ true) ∧ t'.Perm (⟨hash (read p), p, v⟩ :: t)

/-- An entry of the key is removed, if there is one. -/
def IsUnset (t : List (Entry η π ν)) (k : κ) (t' : List (Entry η π ν)) : Prop :=
  (∃ e l, t.Perm (e :: l) ∧ e.matches read hash k = true ∧ t'.Perm l) ∨
  (∀ e ∈ t, e.matches read hash k ≠ true) ∧ t'.Perm t

end

/-- The functions of a table. The entries are in no order, and where there are several of one
key any of them may be the one that is found, set or removed. -/
class HashTable (η : Type) [DecidableEq η] where
  get {π κ ν : Type} [DecidableEq κ] (read : π → κ) (hash : κ → η) (t : List (Entry η π ν))
    (k : κ) : Option ν
  set {π κ ν : Type} [DecidableEq κ] (read : π → κ) (hash : κ → η) (t : List (Entry η π ν))
    (p : π) (v : ν) : List (Entry η π ν)
  unset {π κ ν : Type} [DecidableEq κ] (read : π → κ) (hash : κ → η) (t : List (Entry η π ν))
    (k : κ) : List (Entry η π ν)
  isGet {π κ ν : Type} [DecidableEq κ] (read : π → κ) (hash : κ → η) (t : List (Entry η π ν))
    (k : κ) : IsGet read hash t k (get read hash t k)
  isSet {π κ ν : Type} [DecidableEq κ] (read : π → κ) (hash : κ → η) (t : List (Entry η π ν))
    (p : π) (v : ν) : IsSet read hash t p v (set read hash t p v)
  isUnset {π κ ν : Type} [DecidableEq κ] (read : π → κ) (hash : κ → η) (t : List (Entry η π ν))
    (k : κ) : IsUnset read hash t k (unset read hash t k)

export HashTable (get set unset isGet isSet isUnset)

variable {read read' : π → κ} {hash : κ → η} {t t' l : List (Entry η π ν)} {e : Entry η π ν}
  {k : κ} {p : π} {v w : ν}

@[simp] theorem matches_eq_true :
    e.matches read hash k = true ↔ e.hash = hash k ∧ read e.key = k := by
  simp [Entry.matches]

theorem active_of_matches (h : e.matches read hash k = true) : e.Active read hash := by
  rw [matches_eq_true] at h
  rw [Entry.Active, h.1, h.2]

theorem Entry.Active.matches (h : e.Active read hash) : e.matches read hash (read e.key) = true :=
  matches_eq_true.mpr ⟨h, rfl⟩

/-! ## Tables that are searched from the front -/

section
variable (read : π → κ) (hash : κ → η)

def getFirst (t : List (Entry η π ν)) (k : κ) : Option ν :=
  (t.find? fun e => e.matches read hash k).map Entry.val

def setFirst : List (Entry η π ν) → π → ν → List (Entry η π ν)
  | [], p, v => [⟨hash (read p), p, v⟩]
  | e :: t, p, v =>
    if e.matches read hash (read p) then { e with val := v } :: t else e :: setFirst t p v

def unsetFirst (t : List (Entry η π ν)) (k : κ) : List (Entry η π ν) :=
  t.eraseP fun e => e.matches read hash k

theorem isGet_getFirst (t : List (Entry η π ν)) (k : κ) :
    IsGet read hash t k (getFirst read hash t k) := by
  rw [getFirst]
  cases hfind : t.find? fun e => e.matches read hash k with
  | none => exact List.find?_eq_none.mp hfind
  | some e =>
    exact ⟨e, List.mem_of_find?_eq_some hfind,
      List.find?_some (p := fun e : Entry η π ν => e.matches read hash k) hfind, rfl⟩

theorem isSet_setFirst (t : List (Entry η π ν)) (p : π) (v : ν) :
    IsSet read hash t p v (setFirst read hash t p v) := by
  induction t with
  | nil => exact Or.inr ⟨List.forall_mem_nil _, List.Perm.refl _⟩
  | cons e t ih =>
    by_cases hmatch : e.matches read hash (read p) = true
    · rw [setFirst, if_pos hmatch]
      exact Or.inl ⟨e, t, List.Perm.refl _, hmatch, List.Perm.refl _⟩
    · rw [setFirst, if_neg hmatch]
      rcases ih with ⟨e', l, hperm, hmatch', hset⟩ | ⟨hnone, hset⟩
      · left
        exact ⟨e', e :: l, (hperm.cons e).trans (List.Perm.swap e' e l), hmatch',
          (hset.cons e).trans (List.Perm.swap _ e l)⟩
      · right
        exact ⟨List.forall_mem_cons.mpr ⟨hmatch, hnone⟩,
          (hset.cons e).trans (List.Perm.swap _ e t)⟩

theorem isUnset_unsetFirst (t : List (Entry η π ν)) (k : κ) :
    IsUnset read hash t k (unsetFirst read hash t k) := by
  by_cases hfound : ∃ e ∈ t, e.matches read hash k = true
  · left
    obtain ⟨e, he, hmatch⟩ := hfound
    obtain ⟨e₀, l₁, l₂, -, h₀, rfl, herase⟩ := List.exists_of_eraseP
      (p := fun e => e.matches read hash k) he hmatch
    exact ⟨e₀, l₁ ++ l₂, List.perm_middle, h₀, List.Perm.of_eq herase⟩
  · right
    have hnone : ∀ e ∈ t, e.matches read hash k ≠ true := by
      intro e he hmatch
      exact hfound ⟨e, he, hmatch⟩
    exact ⟨hnone, List.Perm.of_eq (List.eraseP_of_forall_not hnone)⟩

end

/-- A table that is searched from the front, for runs on concrete inputs. -/
@[reducible] def HashTable.first (η : Type) [DecidableEq η] : HashTable η where
  get := getFirst
  set := setFirst
  unset := unsetFirst
  isGet := isGet_getFirst
  isSet := isSet_setFirst
  isUnset := isUnset_unsetFirst

/-! ## Entries of one key -/

/-- Where no two entries are found for one key, none is left when one is removed. -/
theorem not_matches_of_isUnset
    (hunique : t.Pairwise fun e e' =>
      e.Active read hash → e'.Active read hash → read e.key ≠ read e'.key)
    (h : IsUnset read hash t k t') (he : e ∈ t') : e.matches read hash k ≠ true := by
  rcases h with ⟨e₀, l, hperm, h₀, ht'⟩ | ⟨hnone, ht'⟩
  · intro hmatch
    have hcons := (hperm.pairwise_iff fun hne ha ha' heq => hne ha' ha heq.symm).mp hunique
    apply (List.pairwise_cons.mp hcons).1 e (ht'.mem_iff.mp he) (active_of_matches h₀)
      (active_of_matches hmatch)
    exact (matches_eq_true.mp h₀).2.trans (matches_eq_true.mp hmatch).2.symm
  · exact hnone e (ht'.mem_iff.mp he)

theorem mem_of_isUnset (h : IsUnset read hash t k t') (he : e ∈ t') : e ∈ t := by
  rcases h with ⟨e₀, l, hperm, -, ht'⟩ | ⟨-, ht'⟩
  · exact hperm.mem_iff.mpr (List.mem_cons_of_mem _ (ht'.mem_iff.mp he))
  · exact ht'.mem_iff.mp he

theorem mem_of_isUnset_of_ne (h : IsUnset read hash t k t') (he : e ∈ t)
    (hne : e.matches read hash k ≠ true) : e ∈ t' := by
  rcases h with ⟨e₀, l, hperm, h₀, ht'⟩ | ⟨-, ht'⟩
  · rcases List.mem_cons.mp (hperm.mem_iff.mp he) with rfl | hl
    · exact absurd h₀ hne
    · exact ht'.mem_iff.mpr hl
  · exact ht'.mem_iff.mpr he

/-- If the entries of a key have the value already, setting it at most adds an entry. -/
theorem perm_of_isSet (h : ∀ e ∈ t, e.matches read hash (read p) = true → e.val = v)
    (hset : IsSet read hash t p v t') :
    (∃ e ∈ t, e.matches read hash (read p) = true) ∧ t'.Perm t ∨
      (∀ e ∈ t, e.matches read hash (read p) ≠ true) ∧ t'.Perm (⟨hash (read p), p, v⟩ :: t) := by
  rcases hset with ⟨e, l, hperm, hmatch, ht'⟩ | hnone
  · left
    have he : e ∈ t := hperm.mem_iff.mpr List.mem_cons_self
    have hval : { e with val := v } = e := by rw [← h e he hmatch]
    rw [hval] at ht'
    exact ⟨⟨e, he, hmatch⟩, ht'.trans hperm.symm⟩
  · exact Or.inr hnone

/-- What holds of any two entries still does when one was removed. -/
theorem pairwise_of_isUnset {R : Entry η π ν → Entry η π ν → Prop}
    (hsymm : ∀ {e e'}, R e e' → R e' e) (hpair : t.Pairwise R) (h : IsUnset read hash t k t') :
    t'.Pairwise R := by
  rcases h with ⟨e₀, l, hperm, -, ht'⟩ | ⟨-, ht'⟩
  · exact (ht'.pairwise_iff hsymm).mpr
      (List.pairwise_cons.mp ((hperm.pairwise_iff hsymm).mp hpair)).2
  · exact (ht'.pairwise_iff hsymm).mpr hpair

omit [DecidableEq η] in
theorem distinct_symm {e e' : Entry η π ν} (h : e.key = e'.key → e.hash ≠ e'.hash) :
    e'.key = e.key → e'.hash ≠ e.hash := fun hkey hhash => h hkey.symm hhash.symm

omit [DecidableEq η] [DecidableEq κ] in
theorem unique_symm {e e' : Entry η π ν}
    (h : e.Active read hash → e'.Active read hash → read e.key ≠ read e'.key) :
    e'.Active read hash → e.Active read hash → read e'.key ≠ read e.key :=
  fun ha ha' hkey => h ha' ha hkey.symm

/-! ## Tables that agree with the owners of the keys -/

section
variable (read : π → κ) (hash : κ → η) (owner : π → ν) (holds : ν → Prop) (place : ν → π)

/-- Exactly the keys that are held at the moment are found, each with its owner: `holds` says
who has a key and `place` where it is. -/
structure Agrees (t : List (Entry η π ν)) : Prop where
  own : ∀ e ∈ t, e.val = owner e.key
  sound : ∀ e ∈ t, e.Active read hash → holds e.val ∧ e.key = place e.val
  complete : ∀ v, holds v → ∃ e ∈ t, e.matches read hash (read (place v)) = true ∧ e.val = v
  distinct : t.Pairwise fun e f => e.key = f.key → e.hash ≠ f.hash
  exclusive : ∀ v w, holds v → holds w → read (place v) = read (place w) → v = w

end

variable {owner : π → ν} {holds holds' : ν → Prop} {place place' : ν → π}

theorem Agrees.nil (hnone : ∀ v, ¬holds v) :
    Agrees read hash owner holds place ([] : List (Entry η π ν)) := by
  constructor
  · simp
  · simp
  · intro v hv
    exact absurd hv (hnone v)
  · exact List.Pairwise.nil
  · intro v w hv
    exact absurd hv (hnone v)

/-- Nothing but what these functions say of the table's own entries and of the owners
matters. -/
theorem Agrees.congr (h : Agrees read hash owner holds place t)
    (hread : ∀ p, read' p = read p) (hholds : ∀ v, holds' v ↔ holds v)
    (hplace : ∀ v, holds v → place' v = place v) : Agrees read' hash owner holds' place' t := by
  have hread : read' = read := funext hread
  subst hread
  have hholds : holds' = holds := funext fun v => propext (hholds v)
  subst hholds
  constructor
  · exact h.own
  · intro e he hactive
    have hsound := h.sound e he hactive
    exact ⟨hsound.1, hsound.2.trans (hplace e.val hsound.1).symm⟩
  · intro v hv
    rw [hplace v hv]
    exact h.complete v hv
  · exact h.distinct
  · intro v w hv hw
    rw [hplace v hv, hplace w hw]
    exact h.exclusive v w hv hw

/-- The order of the entries does not matter. -/
theorem Agrees.perm (h : Agrees read hash owner holds place t) (hperm : t'.Perm t) :
    Agrees read hash owner holds place t' := by
  constructor
  · intro e he
    exact h.own e (hperm.mem_iff.mp he)
  · intro e he
    exact h.sound e (hperm.mem_iff.mp he)
  · intro v hv
    obtain ⟨e, he, hmatch⟩ := h.complete v hv
    exact ⟨e, hperm.mem_iff.mpr he, hmatch⟩
  · exact (hperm.pairwise_iff distinct_symm).mpr h.distinct
  · exact h.exclusive

theorem Agrees.of_matches (h : Agrees read hash owner holds place t) (he : e ∈ t)
    (hmatch : e.matches read hash k = true) : holds e.val ∧ read (place e.val) = k := by
  have hsound := h.sound e he (active_of_matches hmatch)
  rw [← hsound.2]
  exact ⟨hsound.1, (matches_eq_true.mp hmatch).2⟩

/-- The search finds who holds the key. -/
theorem Agrees.get_iff {found : Option ν} (h : Agrees read hash owner holds place t)
    (hget : IsGet read hash t k found) : found = some v ↔ holds v ∧ read (place v) = k := by
  cases found with
  | none =>
    apply iff_of_false (by simp)
    rintro ⟨hv, rfl⟩
    obtain ⟨e, he, hmatch, -⟩ := h.complete v hv
    exact hget e he hmatch
  | some w =>
    obtain ⟨e, he, hmatch, rfl⟩ := hget
    have hholder := h.of_matches he hmatch
    rw [Option.some_inj]
    constructor
    · rintro rfl
      exact hholder
    · rintro ⟨hv, hread⟩
      exact h.exclusive e.val v hholder.1 hv (hholder.2.trans hread.symm)

/-- Removing a key that nobody holds changes nothing. -/
theorem Agrees.unset_of_not (h : Agrees read hash owner holds place t)
    (hnone : ∀ v, holds v → read (place v) ≠ k) (hunset : IsUnset read hash t k t') :
    Agrees read hash owner holds place t' := by
  rcases hunset with ⟨e, l, hperm, hmatch, -⟩ | ⟨-, ht'⟩
  · have hholder := h.of_matches (hperm.mem_iff.mpr List.mem_cons_self) hmatch
    exact absurd hholder.2 (hnone e.val hholder.1)
  · exact h.perm ht'

/-- Two entries that are found for one key are the same. -/
theorem Agrees.unique (h : Agrees read hash owner holds place t) :
    t.Pairwise fun e e' => e.Active read hash → e'.Active read hash → read e.key ≠ read e'.key := by
  apply h.distinct.imp_of_mem
  intro e e' he he' hdistinct hact hact' hkeys
  obtain ⟨hholds, hkey⟩ := h.sound e he hact
  obtain ⟨hholds', hkey'⟩ := h.sound e' he' hact'
  have hval : e.val = e'.val := by
    apply h.exclusive _ _ hholds hholds'
    rw [← hkey, ← hkey', hkeys]
  apply hdistinct
  · rw [hkey, hkey', hval]
  · exact hact.trans ((congrArg hash hkeys).trans hact'.symm)

/-- A holder gives up the key. -/
theorem Agrees.unset (h : Agrees read hash owner holds place t) (hv : holds v)
    (hunset : IsUnset read hash t (read (place v)) t') :
    Agrees read hash owner (fun w => w ≠ v ∧ holds w) place t' := by
  constructor
  · intro e he
    exact h.own e (mem_of_isUnset hunset he)
  · intro e he hactive
    have hsound := h.sound e (mem_of_isUnset hunset he) hactive
    refine ⟨⟨?_, hsound.1⟩, hsound.2⟩
    rintro rfl
    apply not_matches_of_isUnset h.unique hunset he
    rw [← hsound.2]
    exact hactive.matches
  · intro w hw
    obtain ⟨e, he, hmatch, hval⟩ := h.complete w hw.2
    refine ⟨e, ?_, hmatch, hval⟩
    apply mem_of_isUnset_of_ne hunset he
    intro hother
    have hread := (h.of_matches he hother).2
    rw [hval] at hread
    exact hw.1 (h.exclusive w v hw.2 hv hread)
  · exact pairwise_of_isUnset distinct_symm h.distinct hunset
  · intro a b ha hb
    exact h.exclusive a b ha.2 hb.2

/-- An owner overwrites the key, which nobody else holds, and enters it. An entry for another
place of the same owner must not become active by chance. -/
theorem Agrees.set (h : Agrees read hash owner holds place t) (read' : π → κ)
    (place' : ν → π) (v : ν)
    (hread : ∀ p, owner p ≠ v → read' p = read p) (hplace : ∀ w, w ≠ v → place' w = place w)
    (howner : ∀ w, owner (place w) = w) (howner' : owner (place' v) = v)
    (hquiet : ∀ e ∈ t, owner e.key = v → e.key ≠ place' v → ¬e.Active read' hash)
    (hnew : ∀ w, w ≠ v → holds w → read (place w) ≠ read' (place' v))
    (hset : IsSet read' hash t (place' v) v t') :
    Agrees read' hash owner (fun w => w = v ∨ holds w) place' t' := by
  have hother : ∀ w, w ≠ v → read' (place' w) = read (place w) := by
    intro w hw
    rw [hplace w hw]
    apply hread
    rwa [howner w]
  -- what is active after the key was overwritten: the owner's entry and those of the others
  have hactive : ∀ e ∈ t, e.Active read' hash →
      e.val = v ∧ e.key = place' v ∨ e.val ≠ v ∧ holds e.val ∧ e.key = place' e.val := by
    intro e he hact
    have hown := h.own e he
    by_cases hval : e.val = v
    · left
      refine ⟨hval, ?_⟩
      by_contra hkey
      exact hquiet e he (hown.symm.trans hval) hkey hact
    · right
      have hkept : read' e.key = read e.key := hread e.key fun heq => hval (hown.trans heq)
      have hsound := h.sound e he (by rwa [Entry.Active, ← hkept])
      refine ⟨hval, hsound.1, ?_⟩
      rw [hplace e.val hval]
      exact hsound.2
  have hmine : ∀ e ∈ t, e.matches read' hash (read' (place' v)) = true →
      e.val = v ∧ e.key = place' v := by
    intro e he hmatch
    rcases hactive e he (active_of_matches hmatch) with hv | ⟨hne, hholds, hkey⟩
    · exact hv
    · exfalso
      apply hnew e.val hne hholds
      rw [← hother e.val hne, ← hkey]
      exact (matches_eq_true.mp hmatch).2
  have hkeep : ∀ w, w ≠ v → holds w →
      ∃ e ∈ t, e.matches read' hash (read' (place' w)) = true ∧ e.val = w := by
    intro w hne hw
    obtain ⟨e, he, hmatch, hval⟩ := h.complete w hw
    refine ⟨e, he, ?_, hval⟩
    have hkept : read' e.key = read e.key :=
      hread e.key fun heq => hne (hval.symm.trans ((h.own e he).trans heq))
    rw [hother w hne, matches_eq_true, hkept]
    exact matches_eq_true.mp hmatch
  have hexclusive : ∀ a b, (a = v ∨ holds a) → (b = v ∨ holds b) →
      read' (place' a) = read' (place' b) → a = b := by
    intro a b ha hb hab
    by_cases hav : a = v
    · by_cases hbv : b = v
      · exact hav.trans hbv.symm
      · rw [hav, hother b hbv] at hab
        exact absurd hab.symm (hnew b hbv (hb.resolve_left hbv))
    · by_cases hbv : b = v
      · rw [hbv, hother a hav] at hab
        exact absurd hab (hnew a hav (ha.resolve_left hav))
      · rw [hother a hav, hother b hbv] at hab
        exact h.exclusive a b (ha.resolve_left hav) (hb.resolve_left hbv) hab
  rcases perm_of_isSet (fun e he hmatch => (hmine e he hmatch).1) hset with
    ⟨⟨f, hf, hfmatch⟩, hperm⟩ | ⟨hnone, hperm⟩
  · refine Agrees.perm ?_ hperm
    constructor
    · exact h.own
    · intro e he hact
      rcases hactive e he hact with ⟨hval, hkey⟩ | ⟨-, hholds, hkey⟩
      · exact ⟨Or.inl hval, by rw [hkey, hval]⟩
      · exact ⟨Or.inr hholds, hkey⟩
    · intro w hw
      by_cases hwv : w = v
      · subst hwv
        exact ⟨f, hf, hfmatch, (hmine f hf hfmatch).1⟩
      · exact hkeep w hwv (hw.resolve_left hwv)
    · exact h.distinct
    · exact hexclusive
  · refine Agrees.perm ?_ hperm
    constructor
    · exact List.forall_mem_cons.mpr ⟨howner'.symm, h.own⟩
    · intro e he hact
      rcases List.mem_cons.mp he with rfl | he
      · exact ⟨Or.inl rfl, rfl⟩
      · rcases hactive e he hact with ⟨hval, hkey⟩ | ⟨-, hholds, hkey⟩
        · exact ⟨Or.inl hval, by rw [hkey, hval]⟩
        · exact ⟨Or.inr hholds, hkey⟩
    · intro w hw
      by_cases hwv : w = v
      · subst hwv
        exact ⟨_, List.mem_cons_self, by simp, rfl⟩
      · obtain ⟨e, he, hmatch⟩ := hkeep w hwv (hw.resolve_left hwv)
        exact ⟨e, List.mem_cons_of_mem _ he, hmatch⟩
    · apply List.pairwise_cons.mpr
      refine ⟨?_, h.distinct⟩
      intro e he hkey hhash
      apply hnone e he
      rw [matches_eq_true]
      exact ⟨hhash.symm, by rw [← hkey]⟩
    · exact hexclusive

/-! ## Tables whose keys are in several places

Several owners may have one key, each in its own place. The entry is then for the owner who set it
last, while its pointer is that of the first one. -/

section
variable (read : π → κ) (hash : κ → η)

/-- Exactly one entry is found for each key that has a value, and it has this value. -/
structure Finds (t : List (Entry η π ν)) (f : κ → Option ν) : Prop where
  sound : ∀ e ∈ t, e.Active read hash → f (read e.key) = some e.val
  complete : ∀ k v, f k = some v → ∃ e ∈ t, e.matches read hash k = true
  distinct : t.Pairwise fun e e' => e.key = e'.key → e.hash ≠ e'.hash
  unique : t.Pairwise fun e e' =>
    e.Active read hash → e'.Active read hash → read e.key ≠ read e'.key

end

section
variable {f f' : κ → Option ν}

theorem Finds.nil : Finds read hash ([] : List (Entry η π ν)) (fun _ => none) := by
  constructor
  · simp
  · simp
  · exact List.Pairwise.nil
  · exact List.Pairwise.nil

theorem Finds.of_matches (h : Finds read hash t f) (he : e ∈ t)
    (hmatch : e.matches read hash k = true) : f k = some e.val := by
  rw [← (matches_eq_true.mp hmatch).2]
  exact h.sound e he (active_of_matches hmatch)

theorem Finds.get_eq {found : Option ν} (h : Finds read hash t f)
    (hget : IsGet read hash t k found) : found = f k := by
  cases found with
  | none =>
    cases hf : f k with
    | none => rfl
    | some v =>
      obtain ⟨e, he, hmatch⟩ := h.complete k v hf
      exact absurd hmatch (hget e he)
  | some v =>
    obtain ⟨e, he, hmatch, rfl⟩ := hget
    exact (h.of_matches he hmatch).symm

/-- The order of the entries does not matter. -/
theorem Finds.perm (h : Finds read hash t f) (hperm : t'.Perm t) : Finds read hash t' f := by
  constructor
  · intro e he
    exact h.sound e (hperm.mem_iff.mp he)
  · intro k v hv
    obtain ⟨e, he, hmatch⟩ := h.complete k v hv
    exact ⟨e, hperm.mem_iff.mpr he, hmatch⟩
  · exact (hperm.pairwise_iff distinct_symm).mpr h.distinct
  · exact (hperm.pairwise_iff unique_symm).mpr h.unique

/-- Only the places that the entries point to matter. -/
theorem Finds.congr (h : Finds read hash t f) (hread : ∀ e ∈ t, read' e.key = read e.key) :
    Finds read' hash t f := by
  have hactive (e : Entry η π ν) (he : e ∈ t) : e.Active read' hash ↔ e.Active read hash := by
    rw [Entry.Active, Entry.Active, hread e he]
  constructor
  · intro e he hact
    rw [hread e he]
    exact h.sound e he ((hactive e he).mp hact)
  · intro k v hv
    obtain ⟨e, he, hmatch⟩ := h.complete k v hv
    refine ⟨e, he, ?_⟩
    rw [matches_eq_true, hread e he]
    exact matches_eq_true.mp hmatch
  · exact h.distinct
  · apply h.unique.imp_of_mem
    intro e e' he he' hne hact hact'
    rw [hread e he, hread e' he']
    exact hne ((hactive e he).mp hact) ((hactive e' he').mp hact')

theorem key_of_isSet (hset : IsSet read hash t p v t') (he : e ∈ t') :
    e.key = p ∨ ∃ e' ∈ t, e'.key = e.key := by
  rcases hset with ⟨e₀, l, hperm, -, ht'⟩ | ⟨-, ht'⟩
  · right
    rcases List.mem_cons.mp (ht'.mem_iff.mp he) with rfl | he
    · exact ⟨e₀, hperm.mem_iff.mpr List.mem_cons_self, rfl⟩
    · exact ⟨e, hperm.mem_iff.mpr (List.mem_cons_of_mem _ he), rfl⟩
  · rcases List.mem_cons.mp (ht'.mem_iff.mp he) with rfl | he
    · exact Or.inl rfl
    · exact Or.inr ⟨e, he, rfl⟩

/-- A key is set. Of its own entry nothing needs to be known before. -/
theorem Finds.of_set
    (hsound : ∀ e ∈ t, e.Active read hash → read e.key ≠ read p → f (read e.key) = some e.val)
    (hcomplete : ∀ k v, k ≠ read p → f k = some v → ∃ e ∈ t, e.matches read hash k = true)
    (hdistinct : t.Pairwise fun e e' => e.key = e'.key → e.hash ≠ e'.hash)
    (hunique : t.Pairwise fun e e' =>
      e.Active read hash → e'.Active read hash → read e.key ≠ read e'.key)
    (hset : IsSet read hash t p v t') :
    Finds read hash t' (Function.update f (read p) (some v)) := by
  have hother (e : Entry η π ν) (he : e ∈ t) (hactive : e.Active read hash)
      (hne : read e.key ≠ read p) :
      Function.update f (read p) (some v) (read e.key) = some e.val := by
    rw [Function.update_of_ne hne]
    exact hsound e he hactive hne
  rcases hset with ⟨e₀, l, hperm, hmatch, ht'⟩ | ⟨hnone, ht'⟩
  · have hkey : read e₀.key = read p := (matches_eq_true.mp hmatch).2
    have hactive₀ : e₀.Active read hash := active_of_matches hmatch
    obtain ⟨hhead, hl⟩ := List.pairwise_cons.mp ((hperm.pairwise_iff unique_symm).mp hunique)
    obtain ⟨hdhead, hdl⟩ :=
      List.pairwise_cons.mp ((hperm.pairwise_iff distinct_symm).mp hdistinct)
    refine Finds.perm ?_ ht'
    constructor
    · intro e he hactive
      rcases List.mem_cons.mp he with rfl | he
      · exact (congrArg _ hkey).trans (Function.update_self _ _ _)
      · apply hother e (hperm.mem_iff.mpr (List.mem_cons_of_mem _ he)) hactive
        rw [← hkey]
        exact (hhead e he hactive₀ hactive).symm
    · intro k w hw
      by_cases hk : k = read p
      · rw [hk]
        exact ⟨_, List.mem_cons_self, hmatch⟩
      · rw [Function.update_of_ne hk] at hw
        obtain ⟨e, he, hmatch'⟩ := hcomplete k w hk hw
        refine ⟨e, ?_, hmatch'⟩
        rcases List.mem_cons.mp (hperm.mem_iff.mp he) with rfl | he
        · exact absurd ((matches_eq_true.mp hmatch').2.symm.trans hkey) hk
        · exact List.mem_cons_of_mem _ he
    · exact List.pairwise_cons.mpr ⟨hdhead, hdl⟩
    · exact List.pairwise_cons.mpr ⟨hhead, hl⟩
  · refine Finds.perm ?_ ht'
    constructor
    · intro e he hactive
      rcases List.mem_cons.mp he with rfl | he
      · exact Function.update_self _ _ _
      · apply hother e he hactive
        intro hkey
        exact hnone e he (matches_eq_true.mpr ⟨hactive.trans (congrArg hash hkey), hkey⟩)
    · intro k w hw
      by_cases hk : k = read p
      · rw [hk]
        exact ⟨_, List.mem_cons_self, matches_eq_true.mpr ⟨rfl, rfl⟩⟩
      · rw [Function.update_of_ne hk] at hw
        obtain ⟨e, he, hmatch⟩ := hcomplete k w hk hw
        exact ⟨e, List.mem_cons_of_mem _ he, hmatch⟩
    · refine List.pairwise_cons.mpr ⟨?_, hdistinct⟩
      intro e he hkey hhash
      exact hnone e he (matches_eq_true.mpr ⟨hhash.symm, congrArg read hkey.symm⟩)
    · refine List.pairwise_cons.mpr ⟨?_, hunique⟩
      intro e he _ hactive hkey
      exact hnone e he
        (matches_eq_true.mpr ⟨hactive.trans (congrArg hash hkey.symm), hkey.symm⟩)

/-- A key is set that nothing has overwritten. -/
theorem Finds.set (h : Finds read hash t f) (hset : IsSet read hash t p v t') :
    Finds read hash t' (Function.update f (read p) (some v)) :=
  of_set (fun e he hactive _ => h.sound e he hactive) (fun k w _ => h.complete k w) h.distinct
    h.unique hset

theorem Finds.unset (h : Finds read hash t f) (hunset : IsUnset read hash t k t') :
    Finds read hash t' (Function.update f k none) := by
  constructor
  · intro e he hactive
    rw [Function.update_of_ne]
    · exact h.sound e (mem_of_isUnset hunset he) hactive
    · rintro rfl
      exact not_matches_of_isUnset h.unique hunset he hactive.matches
  · intro k' v hv
    have hk : k' ≠ k := by
      rintro rfl
      rw [Function.update_self] at hv
      cases hv
    rw [Function.update_of_ne hk] at hv
    obtain ⟨e, he, hmatch⟩ := h.complete k' v hv
    refine ⟨e, mem_of_isUnset_of_ne hunset he ?_, hmatch⟩
    intro hother
    exact hk ((matches_eq_true.mp hmatch).2.symm.trans (matches_eq_true.mp hother).2)
  · exact pairwise_of_isUnset distinct_symm h.distinct hunset
  · exact pairwise_of_isUnset unique_symm h.unique hunset

/-- The owner of a place overwrites its key and sets the new one. The entry of the old key, if
there is one, was made in this place if and only if it is for this owner; and no entry that was
made in this place comes back while there is one for the new key. -/
theorem Finds.overwrite (h : Finds read hash t f) {p : π} {v : ν} {old : κ} (hold : read p = old)
    (hread : ∀ q, q ≠ p → read' q = read q)
    (hmine : ∀ e ∈ t, e.matches read hash old = true → (e.key = p ↔ e.val = v))
    (hquiet : ∀ e ∈ t, e.key = p → e.hash = hash (read' p) →
      ∀ e' ∈ t, e'.matches read hash (read' p) ≠ true)
    (hf : ∀ k w, k ≠ read' p → (f' k = some w ↔ f k = some w ∧ ¬(k = old ∧ w = v)))
    (hset : IsSet read' hash t p v t') :
    Finds read' hash t' (Function.update f' (read' p) (some v)) := by
  have hactive (e : Entry η π ν) (hne : e.key ≠ p) : e.Active read' hash ↔ e.Active read hash := by
    rw [Entry.Active, Entry.Active, hread _ hne]
  apply of_set
  · intro e he hact hkey
    have hne : e.key ≠ p := fun heq => hkey (by rw [heq])
    have hact := (hactive e hne).mp hact
    rw [hread _ hne] at hkey ⊢
    apply (hf _ _ hkey).mpr
    refine ⟨h.sound e he hact, ?_⟩
    rintro ⟨hk, hval⟩
    exact hne ((hmine e he (by rw [← hk]; exact hact.matches)).mpr hval)
  · intro k w hk hw
    obtain ⟨hw, hnot⟩ := (hf k w hk).mp hw
    obtain ⟨e, he, hmatch⟩ := h.complete k w hw
    have hval : e.val = w := Option.some.inj ((h.of_matches he hmatch).symm.trans hw)
    have hne : e.key ≠ p := by
      intro heq
      have hk' : k = old := (matches_eq_true.mp hmatch).2.symm.trans (by rw [heq, hold])
      exact hnot ⟨hk', hval.symm.trans ((hmine e he (hk' ▸ hmatch)).mp heq)⟩
    refine ⟨e, he, ?_⟩
    rw [matches_eq_true, hread _ hne]
    exact matches_eq_true.mp hmatch
  · exact h.distinct
  · have hpair := h.distinct.and h.unique
    apply hpair.imp_of_mem
    rintro e e' he he' ⟨hdist, huniq⟩ hact hact' hkey
    by_cases heq : e.key = p
    · by_cases heq' : e'.key = p
      · apply hdist (heq.trans heq'.symm)
        exact hact.trans ((congrArg hash hkey).trans hact'.symm)
      · have hact' := (hactive e' heq').mp hact'
        apply hquiet e he heq (hact.trans (by rw [heq])) e' he'
        rw [matches_eq_true, ← heq, hkey, hread _ heq']
        exact ⟨hact', rfl⟩
    · by_cases heq' : e'.key = p
      · have hact := (hactive e heq).mp hact
        apply hquiet e' he' heq' (hact'.trans (by rw [heq'])) e he
        rw [matches_eq_true, ← heq', ← hkey, hread _ heq]
        exact ⟨hact, rfl⟩
      · apply huniq ((hactive e heq).mp hact) ((hactive e' heq').mp hact')
        rw [← hread _ heq, ← hread _ heq']
        exact hkey
  · exact hset

end

end KeyTable
