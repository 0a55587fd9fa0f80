import NextEpc.Lib.Octets

/-!
# Trees of attribute-value pairs

What a Diameter application sees of a message: each AVP has a code and a vendor and holds a
word of 32 bits, a string of octets or AVPs of its own. A word has no sign, since a member of
the value union can be written as one type and read as the other.
-/

/-- The entry of the dictionary that an AVP is an instance of. -/
structure AvpModel where
  code : Nat
  vendor : Nat
  deriving DecidableEq, Repr

/-- `struct avp` -/
inductive Avp
  | word (model : AvpModel) (value : UInt32)
  | octetString (model : AvpModel) (value : Bytes)
  | grouped (model : AvpModel) (children : List Avp)

namespace Avp
variable {ρ : Type} {m : AvpModel}

def model : Avp → AvpModel
  | word m _ => m
  | octetString m _ => m
  | grouped m _ => m

/-- The AVPs that `fd_msg_browse` walks through. -/
def children : Avp → List Avp
  | grouped _ l => l
  | _ => []

/-- `avp_value->u32` -/
def u32 : Avp → Option UInt32
  | word _ v => some v
  | _ => none

/-- `avp_value->os` -/
def os : Avp → Option Bytes
  | octetString _ v => some v
  | _ => none

/-- `fd_avp_search_avp`, which fails where the group is empty -/
def searchAvp (group : Avp) (what : AvpModel) : Option (Option Avp) :=
  if group.children.isEmpty then none
  else some (group.children.find? fun avp => avp.model == what)

/-- Look for a member of a group and store its value. `missing` is what counts as an error
when there is none. -/
def takeWord (group : Avp) (what : AvpModel) (missing : Nat) (store : UInt32 → ρ → ρ)
    (st : ρ × Nat) : Option (ρ × Nat) := do
  match ← group.searchAvp what with
  | some avp => do
    let v ← avp.u32
    some (store v st.1, st.2)
  | none => some (st.1, st.2 + missing)

/-- Look for a word that has a default when it is missing. -/
def takeWordOr (group : Avp) (what : AvpModel) (store : UInt32 → ρ → ρ) (default : ρ → ρ)
    (st : ρ × Nat) : Option (ρ × Nat) := do
  match ← group.searchAvp what with
  | some avp => do
    let v ← avp.u32
    some (store v st.1, st.2)
  | none => some (default st.1, st.2)

/-- Look for a member of a group that has a reader of its own. -/
def takeAvp (group : Avp) (what : AvpModel) (missing : Nat)
    (read : Avp → ρ × Nat → Option (ρ × Nat)) (st : ρ × Nat) : Option (ρ × Nat) := do
  match ← group.searchAvp what with
  | some avp => read avp st
  | none => some (st.1, st.2 + missing)

@[simp] theorem model_word (v : UInt32) : (word m v).model = m := rfl

@[simp] theorem model_octetString (v : Bytes) : (octetString m v).model = m := rfl

@[simp] theorem model_grouped (l : List Avp) : (grouped m l).model = m := rfl

@[simp] theorem u32_word (v : UInt32) : (word m v).u32 = some v := rfl

@[simp] theorem os_octetString (v : Bytes) : (octetString m v).os = some v := rfl

@[simp] theorem children_grouped (l : List Avp) : (grouped m l).children = l := rfl

theorem searchAvp_grouped {l : List Avp} (h : l ≠ []) (what : AvpModel) :
    (grouped m l).searchAvp what = some (l.find? fun avp => avp.model == what) := by
  simp [searchAvp, h]

theorem takeWord_of_find {l : List Avp} {what : AvpModel} {v : UInt32} (hl : l ≠ [])
    (h : l.find? (fun avp => avp.model == what) = some (word what v)) (missing : Nat)
    (store : UInt32 → ρ → ρ) (st : ρ × Nat) :
    (grouped m l).takeWord what missing store st = some (store v st.1, st.2) := by
  simp [takeWord, searchAvp_grouped hl, h]

theorem takeWord_of_none {l : List Avp} {what : AvpModel} (hl : l ≠ [])
    (h : l.find? (fun avp => avp.model == what) = none) (missing : Nat)
    (store : UInt32 → ρ → ρ) (st : ρ × Nat) :
    (grouped m l).takeWord what missing store st = some (st.1, st.2 + missing) := by
  simp [takeWord, searchAvp_grouped hl, h]

theorem takeWordOr_of_find {l : List Avp} {what : AvpModel} {v : UInt32} (hl : l ≠ [])
    (h : l.find? (fun avp => avp.model == what) = some (word what v)) (store : UInt32 → ρ → ρ)
    (default : ρ → ρ) (st : ρ × Nat) :
    (grouped m l).takeWordOr what store default st = some (store v st.1, st.2) := by
  simp [takeWordOr, searchAvp_grouped hl, h]

theorem takeAvp_of_find {l : List Avp} {what : AvpModel} {avp : Avp} (hl : l ≠ [])
    (h : l.find? (fun avp => avp.model == what) = some avp) (missing : Nat)
    (read : Avp → ρ × Nat → Option (ρ × Nat)) (st : ρ × Nat) :
    (grouped m l).takeAvp what missing read st = read avp st := by
  simp [takeAvp, searchAvp_grouped hl, h]

theorem takeAvp_of_none {l : List Avp} {what : AvpModel} (hl : l ≠ [])
    (h : l.find? (fun avp => avp.model == what) = none) (missing : Nat)
    (read : Avp → ρ × Nat → Option (ρ × Nat)) (st : ρ × Nat) :
    (grouped m l).takeAvp what missing read st = some (st.1, st.2 + missing) := by
  simp [takeAvp, searchAvp_grouped hl, h]

/-- The number of AVPs with a code. -/
def count (code : Nat) (avps : List Avp) : Nat := avps.countP fun avp => avp.model.code = code

theorem count_eq_sum (code : Nat) (avps : List Avp) :
    count code avps = (avps.map fun avp => if avp.model.code = code then 1 else 0).sum := by
  induction avps with
  | nil => rfl
  | cons avp avps ih =>
    rw [count, List.countP_cons, List.map_cons, List.sum_cons, ← ih, count]
    simp only [decide_eq_true_eq]
    omega

/-! ## Types -/

inductive Kind
  | word
  | octetString
  | grouped
  deriving DecidableEq, Repr

def kind : Avp → Kind
  | word .. => .word
  | octetString .. => .octetString
  | grouped .. => .grouped

/-- All AVPs in the tree whose codes the dictionary knows have their type. -/
inductive WellTyped (dict : Nat → Option Kind) : Avp → Prop
  | intro {avp : Avp} : (∀ kind, dict avp.model.code = some kind → avp.kind = kind) →
      (∀ child ∈ avp.children, WellTyped dict child) → WellTyped dict avp

section
variable {dict : Nat → Option Kind} {avp child : Avp} {what : AvpModel}

theorem WellTyped.children (h : WellTyped dict avp) (hchild : child ∈ avp.children) :
    WellTyped dict child := by
  cases h with
  | intro _ h => exact h child hchild

theorem WellTyped.kind_eq {kind : Kind} (h : WellTyped dict avp)
    (hdict : dict avp.model.code = some kind) : avp.kind = kind := by
  cases h with
  | intro h _ => exact h kind hdict

theorem WellTyped.of_octetString {data : Bytes} (h : dict m.code = some .octetString) :
    WellTyped dict (.octetString m data) := by
  apply WellTyped.intro
  · intro kind hkind
    exact Option.some.inj (h.symm.trans hkind)
  · intro child hchild
    cases hchild

theorem WellTyped.of_grouped {l : List Avp} (h : dict m.code = some .grouped)
    (hl : ∀ child ∈ l, WellTyped dict child) : WellTyped dict (.grouped m l) := by
  apply WellTyped.intro
  · intro kind hkind
    exact Option.some.inj (h.symm.trans hkind)
  · exact hl

theorem WellTyped.of_word {v : UInt32} (h : dict m.code = some .word) :
    WellTyped dict (.word m v) := by
  apply WellTyped.intro
  · intro kind hkind
    exact Option.some.inj (h.symm.trans hkind)
  · intro child hchild
    cases hchild

theorem WellTyped.u32 (h : WellTyped dict avp) (hdict : dict avp.model.code = some .word) :
    ∃ v, avp.u32 = some v := by
  have hkind := h.kind_eq hdict
  cases avp with
  | word _ v => exact ⟨v, rfl⟩
  | octetString => cases hkind
  | grouped => cases hkind

theorem WellTyped.os (h : WellTyped dict avp) (hdict : dict avp.model.code = some .octetString) :
    ∃ data, avp.os = some data := by
  have hkind := h.kind_eq hdict
  cases avp with
  | word => cases hkind
  | octetString _ data => exact ⟨data, rfl⟩
  | grouped => cases hkind

/-- An AVP that is found is a well typed member with the model looked for. -/
theorem WellTyped.find {l : List Avp} (h : ∀ child ∈ l, WellTyped dict child)
    (hfind : l.find? (fun avp => avp.model == what) = some child) :
    WellTyped dict child ∧ child.model = what := by
  refine ⟨h child (List.mem_of_find?_eq_some hfind), ?_⟩
  simpa using List.find?_some hfind

theorem searchAvp_eq_some {found : Option Avp} : avp.searchAvp what = some found ↔
    avp.children ≠ [] ∧ avp.children.find? (fun avp => avp.model == what) = found := by
  rw [searchAvp]
  split <;> simp_all

/-- Looking for a word fails in an empty group only. -/
theorem WellTyped.takeWord (h : WellTyped dict avp) (what : AvpModel)
    (hdict : dict what.code = some .word) (missing : Nat) (store : UInt32 → ρ → ρ) (st : ρ × Nat) :
    (∃ st', avp.takeWord what missing store st = some st') ↔ avp.children ≠ [] := by
  rw [Avp.takeWord]
  constructor
  · rintro ⟨st', h⟩
    obtain ⟨found, hfound, -⟩ := Option.bind_eq_some_iff.mp h
    exact (searchAvp_eq_some.mp hfound).1
  · intro hne
    cases hfind : avp.children.find? (fun avp => avp.model == what) with
    | none =>
      rw [searchAvp_eq_some.mpr ⟨hne, hfind⟩]
      exact ⟨_, rfl⟩
    | some child =>
      rw [searchAvp_eq_some.mpr ⟨hne, hfind⟩]
      obtain ⟨htyped, hmodel⟩ := WellTyped.find (fun _ => h.children) hfind
      obtain ⟨v, hv⟩ := htyped.u32 (hmodel ▸ hdict)
      simp [hv]

end

end Avp
