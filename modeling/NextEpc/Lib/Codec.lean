import Mathlib

/-!
# Writing to a buffer and reading back

A writer appends to a buffer of limited size, or fails. `Appends cap write word` says that it
writes `word` whenever there is room for it. A reader takes symbols from the front of a word and
leaves the rest: `Reads read word a` says that it takes exactly `word`, whatever comes behind it.
-/

namespace Codec
variable {ε α β σ : Type*}

/-! ## Writers -/

/-- What the writer appends if it does not fail, which depends on the room that is left only. -/
def Appends (cap : Nat) (write : List σ → Except ε (List σ)) (word : List σ) : Prop :=
  ∀ buf : List σ, buf.length ≤ cap → ∀ buf', write buf = .ok buf' ↔
    buf.length + word.length ≤ cap ∧ buf' = buf ++ word

/-- Some symbols are written at once. -/
def put (cap : Nat) (e : ε) (word buf : List σ) : Except ε (List σ) :=
  if buf.length + word.length ≤ cap then .ok (buf ++ word) else .error e

section
variable {cap : Nat} {write write' : List σ → Except ε (List σ)} {word word' : List σ}

theorem appends_put (cap : Nat) (e : ε) (word : List σ) : Appends cap (put cap e word) word := by
  intro buf _ buf'
  rw [put]
  by_cases hroom : buf.length + word.length ≤ cap
  · rw [if_pos hroom, Except.ok.injEq, and_iff_right hroom]
    exact eq_comm
  · rw [if_neg hroom]
    exact iff_of_false nofun fun h => hroom h.1

theorem appends_ok (cap : Nat) : Appends cap (.ok : List σ → Except ε (List σ)) [] := by
  intro buf hbuf buf'
  rw [List.append_nil, List.length_nil, Nat.add_zero, and_iff_right hbuf, Except.ok.injEq]
  exact eq_comm

theorem Appends.bind (h : Appends cap write word) (h' : Appends cap write' word') :
    Appends cap (fun buf => write buf >>= write') (word ++ word') := by
  intro buf hbuf buf'
  rw [List.length_append, ← Nat.add_assoc, ← List.append_assoc]
  have hlength : (buf ++ word).length = buf.length + word.length := List.length_append
  change (write buf).bind write' = _ ↔ _
  cases hwrite : write buf with
  | ok next =>
    obtain ⟨hroom, rfl⟩ := (h buf hbuf next).mp hwrite
    rw [← hlength] at hroom ⊢
    exact h' (buf ++ word) hroom buf'
  | error e =>
    have hroom : ¬buf.length + word.length ≤ cap := by
      intro hroom
      have hok := (h buf hbuf _).mpr ⟨hroom, rfl⟩
      rw [hwrite] at hok
      cases hok
    rw [Except.bind]
    refine iff_of_false (by simp) ?_
    omega

theorem Appends.foldlM {write : List σ → α → Except ε (List σ)} {word : α → List σ} {l : List α}
    (h : ∀ a ∈ l, Appends cap (fun buf => write buf a) (word a)) :
    Appends cap (fun buf => l.foldlM write buf) (l.flatMap word) := by
  induction l with
  | nil => exact appends_ok cap
  | cons a l ih =>
    have hfirst := h a List.mem_cons_self
    exact hfirst.bind (ih fun a' ha' => h a' (List.mem_cons_of_mem a ha'))

end

/-! ## What there is room for -/

/-- The first words, until one does not fit. -/
def fitting (size : α → Nat) : (room : Nat) → List α → List α
  | _, [] => []
  | room, a :: l => if size a ≤ room then a :: fitting size (room - size a) l else []

section
variable {size : α → Nat} {room : Nat} {l l' : List α} {a : α}

theorem fitting_isPrefix (size : α → Nat) (room : Nat) (l : List α) : fitting size room l <+: l := by
  induction l generalizing room with
  | nil => exact List.prefix_rfl
  | cons a l ih =>
    rw [fitting]
    split_ifs
    · exact List.prefix_cons_inj a |>.mpr (ih _)
    · exact List.nil_prefix

theorem sum_fitting_le (size : α → Nat) (room : Nat) (l : List α) :
    ((fitting size room l).map size).sum ≤ room := by
  induction l generalizing room with
  | nil => exact Nat.zero_le _
  | cons a l ih =>
    rw [fitting]
    split_ifs with h
    · have hrest := ih (room - size a)
      rw [List.map_cons, List.sum_cons]
      omega
    · exact Nat.zero_le _

/-- One more would not fit. -/
theorem lt_sum_of_fitting (h : fitting size room l ++ a :: l' = l) :
    room < ((fitting size room l).map size).sum + size a := by
  induction l generalizing room with
  | nil => simp at h
  | cons b l ih =>
    rw [fitting] at h ⊢
    split_ifs at h ⊢ with hroom
    · rw [List.cons_append, List.cons_inj_right] at h
      have hrest := ih h
      rw [List.map_cons, List.sum_cons]
      omega
    · rw [List.nil_append, List.cons.injEq] at h
      rw [h.1, List.map_nil, List.sum_nil]
      omega

theorem fitting_append_of_le (h : (l.map size).sum ≤ room) (l' : List α) :
    fitting size room (l ++ l') = l ++ fitting size (room - (l.map size).sum) l' := by
  induction l generalizing room with
  | nil => rfl
  | cons a l ih =>
    rw [List.map_cons, List.sum_cons] at h ⊢
    rw [List.cons_append, fitting, if_pos (by omega), ih (by omega), Nat.sub_sub, List.cons_append]

theorem fitting_append_of_lt (h : room < (l.map size).sum) (l' : List α) :
    fitting size room (l ++ l') = fitting size room l := by
  induction l generalizing room with
  | nil => simp at h
  | cons a l ih =>
    rw [List.map_cons, List.sum_cons] at h
    rw [List.cons_append, fitting, fitting]
    split_ifs
    · rw [ih (by omega)]
    · rfl

theorem fitting_eq_self (h : (l.map size).sum ≤ room) : fitting size room l = l := by
  have happend := fitting_append_of_le h []
  rw [List.append_nil, fitting, List.append_nil] at happend
  exact happend

end

/-! ## Readers -/

/-- A reader that gives back what it has read with the symbols that are left. -/
abbrev Reader (σ α : Type*) := List σ → Option (α × List σ)

def Reads (read : Reader σ α) (word : List σ) (a : α) : Prop :=
  ∀ rest, read (word ++ rest) = some (a, rest)

/-- One symbol. -/
def symbol : Reader σ σ
  | [] => none
  | x :: rest => some (x, rest)

/-- A number of symbols. -/
def symbols (n : Nat) : Reader σ (List σ) := fun word =>
  if n ≤ word.length then some (word.take n, word.drop n) else none

/-- One after the other. -/
def andThen (read : Reader σ α) (next : α → Reader σ β) : Reader σ β := fun word =>
  (read word).bind fun (a, rest) => next a rest

def done (a : α) : Reader σ α := fun word => some (a, word)

/-- A number of times. -/
def times (read : Reader σ α) : Nat → Reader σ (List α)
  | 0 => done []
  | n + 1 => andThen read fun a => andThen (times read n) fun l => done (a :: l)

/-- The whole word is read. -/
def whole (read : Reader σ α) (word : List σ) : Option α :=
  match read word with
  | some (a, []) => some a
  | _ => none

/-- Again and again, until nothing is left. -/
def exhaust (read : Reader σ α) : (fuel : Nat) → List σ → Option (List α)
  | _, [] => some []
  | 0, _ :: _ => none
  | n + 1, word => (read word).bind fun (a, rest) => (exhaust read n rest).map (a :: ·)

section
variable {read : Reader σ α} {next : α → Reader σ β} {word word' : List σ} {a : α} {b : β}

theorem reads_done (a : α) : Reads (σ := σ) (done a) [] a := fun _ => rfl

theorem reads_symbol (x : σ) : Reads symbol [x] x := fun _ => rfl

theorem reads_symbols {n : Nat} (h : word.length = n) : Reads (symbols n) word word := by
  intro rest
  have hle : n ≤ (word ++ rest).length := by
    rw [List.length_append]
    omega
  rw [symbols, if_pos hle, List.take_left' h, List.drop_left' h]

theorem Reads.andThen (h : Reads read word a) (h' : Reads (next a) word' b) :
    Reads (andThen read next) (word ++ word') b := by
  intro rest
  rw [Codec.andThen, List.append_assoc, h]
  exact h' rest

/-- A value is computed from what was read. -/
theorem Reads.map (h : Reads read word a) (f : α → β) :
    Reads (Codec.andThen read fun a => done (f a)) word (f a) := by
  intro rest
  rw [Codec.andThen, h]
  rfl

theorem Reads.times {l : List α} {write : α → List σ} (h : ∀ a ∈ l, Reads read (write a) a) :
    Reads (times read l.length) (l.flatMap write) l := by
  induction l with
  | nil => exact reads_done []
  | cons a l ih =>
    have hrest := ih fun a' ha' => h a' (List.mem_cons_of_mem a ha')
    rw [List.flatMap_cons, ← List.append_nil (l.flatMap write)]
    exact (h a List.mem_cons_self).andThen (hrest.andThen (reads_done (a :: l)))

theorem Reads.whole_eq (h : Reads read word a) : whole read word = some a := by
  have hread := h []
  rw [List.append_nil] at hread
  rw [whole, hread]

theorem Reads.exhaust_eq {l : List α} {write : α → List σ}
    (h : ∀ a ∈ l, Reads read (write a) a ∧ write a ≠ []) {fuel : Nat} (hfuel : l.length ≤ fuel) :
    exhaust read fuel (l.flatMap write) = some l := by
  induction l generalizing fuel with
  | nil =>
    cases fuel <;> rfl
  | cons a l ih =>
    obtain ⟨fuel, rfl⟩ := Nat.exists_eq_add_of_le' (Nat.one_le_iff_ne_zero.mpr
      (Nat.ne_zero_of_lt hfuel))
    obtain ⟨hread, hne⟩ := h a List.mem_cons_self
    obtain ⟨x, word, hword⟩ := List.exists_cons_of_ne_nil hne
    have hrest := ih (fun a' ha' => h a' (List.mem_cons_of_mem a ha')) (Nat.le_of_succ_le_succ hfuel)
    have hstep := hread (l.flatMap write)
    rw [hword, List.cons_append] at hstep
    rw [List.flatMap_cons, hword, List.cons_append, exhaust, hstep, Option.bind_some]
    · exact congrArg (Option.map (a :: ·)) hrest
    · exact List.cons_ne_nil x _

end

end Codec
