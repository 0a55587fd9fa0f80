import Mathlib

/-!
# Tagged fields

A word consists of fields, each behind a symbol that announces it. A field may take symbols of the
word or only look at the one in front of it. What is announced and not known is passed over, one
symbol at a time. A field that comes again is read on top of what was there.

Reading goes on behind what has been read, so a word may be cut between its fields; fields that are
announced by different symbols may change places.
-/

namespace Tagged
variable {σ κ α ε : Type}

/-- How a field is read, from what was there, the symbol in front of it and the word from there on,
with the number of symbols that it takes. -/
structure Field (σ α ε : Type) where
  read : Option α → σ → List σ → Except ε (α × Nat)
  le_length : ∀ {old x word a n}, read old x word = .ok (a, n) → n ≤ word.length
  read_append : ∀ {old x word a n}, read old x word = .ok (a, n) →
    ∀ rest, read old x (word ++ rest) = .ok (a, n)
  read_old : ∀ {old x word a n}, read old x word = .ok (a, n) →
    ∀ old', ∃ a', read old' x word = .ok (a', n)

/-- What a symbol announces, and how it is read. -/
structure Format (σ κ α ε : Type) where
  key : σ → κ
  field : κ → Option (Field σ α ε)

/-- The symbol in front of what is left when `n` symbols have been taken. -/
def front (x : σ) (word : List σ) (n : Nat) : σ := ((x :: word).drop n).headD x

/-- Fields that are not announced, one after the other, and what is left of the word. -/
def readAll : List (Field σ α ε) → σ → List σ → Except ε (List α × List σ)
  | [], _, word => .ok ([], word)
  | fld :: fields, x, word => do
    let (a, n) ← fld.read none x word
    let (l, rest) ← readAll fields (front x word n) (word.drop n)
    .ok (a :: l, rest)

/-- All fields of a word, of which the first `skip` symbols belong to a field that has been read. -/
def Format.decodeFrom [DecidableEq κ] (f : Format σ κ α ε) :
    (skip : Nat) → List σ → (κ → Option α) → Except ε (κ → Option α)
  | _, [], m => .ok m
  | skip + 1, _ :: word, m => f.decodeFrom skip word m
  | 0, x :: word, m =>
    match f.field (f.key x) with
    | none => f.decodeFrom 0 word m
    | some fld => do
      let (a, n) ← fld.read (m (f.key x)) x word
      f.decodeFrom n word (Function.update m (f.key x) (some a))

/-- All fields of a word. -/
def Format.decode [DecidableEq κ] (f : Format σ κ α ε) (word : List σ) (m : κ → Option α) :
    Except ε (κ → Option α) :=
  f.decodeFrom 0 word m

/-! ## One field -/

section
variable [DecidableEq κ] {f : Format σ κ α ε} {fld : Field σ α ε} {x : σ} {word rest : List σ}
  {m m' : κ → Option α} {a : α} {n : Nat} {e : ε}

theorem decodeFrom_eq (skip : Nat) (word : List σ) (m : κ → Option α) :
    f.decodeFrom skip word m = f.decode (word.drop skip) m := by
  induction word generalizing skip with
  | nil => simp [Format.decode, Format.decodeFrom]
  | cons x word ih =>
    cases skip with
    | zero => rfl
    | succ skip => rw [Format.decodeFrom, ih, List.drop_succ_cons]

@[simp] theorem decode_nil : f.decode [] m = .ok m := rfl

theorem decode_unknown (h : f.field (f.key x) = none) :
    f.decode (x :: word) m = f.decode word m := by
  rw [Format.decode, Format.decodeFrom, h, Format.decode]

theorem decode_known (h : f.field (f.key x) = some fld)
    (hread : fld.read (m (f.key x)) x word = .ok (a, n)) :
    f.decode (x :: word) m =
      f.decode (word.drop n) (Function.update m (f.key x) (some a)) := by
  rw [Format.decode, Format.decodeFrom, h, ← decodeFrom_eq]
  simp only [hread]
  rfl

theorem decode_error (h : f.field (f.key x) = some fld)
    (hread : fld.read (m (f.key x)) x word = .error e) : f.decode (x :: word) m = .error e := by
  rw [Format.decode, Format.decodeFrom, h]
  simp only [hread]
  rfl

/-- Where nothing is known, everything is passed over. -/
theorem decode_of_unknown (h : ∀ k, f.field k = none) (word : List σ) (m : κ → Option α) :
    f.decode word m = .ok m := by
  induction word with
  | nil => rfl
  | cons x word ih => rw [decode_unknown (h _), ih]

/-! ## Words that are cut -/

/-- A word that can be read is cut between fields. -/
theorem decode_append (h : f.decode word m = .ok m') (rest : List σ) :
    f.decode (word ++ rest) m = f.decode rest m' := by
  induction hlen : word.length using Nat.strong_induction_on generalizing word m with
  | _ len ih =>
    cases word with
    | nil =>
      cases h
      rfl
    | cons x word =>
      rw [List.length_cons] at hlen
      rw [List.cons_append]
      cases hfield : f.field (f.key x) with
      | none =>
        rw [decode_unknown hfield] at h ⊢
        exact ih _ (by omega) h rfl
      | some fld =>
        cases hread : fld.read (m (f.key x)) x word with
        | error e =>
          rw [decode_error hfield hread] at h
          cases h
        | ok r =>
          have hle := fld.le_length hread
          rw [decode_known hfield hread] at h
          rw [decode_known hfield (fld.read_append hread rest), List.drop_append_of_le_length hle]
          exact ih _ (by rw [List.length_drop]; omega) h rfl

/-! ## Fields that are not announced -/

omit [DecidableEq κ] in
theorem front_append (h : n ≤ word.length) (rest : List σ) :
    front x (word ++ rest) n = front x word n := by
  have hle : n ≤ (x :: word).length := by rw [List.length_cons]; omega
  rw [front, front, ← List.cons_append, List.drop_append_of_le_length hle, List.headD_eq_head?_getD,
    List.headD_eq_head?_getD, List.head?_append_of_ne_nil]
  intro hnil
  have hlen := congrArg List.length hnil
  rw [List.length_drop, List.length_cons, List.length_nil] at hlen
  omega

omit [DecidableEq κ] in
/-- What is left of a word is its end. -/
theorem readAll_suffix {fields : List (Field σ α ε)} {l : List α}
    (h : readAll fields x word = .ok (l, rest)) : rest <:+ word := by
  induction fields generalizing x word l with
  | nil =>
    cases h
    exact List.suffix_rfl
  | cons fld fields ih =>
    rw [readAll] at h
    cases hread : fld.read none x word with
    | error e =>
      rw [hread] at h
      cases h
    | ok r =>
      rw [hread] at h
      change (readAll fields (front x word r.2) (word.drop r.2)).bind _ = _ at h
      cases hrest : readAll fields (front x word r.2) (word.drop r.2) with
      | error e =>
        rw [hrest] at h
        cases h
      | ok q =>
        rw [hrest] at h
        cases h
        exact (ih hrest).trans (List.drop_suffix _ _)

omit [DecidableEq κ] in
theorem readAll_append {fields : List (Field σ α ε)} {l : List α}
    (h : readAll fields x word = .ok (l, rest)) (more : List σ) :
    readAll fields x (word ++ more) = .ok (l, rest ++ more) := by
  induction fields generalizing x word l rest with
  | nil =>
    cases h
    rfl
  | cons fld fields ih =>
    rw [readAll] at h ⊢
    cases hread : fld.read none x word with
    | error e =>
      rw [hread] at h
      cases h
    | ok r =>
      have hle := fld.le_length hread
      rw [hread] at h
      rw [fld.read_append hread more]
      change (readAll fields (front x word r.2) (word.drop r.2)).bind _ = _ at h
      change (readAll fields (front x (word ++ more) r.2) ((word ++ more).drop r.2)).bind _ = _
      rw [front_append hle, List.drop_append_of_le_length hle]
      cases hrest : readAll fields (front x word r.2) (word.drop r.2) with
      | error e =>
        rw [hrest] at h
        cases h
      | ok q =>
        rw [hrest] at h
        rw [ih hrest]
        cases h
        rfl

omit [DecidableEq κ] in
/-- More fields are read from what is left. -/
theorem readAll_concat {fields : List (Field σ α ε)} {l : List α}
    (h : readAll fields x word = .ok (l, rest)) : ∃ x', ∀ fields',
      readAll (fields ++ fields') x word =
        (readAll fields' x' rest).map fun r => (l ++ r.1, r.2) := by
  induction fields generalizing x word l with
  | nil =>
    cases h
    refine ⟨x, fun fields' => ?_⟩
    rw [List.nil_append]
    cases readAll fields' x rest <;> rfl
  | cons fld fields ih =>
    rw [readAll] at h
    cases hread : fld.read none x word with
    | error e =>
      rw [hread] at h
      cases h
    | ok r =>
      rw [hread] at h
      change (readAll fields (front x word r.2) (word.drop r.2)).bind _ = _ at h
      cases hrest : readAll fields (front x word r.2) (word.drop r.2) with
      | error e =>
        rw [hrest] at h
        cases h
      | ok q =>
        rw [hrest] at h
        cases h
        obtain ⟨x', hmore⟩ := ih hrest
        refine ⟨x', fun fields' => ?_⟩
        rw [List.cons_append, readAll, hread]
        change (readAll (fields ++ fields') (front x word r.2) (word.drop r.2)).bind _ = _
        rw [hmore]
        cases readAll fields' x' q.2 <;> rfl

omit [DecidableEq κ] in
/-- Fields are read as they were written. -/
theorem readAll_flatMap {β : Type} (field : β → Field σ α ε) (written : β → List σ) (value : β → α)
    {l : List β} (h : ∀ b ∈ l, ∀ x rest,
      (field b).read none x (written b ++ rest) = .ok (value b, (written b).length))
    (x : σ) (rest : List σ) :
    readAll (l.map field) x (l.flatMap written ++ rest) = .ok (l.map value, rest) := by
  induction l generalizing x with
  | nil => rfl
  | cons b l ih =>
    rw [List.map_cons, List.flatMap_cons, List.append_assoc, readAll,
      h b List.mem_cons_self]
    change (readAll (l.map field) _ ((written b ++ _).drop (written b).length)).bind _ = _
    rw [List.drop_left, ih fun b' hb' => h b' (List.mem_cons_of_mem b hb')]
    rfl

/-- Of some announced fields those that are there are read as they were written. -/
theorem decode_flatMap {β : Type} (key : β → κ) (written : β → List σ) (value : β → Option α)
    {l : List β} (hdistinct : (l.map key).Nodup) (hm : ∀ b ∈ l, m (key b) = none)
    (habsent : ∀ b ∈ l, value b = none → written b = [])
    (hpresent : ∀ b ∈ l, ∀ a, value b = some a → ∀ rest m, m (key b) = none →
      f.decode (written b ++ rest) m = f.decode rest (Function.update m (key b) (some a)))
    (rest : List σ) : ∃ m', f.decode (l.flatMap written ++ rest) m = f.decode rest m' ∧
      (∀ b ∈ l, m' (key b) = value b) ∧ ∀ k, k ∉ l.map key → m' k = m k := by
  induction l generalizing m with
  | nil => exact ⟨m, rfl, nofun, fun _ _ => rfl⟩
  | cons b l ih =>
    rw [List.map_cons, List.nodup_cons] at hdistinct
    have hne (b' : β) (hb' : b' ∈ l) : key b' ≠ key b :=
      fun heq => hdistinct.1 (heq ▸ List.mem_map_of_mem hb')
    have hstep : f.decode ((b :: l).flatMap written ++ rest) m =
        f.decode (l.flatMap written ++ rest) (Function.update m (key b) (value b)) := by
      rw [List.flatMap_cons, List.append_assoc]
      cases hvalue : value b with
      | none =>
        have hwritten := habsent b List.mem_cons_self hvalue
        have hfirst := hm b List.mem_cons_self
        rw [hwritten, List.nil_append, ← hfirst, Function.update_eq_self]
      | some a => exact hpresent b List.mem_cons_self a hvalue _ m (hm b List.mem_cons_self)
    have hrest (b' : β) (hb' : b' ∈ l) : Function.update m (key b) (value b) (key b') = none := by
      rw [Function.update_of_ne (hne b' hb')]
      exact hm b' (List.mem_cons_of_mem b hb')
    obtain ⟨m', heq, hvalue, hother⟩ := ih hdistinct.2 hrest
      (fun b' hb' => habsent b' (List.mem_cons_of_mem b hb'))
      (fun b' hb' => hpresent b' (List.mem_cons_of_mem b hb'))
    refine ⟨m', hstep.trans heq, ?_, ?_⟩
    · intro b' hb'
      cases List.mem_cons.mp hb' with
      | inl hfirst => rw [hfirst, hother (key b) hdistinct.1, Function.update_self]
      | inr hmem => exact hvalue b' hmem
    · intro k hk
      rw [List.map_cons, List.mem_cons, not_or] at hk
      rw [hother k hk.2, Function.update_of_ne hk.1]

/-! ## Words that can be read -/

/-- The words that consist of fields that can be read, and of symbols that are not known. -/
inductive Format.Accepts (f : Format σ κ α ε) : List σ → Prop
  | nil : Accepts f []
  | unknown (x : σ) (word : List σ) : f.field (f.key x) = none → Accepts f word →
    Accepts f (x :: word)
  | known (x : σ) (word : List σ) (fld : Field σ α ε) (a : α) (n : Nat) :
    f.field (f.key x) = some fld → fld.read none x word = .ok (a, n) →
    Accepts f (word.drop n) → Accepts f (x :: word)

/-- Whether a word can be read does not depend on what was there before. -/
theorem decode_iff_accepts : (∃ m', f.decode word m = .ok m') ↔ f.Accepts word := by
  constructor
  · rintro ⟨m', h⟩
    induction hlen : word.length using Nat.strong_induction_on generalizing word m with
    | _ len ih =>
      cases word with
      | nil => exact .nil
      | cons x word =>
        rw [List.length_cons] at hlen
        cases hfield : f.field (f.key x) with
        | none =>
          rw [decode_unknown hfield] at h
          exact .unknown x word hfield (ih _ (by omega) h rfl)
        | some fld =>
          cases hread : fld.read (m (f.key x)) x word with
          | error e =>
            rw [decode_error hfield hread] at h
            cases h
          | ok r =>
            obtain ⟨a, hnone⟩ := fld.read_old hread none
            rw [decode_known hfield hread] at h
            exact .known x word fld a _ hfield hnone (ih _ (by rw [List.length_drop]; omega) h rfl)
  · intro h
    induction h generalizing m with
    | nil => exact ⟨m, rfl⟩
    | unknown x word hfield _ ih =>
      rw [decode_unknown hfield]
      exact ih
    | known x word fld a n hfield hread _ ih =>
      obtain ⟨a, hread⟩ := fld.read_old hread (m (f.key x))
      rw [decode_known hfield hread]
      exact ih

/-! ## Fields in any order -/

/-- A field that is announced by `x` and takes exactly `word`, where there was none before. -/
structure Format.Item (f : Format σ κ α ε) where
  symbol : σ
  word : List σ
  field : Field σ α ε
  value : α
  field_eq : f.field (f.key symbol) = some field
  read_eq : ∀ rest, field.read none symbol (word ++ rest) = .ok (value, word.length)

namespace Format.Item
variable {item : f.Item} {items items' : List f.Item}

/-- The symbols of a field, with the one that announces it -/
def symbols (item : f.Item) : List σ := item.symbol :: item.word

def key (item : f.Item) : κ := f.key item.symbol

/-- The value is put where it belongs. -/
def apply (m : κ → Option α) (item : f.Item) : κ → Option α :=
  Function.update m item.key (some item.value)

theorem decode_symbols_append (h : m item.key = none) (rest : List σ) :
    f.decode (item.symbols ++ rest) m = f.decode rest (item.apply m) := by
  have hread := item.read_eq rest
  rw [← h] at hread
  rw [symbols, List.cons_append, decode_known item.field_eq hread, List.drop_left]
  exact congrArg (f.decode rest) rfl

theorem apply_of_ne {k : κ} (h : k ≠ item.key) : item.apply m k = m k :=
  Function.update_of_ne h _ _

/-- Different fields are read one by one. -/
theorem decode_items (hdistinct : (items.map key).Nodup) (hm : ∀ item ∈ items, m item.key = none)
    (rest : List σ) : f.decode (items.flatMap symbols ++ rest) m =
      f.decode rest (items.foldl apply m) := by
  induction items generalizing m with
  | nil => rfl
  | cons item items ih =>
    rw [List.map_cons, List.nodup_cons] at hdistinct
    have hfirst := hm item List.mem_cons_self
    rw [List.flatMap_cons, List.append_assoc, decode_symbols_append hfirst, List.foldl_cons]
    refine ih hdistinct.2 fun other hother => ?_
    have hne : other.key ≠ item.key := fun heq => hdistinct.1 (heq ▸ List.mem_map_of_mem hother)
    rw [apply_of_ne hne]
    exact hm other (List.mem_cons_of_mem _ hother)

theorem foldl_apply_perm (hperm : items.Perm items') (hdistinct : (items.map key).Nodup) :
    items.foldl apply m = items'.foldl apply m := by
  induction hperm generalizing m with
  | nil => rfl
  | cons item _ ih =>
    rw [List.map_cons, List.nodup_cons] at hdistinct
    exact ih hdistinct.2
  | swap item item' items =>
    have hne : item'.key ≠ item.key := by
      rw [List.map_cons, List.map_cons, List.nodup_cons, List.mem_cons] at hdistinct
      exact fun heq => hdistinct.1 (.inl heq)
    rw [List.foldl_cons, List.foldl_cons, List.foldl_cons, List.foldl_cons]
    congr 1
    exact Function.update_comm hne _ _ _
  | trans hperm _ ih ih' => rw [ih hdistinct, ih' ((hperm.map key).nodup_iff.mp hdistinct)]

/-- Different fields may come in any order. -/
theorem decode_perm (hperm : items.Perm items') (hdistinct : (items.map key).Nodup)
    (hm : ∀ item ∈ items, m item.key = none) (rest : List σ) :
    f.decode (items.flatMap symbols ++ rest) m = f.decode (items'.flatMap symbols ++ rest) m := by
  rw [decode_items hdistinct hm,
    decode_items ((hperm.map key).nodup_iff.mp hdistinct)
      fun item hitem => hm item (hperm.mem_iff.mpr hitem),
    foldl_apply_perm hperm hdistinct]

end Format.Item

/-- A part of a word: a field, or a symbol that is not known -/
inductive Format.Part (f : Format σ κ α ε)
  | item (item : f.Item)
  | unknown (x : σ) (h : f.field (f.key x) = none)

namespace Format.Part
variable {parts parts' : List f.Part}

def symbols : f.Part → List σ
  | item i => i.symbols
  | unknown x _ => [x]

def item? : f.Part → Option f.Item
  | item i => some i
  | unknown _ _ => none

/-- Symbols that are not known may stand between the fields. -/
theorem decode_parts (hdistinct : ((parts.filterMap item?).map Item.key).Nodup)
    (hm : ∀ i ∈ parts.filterMap item?, m i.key = none) (rest : List σ) :
    f.decode (parts.flatMap symbols ++ rest) m =
      f.decode ((parts.filterMap item?).flatMap Item.symbols ++ rest) m := by
  induction parts generalizing m with
  | nil => rfl
  | cons part parts ih =>
    rw [List.flatMap_cons, List.append_assoc]
    cases part with
    | unknown x h =>
      have hstep : f.decode (x :: (parts.flatMap symbols ++ rest)) m = _ := decode_unknown h
      exact hstep.trans (ih hdistinct hm)
    | item i =>
      have hfilter : (item i :: parts).filterMap item? = i :: parts.filterMap item? := rfl
      rw [hfilter] at hdistinct hm ⊢
      rw [List.map_cons, List.nodup_cons] at hdistinct
      have hfirst := hm i List.mem_cons_self
      rw [List.flatMap_cons, List.append_assoc, Item.decode_symbols_append hfirst]
      refine (Item.decode_symbols_append hfirst _).trans (ih hdistinct.2 fun other hother => ?_)
      have hne : other.key ≠ i.key := fun heq => hdistinct.1 (heq ▸ List.mem_map_of_mem hother)
      rw [Item.apply_of_ne hne]
      exact hm other (List.mem_cons_of_mem _ hother)

/-- Only the fields of a word matter, in any order, if they are different. -/
theorem decode_perm (hperm : (parts.filterMap item?).Perm (parts'.filterMap item?))
    (hdistinct : ((parts.filterMap item?).map Item.key).Nodup)
    (hm : ∀ i ∈ parts.filterMap item?, m i.key = none) (rest : List σ) :
    f.decode (parts.flatMap symbols ++ rest) m = f.decode (parts'.flatMap symbols ++ rest) m := by
  have hdistinct' := ((hperm.map Item.key).nodup_iff.mp hdistinct)
  have hm' (i : f.Item) (hi : i ∈ parts'.filterMap item?) : m i.key = none :=
    hm i (hperm.mem_iff.mpr hi)
  rw [decode_parts hdistinct hm, decode_parts hdistinct' hm', Item.decode_perm hperm hdistinct hm]

end Format.Part

end

end Tagged
