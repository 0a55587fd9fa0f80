import NextEpc.Lib.Octets

/-!
# Packet buffers

A packet buffer is a block of memory with a pointer `data` into it. Pushing moves the
pointer back over the headroom, pulling moves it forward, so that what was pulled can be
pushed again. The octets in front of the pointer are kept from the nearest one outwards.
-/

/-- The octets before and after the pointer `data`. -/
structure Pkbuf where
  headroom : Bytes
  data : Bytes
  deriving DecidableEq, Repr

namespace Pkbuf
variable {p q : Pkbuf} {n : Nat}

/-- A new buffer with `n` octets of headroom. -/
def alloc (n : Nat) (data : Bytes) : Pkbuf := ⟨List.replicate n 0, data⟩

/-- Move the pointer `n` octets back, if the headroom is long enough. -/
def push (p : Pkbuf) (n : Nat) : Option Pkbuf :=
  if n ≤ p.headroom.length then
    some ⟨p.headroom.drop n, (p.headroom.take n).reverse ++ p.data⟩
  else none

/-- Move the pointer `n` octets forward, if the data is long enough. -/
def pull (p : Pkbuf) (n : Nat) : Option Pkbuf :=
  if n ≤ p.data.length then
    some ⟨(p.data.take n).reverse ++ p.headroom, p.data.drop n⟩
  else none

/-- Keep the first `n` octets of the data. -/
def trim (p : Pkbuf) (n : Nat) : Pkbuf := { p with data := p.data.take n }

/-- Append octets to the data. -/
def putData (p : Pkbuf) (octets : Bytes) : Pkbuf := { p with data := p.data ++ octets }

/-- Overwrite the first octets of the data. -/
def write (p : Pkbuf) (octets : Bytes) : Pkbuf :=
  { p with data := octets ++ p.data.drop octets.length }

/-- Overwrite the octets in front of the data. -/
def writeBefore (p : Pkbuf) (octets : Bytes) : Pkbuf :=
  { p with headroom := octets.reverse ++ p.headroom.drop octets.length }

@[simp] theorem data_trim : (p.trim n).data = p.data.take n := rfl

@[simp] theorem headroom_trim : (p.trim n).headroom = p.headroom := rfl

@[simp] theorem data_putData (octets : Bytes) : (p.putData octets).data = p.data ++ octets := rfl

@[simp] theorem headroom_putData (octets : Bytes) :
    (p.putData octets).headroom = p.headroom := rfl

@[simp] theorem data_writeBefore (octets : Bytes) : (p.writeBefore octets).data = p.data := rfl

theorem pull_eq (a b h : Bytes) : pull ⟨h, a ++ b⟩ a.length = some ⟨a.reverse ++ h, b⟩ := by
  simp [pull]

theorem push_eq (a h d : Bytes) : push ⟨a.reverse ++ h, d⟩ a.length = some ⟨h, a ++ d⟩ := by
  have htake : (a.reverse ++ h).take a.length = a.reverse := by
    rw [List.take_append_of_le_length (by simp), List.take_of_length_le (by simp)]
  have hdrop : (a.reverse ++ h).drop a.length = h := by
    rw [List.drop_append_of_le_length (by simp), List.drop_of_length_le (by simp),
      List.nil_append]
  rw [push, if_pos (by simp), htake, hdrop, List.reverse_reverse]

/-- Pushing leaves the data as it was behind what was pushed. -/
theorem drop_data_of_push (h : p.push n = some q) : q.data.drop n = p.data := by
  unfold push at h
  split at h
  · rename_i hn
    cases h
    have hlen : (p.headroom.take n).reverse.length = n := by simpa using hn
    rw [List.drop_append_of_le_length (by omega), List.drop_of_length_le (by omega),
      List.nil_append]
  · cases h

end Pkbuf
