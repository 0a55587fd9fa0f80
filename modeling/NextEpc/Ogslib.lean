import NextEpc.Lib.Fallible
import NextEpc.Lib.Octets

/-!
# What the repository uses of ogslib

The core library is not part of the repository. `Ogslib` is the part of it that is called
everywhere, with its documented behaviour: `OGS_NEXT_ID` counts up and starts again after the
largest identity, and `ogs_list_add` appends at the tail. `OgsConv` has the conversions between
integers and octets. Memory pools, timers and sockets appear as the results their calls return.
-/

namespace NextEpc

/-- `OGS_OK`, `OGS_RETRY` and `OGS_ERROR` -/
inductive Rv
  | ok
  | retry
  | error
  deriving DecidableEq, Repr

/-- The calls into ogslib whose results are determined by their arguments. -/
class Ogslib where
  /-- `OGS_NEXT_ID(id, min, max)` -/
  nextId : UInt32 → UInt32 → UInt32 → UInt32
  nextId_max : ∀ min max, nextId max min max = min
  nextId_succ : ∀ id min max, id ≠ max → nextId id min max = id + 1
  /-- `ogs_list_add(list, node)` -/
  listAdd : {α : Type} → List α → α → List α
  listAdd_eq : ∀ {α : Type} (l : List α) (a : α), listAdd l a = l ++ [a]

/-- An implementation of `Ogslib`, for runs on concrete inputs. -/
@[reducible] def Ogslib.reference : Ogslib where
  nextId id min max := if id = max then min else id + 1
  nextId_max := by simp
  nextId_succ := by
    intro id min max h
    simp [h]
  listAdd l a := l ++ [a]
  listAdd_eq := by simp

/-- The conversions of ogslib between integers and octets in network order. -/
class OgsConv where
  /-- `ogs_buffer_to_uint64(buffer, size)` -/
  bufferToUint64 : Bytes → UInt64
  toNat_bufferToUint64 : ∀ buffer, buffer.length ≤ 8 →
    (bufferToUint64 buffer).toNat = Octets.value buffer
  /-- `ogs_uint64_to_buffer(num, size, buffer)` -/
  uint64ToBuffer : UInt64 → (size : Nat) → Vector UInt8 size
  value_uint64ToBuffer : ∀ num size,
    Octets.value (uint64ToBuffer num size).toList = num.toNat % 2 ^ (8 * size)

/-- Conversions for runs on concrete inputs. -/
@[reducible] def OgsConv.reference : OgsConv where
  bufferToUint64 buffer := UInt64.ofNat (Octets.value buffer)
  toNat_bufferToUint64 := by
    intro buffer hlength
    have hlt := Octets.value_lt buffer
    have hpow : 2 ^ (8 * buffer.length) ≤ 2 ^ 64 := Nat.pow_le_pow_right (by decide) (by omega)
    rw [UInt64.toNat_ofNat', Nat.mod_eq_of_lt (by omega)]
  uint64ToBuffer num size := ⟨(Octets.ofValue num.toNat size).toArray, by simp⟩
  value_uint64ToBuffer := by
    intro num size
    exact Octets.value_ofValue num.toNat size

/-- `ogs_pool_index`: the index of a slot counts from 1 and is an `int`. -/
def IsPoolIndex (i : Nat) : Prop := 0 < i ∧ i < 2 ^ 31

instance (i : Nat) : Decidable (IsPoolIndex i) := inferInstanceAs (Decidable (_ ∧ _))

end NextEpc
