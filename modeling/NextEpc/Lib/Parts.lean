import NextEpc.Lib.Fallible
import NextEpc.Lib.Octets

/-!
# Records in parts of fixed size

A `FixedCodec` writes a value as a fixed number of octets and reads it back. Codecs of parts are put
together to one of a packed structure. In a message a part may be absent: a writer appends it only if
it is present, and a reader that knows which parts are present finds each behind those before it.
-/

/-- Values with a fixed number of octets, from which they can be read. -/
structure FixedCodec (α : Type) where
  width : Nat
  encode : α → Bytes
  decode : Bytes → α
  length_encode : ∀ a, (encode a).length = width
  decode_encode : ∀ a, decode (encode a) = a

namespace FixedCodec
variable {α β : Type}

/-- A field of `n` octets -/
def octets (n : Nat) : FixedCodec (Vector UInt8 n) where
  width := n
  encode v := v.toList
  decode data := Vector.ofFn fun i => data.getD i 0
  length_encode v := by simp
  decode_encode v := by
    ext i hi
    simp

theorem uint16_decode_encode (n : UInt16) :
    UInt16.ofNat (Octets.value (Octets.htons n.toNat)) = n := by
  have hn := n.toNat_lt
  apply UInt16.toNat_inj.mp
  simp only [Octets.htons, Octets.value, List.foldl_cons, List.foldl_nil, UInt16.toNat_ofNat',
    UInt8.toNat_ofNat']
  omega

/-- A 16-bit field in network order -/
def uint16 : FixedCodec UInt16 where
  width := 2
  encode n := Octets.htons n.toNat
  decode data := UInt16.ofNat (Octets.value data)
  length_encode _ := rfl
  decode_encode := uint16_decode_encode

theorem uint32_decode_encode (n : UInt32) :
    UInt32.ofNat (Octets.value (Octets.htonl n).toList) = n := by
  have hn := n.toNat_lt
  apply UInt32.toNat_inj.mp
  simp only [Octets.toList_htonl, Octets.value, List.foldl_cons, List.foldl_nil,
    UInt32.toNat_ofNat', UInt8.toNat_ofNat']
  omega

/-- A 32-bit field in network order -/
def uint32 : FixedCodec UInt32 where
  width := 4
  encode n := (Octets.htonl n).toList
  decode data := UInt32.ofNat (Octets.value data)
  length_encode _ := rfl
  decode_encode := uint32_decode_encode

/-- Two fields, one behind the other -/
def prod (c : FixedCodec α) (d : FixedCodec β) : FixedCodec (α × β) where
  width := c.width + d.width
  encode p := c.encode p.1 ++ d.encode p.2
  decode data := (c.decode (data.take c.width), d.decode (data.drop c.width))
  length_encode p := by rw [List.length_append, c.length_encode, d.length_encode]
  decode_encode p := by
    have htake : (c.encode p.1 ++ d.encode p.2).take c.width = c.encode p.1 := by
      rw [← c.length_encode p.1, List.take_left]
    have hdrop : (c.encode p.1 ++ d.encode p.2).drop c.width = d.encode p.2 := by
      rw [← c.length_encode p.1, List.drop_left]
    rw [htake, hdrop, c.decode_encode, d.decode_encode]

/-- The fields of a structure -/
def map (c : FixedCodec α) (e : β ≃ α) : FixedCodec β where
  width := c.width
  encode b := c.encode (e b)
  decode data := e.symm (c.decode data)
  length_encode b := c.length_encode (e b)
  decode_encode b := by rw [c.decode_encode, Equiv.symm_apply_apply]

/-! ## Parts that may be absent -/

variable (c : FixedCodec α) (present : Bool) (a : α)

/-- The octets of a part -/
def part : Bytes := if present then c.encode a else []

section
variable {ι : Type} (site : ι)

/-- A part is written behind `data`, in a buffer of `dataLen` octets. -/
def put (dataLen : Nat) (data : Bytes) : Fallible ι Bytes :=
  if present then do
    Fallible.assert site (data.length + c.width ≤ dataLen)
    .ok (data ++ c.encode a)
  else .ok data

/-- A part is read at `size`, which is counted up. -/
def take (absent : α) (octet : Bytes) (size : Nat) : Fallible ι (α × Nat) :=
  if present then do
    Fallible.assert site (size + c.width ≤ octet.length)
    .ok (c.decode ((octet.drop size).take c.width), size + c.width)
  else .ok (absent, size)

variable {dataLen size : Nat} {data octet : Bytes}

theorem length_append_part_le : (data ++ c.part present a).length ≤ data.length + c.width := by
  unfold part
  split
  · rw [List.length_append, c.length_encode]
  · rw [List.append_nil]
    exact Nat.le_add_right _ _

/-- A part that fits is appended. -/
theorem put_eq (h : data.length + c.width ≤ dataLen) :
    c.put present a site dataLen data = .ok (data ++ c.part present a) := by
  unfold put part
  split
  · rw [Fallible.assert_of h, Fallible.ok_bind]
  · rw [List.append_nil]

/-- A part is read where it was written, whatever follows it. -/
theorem take_eq (absent : α) (hoctet : data ++ c.part present a <+: octet)
    (hsize : size = data.length) : c.take present site absent octet size =
      .ok (if present then a else absent, (data ++ c.part present a).length) := by
  obtain ⟨rest, rfl⟩ := hoctet
  subst hsize
  unfold take part
  cases present with
  | false => simp
  | true =>
    have hfits : data.length + c.width ≤ (data ++ c.encode a ++ rest).length := by
      simp only [List.length_append, c.length_encode]
      omega
    have hread : ((data ++ c.encode a ++ rest).drop data.length).take c.width = c.encode a := by
      rw [List.append_assoc, List.drop_left, ← c.length_encode a, List.take_left]
    simp only [if_true, Fallible.assert_of hfits, Fallible.ok_bind, hread, c.decode_encode]
    rw [List.length_append, c.length_encode]

end

end FixedCodec
