import NextEpc.Lib.Fallible
import NextEpc.Lib.Pkbuf
import NextEpc.Lib.Tagged
import NextEpc.Lib.Tbcd

/-!
# NAS information elements

The record of an information element is a packed structure that is copied from the message and to
it. Where it begins with a length, that says how many octets are copied; whether the record has room
for them is not checked. Fields of more than one octet are turned around in place.
-/

namespace NextEpc
open Fallible

/-- The places where the codec asserts. -/
inductive NasSite
  | pull
  | push
  | empty
  | buffer
  deriving DecidableEq, Repr

abbrev NasM := Fallible NasSite

/-- What the codec uses of ogslib. -/
class OgsNas where
  /-- `OGS_MAX_SDU_LEN` -/
  maxSduLen : Nat
  maxSduLen_lt : maxSduLen < 2 ^ 16
  /-- `ogs_fqdn_parse` -/
  fqdnParse : Bytes → Bytes
  /-- `ogs_fqdn_build` -/
  fqdnBuild : Bytes → Bytes

namespace OgsNas

/-- Labels between dots, each behind its length -/
def labels : (label : Bytes) → Bytes → Bytes
  | label, [] => UInt8.ofNat label.length :: label
  | label, octet :: name =>
    if octet = 0x2e then UInt8.ofNat label.length :: (label ++ labels [] name)
    else labels (label ++ [octet]) name

/-- The octets of the labels, of which one has `left` octets more, with a dot in front of the
others -/
def dotted : (left : Nat) → Bytes → Bytes
  | _, [] => []
  | 0, length :: word => 0x2e :: dotted length.toNat word
  | left + 1, octet :: word => octet :: dotted left word

/-- Names as ogslib has them -/
@[reducible]
def reference : OgsNas where
  maxSduLen := 8192
  maxSduLen_lt := by decide
  fqdnParse word := (dotted 0 word).tail
  fqdnBuild := labels []

end OgsNas

/-- The memory of an information element: a packed structure, or a length and a pointer to octets of
a message -/
inductive NasRecord
  | octets (image : Bytes)
  | container (length : UInt16) (buffer : Option Bytes)
  deriving DecidableEq, Repr

/-- The octets of the structure that a record has, or of one that nothing has been copied to -/
def NasRecord.memory (sizeof : Nat) : Option NasRecord → Bytes
  | some (.octets image) => (image ++ List.replicate sizeof 0).take sizeof
  | _ => List.replicate sizeof 0

/-! ## Octets in memory -/

/-- `memcpy` to the beginning of a record -/
def copyTo (record source : Bytes) : NasM Bytes :=
  if source.length ≤ record.length then .ok (source ++ record.drop source.length)
  else .error .outOfBounds

/-- `memcpy` of the first octets of a record -/
def copyFrom (record : Bytes) (size : Nat) : NasM Bytes :=
  if size ≤ record.length then .ok (record.take size) else .error .outOfBounds

/-- `ntohs` and `ntohl` of a field with `width` octets -/
def swapAt (offset width : Nat) (image : Bytes) : Bytes :=
  image.take offset ++ ((image.drop offset).take width).reverse ++ image.drop (offset + width)

/-- A field with its upper half set -/
def setUpper (offset : Nat) (half : UInt8) (image : Bytes) : Bytes :=
  image.modify offset fun octet => Tbcd.octet octet half

/-! ## How an element stands in a message -/

/-- The format of an element without its tag -/
inductive NasFormat
  /-- A number of octets -/
  | value (size : Nat)
  /-- `uint8_t length` and as many octets -/
  | lengthValue
  /-- `uint16_t length` in the order of the host and as many octets -/
  | lengthValue16
  deriving DecidableEq, Repr

namespace NasFormat

/-- The octets of `length` -/
def lengthWidth : NasFormat → Nat
  | value _ => 0
  | lengthValue => 1
  | lengthValue16 => 2

/-- `size`, with the `length` that is found there -/
def size : NasFormat → Bytes → NasM Nat
  | value n, _ => .ok n
  | lengthValue, length :: _ => .ok (length.toNat + 1)
  | lengthValue16, low :: high :: _ => .ok ((low.toNat + high.toNat * 2 ^ 8 + 2) % 2 ^ 16)
  | _, _ => .error .outOfBounds

end NasFormat

/-- What is done to the fields of a record, behind its length -/
structure NasConversion (lengthWidth : Nat) where
  apply : Bytes → Bytes
  length_apply : ∀ image, (apply image).length = image.length
  take_apply : ∀ image, (apply image).take lengthWidth = image.take lengthWidth

/-- An element whose record is copied, with what is done to its fields when it has been read and
before it is written -/
structure NasCopied where
  format : NasFormat
  sizeof : Nat
  toHost : NasConversion format.lengthWidth
  toNetwork : NasConversion format.lengthWidth

/-- The information elements -/
inductive NasIe
  | copied (c : NasCopied)
  /-- The lower half of an octet, whose upper half is the tag -/
  | half
  /-- `ntohs(length)` and a pointer to as many octets of the message -/
  | container
  | accessPointName

/-- The element has no octets behind its tag. -/
def NasIe.isHalf : NasIe → Bool
  | .half => true
  | _ => false

/-- `sizeof(ogs_nas_access_point_name_t)` -/
def sizeofAccessPointName : Nat := 101

/-- `OGS_MAX_APN_LEN` -/
def ogsMaxApnLen : Nat := 100

/-! ## Decoding -/

/-- The functions that copy the record of an element, first its length -/
def NasCopied.decode (c : NasCopied) (old : Option NasRecord) (pkbuf : Pkbuf) :
    NasM (NasRecord × Pkbuf × Nat) := do
  let record ← copyTo (NasRecord.memory c.sizeof old) (pkbuf.data.take c.format.lengthWidth)
  let size ← c.format.size pkbuf.data
  let pulled ← assertSome .pull (pkbuf.pull size)
  let record ← copyTo record (pkbuf.data.take size)
  .ok (.octets (c.toHost.apply record), pulled, size)

/-- The functions that copy the octet in front of the data, which has been pulled as a tag -/
def decodeHalf (pkbuf : Pkbuf) : NasM (NasRecord × Pkbuf × Nat) := do
  let record ← copyFrom pkbuf.headroom 1
  .ok (.octets record, pkbuf, 0)

/-- `ogs_nas_decode_esm_message_container` and the others like it. The octets that the buffer is
said to have are written to the log. -/
def decodeContainer (pkbuf : Pkbuf) : NasM (NasRecord × Pkbuf × Nat) :=
  match pkbuf.data with
  | high :: low :: rest => do
    let length := UInt16.ofNat (high.toNat * 2 ^ 8 + low.toNat)
    let size := (length.toNat + 2) % 2 ^ 16
    let pulled ← assertSome .pull (pkbuf.pull size)
    let dump ← copyFrom rest length.toNat
    .ok (.container length (some dump), pulled, size)
  | _ => .error .outOfBounds

/-- `ogs_cpystrn` of `apn`, which has `length` octets -/
def copyApn (apn : Bytes) (length : Nat) : Bytes :=
  (apn.takeWhile (· ≠ 0)).take (min length ogsMaxApnLen) ++ [0]

/-- `ogs_nas_decode_access_point_name` -/
def decodeAccessPointName [OgsNas] (old : Option NasRecord) (pkbuf : Pkbuf) :
    NasM (NasRecord × Pkbuf × Nat) := do
  let size ← NasFormat.lengthValue.size pkbuf.data
  let pulled ← assertSome .pull (pkbuf.pull size)
  let record ← copyTo (NasRecord.memory sizeofAccessPointName old) (pkbuf.data.take size)
  let apn := OgsNas.fqdnParse ((pkbuf.data.take size).drop 1)
  let length := UInt8.ofNat apn.length
  let name ← copyTo (record.drop 1) (copyApn apn length.toNat)
  .ok (.octets (length :: name), pulled, size)

/-- The record of an element, what is left and the octets that were pulled -/
def NasIe.decode [OgsNas] : NasIe → Option NasRecord → Pkbuf → NasM (NasRecord × Pkbuf × Nat)
  | .copied c, old, pkbuf => c.decode old pkbuf
  | .half, _, pkbuf => decodeHalf pkbuf
  | .container, _, pkbuf => decodeContainer pkbuf
  | .accessPointName, old, pkbuf => decodeAccessPointName old pkbuf

/-! ## Encoding -/

/-- The pointer is pulled over `size` octets of a buffer that has `cap`, and the octets are copied
there. -/
def putOctets (cap : Nat) (source : Bytes) (size : Nat) (pkbuf : Bytes) : NasM Bytes := do
  assert .pull (pkbuf.length + size ≤ cap)
  let octets ← copyFrom source size
  .ok (pkbuf ++ octets)

/-- The functions that copy the record of an element -/
def NasCopied.encode (cap : Nat) (c : NasCopied) (image pkbuf : Bytes) : NasM Bytes := do
  let size ← c.format.size image
  putOctets cap (c.toNetwork.apply image) size pkbuf

/-- `ogs_nas_encode_esm_message_container` and the others like it -/
def encodeContainer (cap : Nat) (length : UInt16) (buffer : Option Bytes) (pkbuf : Bytes) :
    NasM Bytes := do
  let buffer ← assertSome .buffer buffer
  let pkbuf ← putOctets cap (Octets.htons length.toNat) 2 pkbuf
  putOctets cap buffer length.toNat pkbuf

/-- `ogs_nas_encode_access_point_name` -/
def encodeAccessPointName [OgsNas] (cap : Nat) (image pkbuf : Bytes) : NasM Bytes :=
  match image with
  | [] => .error .outOfBounds
  | length :: apn => do
    let source ← copyFrom apn length.toNat
    let built := OgsNas.fqdnBuild source
    let target ← copyTo apn built
    let length := UInt8.ofNat built.length
    putOctets cap (length :: target) (length.toNat + 1) pkbuf

/-- The octets of an element are put behind what has been written. A record of another kind is no
memory of the element. -/
def NasIe.encode [OgsNas] (cap : Nat) : NasIe → NasRecord → Bytes → NasM Bytes
  | .copied c, .octets image, pkbuf => c.encode cap image pkbuf
  | .half, .octets image, pkbuf => putOctets cap image 1 pkbuf
  | .container, .container length buffer, pkbuf => encodeContainer cap length buffer pkbuf
  | .accessPointName, .octets image, pkbuf => encodeAccessPointName cap image pkbuf
  | _, _, _ => .error .outOfBounds

/-! ## Octets in memory -/

section
variable {record source image : Bytes} {size offset width : Nat}

theorem copyTo_eq_ok {r : Bytes} : copyTo record source = .ok r ↔
    source.length ≤ record.length ∧ r = source ++ record.drop source.length := by
  unfold copyTo
  split_ifs with h
  · rw [Except.ok.injEq, and_iff_right h, eq_comm]
  · exact iff_of_false nofun fun hr => h hr.1

theorem copyTo_of_le (h : source.length ≤ record.length) :
    copyTo record source = .ok (source ++ record.drop source.length) :=
  copyTo_eq_ok.mpr ⟨h, rfl⟩

theorem copyFrom_of_le (h : size ≤ record.length) : copyFrom record size = .ok (record.take size) :=
  if_pos h

theorem copyFrom_eq_ok {r : Bytes} : copyFrom record size = .ok r ↔
    size ≤ record.length ∧ r = record.take size := by
  unfold copyFrom
  split_ifs with h
  · rw [Except.ok.injEq, and_iff_right h, eq_comm]
  · exact iff_of_false nofun fun hr => h hr.1

@[simp] theorem length_memory (sizeof : Nat) (old : Option NasRecord) :
    (NasRecord.memory sizeof old).length = sizeof := by
  unfold NasRecord.memory
  split <;> simp

@[simp] theorem length_swapAt : (swapAt offset width image).length = image.length := by
  simp only [swapAt, List.length_append, List.length_take, List.length_reverse, List.length_drop]
  omega

@[simp] theorem length_setUpper (half : UInt8) :
    (setUpper offset half image).length = image.length :=
  List.length_modify _ _ _

end

/-! ## An element as a field -/

/-- What is copied of an element, and how many octets are pulled -/
def NasCopied.read (c : NasCopied) (old : Option NasRecord) (word : Bytes) :
    NasM (NasRecord × Nat) := do
  let record ← copyTo (NasRecord.memory c.sizeof old) (word.take c.format.lengthWidth)
  let size ← c.format.size word
  assert .pull (size ≤ word.length)
  let record ← copyTo record (word.take size)
  .ok (.octets (c.toHost.apply record), size)

/-- The same of an element that is not copied -/
def readContainer (word : Bytes) : NasM (NasRecord × Nat) :=
  match word with
  | high :: low :: rest => do
    let length := UInt16.ofNat (high.toNat * 2 ^ 8 + low.toNat)
    let size := (length.toNat + 2) % 2 ^ 16
    assert .pull (size ≤ word.length)
    let dump ← copyFrom rest length.toNat
    .ok (.container length (some dump), size)
  | _ => .error .outOfBounds

/-- The same of a name -/
def readAccessPointName [OgsNas] (old : Option NasRecord) (word : Bytes) :
    NasM (NasRecord × Nat) := do
  let size ← NasFormat.lengthValue.size word
  assert .pull (size ≤ word.length)
  let record ← copyTo (NasRecord.memory sizeofAccessPointName old) (word.take size)
  let apn := OgsNas.fqdnParse ((word.take size).drop 1)
  let length := UInt8.ofNat apn.length
  let name ← copyTo (record.drop 1) (copyApn apn length.toNat)
  .ok (.octets (length :: name), size)

/-- What is read of an element behind the octet `x` -/
def NasIe.read [OgsNas] : NasIe → Option NasRecord → UInt8 → Bytes → NasM (NasRecord × Nat)
  | .copied c, old, _, word => c.read old word
  | .half, _, x, _ => .ok (.octets [x], 0)
  | .container, _, _, word => readContainer word
  | .accessPointName, old, _, word => readAccessPointName old word

/-- The buffer when `n` octets have been pulled -/
def pulled (pkbuf : Pkbuf) (n : Nat) : Pkbuf :=
  ⟨(pkbuf.data.take n).reverse ++ pkbuf.headroom, pkbuf.data.drop n⟩

/-- Reading, with the octets that are pulled -/
def pulling (pkbuf : Pkbuf) (r : NasM (NasRecord × Nat)) : NasM (NasRecord × Pkbuf × Nat) :=
  r >>= fun (record, n) => .ok (record, pulled pkbuf n, n)

theorem assertSome_pull (pkbuf : Pkbuf) (n : Nat) : assertSome NasSite.pull (pkbuf.pull n) =
    assert .pull (n ≤ pkbuf.data.length) >>= fun _ => .ok (pulled pkbuf n) := by
  unfold Pkbuf.pull assert
  split_ifs <;> rfl

theorem NasCopied.decode_eq (c : NasCopied) (old : Option NasRecord) (pkbuf : Pkbuf) :
    c.decode old pkbuf = pulling pkbuf (c.read old pkbuf.data) := by
  unfold NasCopied.decode NasCopied.read pulling
  simp only [assertSome_pull, bind_assoc, ok_bind]

theorem decodeHalf_eq (x : UInt8) (headroom word : Bytes) :
    decodeHalf ⟨x :: headroom, word⟩ =
      pulling ⟨x :: headroom, word⟩ (.ok (.octets [x], 0)) := by
  rw [decodeHalf, copyFrom_of_le (Nat.le_add_left 1 _)]
  rfl

theorem decodeContainer_eq (pkbuf : Pkbuf) :
    decodeContainer pkbuf = pulling pkbuf (readContainer pkbuf.data) := by
  unfold decodeContainer readContainer pulling
  split
  · rename_i hdata
    simp only [assertSome_pull, bind_assoc, ok_bind, hdata]
  · rfl

theorem decodeAccessPointName_eq [OgsNas] (old : Option NasRecord) (pkbuf : Pkbuf) :
    decodeAccessPointName old pkbuf = pulling pkbuf (readAccessPointName old pkbuf.data) := by
  unfold decodeAccessPointName readAccessPointName pulling
  simp only [assertSome_pull, bind_assoc, ok_bind]

/-- Of the memory in front of the data only the nearest octet is looked at. -/
theorem NasIe.decode_eq [OgsNas] (ie : NasIe) (old : Option NasRecord) (x : UInt8)
    (headroom word : Bytes) : ie.decode old ⟨x :: headroom, word⟩ =
      pulling ⟨x :: headroom, word⟩ (ie.read old x word) := by
  cases ie with
  | copied c => exact c.decode_eq old _
  | half => exact decodeHalf_eq x headroom word
  | container => exact decodeContainer_eq _
  | accessPointName => exact decodeAccessPointName_eq old _

/-! ## The laws of a field -/

namespace NasFormat
variable {format : NasFormat} {word : Bytes} {n : Nat}

/-- The size of an element depends on its first octets only. -/
theorem size_append (h : format.size word = .ok n) (rest : Bytes) :
    format.size (word ++ rest) = .ok n := by
  cases format with
  | value => exact h
  | lengthValue =>
    cases word with
    | nil => cases h
    | cons length word => exact h
  | lengthValue16 =>
    match word, h with
    | low :: high :: word, h => exact h

theorem lengthWidth_le_of_size (h : format.size word = .ok n) :
    format.lengthWidth ≤ word.length := by
  cases format with
  | value => exact Nat.zero_le _
  | lengthValue =>
    cases word with
    | nil => cases h
    | cons length word => exact Nat.le_add_left 1 _
  | lengthValue16 =>
    match word, h with
    | low :: high :: word, h => exact Nat.le_add_left 2 _

end NasFormat

/-- What the record of an element holds when its length and then all its octets have been copied -/
def NasCopied.store (c : NasCopied) (old : Option NasRecord) (word : Bytes) (n : Nat) : Bytes :=
  let record := NasRecord.memory c.sizeof old
  let record := word.take c.format.lengthWidth ++ record.drop c.format.lengthWidth
  word.take n ++ record.drop n

section
variable {c : NasCopied} {old : Option NasRecord} {x : UInt8} {word rest : Bytes} {r : NasRecord}
  {n : Nat}

/-- An element is read if it is there, and if the record has room for it. -/
theorem NasCopied.read_eq_ok : c.read old word = .ok (r, n) ↔
    c.format.size word = .ok n ∧ n ≤ word.length ∧ c.format.lengthWidth ≤ c.sizeof ∧
      n ≤ c.sizeof ∧ r = .octets (c.toHost.apply (c.store old word n)) := by
  have hlength (h : c.format.lengthWidth ≤ word.length) (hwidth : c.format.lengthWidth ≤
      c.sizeof) : (word.take c.format.lengthWidth ++ (NasRecord.memory c.sizeof old).drop
        c.format.lengthWidth).length = c.sizeof := by
    rw [List.length_append, List.length_take, List.length_drop, length_memory]
    omega
  unfold NasCopied.read
  simp only [bind_eq_ok, copyTo_eq_ok, length_memory, List.length_take, assert_eq_ok,
    Except.ok.injEq, Prod.mk.injEq]
  constructor
  · rintro ⟨_, ⟨hwidth, rfl⟩, size, hsize, _, hle, _, ⟨hroom, rfl⟩, rfl, rfl⟩
    have hlen := NasFormat.lengthWidth_le_of_size hsize
    rw [Nat.min_eq_left hlen] at hwidth hroom ⊢
    rw [Nat.min_eq_left hle] at hroom ⊢
    rw [hlength hlen hwidth] at hroom
    exact ⟨hsize, hle, hwidth, hroom, rfl⟩
  · rintro ⟨hsize, hle, hwidth, hroom, rfl⟩
    have hlen := NasFormat.lengthWidth_le_of_size hsize
    have hmin := Nat.min_eq_left hlen
    refine ⟨_, ⟨by omega, rfl⟩, n, hsize, (), hle, _, ⟨?_, rfl⟩, ?_, rfl⟩
    · rw [hmin, hlength hlen hwidth]
      omega
    · rw [hmin, Nat.min_eq_left hle]
      rfl

/-- A container is read if the message has all its octets. -/
theorem readContainer_eq_ok : readContainer word = .ok (r, n) ↔
    ∃ high low buffer, word = high :: low :: buffer ∧
    (UInt16.ofNat (high.toNat * 2 ^ 8 + low.toNat)).toNat ≤ buffer.length ∧
    r = .container (UInt16.ofNat (high.toNat * 2 ^ 8 + low.toNat))
      (some (buffer.take (UInt16.ofNat (high.toNat * 2 ^ 8 + low.toNat)).toNat)) ∧
    n = ((UInt16.ofNat (high.toNat * 2 ^ 8 + low.toNat)).toNat + 2) % 2 ^ 16 := by
  match word with
  | [] => exact iff_of_false nofun nofun
  | [_] => exact iff_of_false nofun nofun
  | high :: low :: buffer =>
    simp only [readContainer, bind_eq_ok, assert_eq_ok, copyFrom_eq_ok, Except.ok.injEq,
      Prod.mk.injEq, List.cons.injEq, List.length_cons]
    constructor
    · rintro ⟨_, _, dump, ⟨hdump, rfl⟩, rfl, rfl⟩
      exact ⟨high, low, buffer, ⟨rfl, rfl, rfl⟩, hdump, rfl, rfl⟩
    · rintro ⟨_, _, _, ⟨rfl, rfl, rfl⟩, hdump, rfl, rfl⟩
      have hmod := Nat.mod_le ((UInt16.ofNat (high.toNat * 2 ^ 8 + low.toNat)).toNat + 2) (2 ^ 16)
      exact ⟨(), by omega, _, ⟨hdump, rfl⟩, rfl, rfl⟩

/-- What a name is parsed to -/
def parsedName [OgsNas] (word : Bytes) (n : Nat) : Bytes :=
  OgsNas.fqdnParse ((word.take n).drop 1)

/-- What is stored of it -/
def storedName [OgsNas] (word : Bytes) (n : Nat) : Bytes :=
  copyApn (parsedName word n) (UInt8.ofNat (parsedName word n).length).toNat

/-- A name is read if it is there, and if the record has room for it and for what it is parsed
to. -/
theorem readAccessPointName_eq_ok [OgsNas] : readAccessPointName old word = .ok (r, n) ↔
    NasFormat.lengthValue.size word = .ok n ∧ n ≤ word.length ∧ n ≤ sizeofAccessPointName ∧
    (storedName word n).length ≤ ogsMaxApnLen ∧
    r = .octets (UInt8.ofNat (parsedName word n).length :: (storedName word n ++
      (word.take n ++ (NasRecord.memory sizeofAccessPointName old).drop n).tail.drop
        (storedName word n).length)) := by
  have hlength (hle : n ≤ word.length) (hroom : n ≤ sizeofAccessPointName) :
      (word.take n ++ (NasRecord.memory sizeofAccessPointName old).drop n).tail.length =
        ogsMaxApnLen := by
    rw [List.length_tail, List.length_append, List.length_take, List.length_drop, length_memory]
    unfold sizeofAccessPointName ogsMaxApnLen at *
    omega
  simp only [readAccessPointName, bind_eq_ok, assert_eq_ok, copyTo_eq_ok, Except.ok.injEq,
    Prod.mk.injEq, length_memory, List.length_take, List.drop_one]
  constructor
  · rintro ⟨size, hsize, _, hle, _, ⟨hroom, rfl⟩, _, ⟨hname, rfl⟩, rfl, rfl⟩
    rw [Nat.min_eq_left hle] at hroom hname ⊢
    rw [hlength hle hroom] at hname
    refine ⟨hsize, hle, hroom, ?_, ?_⟩
    · rw [storedName, parsedName, List.drop_one]
      exact hname
    · rw [storedName, parsedName, List.drop_one]
  · rintro ⟨hsize, hle, hroom, hname, rfl⟩
    rw [storedName, parsedName, List.drop_one] at hname ⊢
    refine ⟨n, hsize, (), hle, _, ⟨by omega, rfl⟩, _, ⟨?_, rfl⟩, ?_, rfl⟩
    · rw [Nat.min_eq_left hle, hlength hle hroom]
      exact hname
    · rw [Nat.min_eq_left hle]

/-- What is read is in the message. -/
theorem NasIe.read_le_length [OgsNas] {ie : NasIe} (h : ie.read old x word = .ok (r, n)) :
    n ≤ word.length := by
  cases ie with
  | copied c => exact (c.read_eq_ok.mp h).2.1
  | half =>
    cases h
    exact Nat.zero_le _
  | container =>
    obtain ⟨high, low, buffer, rfl, hle, -, rfl⟩ := readContainer_eq_ok.mp h
    have hmod := Nat.mod_le ((UInt16.ofNat (high.toNat * 2 ^ 8 + low.toNat)).toNat + 2) (2 ^ 16)
    rw [List.length_cons, List.length_cons]
    omega
  | accessPointName => exact (readAccessPointName_eq_ok.mp h).2.1

/-- What is read does not depend on what comes behind it. -/
theorem NasIe.read_append [OgsNas] {ie : NasIe} (h : ie.read old x word = .ok (r, n))
    (rest : Bytes) : ie.read old x (word ++ rest) = .ok (r, n) := by
  cases ie with
  | copied c =>
    obtain ⟨hsize, hle, hwidth, hroom, hr⟩ := c.read_eq_ok.mp h
    refine c.read_eq_ok.mpr ⟨NasFormat.size_append hsize rest, ?_, hwidth, hroom, ?_⟩
    · rw [List.length_append]
      omega
    · have hlen := NasFormat.lengthWidth_le_of_size hsize
      rw [hr, NasCopied.store, NasCopied.store, List.take_append_of_le_length hlen,
        List.take_append_of_le_length hle]
  | half => exact h
  | container =>
    obtain ⟨high, low, buffer, rfl, hle, rfl, rfl⟩ := readContainer_eq_ok.mp h
    refine readContainer_eq_ok.mpr ⟨high, low, buffer ++ rest, rfl, ?_, ?_, rfl⟩
    · rw [List.length_append]
      omega
    · rw [List.take_append_of_le_length hle]
  | accessPointName =>
    obtain ⟨hsize, hle, hroom, hname, hr⟩ := readAccessPointName_eq_ok.mp h
    have htake : (word ++ rest).take n = word.take n := List.take_append_of_le_length hle
    have hparsed : parsedName (word ++ rest) n = parsedName word n := by
      rw [parsedName, parsedName, htake]
    have hstored : storedName (word ++ rest) n = storedName word n := by
      rw [storedName, storedName, hparsed]
    refine readAccessPointName_eq_ok.mpr ⟨NasFormat.size_append hsize rest, ?_, hroom, ?_, ?_⟩
    · rw [List.length_append]
      omega
    · rw [hstored]
      exact hname
    · rw [hstored, hparsed, htake]
      exact hr

/-- How much is read does not depend on what there was before. -/
theorem NasIe.read_old [OgsNas] {ie : NasIe} (h : ie.read old x word = .ok (r, n))
    (old' : Option NasRecord) : ∃ r', ie.read old' x word = .ok (r', n) := by
  cases ie with
  | copied c =>
    obtain ⟨hsize, hle, hwidth, hroom, -⟩ := c.read_eq_ok.mp h
    exact ⟨_, c.read_eq_ok.mpr ⟨hsize, hle, hwidth, hroom, rfl⟩⟩
  | half => exact ⟨r, h⟩
  | container => exact ⟨r, h⟩
  | accessPointName =>
    obtain ⟨hsize, hle, hroom, hname, -⟩ := readAccessPointName_eq_ok.mp h
    exact ⟨_, readAccessPointName_eq_ok.mpr ⟨hsize, hle, hroom, hname, rfl⟩⟩

/-- An element of a message -/
def NasIe.field [OgsNas] (ie : NasIe) : Tagged.Field UInt8 NasRecord (Fault NasSite) where
  read := ie.read
  le_length := NasIe.read_le_length
  read_append := NasIe.read_append
  read_old := NasIe.read_old

end

end NextEpc
