import NextEpc.Lib.Codec
import NextEpc.Nas.Ie

/-!
# What an information element looks like in a message

The octets of an element are its record as far as its length says, with its fields turned around.
What is read of them is the same record, without what was behind that length. An element whose
length says more than the record has is not written.
-/

namespace NextEpc
open Fallible

section
variable {cap n : Nat} {source image pkbuf word rest : Bytes} {length : UInt16}
  {buffer : Option Bytes} {old : Option NasRecord} {x : UInt8} {r : NasRecord}

theorem NasFormat.size_congr {format : NasFormat} {word : Bytes} (h : format.size image = .ok n)
    (htake : word.take format.lengthWidth = image.take format.lengthWidth) :
    format.size word = .ok n := by
  cases format with
  | value => exact h
  | lengthValue =>
    match image, word, htake, h with
    | length :: image, length' :: word, htake, h =>
      rw [NasFormat.lengthWidth, List.take_succ_cons, List.take_succ_cons, List.cons.injEq] at htake
      rw [htake.1]
      exact h
  | lengthValue16 =>
    match image, word, htake, h with
    | low :: high :: image, low' :: high' :: word, htake, h =>
      simp only [NasFormat.lengthWidth, List.take_succ_cons, List.cons.injEq] at htake
      rw [htake.1, htake.2.1]
      exact h

/-- Octets of a record are put at once. -/
theorem appends_putOctets (h : n ≤ source.length) :
    Codec.Appends cap (putOctets cap source n) (source.take n) := by
  intro pkbuf _ pkbuf'
  rw [putOctets, copyFrom_of_le h, List.length_take, Nat.min_eq_left h]
  simp only [ok_bind, bind_eq_ok, assert_eq_ok, Except.ok.injEq]
  constructor
  · rintro ⟨_, hroom, rfl⟩
    exact ⟨hroom, rfl⟩
  · rintro ⟨hroom, rfl⟩
    exact ⟨(), hroom, rfl⟩

/-! ## Records that are written -/

/-- The octets of a record that is copied, as its length says -/
def NasCopied.size (c : NasCopied) (image : Bytes) : Nat :=
  match c.format.size image with
  | .ok n => n
  | .error _ => 0

/-- What is built of a name, which stands behind its length -/
def builtName [OgsNas] (image : Bytes) : Bytes :=
  OgsNas.fqdnBuild (image.tail.take (image.headD 0).toNat)

/-- The octets of an element -/
def NasIe.wire [OgsNas] : NasIe → NasRecord → Bytes
  | .copied c, .octets image => (c.toNetwork.apply image).take (c.size image)
  | .half, .octets image => image.take 1
  | .container, .container length buffer =>
    Octets.htons length.toNat ++ (buffer.getD []).take length.toNat
  | .accessPointName, .octets image => UInt8.ofNat (builtName image).length :: builtName image
  | _, _ => []

/-- The record is one of the element, and has room for as many octets as its length says. -/
def NasIe.Fits [OgsNas] : NasIe → NasRecord → Prop
  | .copied c, .octets image => image.length = c.sizeof ∧
      ∃ n, c.format.size image = .ok n ∧ c.format.lengthWidth ≤ n ∧ n ≤ c.sizeof
  | .half, .octets image => image.length = 1
  | .container, .container length buffer => length.toNat + 2 < 2 ^ 16 ∧
      ∃ octets, buffer = some octets ∧ length.toNat ≤ octets.length
  | .accessPointName, .octets image => image.length = sizeofAccessPointName ∧
      (image.headD 0).toNat ≤ ogsMaxApnLen ∧ (builtName image).length ≤ ogsMaxApnLen ∧
      (OgsNas.fqdnParse (builtName image)).length < ogsMaxApnLen
  | _, _ => False

/-- What the record is when it has been written and read -/
def NasIe.received [OgsNas] : NasIe → NasRecord → NasRecord
  | .copied c, .octets image => .octets (c.toHost.apply
      ((c.toNetwork.apply image).take (c.size image) ++ List.replicate (c.sizeof - c.size image) 0))
  | .container, .container length buffer =>
    .container length (some ((buffer.getD []).take length.toNat))
  | .accessPointName, .octets image =>
    let parsed := OgsNas.fqdnParse (builtName image)
    .octets (UInt8.ofNat parsed.length :: (copyApn parsed parsed.length ++
      (builtName image ++ List.replicate (ogsMaxApnLen - (builtName image).length) 0).drop
        (copyApn parsed parsed.length).length))
  | _, r => r

theorem NasCopied.size_eq {c : NasCopied} (h : c.format.size image = .ok n) : c.size image = n := by
  rw [NasCopied.size, h]

theorem length_copyApn_le (apn : Bytes) (length : Nat) :
    (copyApn apn length).length ≤ apn.length + 1 := by
  have htake := (List.takeWhile_prefix (l := apn) (· ≠ 0)).length_le
  rw [copyApn, List.length_append, List.length_take, List.length_singleton]
  omega

theorem length_lt_of_fits {k : Nat} (h : k ≤ ogsMaxApnLen) : (UInt8.ofNat k).toNat = k := by
  rw [UInt8.toNat_ofNat', Nat.mod_eq_of_lt]
  unfold ogsMaxApnLen at h
  omega

/-- An element that fits is put behind what has been written, if there is room. -/
theorem NasIe.appends_encode [OgsNas] {ie : NasIe} (h : ie.Fits r) :
    Codec.Appends cap (ie.encode cap r) (ie.wire r) := by
  match ie, r, h with
  | .copied c, .octets image, ⟨hlength, n, hsize, _, hn⟩ =>
    have heq : (NasIe.copied c).encode cap (.octets image) =
        putOctets cap (c.toNetwork.apply image) n := by
      funext pkbuf
      rw [NasIe.encode, NasCopied.encode, hsize, ok_bind]
    rw [heq, NasIe.wire, NasCopied.size_eq hsize]
    refine appends_putOctets ?_
    rw [c.toNetwork.length_apply, hlength]
    exact hn
  | .half, .octets image, h => exact appends_putOctets (Nat.le_of_eq (Eq.symm h))
  | .container, .container length (some octets), ⟨_, _, rfl, hle⟩ =>
    exact (appends_putOctets (Nat.le_refl _)).bind (appends_putOctets hle)
  | .accessPointName, .octets (length :: apn), ⟨hlength, hle, hbuilt, _⟩ =>
    have hbuilt' := length_lt_of_fits hbuilt
    rw [List.headD_cons] at hle
    have hapn : apn.length = ogsMaxApnLen := Nat.succ.inj hlength
    have heq : NasIe.accessPointName.encode cap (.octets (length :: apn)) =
        putOctets cap (UInt8.ofNat (builtName (length :: apn)).length ::
          (builtName (length :: apn) ++ apn.drop (builtName (length :: apn)).length))
          ((builtName (length :: apn)).length + 1) := by
      funext pkbuf
      rw [NasIe.encode, encodeAccessPointName, copyFrom_of_le (by omega), ok_bind]
      change (copyTo apn (builtName (length :: apn)) >>= fun target => _) = _
      rw [copyTo_of_le (by omega), ok_bind]
      change putOctets cap _ ((UInt8.ofNat (builtName (length :: apn)).length).toNat + 1) pkbuf = _
      rw [hbuilt']
      rfl
    have hput : (builtName (length :: apn)).length + 1 ≤
        (UInt8.ofNat (builtName (length :: apn)).length :: (builtName (length :: apn) ++
          apn.drop (builtName (length :: apn)).length)).length := by
      rw [List.length_cons, List.length_append]
      omega
    have happends : Codec.Appends cap _ _ := appends_putOctets hput
    rw [List.take_succ_cons, List.take_left] at happends
    rw [heq]
    exact happends

/-! ## Records that are read back -/

/-- Behind the octets of a new record are zeros. -/
theorem NasCopied.store_none {c : NasCopied} (hword : word.length = n)
    (hwidth : c.format.lengthWidth ≤ n) :
    c.store none (word ++ rest) n = word ++ List.replicate (c.sizeof - n) 0 := by
  have hmemory : NasRecord.memory c.sizeof none = List.replicate c.sizeof 0 := rfl
  have hlen : ((word ++ rest).take c.format.lengthWidth).length = c.format.lengthWidth := by
    rw [List.length_take, List.length_append]
    omega
  have hadd : c.format.lengthWidth + (n - c.format.lengthWidth) = n := by omega
  rw [NasCopied.store, hmemory, List.take_left' hword, List.drop_append, hlen, List.drop_drop, hadd,
    List.drop_of_length_le (by rw [hlen]; exact hwidth), List.nil_append, List.drop_replicate]

theorem ofNat_htons (length : UInt16) : UInt16.ofNat
    ((UInt8.ofNat (length.toNat / 2 ^ 8)).toNat * 2 ^ 8 + (UInt8.ofNat length.toNat).toNat) =
      length := by
  have hlength := length.toNat_lt
  apply UInt16.toNat_inj.mp
  simp only [UInt16.toNat_ofNat', UInt8.toNat_ofNat']
  omega

theorem NasCopied.read_wire {c : NasCopied} (hlength : image.length = c.sizeof)
    (hsize : c.format.size image = .ok n) (hwidth : c.format.lengthWidth ≤ n) (hn : n ≤ c.sizeof) :
    c.read none ((c.toNetwork.apply image).take n ++ rest) =
      .ok (.octets (c.toHost.apply ((c.toNetwork.apply image).take n ++
        List.replicate (c.sizeof - n) 0)), n) := by
  have hword : ((c.toNetwork.apply image).take n).length = n := by
    rw [List.length_take, c.toNetwork.length_apply]
    omega
  have htake : ((c.toNetwork.apply image).take n).take c.format.lengthWidth =
      image.take c.format.lengthWidth := by
    rw [List.take_take, Nat.min_eq_left hwidth, c.toNetwork.take_apply]
  refine c.read_eq_ok.mpr ⟨?_, ?_, by omega, hn, ?_⟩
  · exact NasFormat.size_append (NasFormat.size_congr hsize htake) rest
  · rw [List.length_append]
    omega
  · rw [NasCopied.store_none hword hwidth]

theorem readContainer_wire {octets : Bytes} (hwrap : length.toNat + 2 < 2 ^ 16)
    (hle : length.toNat ≤ octets.length) :
    readContainer (Octets.htons length.toNat ++ octets.take length.toNat ++ rest) =
      .ok (.container length (some (octets.take length.toNat)), length.toNat + 2) := by
  have hdump : (octets.take length.toNat).length = length.toNat := by
    rw [List.length_take]
    omega
  refine readContainer_eq_ok.mpr ⟨UInt8.ofNat (length.toNat / 2 ^ 8), UInt8.ofNat length.toNat,
    octets.take length.toNat ++ rest, rfl, ?_⟩
  rw [ofNat_htons, List.take_left' hdump, Nat.mod_eq_of_lt hwrap]
  refine ⟨?_, rfl, rfl⟩
  rw [List.length_append]
  omega

theorem readAccessPointName_wire [OgsNas] (hbuilt : (builtName image).length ≤ ogsMaxApnLen)
    (hparsed : (OgsNas.fqdnParse (builtName image)).length < ogsMaxApnLen) :
    readAccessPointName none (NasIe.accessPointName.wire (.octets image) ++ rest) =
      .ok (NasIe.accessPointName.received (.octets image), (builtName image).length + 1) := by
  have htake : (NasIe.accessPointName.wire (.octets image) ++ rest).take
      ((builtName image).length + 1) = UInt8.ofNat (builtName image).length :: builtName image := by
    rw [NasIe.wire]
    exact List.take_left' rfl
  have hword : parsedName (NasIe.accessPointName.wire (.octets image) ++ rest)
      ((builtName image).length + 1) = OgsNas.fqdnParse (builtName image) := by
    rw [parsedName, htake, List.drop_one, List.tail_cons]
  have hlength := length_lt_of_fits (Nat.le_of_lt hparsed)
  have hcopy := length_copyApn_le (OgsNas.fqdnParse (builtName image))
    (OgsNas.fqdnParse (builtName image)).length
  refine readAccessPointName_eq_ok.mpr ⟨?_, ?_, ?_, ?_, ?_⟩
  · change Except.ok ((UInt8.ofNat (builtName image).length).toNat + 1) = _
    rw [length_lt_of_fits hbuilt]
  · rw [List.length_append]
    exact Nat.le_add_right _ _
  · exact Nat.succ_le_succ hbuilt
  · rw [storedName, hword, hlength]
    omega
  · rw [storedName, hword, hlength, htake, NasIe.received]
    have hmemory : (NasRecord.memory sizeofAccessPointName none).drop
        ((builtName image).length + 1) =
        List.replicate (ogsMaxApnLen - (builtName image).length) 0 := by
      change (List.replicate sizeofAccessPointName (0 : UInt8)).drop _ = _
      rw [List.drop_replicate, sizeofAccessPointName, ogsMaxApnLen]
      congr 1
      omega
    rw [hmemory, List.cons_append, List.tail_cons]

/-- An element with octets of its own is read as it was written. -/
theorem NasIe.read_wire [OgsNas] {ie : NasIe} (hfits : ie.Fits r) (hhalf : ie.isHalf = false) :
    ie.read none x (ie.wire r ++ rest) = .ok (ie.received r, (ie.wire r).length) := by
  match ie, r, hfits with
  | .copied c, .octets image, ⟨hlength, n, hsize, hwidth, hn⟩ =>
    have hsize' := NasCopied.size_eq hsize
    have hlen : ((c.toNetwork.apply image).take n).length = n := by
      rw [List.length_take, c.toNetwork.length_apply]
      omega
    rw [NasIe.wire, NasIe.received, hsize', hlen]
    exact c.read_wire hlength hsize hwidth hn
  | .container, .container length (some octets), ⟨hwrap, _, rfl, hle⟩ =>
    have hlen : (NasIe.container.wire (.container length (some octets))).length =
        length.toNat + 2 := by
      rw [NasIe.wire, List.length_append, List.length_take, Option.getD_some, Nat.min_eq_left hle,
        Nat.add_comm]
      rfl
    rw [hlen]
    exact readContainer_wire hwrap hle
  | .accessPointName, .octets image, ⟨_, _, hbuilt, hparsed⟩ =>
    exact readAccessPointName_wire hbuilt hparsed

end

end NextEpc
