import NextEpc.Nas.IeWire
import NextEpc.Nas.Ies

/-!
# Information elements that come back as they are

A record that is copied comes back with zeros behind the octets that its length says it has. Fields
come back turned around twice. An identity of the network comes back with its spare bits set, and
the P-TMSI signature, which is only turned around when it is read, comes back in the other order.
-/

namespace NextEpc

namespace NasIe
variable [OgsNas] {format : NasFormat} {image : Bytes} {n sizeof offset width : Nat}

/-- The record is the same when it has been written and read. -/
def IsNormal (ie : NasIe) (r : NasRecord) : Prop := ie.received r = r

omit [OgsNas] in
theorem take_append_replicate_eq_iff (hn : n ≤ image.length) :
    image.take n ++ List.replicate (image.length - n) 0 = image ↔
      image.drop n = List.replicate (image.length - n) 0 := by
  constructor
  · intro heq
    have hlen : (image.take n).length = n := by
      rw [List.length_take]
      omega
    have hdrop := congrArg (List.drop n) heq
    rw [List.drop_left' hlen] at hdrop
    exact hdrop.symm
  · intro heq
    rw [← heq, List.take_append_drop]

/-- A record that is copied as it is comes back if there is nothing behind its octets. -/
theorem isNormal_plain (hfits : (plain format sizeof).Fits (.octets image)) :
    (plain format sizeof).IsNormal (.octets image) ↔ ∃ n, format.size image = .ok n ∧
      image.drop n = List.replicate (sizeof - n) 0 := by
  obtain ⟨hlength, n, hsize, -, hn⟩ := hfits
  have hsize' := NasCopied.size_eq hsize
  have hreceived : (plain format sizeof).received (.octets image) =
      .octets (image.take n ++ List.replicate (image.length - n) 0) := by
    rw [hlength]
    change NasRecord.octets (image.take (NasCopied.size _ image) ++
      List.replicate (sizeof - NasCopied.size _ image) 0) = _
    rw [hsize']
  rw [IsNormal, hreceived, NasRecord.octets.injEq,
    take_append_replicate_eq_iff (by rw [hlength]; exact hn), hlength]
  constructor
  · intro hdrop
    exact ⟨n, hsize, hdrop⟩
  · rintro ⟨n', hn', hdrop⟩
    obtain rfl : n = n' := Except.ok.inj (hsize.symm.trans hn')
    exact hdrop

/-- A record of fixed size comes back. -/
theorem isNormal_value (hfits : (plain (.value n) n).Fits (.octets image)) :
    (plain (.value n) n).IsNormal (.octets image) := by
  refine (isNormal_plain hfits).mpr ⟨n, rfl, ?_⟩
  rw [Nat.sub_self, List.drop_of_length_le (Nat.le_of_eq hfits.1)]
  rfl

/-- A record that is written up to its end is what its fields are when they have been turned
around twice. -/
theorem received_copied {c : NasCopied} (hlength : image.length = c.sizeof)
    (hsize : c.format.size image = .ok c.sizeof) : (NasIe.copied c).received (.octets image) =
      .octets (c.toHost.apply (c.toNetwork.apply image)) := by
  rw [received, NasCopied.size_eq hsize, Nat.sub_self, List.replicate_zero, List.append_nil,
    List.take_of_length_le (by rw [c.toNetwork.length_apply, hlength])]

/-- A container comes back if its buffer has no more octets than it is said to have. -/
theorem isNormal_container {length : UInt16} {octets : Bytes}
    (hfits : NasIe.container.Fits (.container length (some octets))) :
    NasIe.container.IsNormal (.container length (some octets)) ↔ octets.length = length.toNat := by
  obtain ⟨-, _, heq, hle⟩ := hfits
  cases heq
  change NasRecord.container length (some (octets.take length.toNat)) = _ ↔ _
  rw [NasRecord.container.injEq, and_iff_right rfl, Option.some.injEq, List.take_eq_self_iff]
  exact ⟨fun h => Nat.le_antisymm h hle, Nat.le_of_eq⟩

omit [OgsNas] in
theorem type_octet (spare : UInt8) : Tbcd.octet spare 0xf &&& 7 = spare &&& 7 := by
  have hmask (octet : UInt8) : (octet &&& 7).toNat = octet.toNat % 8 :=
    Nat.and_two_pow_sub_one_eq_mod _ 3
  apply UInt8.toNat_inj.mp
  rw [hmask, hmask, Tbcd.toNat_octet]
  omega

/-- A GUTI comes back with its spare bits set. -/
theorem received_guti (spare plmn1 plmn2 plmn3 gid1 gid2 code m1 m2 m3 m4 : UInt8)
    (htype : spare &&& 7 = epsMobileIdentityGuti) :
    epsMobileIdentity.received (.octets
      [11, spare, plmn1, plmn2, plmn3, gid1, gid2, code, m1, m2, m3, m4]) = .octets
      [11, Tbcd.octet spare 0xf, plmn1, plmn2, plmn3, gid1, gid2, code, m1, m2, m3, m4] := by
  have hupper : Tbcd.octet spare 0xf &&& 7 = epsMobileIdentityGuti := (type_octet spare).trans htype
  have hnetwork : (NasConversion.ofType (w := 1) epsMobileIdentityGuti
      (.andThen (.upper _ 1 0xf (by decide))
        (.andThen (.swap _ 5 2 (by decide)) (.swap _ 8 4 (by decide))))).apply
        [11, spare, plmn1, plmn2, plmn3, gid1, gid2, code, m1, m2, m3, m4] =
      [11, Tbcd.octet spare 0xf, plmn1, plmn2, plmn3, gid2, gid1, code, m4, m3, m2, m1] := by
    exact if_pos htype
  have hhost : (NasConversion.ofType (w := 1) epsMobileIdentityGuti
      (.andThen (.swap _ 5 2 (by decide)) (.swap _ 8 4 (by decide)))).apply
        [11, Tbcd.octet spare 0xf, plmn1, plmn2, plmn3, gid2, gid1, code, m4, m3, m2, m1] =
      [11, Tbcd.octet spare 0xf, plmn1, plmn2, plmn3, gid1, gid2, code, m1, m2, m3, m4] :=
    if_pos hupper
  refine (received_copied rfl rfl).trans (congrArg NasRecord.octets ?_)
  exact (congrArg _ hnetwork).trans hhost

/-- A TMSI whose spare bits are set comes back as it is. -/
theorem isNormal_tmsi (m1 m2 m3 m4 : UInt8) :
    mobileIdentity.IsNormal (.octets [5, 0xf4, m1, m2, m3, m4, 0, 0, 0]) := by
  have htype : (0xf4 : UInt8) &&& 7 = mobileIdentityTmsi := by decide
  have hupper : Tbcd.octet 0xf4 0xf = 0xf4 := by decide
  have hnetwork : (NasConversion.ofType (w := 1) mobileIdentityTmsi
      (.andThen (.swap _ 2 4 (by decide)) (.upper _ 1 0xf (by decide)))).apply
        [5, 0xf4, m1, m2, m3, m4, 0, 0, 0] = [5, 0xf4, m4, m3, m2, m1, 0, 0, 0] := by
    refine (if_pos htype).trans ?_
    change [5, Tbcd.octet 0xf4 0xf, m4, m3, m2, m1, 0, 0, 0] = _
    rw [hupper]
  have hhost : (NasConversion.ofType (w := 1) mobileIdentityTmsi (.swap _ 2 4 (by decide))).apply
      [5, 0xf4, m4, m3, m2, m1, 0, 0, 0] = [5, 0xf4, m1, m2, m3, m4, 0, 0, 0] :=
    if_pos htype
  exact congrArg NasRecord.octets ((congrArg (fun image : Bytes => NasConversion.apply _
    (image.take 6 ++ List.replicate 3 0)) hnetwork).trans hhost)

end NasIe

end NextEpc
