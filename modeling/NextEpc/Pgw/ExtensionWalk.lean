import NextEpc.Pgw.Classify

/-!
# The walk over the extension headers

`decode_ipv6_header` follows next headers and lengths that the sender chose, without the length of
the packet. Here is exactly for which packets it comes to an end within the octets received.
-/

namespace NextEpc

variable {mem : Memory} {nxt proto : UInt8} {p off endp len n read jp : Nat}

/-- The length in the option at `jp`, of which only that of a jumbo payload has 32 bits. -/
def jumboLength (mem : Memory) (jp : Nat) : Nat := (Octets.swap32 (mem.u32 (jp + 2))).toNat

/-- From the octet `jp` on, the first jumbo payload option is the one at `q`. -/
inductive JumboOption (mem : Memory) : Nat → Nat → Prop
  | here {jp : Nat} : mem jp = 0xc2 → JumboOption mem jp jp
  | pad1 {jp q : Nat} : mem jp = 0 → JumboOption mem (jp + 1) q → JumboOption mem jp q
  | other {jp q : Nat} : mem jp ≠ 0xc2 → mem jp ≠ 0 →
    JumboOption mem (jp + 2 + jumboLength mem jp) q → JumboOption mem jp q

/-- From the header `nxt` at `p` on, there are extension headers that begin within the first `len`
octets, up to the upper layer `proto` at `off`. -/
inductive ExtensionsWithin (mem : Memory) (len endp : Nat) : UInt8 → Nat → UInt8 → Nat → Prop
  | upper {nxt : UInt8} {p : Nat} : endp ≤ p ∨ extLength mem nxt p = none →
    ExtensionsWithin mem len endp nxt p nxt p
  | ext {nxt proto : UInt8} {p off length : Nat} : p < endp → extLength mem nxt p = some length →
    p + extOctets nxt ≤ len → ExtensionsWithin mem len endp (mem p) (p + length) proto off →
    ExtensionsWithin mem len endp nxt p proto off

/-- Where the payload of a packet of `len` octets ends: after the payload length, or if that is
zero, after the length in a jumbo payload option of the hop-by-hop options. -/
inductive PayloadEnd (mem : Memory) (len : Nat) : Nat → Prop
  | plen : (mem.u16 4).toNat ≠ 0 → PayloadEnd mem len (40 + (mem.u16 4).toNat)
  | jumbo {q : Nat} : (mem.u16 4).toNat = 0 → mem 6 = 0 → JumboOption mem 42 q →
    jumboLength mem q ≠ 0 → q + 6 ≤ len → PayloadEnd mem len (40 + jumboLength mem q)

/-- The extension headers of a packet of `len` octets are all in it, and the offset of the upper
layer, in 16 bits, is not beyond its end. -/
def WalksWithin (mem : Memory) (len : Nat) : Prop :=
  ∃ endp proto off, PayloadEnd mem len endp ∧
    ExtensionsWithin mem len endp (mem 6) 40 proto off ∧ off % 2 ^ 16 ≤ len

/-- `decode_ipv6_header` returns for a packet of `len` octets, having read octets of the packet
only, and the length of the headers is at most that of the packet. -/
def DecodesWithin (mem : Memory) (len : Nat) : Prop :=
  ∃ fuel proto hlen read, decodeIpv6Header mem fuel = some (proto, hlen, read) ∧
    max 40 read ≤ len ∧ (UInt16.ofNat hlen).toNat ≤ len

/-! ## The loops -/

theorem jumboLoop_iff_option :
    (∃ fuel, jumboLoop mem fuel jp = some (n, read)) ↔
      ∃ q, JumboOption mem jp q ∧ jumboLength mem q ≠ 0 ∧ n = jumboLength mem q ∧ read = q + 6 := by
  constructor
  · rintro ⟨fuel, h⟩
    induction fuel generalizing jp with
    | zero => cases h
    | succ fuel ih =>
      rw [jumboLoop] at h
      by_cases hjumbo : mem jp = 0xc2
      · simp only [if_pos hjumbo] at h
        split at h
        · exact ih h
        · rename_i hlength
          cases h
          exact ⟨jp, .here hjumbo, hlength, rfl, rfl⟩
      · simp only [if_neg hjumbo] at h
        by_cases hpad : mem jp = 0
        · rw [if_pos hpad] at h
          obtain ⟨q, hq, hrest⟩ := ih h
          exact ⟨q, .pad1 hpad hq, hrest⟩
        · rw [if_neg hpad] at h
          obtain ⟨q, hq, hrest⟩ := ih h
          exact ⟨q, .other hjumbo hpad hq, hrest⟩
  · rintro ⟨q, hq, hlength, rfl, rfl⟩
    induction hq with
    | @here jp hjumbo =>
      refine ⟨1, ?_⟩
      rw [jumboLoop]
      simp only [if_pos hjumbo]
      exact if_neg hlength
    | @pad1 jp q hpad _ ih =>
      obtain ⟨fuel, h⟩ := ih hlength
      have hjumbo : mem jp ≠ 0xc2 := by
        rw [hpad]
        decide
      refine ⟨fuel + 1, ?_⟩
      rw [jumboLoop]
      simp only [if_neg hjumbo, if_pos hpad]
      exact h
    | @other jp q hjumbo hpad _ ih =>
      obtain ⟨fuel, h⟩ := ih hlength
      refine ⟨fuel + 1, ?_⟩
      rw [jumboLoop]
      simp only [if_neg hjumbo, if_neg hpad]
      exact h

/-- At the upper layer the loop has ended. -/
theorem within_of_stop (hstop : endp ≤ p ∨ extLength mem nxt p = none)
    (heq : extHeaders mem n nxt p endp read = (nxt, p, read)) :
    (∃ read', extHeaders mem n nxt p endp read = (proto, off, read') ∧ read' ≤ len) ↔
      read ≤ len ∧ ExtensionsWithin mem len endp nxt p proto off := by
  rw [heq]
  constructor
  · rintro ⟨read', h, hle⟩
    cases h
    exact ⟨hle, .upper hstop⟩
  · rintro ⟨hle, hwithin⟩
    cases hwithin with
    | upper => exact ⟨read, rfl, hle⟩
    | ext hlt hlength =>
      rcases hstop with hend | hnone
      · omega
      · exact absurd (hlength.symm.trans hnone) (Option.some_ne_none _)

theorem extensionsWithin_of_ext {length : Nat} (hlt : p < endp)
    (hlength : extLength mem nxt p = some length) :
    ExtensionsWithin mem len endp nxt p proto off ↔ p + extOctets nxt ≤ len ∧
      ExtensionsWithin mem len endp (mem p) (p + length) proto off := by
  constructor
  · intro h
    cases h with
    | upper hstop =>
      rcases hstop with hend | hnone
      · omega
      · exact absurd (hlength.symm.trans hnone) (Option.some_ne_none _)
    | ext _ hlength' hle hrest =>
      obtain rfl := Option.some_inj.mp (hlength.symm.trans hlength')
      exact ⟨hle, hrest⟩
  · rintro ⟨hle, hrest⟩
    exact .ext hlt hlength hle hrest

/-- The loop reads octets of the packet only if and only if the headers begin in it. -/
theorem extHeaders_within_iff (hn : endp - p ≤ n) :
    (∃ read', extHeaders mem n nxt p endp read = (proto, off, read') ∧ read' ≤ len) ↔
      read ≤ len ∧ ExtensionsWithin mem len endp nxt p proto off := by
  induction n generalizing nxt p read with
  | zero => exact within_of_stop (.inl (by omega)) rfl
  | succ n ih =>
    by_cases hlt : p < endp
    · cases hlength : extLength mem nxt p with
      | none =>
        refine within_of_stop (.inr hlength) ?_
        rw [extHeaders, if_pos hlt, hlength]
      | some length =>
        have hle := le_of_extLength hlength
        have hnext : extHeaders mem (n + 1) nxt p endp read =
            extHeaders mem n (mem p) (p + length) endp (max read (p + extOctets nxt)) := by
          rw [extHeaders, if_pos hlt, hlength]
        rw [hnext, ih (by omega), extensionsWithin_of_ext hlt hlength, max_le_iff, and_assoc]
    · refine within_of_stop (.inl (by omega)) ?_
      rw [extHeaders, if_neg hlt]

/-- The rounds that are enough for a payload. -/
theorem extHeaders_of_payload :
    (∃ proto hlen read', extHeaders mem n nxt 40 (40 + n) read = (proto, hlen, read') ∧
      max 40 read' ≤ len ∧ (UInt16.ofNat hlen).toNat ≤ len) ↔
    max 40 read ≤ len ∧ ∃ proto off,
      ExtensionsWithin mem len (40 + n) nxt 40 proto off ∧ off % 2 ^ 16 ≤ len := by
  constructor
  · rintro ⟨proto, hlen, read', heq, hle, hhlen⟩
    have hread : read' ≤ len := (le_max_right _ _).trans hle
    obtain ⟨hinit, hwithin⟩ := (extHeaders_within_iff (by omega)).mp ⟨read', heq, hread⟩
    rw [UInt16.toNat_ofNat'] at hhlen
    exact ⟨max_le ((le_max_left _ _).trans hle) hinit, proto, hlen, hwithin, hhlen⟩
  · rintro ⟨hle, proto, off, hwithin, hoff⟩
    have hread : read ≤ len := (le_max_right _ _).trans hle
    obtain ⟨read', heq, hread'⟩ :=
      (extHeaders_within_iff (n := n) (by omega)).mpr ⟨hread, hwithin⟩
    refine ⟨proto, off, read', heq, max_le ((le_max_left _ _).trans hle) hread', ?_⟩
    rwa [UInt16.toNat_ofNat']

theorem decodesWithin_of_plen (hlen : 40 ≤ len) (hplen : (mem.u16 4).toNat ≠ 0) :
    DecodesWithin mem len ↔ WalksWithin mem len := by
  have hdecode (fuel : Nat) : decodeIpv6Header mem fuel =
      some (extHeaders mem (mem.u16 4).toNat (mem 6) 40 (40 + (mem.u16 4).toNat) 40) := by
    rw [decodeIpv6Header]
    exact if_neg hplen
  constructor
  · rintro ⟨fuel, proto, hlen, read, heq, hrest⟩
    rw [hdecode] at heq
    obtain ⟨-, proto, off, hwithin, hoff⟩ :=
      extHeaders_of_payload.mp ⟨proto, hlen, read, Option.some_inj.mp heq, hrest⟩
    exact ⟨_, proto, off, .plen hplen, hwithin, hoff⟩
  · rintro ⟨endp, proto, off, hend, hwithin, hoff⟩
    cases hend with
    | plen =>
      obtain ⟨proto, hlen, read, heq, hrest⟩ :=
        extHeaders_of_payload.mpr ⟨max_le hlen hlen, proto, off, hwithin, hoff⟩
      exact ⟨0, proto, hlen, read, (hdecode 0).trans (congrArg some heq), hrest⟩
    | jumbo hzero => exact absurd hzero hplen

theorem decodesWithin_of_jumbo (hlen : 40 ≤ len) (hplen : (mem.u16 4).toNat = 0)
    (hnxt : mem 6 = 0) : DecodesWithin mem len ↔ WalksWithin mem len := by
  have hdecode (fuel : Nat) : decodeIpv6Header mem fuel = (jumboLoop mem fuel 42).bind
      fun r => some (extHeaders mem r.1 (mem 6) 40 (40 + r.1) r.2) := by
    simp only [decodeIpv6Header, hplen, hnxt, if_true, Option.bind_eq_bind]
  constructor
  · rintro ⟨fuel, proto, hlen, read, heq, hrest⟩
    rw [hdecode, Option.bind_eq_some_iff] at heq
    obtain ⟨⟨n, read₀⟩, hloop, heq⟩ := heq
    obtain ⟨q, hq, hlength, rfl, rfl⟩ := jumboLoop_iff_option.mp ⟨fuel, hloop⟩
    obtain ⟨hread, proto, off, hwithin, hoff⟩ :=
      extHeaders_of_payload.mp ⟨proto, hlen, read, Option.some_inj.mp heq, hrest⟩
    exact ⟨_, proto, off, .jumbo hplen hnxt hq hlength ((le_max_right _ _).trans hread), hwithin,
      hoff⟩
  · rintro ⟨endp, proto, off, hend, hwithin, hoff⟩
    cases hend with
    | plen hne => exact absurd hplen hne
    | jumbo _ _ hq hlength hle =>
      obtain ⟨fuel, hloop⟩ := jumboLoop_iff_option.mpr ⟨_, hq, hlength, rfl, rfl⟩
      obtain ⟨proto, hlen, read, heq, hrest⟩ :=
        extHeaders_of_payload.mpr ⟨max_le hlen hle, proto, off, hwithin, hoff⟩
      refine ⟨fuel, proto, hlen, read, ?_, hrest⟩
      rw [hdecode, hloop]
      exact congrArg some heq

/-- Once the fixed header was received, the walk comes to an end within the packet if and only if
an empty payload comes with hop-by-hop options that have a jumbo payload option with a length in
the packet, and the extension headers are all in the packet. -/
theorem decodesWithin_iff (hlen : 40 ≤ len) : DecodesWithin mem len ↔ WalksWithin mem len := by
  by_cases hplen : (mem.u16 4).toNat = 0
  · by_cases hnxt : mem 6 = 0
    · exact decodesWithin_of_jumbo hlen hplen hnxt
    · constructor
      · rintro ⟨fuel, proto, hlen, read, heq, -⟩
        rw [decodeIpv6Header] at heq
        simp only [if_pos hplen, if_neg hnxt] at heq
        cases heq
      · rintro ⟨endp, proto, off, hend, -⟩
        cases hend with
        | plen hne => exact absurd hplen hne
        | jumbo _ hzero => exact absurd hzero hnxt
  · exact decodesWithin_of_plen hlen hplen

/-- A memory that starts with the given octets. -/
def Memory.ofBytes (data : Bytes) : Memory := fun i => data.getD i 0

/-- A UDP packet with a hop-by-hop header -/
def hopByHopPacket : Bytes :=
  [0x60, 0, 0, 0, 0, 16, 0, 64] ++ List.replicate 32 0 ++ [17, 0, 1, 4, 0, 0, 0, 0] ++
    List.replicate 8 0

theorem decodesWithin_iff_hopByHop : DecodesWithin (.ofBytes hopByHopPacket) 56 :=
  (decodesWithin_iff (by decide)).mpr ⟨56, 17, 48, .plen (by decide),
    .ext (by decide) (show extLength _ _ _ = some 8 by decide) (by decide)
      (.upper (.inr (by decide))), by decide⟩

/-- A packet without payload that has no next header. -/
def emptyPacket : Bytes := [0x60, 0, 0, 0, 0, 0, 59, 64] ++ List.replicate 32 0

theorem decodesWithin_of_empty :
    ¬∀ (mem : Memory) (len : Nat), 40 ≤ len → DecodesWithin mem len := by
  intro h
  obtain ⟨fuel, proto, hlen, read, heq, -⟩ := h (.ofBytes emptyPacket) 40 (by decide)
  have hnone : decodeIpv6Header (.ofBytes emptyPacket) fuel = none := rfl
  rw [hnone] at heq
  cases heq

end NextEpc
