import Mathlib

/-!
# NAS bit rates

A bit rate is sent in up to three octets: its value, an extension for rates above 8640 kbps, and
the number of 256 Mbps in it. The tables of TS 24.008 say what the octets mean. One kbps is 1024
bits per second here, as it is for the callers, and one Mbps is 1024 kbps.
-/

namespace NextEpc

/-- The octets for the bit rate of one direction -/
structure NasBitRate where
  br : UInt8
  extended : UInt8
  extended2 : UInt8
  deriving DecidableEq, Repr

namespace NasBitRate

/-- `memset` -/
def zero : NasBitRate := ⟨0, 0, 0⟩

/-! ## What the octets mean -/

/-- The rate in kbps of the value octet. Zero is reserved. -/
def valueRate (br : Nat) : Option Nat :=
  if br = 0 then none
  else if br ≤ 0b00111111 then some br
  else if br ≤ 0b01111111 then some (64 + (br - 0b01000000) * 8)
  else if br ≤ 0b11111110 then some (576 + (br - 0b10000000) * 64)
  else some 0

/-- The rate in kbps of an extension that is not zero. -/
def extendedRate (extended : Nat) : Nat :=
  if extended ≤ 0b01001010 then 8600 + extended * 100
  else if extended ≤ 0b10111010 then 16 * 1024 + (extended - 0b01001010) * 1024
  else if extended ≤ 0b11111010 then 128 * 1024 + (extended - 0b10111010) * (2 * 1024)
  else 256 * 1024

/-- The rate in kbps of the first two octets. -/
def lowRate (br extended : Nat) : Option Nat :=
  (valueRate br).map fun rate => if extended = 0 then rate else extendedRate extended

/-- The rate in kbps of all octets. -/
def rate (o : NasBitRate) : Option Nat :=
  if o.extended2.toNat ≤ 0b11111110 then
    (lowRate o.br.toNat o.extended.toNat).map fun rate => o.extended2.toNat * (256 * 1024) + rate
  else none

/-- Rates that some octets mean. -/
def Encodable (rate : Nat) : Prop := ∃ o : NasBitRate, o.rate = some rate

/-- No octets but the first ones, so many of them, are set. -/
def Covered (o : NasBitRate) (length : Nat) : Prop :=
  (o.br ≠ 0 → 1 ≤ length) ∧ (o.extended ≠ 0 → 2 ≤ length) ∧ (o.extended2 ≠ 0 → 3 ≤ length)

end NasBitRate

/-! ## The encoder -/

/-- `br_calculate` for what is left of the rate after 256 Mbps are taken off. -/
def brCalculateLow (o : NasBitRate) (length input : Nat) : NasBitRate × Nat :=
  if input ≥ 1 ∧ input ≤ 63 then ({ o with br := .ofNat input }, max length 1)
  else if input ≥ 64 ∧ input ≤ 568 then
    ({ o with br := .ofNat ((input - 64) / 8 + 0b01000000) }, max length 1)
  else if input > 568 ∧ input < 576 then ({ o with br := 0b01111111 }, max length 1)
  else if input ≥ 576 ∧ input ≤ 8640 then
    ({ o with br := .ofNat ((input - 576) / 64 + 0b10000000) }, max length 1)
  else if input > 8640 ∧ input < 8700 then ({ o with br := 0b11111110 }, max length 1)
  else if input ≥ 8700 ∧ input ≤ 16000 then
    ({ o with br := 0b11111110, extended := .ofNat ((input - 8600) / 100) }, max length 2)
  else if input > 16000 ∧ input < 17 * 1024 then
    ({ o with br := 0b11111110, extended := 0b01001010 }, max length 2)
  else if input ≥ 17 * 1024 ∧ input ≤ 128 * 1024 then
    ({ o with
        br := 0b11111110
        extended := .ofNat ((input - 16 * 1024) / (1 * 1024) + 0b01001010) }, max length 2)
  else if input > 128 * 1024 ∧ input < 130 * 1024 then
    ({ o with br := 0b11111110, extended := 0b10111010 }, max length 2)
  else if input ≥ 130 * 1024 ∧ input ≤ 256 * 1024 then
    ({ o with
        br := 0b11111110
        extended := .ofNat ((input - 128 * 1024) / (2 * 1024) + 0b10111010) }, max length 2)
  else (o, length)

/-- `br_calculate`, with the octets that it writes over and the length -/
def brCalculate (o : NasBitRate) (input : UInt64) : NasBitRate × Nat :=
  let input := input.toNat
  if input < 1 then ({ o with br := 0xff }, 1)
  else if input > 65200 * 1024 then
    brCalculateLow { o with extended2 := 0b11111110 } 3 (input % (256 * 1024))
  else if input ≥ 256 * 1024 ∧ input ≤ 65200 * 1024 then
    brCalculateLow { o with extended2 := .ofNat (input / (256 * 1024)) } 3 (input % (256 * 1024))
  else brCalculateLow o 0 input

/-- `ogs_nas_apn_aggregate_maximum_bit_rate_t` -/
structure ApnAggregateMaximumBitRate where
  length : UInt8
  dlApnAmbr : NasBitRate
  ulApnAmbr : NasBitRate
  deriving DecidableEq, Repr

def apnAmbrBuild (dlApnAmbr ulApnAmbr : UInt32) : ApnAggregateMaximumBitRate :=
  let (dl, dlLength) := brCalculate .zero (dlApnAmbr / 1024).toUInt64
  let (ul, ulLength) := brCalculate .zero (ulApnAmbr / 1024).toUInt64
  ⟨.ofNat (max dlLength ulLength * 2), dl, ul⟩

/-- `ogs_nas_eps_quality_of_service_t` -/
structure EpsQualityOfService where
  length : UInt8
  qci : UInt8
  dlMbr : NasBitRate
  ulMbr : NasBitRate
  dlGbr : NasBitRate
  ulGbr : NasBitRate
  deriving DecidableEq, Repr

/-- A rate of zero is left out of the EPS QoS. -/
def epsQosRate (rate : UInt64) : NasBitRate × Nat :=
  if rate / 1024 ≠ 0 then brCalculate .zero (rate / 1024) else (.zero, 0)

def epsQosBuild (qci : UInt8) (dlMbr ulMbr dlGbr ulGbr : UInt64) : EpsQualityOfService :=
  let (dlMbr, dlMbrLength) := epsQosRate dlMbr
  let (ulMbr, ulMbrLength) := epsQosRate ulMbr
  let (dlGbr, dlGbrLength) := epsQosRate dlGbr
  let (ulGbr, ulGbrLength) := epsQosRate ulGbr
  let length := max (max (max dlMbrLength ulMbrLength) dlGbrLength) ulGbrLength
  ⟨.ofNat (length * 4 + 1), qci, dlMbr, ulMbr, dlGbr, ulGbr⟩

namespace NasBitRate

/-! ## The greatest rate that octets mean -/

/-- The octets for a rate: they mean the greatest rate not above it that any octets mean, this is
not zero, the value octet is not the reserved one, and the length covers all that are set. -/
structure Encodes (input : UInt64) : Prop where
  rate : ∃ rate, (brCalculate .zero input).1.rate = some rate ∧ rate ≠ 0 ∧
    IsGreatest {rate | Encodable rate ∧ rate ≤ input.toNat} rate
  br : (brCalculate .zero input).1.br ≠ 0
  covered : (brCalculate .zero input).1.Covered (brCalculate .zero input).2

/-- A rate below 65280 Mbps that is not a multiple of 256 Mbps. -/
def InTables (input : UInt64) : Prop :=
  input.toNat < 65280 * 1024 ∧ input.toNat % (256 * 1024) ≠ 0

/-! ## Rates up to 256 Mbps -/

/-- The rates that the value octet and its extension can have. -/
inductive LowRate : Nat → Prop
  | kbps {rate : Nat} : rate ≤ 63 → LowRate rate
  | eightKbps {k : Nat} : k ≤ 63 → LowRate (64 + k * 8)
  | sixtyFourKbps {k : Nat} : k ≤ 126 → LowRate (576 + k * 64)
  | hundredKbps {k : Nat} : 1 ≤ k → k ≤ 74 → LowRate (8600 + k * 100)
  | mbps {k : Nat} : 1 ≤ k → k ≤ 112 → LowRate (16 * 1024 + k * 1024)
  | twoMbps {k : Nat} : 1 ≤ k → k ≤ 64 → LowRate (128 * 1024 + k * (2 * 1024))

theorem LowRate.of_value {br rate : Nat} (h : valueRate br = some rate) : LowRate rate := by
  unfold valueRate at h
  split_ifs at h with h0 h1 h2 h3
  · rw [← Option.some.inj h]
    exact .kbps h1
  · rw [← Option.some.inj h]
    exact .eightKbps (by omega)
  · rw [← Option.some.inj h]
    exact .sixtyFourKbps (by omega)
  · rw [← Option.some.inj h]
    exact .kbps (by omega)

theorem LowRate.of_extended {extended : Nat} (h : extended ≠ 0) :
    LowRate (extendedRate extended) := by
  unfold extendedRate
  split_ifs with h1 h2 h3
  · exact .hundredKbps (by omega) h1
  · exact .mbps (by omega) (by omega)
  · exact .twoMbps (by omega) (by omega)
  · exact @LowRate.twoMbps 64 (by decide) le_rfl

theorem LowRate.of_lowRate {br extended rate : Nat} (h : lowRate br extended = some rate) :
    LowRate rate := by
  obtain ⟨value, hvalue, rfl⟩ := Option.map_eq_some_iff.mp h
  split_ifs with hextended
  · exact .of_value hvalue
  · exact .of_extended hextended

theorem LowRate.le {rate : Nat} (h : LowRate rate) : rate ≤ 256 * 1024 := by
  cases h <;> omega

/-- The octets mean the greatest rate that is not above the input. -/
structure EncodesLow (input : Nat) (o : NasBitRate) : Prop where
  rate : ∃ rate, lowRate o.br.toNat o.extended.toNat = some rate ∧ rate ≠ 0 ∧ rate ≤ input ∧
    ∀ rate', LowRate rate' → rate' ≤ input → rate' ≤ rate
  br : o.br ≠ 0

theorem encodesLow_of_value {input : Nat} {o : NasBitRate} (br rate : Nat)
    (hbr : 1 ≤ br ∧ br ≤ 255) (hextended : o.extended = 0) (hrate : valueRate br = some rate)
    (hne : rate ≠ 0) (hle : rate ≤ input)
    (hgreatest : ∀ rate', LowRate rate' → rate' ≤ input → rate' ≤ rate) :
    EncodesLow input { o with br := .ofNat br } := by
  have htoNat : (UInt8.ofNat br).toNat = br := by
    rw [UInt8.toNat_ofNat']
    omega
  refine ⟨⟨rate, ?_, hne, hle, hgreatest⟩, ?_⟩
  · simp [lowRate, htoNat, hrate, hextended]
  · intro h0
    have := congrArg UInt8.toNat h0
    rw [htoNat] at this
    simp at this
    omega

theorem encodesLow_of_extended {input : Nat} {o : NasBitRate} (extended rate : Nat)
    (hrate : extendedRate extended = rate)
    (hextended : 1 ≤ extended ∧ extended ≤ 255) (hle : rate ≤ input)
    (hgreatest : ∀ rate', LowRate rate' → rate' ≤ input → rate' ≤ rate) :
    EncodesLow input { o with br := 0b11111110, extended := .ofNat extended } := by
  have htoNat : (UInt8.ofNat extended).toNat = extended := by
    rw [UInt8.toNat_ofNat']
    omega
  have hne : rate ≠ 0 := by
    rw [← hrate, extendedRate]
    split_ifs <;> omega
  refine ⟨⟨rate, ?_, hne, hle, hgreatest⟩, by simp⟩
  have h0 : extended ≠ 0 := by omega
  simp [lowRate, valueRate, htoNat, h0, hrate]

theorem encodesLow_brCalculateLow {input : Nat} (o : NasBitRate) (length : Nat)
    (hextended : o.extended = 0) (hpos : 1 ≤ input) (hlt : input < 256 * 1024) :
    EncodesLow input (brCalculateLow o length input).1 := by
  unfold brCalculateLow
  split_ifs with h1 h2 h3 h4 h5 h6 h7 h8 h9 h10
  · apply encodesLow_of_value input input (by omega) hextended
    · rw [valueRate, if_neg (by omega), if_pos (by omega)]
    · omega
    · exact le_rfl
    · exact fun _ _ hle => hle
  · apply encodesLow_of_value _ (64 + (input - 64) / 8 * 8) (by omega) hextended
    · rw [valueRate, if_neg (by omega), if_neg (by omega), if_pos (by omega)]
      exact congrArg some (by omega)
    · omega
    · omega
    · intro rate hrate hle
      cases hrate <;> omega
  · apply encodesLow_of_value 0b01111111 568 (by decide) hextended rfl (by decide) (by omega)
    intro rate hrate hle
    cases hrate <;> omega
  · apply encodesLow_of_value _ (576 + (input - 576) / 64 * 64) (by omega) hextended
    · rw [valueRate, if_neg (by omega), if_neg (by omega), if_neg (by omega), if_pos (by omega)]
      exact congrArg some (by omega)
    · omega
    · omega
    · intro rate hrate hle
      cases hrate <;> omega
  · apply encodesLow_of_value 0b11111110 8640 (by decide) hextended rfl (by decide) (by omega)
    intro rate hrate hle
    cases hrate <;> omega
  · apply encodesLow_of_extended _ (8600 + (input - 8600) / 100 * 100)
    · rw [extendedRate, if_pos (by omega)]
    · omega
    · omega
    · intro rate hrate hle
      cases hrate <;> omega
  · apply encodesLow_of_extended 0b01001010 16000 rfl (by decide) (by omega)
    intro rate hrate hle
    cases hrate <;> omega
  · apply encodesLow_of_extended _ (16 * 1024 + (input - 16 * 1024) / 1024 * 1024)
    · rw [extendedRate, if_neg (by omega), if_pos (by omega)]
      omega
    · omega
    · omega
    · intro rate hrate hle
      cases hrate <;> omega
  · apply encodesLow_of_extended 0b10111010 (128 * 1024) (by simp [extendedRate]) (by decide)
      (by omega)
    intro rate hrate hle
    cases hrate <;> omega
  · apply encodesLow_of_extended _ (128 * 1024 + (input - 128 * 1024) / (2 * 1024) * (2 * 1024))
    · rw [extendedRate, if_neg (by omega), if_neg (by omega), if_pos (by omega)]
      omega
    · omega
    · omega
    · intro rate hrate hle
      cases hrate <;> omega
  · omega

/-! ## Lengths -/

theorem Covered.mono {o : NasBitRate} {length length' : Nat} (h : o.Covered length)
    (hle : length ≤ length') : o.Covered length' :=
  ⟨fun hne => (h.1 hne).trans hle, fun hne => (h.2.1 hne).trans hle,
    fun hne => (h.2.2 hne).trans hle⟩

theorem Covered.value {o : NasBitRate} {length : Nat} (h : o.Covered length) (br : UInt8) :
    Covered { o with br := br } (max length 1) :=
  have hmax := h.mono (le_max_left length 1)
  ⟨fun _ => le_max_right _ _, hmax.2⟩

theorem Covered.extension {o : NasBitRate} {length : Nat} (h : o.Covered length)
    (br extended : UInt8) :
    Covered { o with br := br, extended := extended } (max length 2) :=
  have hmax := h.mono (le_max_left length 2)
  ⟨fun _ => le_trans (by decide) (le_max_right _ _), fun _ => le_max_right _ _, hmax.2.2⟩

theorem covered_brCalculateLow {o : NasBitRate} {length : Nat} (h : o.Covered length)
    (input : Nat) :
    (brCalculateLow o length input).1.Covered (brCalculateLow o length input).2 := by
  unfold brCalculateLow
  split_ifs
  all_goals first | exact h.value _ | exact h.extension _ _ | exact h

theorem covered_zero : zero.Covered 0 := ⟨absurd rfl, absurd rfl, absurd rfl⟩

theorem covered_brCalculate (input : UInt64) :
    (brCalculate .zero input).1.Covered (brCalculate .zero input).2 := by
  have hmost (most : UInt8) : Covered { zero with extended2 := most } 3 :=
    ⟨absurd rfl, absurd rfl, fun _ => le_rfl⟩
  unfold brCalculate
  simp only []
  split_ifs
  · exact covered_zero.value _
  · exact covered_brCalculateLow (hmost _) _
  · exact covered_brCalculateLow (hmost _) _
  · exact covered_brCalculateLow covered_zero _

theorem length_brCalculate_le (input : UInt64) : (brCalculate .zero input).2 ≤ 3 := by
  have hlow (o : NasBitRate) {length : Nat} (h : length ≤ 3) (input : Nat) :
      (brCalculateLow o length input).2 ≤ 3 := by
    unfold brCalculateLow
    split_ifs <;> simp only <;> omega
  unfold brCalculate
  simp only []
  split_ifs
  · decide
  · exact hlow _ le_rfl _
  · exact hlow _ le_rfl _
  · exact hlow _ (by decide) _

/-! ## All rates -/

section
variable {o : NasBitRate} {low : Nat} (length : Nat)

theorem extended2_brCalculateLow : (brCalculateLow o length low).1.extended2 = o.extended2 := by
  unfold brCalculateLow
  split_ifs <;> rfl

/-- The whole rate is that of the last octet and the rest. -/
theorem rate_brCalculateLow (hextended : o.extended = 0) (hpos : 1 ≤ low) (hlt : low < 256 * 1024)
    (hmost : o.extended2.toNat ≤ 254) :
    ∃ rest, (brCalculateLow o length low).1.rate =
        some (o.extended2.toNat * (256 * 1024) + rest) ∧
      rest ≠ 0 ∧ rest ≤ low ∧ ∀ rate, LowRate rate → rate ≤ low → rate ≤ rest := by
  obtain ⟨⟨rest, hrest, hne, hle, hgreatest⟩, -⟩ :=
    encodesLow_brCalculateLow o length hextended hpos hlt
  refine ⟨rest, ?_, hne, hle, hgreatest⟩
  rw [rate, extended2_brCalculateLow, if_pos hmost, hrest]
  rfl

end

/-- An encodable rate is a multiple of 256 Mbps and a rate of the first two octets. -/
theorem Encodable.split {rate : Nat} (h : Encodable rate) :
    ∃ most low, most ≤ 254 ∧ LowRate low ∧ rate = most * (256 * 1024) + low := by
  obtain ⟨o, ho⟩ := h
  rw [NasBitRate.rate, Option.ite_none_right_eq_some] at ho
  obtain ⟨hmost, ho⟩ := ho
  obtain ⟨low, hlow, rfl⟩ := Option.map_eq_some_iff.mp ho
  exact ⟨_, low, hmost, .of_lowRate hlow, rfl⟩

section
variable {input input' : UInt64}

/-- Within the tables the last octet has all of the multiple of 256 Mbps. -/
theorem InTables.brCalculate_eq (h : InTables input) :
    ∃ length, brCalculate .zero input = brCalculateLow
      { zero with extended2 := .ofNat (input.toNat / (256 * 1024)) } length
      (input.toNat % (256 * 1024)) := by
  obtain ⟨hlt, hmod⟩ := h
  have hpos : ¬input.toNat < 1 := by
    intro h0
    rw [Nat.lt_one_iff.mp h0] at hmod
    exact hmod rfl
  unfold brCalculate
  simp only [if_neg hpos]
  split_ifs with habove hmost
  · have hdiv : input.toNat / (256 * 1024) = 0b11111110 := by omega
    exact ⟨3, by rw [hdiv]; rfl⟩
  · exact ⟨3, rfl⟩
  · have hdiv : input.toNat / (256 * 1024) = 0 := by omega
    have hself : input.toNat % (256 * 1024) = input.toNat := by omega
    exact ⟨0, by rw [hdiv, hself]; rfl⟩

theorem InTables.encodes (h : InTables input) : Encodes input := by
  obtain ⟨length, heq⟩ := h.brCalculate_eq
  obtain ⟨hlt, hmod⟩ := h
  have hdiv : input.toNat / (256 * 1024) ≤ 254 := by omega
  have hpos : 1 ≤ input.toNat % (256 * 1024) := by omega
  have hlow : input.toNat % (256 * 1024) < 256 * 1024 := Nat.mod_lt _ (by decide)
  have hsplit := Nat.div_add_mod input.toNat (256 * 1024)
  generalize input.toNat / (256 * 1024) = most at *
  generalize input.toNat % (256 * 1024) = low at *
  let o : NasBitRate := { zero with extended2 := .ofNat most }
  have hmost : o.extended2.toNat = most := by
    change (UInt8.ofNat most).toNat = most
    rw [UInt8.toNat_ofNat']
    omega
  obtain ⟨rest, hrate, hne, hle, hgreatest⟩ :=
    rate_brCalculateLow (o := o) length rfl hpos hlow (by omega)
  have hoctets := encodesLow_brCalculateLow o length rfl hpos hlow
  rw [hmost] at hrate
  constructor
  · refine ⟨most * (256 * 1024) + rest, by rw [heq]; exact hrate, by omega, ?_, ?_⟩
    · exact ⟨⟨_, hrate⟩, by omega⟩
    · rintro rate ⟨hencodable, hrate'⟩
      obtain ⟨most', low', -, hlow', rfl⟩ := hencodable.split
      have hle' := hlow'.le
      rcases lt_trichotomy most' most with hlt' | rfl | hgt
      · omega
      · have hbound := hgreatest low' hlow' (by omega)
        omega
      · omega
  · rw [heq]
    exact hoctets.br
  · exact covered_brCalculate input

/-- Octets of 65280 Mbps, the greatest rate -/
theorem encodable_greatest : Encodable (65280 * 1024) := ⟨⟨0xfe, 0xfa, 0xfe⟩, by decide⟩

/-- At and above the greatest rate the octets mean at least 256 Mbps less than it, and at multiples
of 256 Mbps the value octet is the reserved one. -/
theorem Encodes.inTables (h : Encodes input) (hpos : 1 ≤ input.toNat) : InTables input := by
  have hmod : input.toNat % (256 * 1024) ≠ 0 := by
    intro hmod
    apply h.br
    have h0 : ¬input.toNat < 1 := by omega
    unfold brCalculate
    simp only [if_neg h0, hmod]
    split_ifs with habove hmost
    · rfl
    · rfl
    · omega
  refine ⟨?_, hmod⟩
  by_contra hge
  obtain ⟨rate, hrate, -, -, hgreatest⟩ := h.rate
  have hleast : 65280 * 1024 ≤ rate := hgreatest ⟨encodable_greatest, by omega⟩
  let o : NasBitRate := { zero with extended2 := 0b11111110 }
  have heq : brCalculate .zero input = brCalculateLow o 3 (input.toNat % (256 * 1024)) := by
    have h0 : ¬input.toNat < 1 := by omega
    have habove : input.toNat > 65200 * 1024 := by omega
    unfold brCalculate
    simp only [if_neg h0, if_pos habove]
    rfl
  have hlow : input.toNat % (256 * 1024) < 256 * 1024 := Nat.mod_lt _ (by decide)
  obtain ⟨rest, hrest, -, hle, -⟩ :=
    rate_brCalculateLow (o := o) 3 rfl (by omega) hlow (by decide)
  have htwice : some rate = some (0b11111110 * (256 * 1024) + rest) := by
    rw [← hrate, heq]
    exact hrest
  have hsum := Option.some.inj htwice
  omega

/-- Greater inputs do not get smaller rates. -/
theorem Encodes.mono (h : Encodes input) (h' : Encodes input') (hle : input ≤ input') :
    ∃ rate rate', (brCalculate .zero input).1.rate = some rate ∧
      (brCalculate .zero input').1.rate = some rate' ∧ rate ≤ rate' := by
  obtain ⟨rate, hrate, -, ⟨hencodable, hbelow⟩, -⟩ := h.rate
  obtain ⟨rate', hrate', -, -, hgreatest⟩ := h'.rate
  exact ⟨rate, rate', hrate, hrate', hgreatest ⟨hencodable, hbelow.trans hle⟩⟩

end

end NasBitRate

open NasBitRate

/-- The octets are right if and only if the rate is below 65280 Mbps and not a multiple of
256 Mbps. Of such rates, a greater one does not get octets of a smaller one. -/
theorem brCalculate_encodes_iff (input : UInt64) (hpos : 1 ≤ input) :
    (Encodes input ↔ InTables input) ∧
      (InTables input → ∀ input' : UInt64, InTables input' → input ≤ input' →
        ∃ rate rate', (brCalculate .zero input).1.rate = some rate ∧
          (brCalculate .zero input').1.rate = some rate' ∧ rate ≤ rate') := by
  constructor
  · exact ⟨fun h => h.inTables hpos, InTables.encodes⟩
  · intro h input' h' hle
    exact h.encodes.mono h'.encodes hle

/-- 300 Mbps, and 301 Mbps after it. -/
theorem brCalculate_encodes_300 : Encodes (300 * 1024) ∧
    ∃ rate rate', (brCalculate .zero (300 * 1024)).1.rate = some rate ∧
      (brCalculate .zero (301 * 1024)).1.rate = some rate' ∧ rate ≤ rate' := by
  have hfirst : InTables (300 * 1024) := ⟨by decide, by decide⟩
  have hsecond : InTables (301 * 1024) := ⟨by decide, by decide⟩
  obtain ⟨hiff, hmono⟩ := brCalculate_encodes_iff (300 * 1024) (by decide)
  exact ⟨hiff.mpr hfirst, hmono hfirst _ hsecond (by decide)⟩

/-- At 256 Mbps the value octet is reserved. -/
theorem brCalculate_reserved : ¬∀ input : UInt64, 1 ≤ input → Encodes input ∧
    ∀ input' : UInt64, input ≤ input' →
      ∃ rate rate', (brCalculate .zero input).1.rate = some rate ∧
        (brCalculate .zero input').1.rate = some rate' ∧ rate ≤ rate' := by
  intro hclaim
  have hbr := (hclaim (256 * 1024) (by decide)).1.br
  exact hbr (by decide)

/-! ## The elements -/

/-- The length of the APN-AMBR covers both directions. -/
theorem covered_apnAmbrBuild (dlApnAmbr ulApnAmbr : UInt32) :
    (apnAmbrBuild dlApnAmbr ulApnAmbr).dlApnAmbr.Covered
        ((apnAmbrBuild dlApnAmbr ulApnAmbr).length.toNat / 2) ∧
      (apnAmbrBuild dlApnAmbr ulApnAmbr).ulApnAmbr.Covered
        ((apnAmbrBuild dlApnAmbr ulApnAmbr).length.toNat / 2) := by
  have hdl := length_brCalculate_le (dlApnAmbr / 1024).toUInt64
  have hul := length_brCalculate_le (ulApnAmbr / 1024).toUInt64
  have hlength : (apnAmbrBuild dlApnAmbr ulApnAmbr).length.toNat / 2 =
      max (brCalculate .zero (dlApnAmbr / 1024).toUInt64).2
        (brCalculate .zero (ulApnAmbr / 1024).toUInt64).2 := by
    simp only [apnAmbrBuild, UInt8.toNat_ofNat']
    omega
  rw [hlength]
  exact ⟨(covered_brCalculate _).mono (le_max_left _ _),
    (covered_brCalculate _).mono (le_max_right _ _)⟩

theorem covered_epsQosRate (rate : UInt64) : (epsQosRate rate).1.Covered (epsQosRate rate).2 := by
  unfold epsQosRate
  split_ifs
  · exact covered_brCalculate _
  · exact covered_zero

theorem length_epsQosRate_le (rate : UInt64) : (epsQosRate rate).2 ≤ 3 := by
  unfold epsQosRate
  split_ifs
  · exact length_brCalculate_le _
  · decide

/-- The length of the EPS QoS covers all bit rates. -/
theorem covered_epsQosBuild (qci : UInt8) (dlMbr ulMbr dlGbr ulGbr : UInt64)
    {qos : EpsQualityOfService} (h : epsQosBuild qci dlMbr ulMbr dlGbr ulGbr = qos) :
    ∀ rate ∈ [qos.dlMbr, qos.ulMbr, qos.dlGbr, qos.ulGbr],
      rate.Covered ((qos.length.toNat - 1) / 4) := by
  have hdlMbr := length_epsQosRate_le dlMbr
  have hulMbr := length_epsQosRate_le ulMbr
  have hdlGbr := length_epsQosRate_le dlGbr
  have hulGbr := length_epsQosRate_le ulGbr
  have hlength : (qos.length.toNat - 1) / 4 = max (max (max (epsQosRate dlMbr).2
      (epsQosRate ulMbr).2) (epsQosRate dlGbr).2) (epsQosRate ulGbr).2 := by
    rw [← h]
    simp only [epsQosBuild, UInt8.toNat_ofNat']
    omega
  subst h
  rw [hlength]
  simp only [epsQosBuild, List.forall_mem_cons]
  refine ⟨?_, ?_, ?_, ?_, nofun⟩
  · exact (covered_epsQosRate dlMbr).mono (by omega)
  · exact (covered_epsQosRate ulMbr).mono (by omega)
  · exact (covered_epsQosRate dlGbr).mono (by omega)
  · exact (covered_epsQosRate ulGbr).mono (by omega)

end NextEpc
