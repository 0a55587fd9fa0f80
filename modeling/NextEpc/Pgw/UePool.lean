import NextEpc.Lib.Subnet
import NextEpc.Lib.Words
import NextEpc.Pgw.UeIp

/-!
# The addresses that fill the pools

`pgw_ue_pool_generate` adds the position of an address to the words of the subnet and compares
octets. For a subnet as it is configured, this is arithmetic on the numbers that the words
stand for, so that the pool gets the first hosts of the subnet, as many as there are or as
the limit on sessions allows.
-/

namespace NextEpc

variable {family : AddressFamily} {subnet : PgwSubnet} {addr other : Vector UInt32 4}
  {j n index poolSess : Nat} {id : PgwSubnetId}

/-- The words that `memcmp` compares, least significant first. -/
def AddressFamily.words (family : AddressFamily) (addr : Vector UInt32 4) : List UInt32 :=
  match family with
  | .inet => [addr.get 0]
  | .inet6 => [addr.get 3, addr.get 2, addr.get 1, addr.get 0]

/-- The number of bits of an address. -/
def AddressFamily.width : AddressFamily → Nat
  | .inet => 32
  | .inet6 => 128

/-- An address as a number. -/
def AddressFamily.value (family : AddressFamily) (addr : Vector UInt32 4) : Nat :=
  Words.value (family.words addr)

namespace PgwSubnet

/-- The bits that tell the hosts of the subnet apart. -/
def hostBits (subnet : PgwSubnet) : Nat := subnet.family.width - subnet.prefixlen.toNat

/-- A subnet as `ogs_ipsubnet` makes it: the mask is that of the prefix length, and it has been
applied to the address of the subnet. -/
structure Configured (subnet : PgwSubnet) : Prop where
  prefixlen_pos : 0 < subnet.prefixlen.toNat
  prefixlen_le : subnet.prefixlen.toNat ≤ subnet.family.width
  mask : subnet.family.value subnet.mask = 2 ^ subnet.family.width - 2 ^ subnet.hostBits
  sub : subnet.family.value subnet.sub % 2 ^ subnet.hostBits = 0

/-- The addresses that a subnet has for UEs, as numbers. -/
def hosts (subnet : PgwSubnet) : Set Nat :=
  Subnet.hosts (subnet.family.value subnet.sub) subnet.hostBits (subnet.family.value subnet.gw)

/-- A pool of addresses of UEs: no two are the same, each is one that the subnet has, and there
are as many as the subnet has or as the limit allows. -/
structure Filled (subnet : PgwSubnet) (limit : Nat) (pool : List PgwUeIp) : Prop where
  nodup : (pool.map fun ueIp => subnet.family.value ueIp.addr).Nodup
  mem_hosts : ∀ ueIp ∈ pool, subnet.family.value ueIp.addr ∈ subnet.hosts
  length : pool.length = min limit subnet.hosts.ncard

end PgwSubnet

/-! ## Addresses as numbers -/

theorem AddressFamily.length_words : (family.words addr).length = (family.words other).length := by
  cases family <;> rfl

theorem AddressFamily.same_iff :
    family.same addr other = true ↔ family.value addr = family.value other := by
  have hwords : family.same addr other = true ↔ family.words addr = family.words other := by
    cases family with
    | inet => simp [AddressFamily.same, AddressFamily.words]
    | inet6 =>
      simp only [AddressFamily.same, AddressFamily.words, beq_iff_eq, List.cons.injEq, and_true]
      constructor
      · rintro rfl
        exact ⟨rfl, rfl, rfl, rfl⟩
      · rintro ⟨h3, h2, h1, h0⟩
        ext i hi
        interval_cases i
        · exact congrArg UInt32.toNat h0
        · exact congrArg UInt32.toNat h1
        · exact congrArg UInt32.toNat h2
        · exact congrArg UInt32.toNat h3
  rw [hwords]
  exact ⟨fun h => congrArg Words.value h, Words.value_inj AddressFamily.length_words⟩

namespace PgwSubnet

/-- The words that are added to those of the subnet. -/
def offset (family : AddressFamily) (j : Nat) : List UInt32 :=
  match family with
  | .inet => [Octets.swap32 (UInt32.ofNat j)]
  | .inet6 => [Octets.swap32 (UInt32.ofNat j), 0, 0, 0]

theorem value_offset (hj : j < 2 ^ 32) : Words.value (offset family j) = j := by
  have hword : (Octets.swap32 (Octets.swap32 (UInt32.ofNat j))).toNat = j := by
    rw [Words.swap32_swap32, UInt32.toNat_ofNat', Nat.mod_eq_of_lt hj]
  have hzero : (Octets.swap32 0).toNat = 0 := by decide
  cases family <;> simp [offset, Words.value_cons, hword, hzero]

theorem words_address : subnet.family.words (subnet.address j) =
    List.zipWith (· + ·) (subnet.family.words subnet.sub) (offset subnet.family j) := by
  cases h : subnet.family with
  | inet =>
    rw [address, h]
    rfl
  | inet6 =>
    have hzero (a : UInt32) : a + 0 = a := UInt32.add_zero a
    simp only [address, h, AddressFamily.words, offset, List.zipWith_cons_cons,
      List.zipWith_nil_left, hzero]
    rfl

theorem words_broadcast : subnet.family.words subnet.broadcast =
    List.zipWith (· + ·) (subnet.family.words subnet.sub)
      ((subnet.family.words subnet.mask).map (~~~ ·)) := by
  have hget (i : Fin 4) : subnet.broadcast.get i = subnet.sub.get i + ~~~subnet.mask.get i :=
    Vector.getElem_zipWith i.isLt
  cases subnet.family <;> simp [AddressFamily.words, hget]

theorem two_pow_hostBits_le : 2 ^ subnet.hostBits ≤ 2 ^ subnet.family.width :=
  Nat.pow_le_pow_right (by decide) (Nat.sub_le _ _)

/-- A word of ones without its first bits, and one more. -/
theorem toNat_ones_shiftRight_add_one {p : UInt32} (hpos : 0 < p.toNat) (hp : p.toNat < 32) :
    ((0xffffffff >>> p) + 1 : UInt32).toNat = 2 ^ (32 - p.toNat) := by
  have hshift : (0xffffffff >>> p : UInt32).toNat = 2 ^ (32 - p.toNat) - 1 := by
    rw [UInt32.toNat_shiftRight, Nat.mod_eq_of_lt hp, Nat.shiftRight_eq_div_pow]
    generalize p.toNat = n at hp hpos
    interval_cases n <;> rfl
  have hlt : 2 ^ (32 - p.toNat) < 2 ^ 32 := Nat.pow_lt_pow_right (by decide) (by omega)
  have hone : (1 : UInt32).toNat = 1 := rfl
  have htwo := Nat.two_pow_pos (32 - p.toNat)
  rw [UInt32.toNat_add, hshift, hone, Nat.sub_add_cancel htwo, Nat.mod_eq_of_lt hlt]

section
variable (hc : subnet.Configured)
include hc

/-- The `j`-th address is `j` above the subnet. -/
theorem Configured.value_address (hj : j < 2 ^ 32) (hbits : j < 2 ^ subnet.hostBits) :
    subnet.family.value (subnet.address j) = subnet.family.value subnet.sub + j := by
  have hlen : (subnet.family.words subnet.sub).length = (offset subnet.family j).length := by
    cases subnet.family <;> simp [AddressFamily.words, offset]
  have hoffset : Words.value (offset subnet.family j) = j := value_offset hj
  have hlt : Words.value (offset subnet.family j) < 2 ^ subnet.hostBits := hoffset.trans_lt hbits
  have hsum := Words.value_zipWith_add hlen hc.sub hlt
  rw [AddressFamily.value, AddressFamily.value, words_address, hsum, hoffset]

theorem Configured.value_broadcast : subnet.family.value subnet.broadcast =
    subnet.family.value subnet.sub + (2 ^ subnet.hostBits - 1) := by
  have hlen : (subnet.family.words subnet.sub).length =
      ((subnet.family.words subnet.mask).map (~~~ ·)).length := by
    rw [List.length_map]
    exact AddressFamily.length_words
  have hwidth : 32 * (subnet.family.words subnet.mask).length = subnet.family.width := by
    cases subnet.family <;> rfl
  have hpos := Nat.two_pow_pos subnet.hostBits
  have hle : 2 ^ subnet.hostBits ≤ 2 ^ subnet.family.width := two_pow_hostBits_le
  have hmask := hc.mask
  have hnot := Words.value_map_not (subnet.family.words subnet.mask)
  rw [AddressFamily.value] at hmask
  rw [hwidth, hmask] at hnot
  have hones : Words.value ((subnet.family.words subnet.mask).map (~~~ ·)) =
      2 ^ subnet.hostBits - 1 := by omega
  have hsum := Words.value_zipWith_add hlen hc.sub (by omega)
  rw [AddressFamily.value, AddressFamily.value, words_broadcast, hsum, hones]

/-- Which positions are left out, as numbers. -/
theorem Configured.excluded_iff (hj : j < 2 ^ 32) (hbits : j < 2 ^ subnet.hostBits) :
    subnet.excluded (subnet.address j) = true ↔
      j = 0 ∨ j = 2 ^ subnet.hostBits - 1 ∨
        subnet.family.value subnet.sub + j = subnet.family.value subnet.gw := by
  rw [excluded, Bool.or_eq_true, Bool.or_eq_true, AddressFamily.same_iff, AddressFamily.same_iff,
    AddressFamily.same_iff, hc.value_address hj hbits, hc.value_broadcast]
  omega

/-- The number of positions: all of the subnet, or as many as a word counts. -/
theorem Configured.maskCount : ∃ n, subnet.maskCount = .ok n ∧ n.toNat ≤ 2 ^ subnet.hostBits ∧
    (n.toNat = 2 ^ subnet.hostBits ∨ n.toNat = 2 ^ 32 - 1) := by
  have hpos := hc.prefixlen_pos
  have hle := hc.prefixlen_le
  cases hfamily : subnet.family with
  | inet =>
    rw [hfamily, AddressFamily.width] at hle
    rw [PgwSubnet.maskCount, hfamily, hostBits, hfamily, AddressFamily.width]
    by_cases hall : subnet.prefixlen = 32
    · exact ⟨1, if_pos hall, by simp [hall], by simp [hall]⟩
    · have hlt : subnet.prefixlen < 32 := by
        rw [UInt8.lt_iff_toNat_lt]
        exact Nat.lt_of_le_of_ne hle fun h => hall (UInt8.toNat_inj.mp h)
      have hcount := toNat_ones_shiftRight_add_one (p := subnet.prefixlen.toUInt32)
        (by simpa using hpos) (by simpa [UInt8.lt_iff_toNat_lt] using hlt)
      rw [UInt8.toNat_toUInt32] at hcount
      exact ⟨_, by simp only [if_neg hall, if_pos hlt], hcount.le, .inl hcount⟩
  | inet6 =>
    rw [hfamily, AddressFamily.width] at hle
    rw [PgwSubnet.maskCount, hfamily, hostBits, hfamily, AddressFamily.width]
    by_cases hall : subnet.prefixlen = 128
    · exact ⟨1, if_pos hall, by simp [hall], by simp [hall]⟩
    · have hlt : subnet.prefixlen < 128 := by
        rw [UInt8.lt_iff_toNat_lt]
        exact Nat.lt_of_le_of_ne hle fun h => hall (UInt8.toNat_inj.mp h)
      by_cases hword : 96 < subnet.prefixlen
      · have hsub : (subnet.prefixlen - 96).toNat = subnet.prefixlen.toNat - 96 :=
          UInt8.toNat_sub_of_le _ _ (UInt8.le_of_lt hword)
        have h96 : 96 < subnet.prefixlen.toNat := UInt8.lt_iff_toNat_lt.mp hword
        have h128 : subnet.prefixlen.toNat < 128 := UInt8.lt_iff_toNat_lt.mp hlt
        have hcount := toNat_ones_shiftRight_add_one (p := (subnet.prefixlen - 96).toUInt32)
          (by rw [UInt8.toNat_toUInt32, hsub]; omega) (by rw [UInt8.toNat_toUInt32, hsub]; omega)
        have hbits : 32 - (subnet.prefixlen.toNat - 96) = 128 - subnet.prefixlen.toNat := by omega
        rw [UInt8.toNat_toUInt32, hsub, hbits] at hcount
        exact ⟨_, by simp only [if_neg hall, if_pos (And.intro hword hlt)], hcount.le, .inl hcount⟩
      · have h96 : subnet.prefixlen ≤ 96 := UInt8.not_lt.mp hword
        have hlow : subnet.prefixlen.toNat ≤ 96 := UInt8.le_iff_toNat_le.mp h96
        have hpow : 2 ^ 32 ≤ 2 ^ (128 - subnet.prefixlen.toNat) :=
          Nat.pow_le_pow_right (by decide) (by omega)
        have hones : (0xffffffff : UInt32).toNat = 2 ^ 32 - 1 := by decide
        refine ⟨0xffffffff, ?_, by omega, .inr hones⟩
        simp only [if_neg hall, hword, false_and, if_false, if_pos h96]

end

/-! ## The loop -/

theorem generate_eq : subnet.generate id poolSess n j index =
    ((((List.range' j n).map subnet.address).filter fun addr => !subnet.excluded addr).take
      (poolSess - index)).map (⟨·, id⟩) := by
  induction n generalizing j index with
  | zero => simp [generate]
  | succ n ih =>
    rw [generate, List.range'_succ, List.map_cons, List.filter_cons]
    by_cases hindex : index < poolSess
    · rw [if_pos hindex]
      cases hexcluded : subnet.excluded (subnet.address j) with
      | true => exact ih
      | false =>
        obtain ⟨m, hm⟩ : ∃ m, poolSess - index = m + 1 := ⟨poolSess - index - 1, by omega⟩
        have hrest : poolSess - (index + 1) = m := by omega
        rw [if_neg (by decide), if_pos (by decide), ih, hm, hrest, List.take_succ_cons,
          List.map_cons]
    · rw [if_neg hindex, Nat.sub_eq_zero_of_le (by omega), List.take_zero, List.map_nil]

/-- A number that is not left out. -/
def kept (subnet : PgwSubnet) (a : Nat) : Bool :=
  !(a == subnet.family.value subnet.sub ||
    a == subnet.family.value subnet.sub + (2 ^ subnet.hostBits - 1) ||
    a == subnet.family.value subnet.gw)

theorem kept_eq_false {a : Nat} : subnet.kept a = false ↔ a = subnet.family.value subnet.sub ∨
    a = subnet.family.value subnet.sub + (2 ^ subnet.hostBits - 1) ∨
      a = subnet.family.value subnet.gw := by
  rw [kept, Bool.not_eq_false', Bool.or_eq_true, Bool.or_eq_true, beq_iff_eq, beq_iff_eq,
    beq_iff_eq, or_assoc]

theorem kept_eq_true {a : Nat} : subnet.kept a = true ↔ a ≠ subnet.family.value subnet.sub ∧
    a ≠ subnet.family.value subnet.sub + (2 ^ subnet.hostBits - 1) ∧
      a ≠ subnet.family.value subnet.gw := by
  rw [← Bool.not_eq_false, kept_eq_false, not_or, not_or]

/-- The numbers of the first `n` positions that are not left out. -/
def given (subnet : PgwSubnet) (n : Nat) : List Nat :=
  ((List.range n).map (subnet.family.value subnet.sub + ·)).filter subnet.kept

theorem nodup_positions : ((List.range n).map (subnet.family.value subnet.sub + ·)).Nodup :=
  List.nodup_range.map (add_right_injective _)

theorem nodup_given : (subnet.given n).Nodup := nodup_positions.filter _

/-- At most three positions are lost. -/
theorem le_length_given : n ≤ (subnet.given n).length + 3 := by
  have hnodup : ((List.range n).map (subnet.family.value subnet.sub + ·)).Nodup := nodup_positions
  have hlost := Subnet.length_le_filter_add_three (p := subnet.kept) hnodup
    fun a ha => kept_eq_false.mp ha
  rwa [List.length_map, List.length_range] at hlost

section
variable (hc : subnet.Configured)
include hc

theorem Configured.mem_given (hn : n ≤ 2 ^ subnet.hostBits) (a : Nat) :
    a ∈ subnet.given n ↔ a ∈ subnet.hosts ∧ a < subnet.family.value subnet.sub + n := by
  rw [given, List.mem_filter, List.mem_map, kept_eq_true, hosts, Subnet.mem_hosts_iff hc.sub]
  constructor
  · rintro ⟨⟨j, hj, rfl⟩, hzero, hones, hgw⟩
    have hlt := List.mem_range.mp hj
    exact ⟨⟨j, by omega, rfl, by omega, by omega, hgw⟩, by omega⟩
  · rintro ⟨⟨j, hj, rfl, hzero, hones, hgw⟩, hlt⟩
    exact ⟨⟨j, List.mem_range.mpr (by omega), rfl⟩, by omega, by omega, hgw⟩

/-- The comparisons of octets leave out the numbers that are not kept. -/
theorem Configured.not_excluded (hj : j < 2 ^ 32) (hbits : j < 2 ^ subnet.hostBits) :
    (!subnet.excluded (subnet.address j)) = subnet.kept (subnet.family.value subnet.sub + j) := by
  rw [Bool.eq_iff_iff, Bool.not_eq_true', ← Bool.not_eq_true, hc.excluded_iff hj hbits, kept_eq_true]
  omega

/-- What the loop stores, as numbers. -/
theorem Configured.map_value_generate (hn : n ≤ 2 ^ subnet.hostBits) (hword : n ≤ 2 ^ 32) :
    (subnet.generate id poolSess n 0 0).map (fun ueIp => subnet.family.value ueIp.addr) =
      (subnet.given n).take poolSess := by
  have hfilter : (List.range n).filter ((fun addr => !subnet.excluded addr) ∘ subnet.address) =
      (List.range n).filter (subnet.kept ∘ (subnet.family.value subnet.sub + ·)) := by
    refine List.filter_congr fun j hj => ?_
    have hlt := List.mem_range.mp hj
    exact hc.not_excluded (by omega) (by omega)
  rw [generate_eq, Nat.sub_zero, List.map_map, List.map_take, ← List.range_eq_range',
    List.filter_map, List.map_map, given, List.filter_map, hfilter]
  refine congrArg (List.take poolSess) (List.map_congr_left fun j hj => ?_)
  have hlt := List.mem_range.mp (List.mem_filter.mp hj).1
  exact hc.value_address (by omega) (by omega)

/-- The pool of a subnet: hosts of the subnet, none twice, as many as there are or as the limit
allows. -/
theorem Configured.generate_spec (hpool : poolSess < 2 ^ 31) {count : UInt32}
    (hcount : subnet.maskCount = .ok count) :
    Filled subnet poolSess (subnet.generate id poolSess count.toNat 0 0) := by
  obtain ⟨n, hn, hle, hcases⟩ := hc.maskCount
  obtain rfl : n = count := Except.ok.inj (hn.symm.trans hcount)
  have hvalues : (subnet.generate id poolSess n.toNat 0 0).map (fun ueIp =>
      subnet.family.value ueIp.addr) = (subnet.given n.toNat).take poolSess :=
    hc.map_value_generate hle n.toNat_lt.le
  have hsub : ∀ a ∈ subnet.given n.toNat, a ∈ subnet.hosts :=
    fun a ha => ((hc.mem_given hle a).mp ha).1
  have hlen : ((subnet.given n.toNat).take poolSess).length = min poolSess subnet.hosts.ncard := by
    refine Subnet.length_take_eq_min (Subnet.finite_hosts hc.sub) nodup_given hsub ?_
    rcases hcases with hall | hmany
    · -- every host has been visited
      refine .inl fun a ha => (hc.mem_given hle a).mpr ⟨ha, ?_⟩
      obtain ⟨j, hj, rfl, -⟩ := (Subnet.mem_hosts_iff hc.sub a).mp ha
      omega
    · have hgiven : n.toNat ≤ (subnet.given n.toNat).length + 3 := le_length_given
      omega
  refine ⟨?_, ?_, ?_⟩
  · rw [hvalues]
    exact nodup_given.sublist (List.take_sublist _ _)
  · intro ueIp hmem
    have hvalue := List.mem_map_of_mem (f := fun ueIp => subnet.family.value ueIp.addr) hmem
    rw [hvalues] at hvalue
    exact hsub _ (List.mem_of_mem_take hvalue)
  · rw [← hlen, ← hvalues, List.length_map]

end
end PgwSubnet

/-! ## All pools -/

/-- Every pool is filled with hosts of its subnet, none twice and neither the address of the
network nor the last nor that of the gateway, as many as there are or as the limit on sessions
allows. The limit is an `int`. -/
theorem pgwUePoolGenerate_filled (cfg : PgwConfig)
    (hconfigured : ∀ subnet ∈ cfg.subnets, subnet.Configured) (hpool : cfg.poolSess < 2 ^ 31) :
    ∃ pools, pgwUePoolGenerate cfg = .ok pools ∧
      List.Forall₂ (fun subnet pool => subnet.Filled cfg.poolSess pool) cfg.subnets pools := by
  obtain ⟨pools, hpools, hfilled⟩ : ∃ pools, pgwUePoolGenerate cfg = .ok pools ∧
      List.Forall₂ (fun (r : PgwSubnet × Nat) pool => r.1.Filled cfg.poolSess pool)
        cfg.subnets.zipIdx pools := by
    refine Fallible.exists_mapM ?_
    rintro ⟨subnet, id⟩ hmem
    have hsubnet : subnet ∈ cfg.subnets := List.fst_mem_of_mem_zipIdx hmem
    obtain ⟨count, hcount, -⟩ := (hconfigured subnet hsubnet).maskCount
    refine ⟨subnet.generate id cfg.poolSess count.toNat 0 0, ?_,
      (hconfigured subnet hsubnet).generate_spec hpool hcount⟩
    simp only [hcount, Fallible.ok_bind]
  refine ⟨pools, hpools, ?_⟩
  have hmap := List.forall₂_map_left_iff (f := Prod.fst)
    (R := fun (subnet : PgwSubnet) pool => subnet.Filled cfg.poolSess pool)
    (l := cfg.subnets.zipIdx) (u := pools)
  rw [List.zipIdx_map_fst] at hmap
  exact hmap.mpr hfilled

/-- Eight addresses in 10.45.0.0/29 with the gateway 10.45.0.1, and four sessions. -/
def pgwConfigOfEight : PgwConfig where
  subnets := [{
    sub := Pgw.words 0x00002d0a 0 0 0
    mask := Pgw.words 0xf8ffffff 0 0 0
    gw := Pgw.words 0x01002d0a 0 0 0
    apn := []
    family := .inet
    prefixlen := 29 }]
  poolSess := 4

theorem pgwUePoolGenerate_filled_of_eight :
    ∃ pools, pgwUePoolGenerate pgwConfigOfEight = .ok pools ∧
      List.Forall₂ (fun subnet pool => subnet.Filled 4 pool) pgwConfigOfEight.subnets pools :=
  pgwUePoolGenerate_filled pgwConfigOfEight (by
    intro subnet hmem
    obtain rfl := List.mem_singleton.mp hmem
    exact ⟨by decide, by decide, by decide, by decide⟩) (by decide)

end NextEpc
