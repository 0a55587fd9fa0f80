import Mathlib

/-!
# The hosts of a subnet

A subnet of numbers has a prefix that all its numbers share and a number of free bits. Its
hosts are the numbers whose free bits are neither all clear nor all set, but for one that is
reserved. A list of hosts that is cut off at a limit has as many elements as there are hosts,
or as the limit allows, if it is complete or long enough.
-/

namespace Subnet

variable {sub bits gw limit : Nat} {l : List Nat} {S : Set Nat}

/-- The numbers that can be given out: those of the subnet, without the first, the last and
the reserved one. -/
def hosts (sub bits gw : Nat) : Set Nat :=
  {a | a / 2 ^ bits = sub / 2 ^ bits ∧ a % 2 ^ bits ≠ 0 ∧ a % 2 ^ bits ≠ 2 ^ bits - 1 ∧ a ≠ gw}

/-- The numbers of a subnet lie above its first number. -/
theorem mem_hosts_iff (hsub : sub % 2 ^ bits = 0) (a : Nat) :
    a ∈ hosts sub bits gw ↔ ∃ j < 2 ^ bits, a = sub + j ∧ j ≠ 0 ∧ j ≠ 2 ^ bits - 1 ∧ a ≠ gw := by
  have hpos : 0 < 2 ^ bits := Nat.two_pow_pos bits
  have hdiv : sub = 2 ^ bits * (sub / 2 ^ bits) := by
    have := Nat.div_add_mod sub (2 ^ bits)
    omega
  constructor
  · rintro ⟨hhead, hzero, hones, hgw⟩
    have hsplit := Nat.div_add_mod a (2 ^ bits)
    rw [hhead, ← hdiv] at hsplit
    exact ⟨a % 2 ^ bits, Nat.mod_lt _ hpos, hsplit.symm, hzero, hones, hgw⟩
  · rintro ⟨j, hj, rfl, hzero, hones, hgw⟩
    have hmod : (sub + j) % 2 ^ bits = j := by
      rw [Nat.add_mod, hsub, Nat.zero_add, Nat.mod_mod, Nat.mod_eq_of_lt hj]
    have hquot : (sub + j) / 2 ^ bits = sub / 2 ^ bits := by
      rw [Nat.add_div hpos, hsub, Nat.zero_add, Nat.div_eq_of_lt hj, Nat.mod_eq_of_lt hj,
        if_neg (Nat.not_le_of_lt hj)]
      rfl
    exact ⟨hquot, by rwa [hmod], by rwa [hmod], hgw⟩

theorem finite_hosts (hsub : sub % 2 ^ bits = 0) : (hosts sub bits gw).Finite := by
  refine (Set.finite_Iio (sub + 2 ^ bits)).subset ?_
  intro a ha
  obtain ⟨j, hj, rfl, -⟩ := (mem_hosts_iff hsub a).mp ha
  exact Nat.add_lt_add_left hj sub

/-- The number of distinct elements of a list that lies in a finite set. -/
theorem length_le_ncard (hfin : S.Finite) (hnodup : l.Nodup) (hsub : ∀ a ∈ l, a ∈ S) :
    l.length ≤ S.ncard := by
  have hset : (l.toFinset : Set Nat) ⊆ S := fun a ha => hsub a (by simpa using ha)
  have hcard := Set.ncard_le_ncard hset hfin
  rwa [Set.ncard_coe_finset, List.toFinset_card_of_nodup hnodup] at hcard

/-- A list without repetition that has every element of a set, or enough of them, is as long
as the set and the limit allow. -/
theorem length_take_eq_min (hfin : S.Finite) (hnodup : l.Nodup) (hsub : ∀ a ∈ l, a ∈ S)
    (h : (∀ a ∈ S, a ∈ l) ∨ limit ≤ l.length) : (l.take limit).length = min limit S.ncard := by
  have hle := length_le_ncard hfin hnodup hsub
  rw [List.length_take]
  rcases h with hall | hlimit
  · have hset : S ⊆ (l.toFinset : Set Nat) := fun a ha => by simpa using hall a ha
    have hcard := Set.ncard_le_ncard hset l.toFinset.finite_toSet
    rw [Set.ncard_coe_finset, List.toFinset_card_of_nodup hnodup] at hcard
    omega
  · omega

/-- Where only three numbers can be left out, at most three are. -/
theorem length_le_filter_add_three {p : Nat → Bool} {x y z : Nat} (hnodup : l.Nodup)
    (hp : ∀ a, p a = false → a = x ∨ a = y ∨ a = z) :
    l.length ≤ (l.filter p).length + 3 := by
  have hsub : l.filter (fun a => !p a) ⊆ [x, y, z] := by
    intro a ha
    have hfalse : p a = false := by simpa using (List.mem_filter.mp ha).2
    simpa using hp a hfalse
  have hlen := ((hnodup.filter _).subperm hsub).length_le
  have hsplit := l.length_eq_length_filter_add p
  rw [hsplit]
  exact Nat.add_le_add_left hlen _

end Subnet
