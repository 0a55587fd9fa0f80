import NextEpc.Gtp.Types
import NextEpc.Lib.Codec
import NextEpc.Lib.Fallible
import NextEpc.Lib.Tbcd

/-!
# Tracking area identity lists

The list of a UE consists of partial lists, each with a number of tracking areas. The arrays of
the MME have an entry for each of them, and end at an entry without tracking areas.
-/

namespace NextEpc

/-- `OGS_MAX_NUM_OF_TAI`, the number of elements that a partial list may have -/
def ogsMaxNumOfTai : Nat := 16

/-- `OGS_NAS_MAX_TAI_LIST_LEN` -/
def ogsNasMaxTaiListLen : Nat := 96

/-- The places where the lists are asserted to be what they were configured to be. -/
inductive TaiSite
  | servedTai
  | numOfTac
  | list0Type
  | list0Num
  | list2Type
  | list2Num
  deriving DecidableEq, Repr

abbrev TaiM := Fallible TaiSite

/-- `ogs_tai_t`, as the MME keeps it -/
structure MmeTai where
  plmnId : OgsPlmnId
  tac : UInt16
  deriving DecidableEq, Repr

theorem neZero32 : NeZero 32 := ⟨by decide⟩

attribute [local instance] neZero32

def tai0Type : Fin 4 := 0
def tai1Type : Fin 4 := 1
def tai2Type : Fin 4 := 2

/-- An entry of `tai0_list_t` -/
structure Tai0 where
  type : Fin 4
  num : Fin 32
  plmnId : OgsPlmnId
  tac : Vector UInt16 ogsMaxNumOfTai
  deriving DecidableEq, Repr

/-- `tai0_list_t` -/
abbrev Tai0List := Vector Tai0 ogsMaxNumOfTai

/-- `tai2_list_t` -/
structure Tai2List where
  type : Fin 4
  num : Fin 32
  tai : Vector MmeTai ogsMaxNumOfTai
  deriving DecidableEq, Repr

/-! ## PLMN identities -/

/-- `ogs_nas_from_plmn_id` -/
def ogsNasFromPlmnId (plmnId : OgsPlmnId) : OgsPlmnId :=
  let mcc3 := plmnId[1] &&& 0x0f
  let mnc1 := plmnId[1] >>> 4
  let mnc2 := plmnId[2] &&& 0x0f
  let mnc3 := plmnId[2] >>> 4
  if mnc1 ≠ 0x0f then #v[plmnId[0], Tbcd.octet mcc3 mnc3, Tbcd.octet mnc1 mnc2] else plmnId

/-- `ogs_nas_to_plmn_id` -/
def ogsNasToPlmnId (nasPlmnId : OgsPlmnId) : OgsPlmnId :=
  let mcc3 := nasPlmnId[1] &&& 0x0f
  let mnc3 := nasPlmnId[1] >>> 4
  let mnc1 := nasPlmnId[2] &&& 0x0f
  let mnc2 := nasPlmnId[2] >>> 4
  if mnc3 ≠ 0x0f then #v[nasPlmnId[0], Tbcd.octet mcc3 mnc1, Tbcd.octet mnc2 mnc3] else nasPlmnId

/-- The last digit of the network code is not the filler. -/
def OgsPlmnId.IsDecimal (plmnId : OgsPlmnId) : Prop := (plmnId[2] >>> 4).toNat < 10

instance (plmnId : OgsPlmnId) : Decidable plmnId.IsDecimal :=
  inferInstanceAs (Decidable (_ < _))

theorem ogsNasToPlmnId_ogsNasFromPlmnId {plmnId : OgsPlmnId} (h : plmnId.IsDecimal) :
    ogsNasToPlmnId (ogsNasFromPlmnId plmnId) = plmnId := by
  have hmnc3 : plmnId[2] >>> 4 ≠ 0x0f := by
    intro heq
    rw [OgsPlmnId.IsDecimal, heq] at h
    exact absurd h (by decide)
  have hsize : plmnId = #v[plmnId[0], plmnId[1], plmnId[2]] := by
    ext i hi
    match i with
    | 0 => rfl
    | 1 => rfl
    | 2 => rfl
  have hhigh (octet : UInt8) : (octet >>> 4).toNat < 16 := by
    have hlt := octet.toNat_lt
    rw [Tbcd.toNat_shiftRight_nibble]
    omega
  have hlow (octet : UInt8) : (octet &&& 0x0f).toNat < 16 := by
    rw [Tbcd.toNat_and_nibble]
    omega
  unfold ogsNasFromPlmnId
  simp only []
  split_ifs with hmnc1
  · simp only [ogsNasToPlmnId, Vector.getElem_mk, List.getElem_toArray, List.getElem_cons_zero,
      List.getElem_cons_succ, Tbcd.octet_and_nibble (hlow _), Tbcd.octet_and_nibble (hhigh _),
      Tbcd.octet_shiftRight_nibble (hlow _), Tbcd.octet_shiftRight_nibble (hhigh _),
      if_pos hmnc3, Tbcd.octet_nibbles]
    exact hsize.symm
  · have hfiller : plmnId[1] >>> 4 = 0x0f := not_not.mp hmnc1
    simp only [ogsNasToPlmnId, if_neg (not_not.mpr hfiller)]

/-! ## The lists of the MME -/

namespace Tai0

def none : Tai0 := ⟨0, 0, Vector.replicate 3 0, Vector.replicate ogsMaxNumOfTai 0⟩

variable (entry : Tai0)

/-- The tracking areas of an entry -/
def tacs : List UInt16 := entry.tac.toList.take entry.num

end Tai0

namespace Tai2List

def none : Tai2List := ⟨0, 0, Vector.replicate ogsMaxNumOfTai ⟨Vector.replicate 3 0, 0⟩⟩

variable (list2 : Tai2List)

/-- The tracking areas of the list -/
def tais : List MmeTai := list2.tai.toList.take list2.num

end Tai2List

/-! ## Encoding -/

/-- The first octet, with a spare bit -/
def partialListHeader (type : Fin 4) (num : Fin 32) : UInt8 :=
  UInt8.ofNat (type.val * 2 ^ 5 + num.val)

/-- What is copied of an entry -/
def Tai0.octets (entry : Tai0) : Bytes :=
  partialListHeader entry.type (entry.num - 1) :: ((ogsNasFromPlmnId entry.plmnId).toList ++
    entry.tacs.flatMap fun tac => Octets.htons tac.toNat)

def Tai2List.octets (list2 : Tai2List) : Bytes :=
  partialListHeader list2.type (list2.num - 1) :: list2.tais.flatMap fun tai =>
    (ogsNasFromPlmnId tai.plmnId).toList ++ Octets.htons tai.tac.toNat

/-- The first loop of `ogs_nas_tai_list_build`, with whether the function goes on -/
def buildList0 : List Tai0 → Bytes → TaiM (Bytes × Bool)
  | [], _ => .error .outOfBounds
  | entry :: entries, target =>
    if entry.num = 0 then .ok (target, true)
    else do
      Fallible.assert .list0Type (entry.type = tai0Type)
      Fallible.assert .list0Num (entry.num.val < ogsMaxNumOfTai)
      if target.length + (1 + 3 + 2 * entry.num.val) > ogsNasMaxTaiListLen then .ok (target, false)
      else buildList0 entries (target ++ entry.octets)

/-- `ogs_nas_tai_list_build` -/
def ogsNasTaiListBuild (source0 : Tai0List) (source2 : Tai2List) : TaiM Bytes := do
  let (target, more) ← buildList0 source0.toList []
  if more ∧ source2.num ≠ 0 then do
    Fallible.assert .list2Type (source2.type = tai1Type ∨ source2.type = tai2Type)
    Fallible.assert .list2Num (source2.num.val < ogsMaxNumOfTai)
    if target.length + (1 + (3 + 2) * source2.num.val) > ogsNasMaxTaiListLen then .ok target
    else .ok (target ++ source2.octets)
  else .ok target

/-! ## Decoding -/

/-- The forms of a partial list in TS 24.301 -/
inductive PartialTaiList
  | tacs (plmnId : OgsPlmnId) (tacs : List UInt16)
  | consecutive (tai : MmeTai) (num : Nat)
  | tais (tais : List MmeTai)
  deriving DecidableEq, Repr

open Codec

def readTac : Reader UInt8 UInt16
  | high :: low :: rest => some (UInt16.ofNat (high.toNat * 2 ^ 8 + low.toNat), rest)
  | _ => none

def readPlmnId : Reader UInt8 OgsPlmnId
  | a :: b :: c :: rest => some (ogsNasToPlmnId #v[a, b, c], rest)
  | _ => none

def readTai : Reader UInt8 MmeTai :=
  andThen readPlmnId fun plmnId => andThen readTac fun tac => done ⟨plmnId, tac⟩

/-- A partial list. Numbers of elements above the largest one stand for that. -/
def readPartialTaiList : Reader UInt8 PartialTaiList :=
  andThen symbol fun octet =>
    let num := min (octet.toNat % 2 ^ 5 + 1) ogsMaxNumOfTai
    match octet.toNat / 2 ^ 5 % 2 ^ 2 with
    | 0 => andThen readPlmnId fun plmnId =>
      andThen (times readTac num) fun tacs => done (.tacs plmnId tacs)
    | 1 => andThen readTai fun tai => done (.consecutive tai num)
    | 2 => andThen (times readTai num) fun tais => done (.tais tais)
    | _ => fun _ => none

def readTaiList (octets : Bytes) : Option (List PartialTaiList) :=
  exhaust readPartialTaiList octets.length octets

namespace PartialTaiList

/-- The tracking areas of a partial list -/
def areas : PartialTaiList → List MmeTai
  | .tacs plmnId tacList => tacList.map (⟨plmnId, ·⟩)
  | .consecutive tai num => (List.range num).map fun i => ⟨tai.plmnId, tai.tac + UInt16.ofNat i⟩
  | .tais taiList => taiList

/-- Its number of octets -/
def size : PartialTaiList → Nat
  | .tacs _ tacList => 4 + 2 * tacList.length
  | .consecutive _ _ => 6
  | .tais taiList => 1 + 5 * taiList.length

/-! ## Reading back -/

def octets : PartialTaiList → Bytes
  | .tacs plmnId tacList => UInt8.ofNat (0 * 2 ^ 5 + (tacList.length - 1)) ::
    ((ogsNasFromPlmnId plmnId).toList ++ tacList.flatMap fun tac => Octets.htons tac.toNat)
  | .consecutive tai num => UInt8.ofNat (1 * 2 ^ 5 + (num - 1)) ::
    ((ogsNasFromPlmnId tai.plmnId).toList ++ Octets.htons tai.tac.toNat)
  | .tais taiList => UInt8.ofNat (2 * 2 ^ 5 + (taiList.length - 1)) :: taiList.flatMap fun tai =>
    (ogsNasFromPlmnId tai.plmnId).toList ++ Octets.htons tai.tac.toNat

/-- What can be encoded -/
def Encodable : PartialTaiList → Prop
  | .tacs plmnId tacList => plmnId.IsDecimal ∧ 1 ≤ tacList.length ∧ tacList.length ≤ ogsMaxNumOfTai
  | .consecutive tai num => tai.plmnId.IsDecimal ∧ 1 ≤ num ∧ num ≤ ogsMaxNumOfTai
  | .tais taiList => (∀ tai ∈ taiList, tai.plmnId.IsDecimal) ∧ 1 ≤ taiList.length ∧
    taiList.length ≤ ogsMaxNumOfTai

end PartialTaiList

theorem reads_tac (tac : UInt16) : Reads readTac (Octets.htons tac.toNat) tac := by
  intro rest
  have hlt := tac.toNat_lt
  have hvalue : UInt16.ofNat ((UInt8.ofNat (tac.toNat / 2 ^ 8)).toNat * 2 ^ 8 +
      (UInt8.ofNat tac.toNat).toNat) = tac := by
    apply UInt16.toNat_inj.mp
    rw [UInt16.toNat_ofNat', UInt8.toNat_ofNat', UInt8.toNat_ofNat']
    omega
  change some (_, rest) = _
  rw [hvalue]

theorem reads_plmnId {plmnId : OgsPlmnId} (h : plmnId.IsDecimal) :
    Reads readPlmnId (ogsNasFromPlmnId plmnId).toList plmnId := by
  intro rest
  have hthree (v : OgsPlmnId) : v.toList ++ rest = v[0] :: v[1] :: v[2] :: rest := by
    obtain ⟨⟨l⟩, hl⟩ := v
    match l, hl with
    | [a, b, c], _ => rfl
  have hsize (v : OgsPlmnId) : #v[v[0], v[1], v[2]] = v := by
    ext i hi
    match i with
    | 0 => rfl
    | 1 => rfl
    | 2 => rfl
  rw [hthree, readPlmnId, hsize, ogsNasToPlmnId_ogsNasFromPlmnId h]

theorem reads_tai {tai : MmeTai} (h : tai.plmnId.IsDecimal) :
    Reads readTai ((ogsNasFromPlmnId tai.plmnId).toList ++ Octets.htons tai.tac.toNat) tai := by
  unfold readTai
  refine (reads_plmnId h).andThen ?_
  exact (reads_tac tai.tac).map (MmeTai.mk tai.plmnId)

/-- The first octet of a partial list that was encoded -/
theorem reads_partial {type : Nat} {num : Nat} {octets : Bytes} {list : PartialTaiList}
    (htype : type < 3) (hone : 1 ≤ num) (hnum : num ≤ ogsMaxNumOfTai)
    (h : Reads (match type with
      | 0 => andThen readPlmnId fun plmnId =>
        andThen (times readTac num) fun tacs => done (.tacs plmnId tacs)
      | 1 => andThen readTai fun tai => done (.consecutive tai num)
      | 2 => andThen (times readTai num) fun tais => done (.tais tais)
      | _ => fun _ => none) octets list) :
    Reads readPartialTaiList (UInt8.ofNat (type * 2 ^ 5 + (num - 1)) :: octets) list := by
  have hmax : ogsMaxNumOfTai = 16 := rfl
  have hoctet : (UInt8.ofNat (type * 2 ^ 5 + (num - 1))).toNat = type * 2 ^ 5 + (num - 1) := by
    rw [UInt8.toNat_ofNat']
    omega
  have hnum' : min ((type * 2 ^ 5 + (num - 1)) % 2 ^ 5 + 1) ogsMaxNumOfTai = num := by omega
  have htype' : (type * 2 ^ 5 + (num - 1)) / 2 ^ 5 % 2 ^ 2 = type := by omega
  unfold readPartialTaiList
  change Reads _ ([_] ++ octets) list
  refine (reads_symbol _).andThen ?_
  rw [hoctet, hnum', htype']
  exact h

namespace PartialTaiList

theorem reads {list : PartialTaiList} (h : list.Encodable) :
    Reads readPartialTaiList list.octets list := by
  cases list with
  | tacs plmnId tacList =>
    obtain ⟨hplmnId, hone, hnum⟩ := h
    have htacs : Reads (times readTac tacList.length)
        (tacList.flatMap fun tac => Octets.htons tac.toNat) tacList :=
      Reads.times fun tac _ => reads_tac tac
    apply reads_partial (by decide) hone hnum
    refine (reads_plmnId hplmnId).andThen ?_
    exact htacs.map (PartialTaiList.tacs plmnId)
  | consecutive tai num =>
    obtain ⟨hplmnId, hone, hnum⟩ := h
    have hread := (reads_tai hplmnId).map (PartialTaiList.consecutive · num)
    exact reads_partial (by decide) hone hnum hread
  | tais taiList =>
    obtain ⟨hplmnId, hone, hnum⟩ := h
    have htais : Reads (times readTai taiList.length) (taiList.flatMap fun tai =>
        (ogsNasFromPlmnId tai.plmnId).toList ++ Octets.htons tai.tac.toNat) taiList :=
      Reads.times fun tai htai => reads_tai (hplmnId tai htai)
    exact reads_partial (by decide) hone hnum (htais.map PartialTaiList.tais)

theorem length_octets (list : PartialTaiList) : list.octets.length = list.size := by
  cases list with
  | tacs plmnId tacList =>
    simp [octets, size, Octets.htons]
    omega
  | consecutive tai num => simp [octets, size, Octets.htons]
  | tais taiList =>
    simp [octets, size, Octets.htons]
    omega

theorem octets_ne_nil (list : PartialTaiList) : list.octets ≠ [] := by
  cases list <;> exact List.cons_ne_nil _ _

end PartialTaiList

/-- Partial lists are read back from their octets. -/
theorem readTaiList_octets {lists : List PartialTaiList} (h : ∀ list ∈ lists, list.Encodable) :
    readTaiList (lists.flatMap PartialTaiList.octets) = some lists := by
  unfold readTaiList
  apply Reads.exhaust_eq fun list hlist => ⟨PartialTaiList.reads (h list hlist), list.octets_ne_nil⟩
  clear h
  induction lists with
  | nil => exact Nat.zero_le _
  | cons list lists ih =>
    have hpos := List.length_pos_of_ne_nil list.octets_ne_nil
    rw [List.flatMap_cons, List.length_append, List.length_cons]
    omega

/-! ## The list that is built -/

namespace Tai0
variable {entry : Tai0}

/-- What is asserted of an entry with tracking areas -/
def Valid (entry : Tai0) : Prop :=
  entry.type = tai0Type ∧ entry.num ≠ 0 ∧ entry.num.val < ogsMaxNumOfTai

def partialList (entry : Tai0) : PartialTaiList := .tacs entry.plmnId entry.tacs

theorem length_tacs (h : entry.Valid) : entry.tacs.length = entry.num.val := by
  have hlt := h.2.2
  rw [tacs, List.length_take, Vector.length_toList]
  exact Nat.min_eq_left hlt.le

theorem octets_eq (h : entry.Valid) : entry.octets = entry.partialList.octets := by
  have hnum : (entry.num - 1).val = entry.tacs.length - 1 := by
    have hpos : entry.num.val ≠ 0 := fun h0 => h.2.1 (Fin.ext h0)
    rw [length_tacs h]
    omega
  rw [octets, partialListHeader, h.1, hnum]
  rfl

theorem size_partialList (h : entry.Valid) :
    entry.partialList.size = 1 + 3 + 2 * entry.num.val := by
  change 4 + 2 * entry.tacs.length = _
  rw [length_tacs h]

end Tai0

/-- All entries are encoded if there is room for them, and else those before the first one for
which there is not. -/
theorem buildList0_eq {entries : List Tai0} (h : ∀ entry ∈ entries, entry.Valid) {stop : Tai0}
    (hstop : stop.num = 0) (rest : List Tai0) {target : Bytes}
    (htarget : target.length ≤ ogsNasMaxTaiListLen) :
    buildList0 (entries ++ stop :: rest) target =
      .ok (target ++ (fitting PartialTaiList.size (ogsNasMaxTaiListLen - target.length)
          (entries.map Tai0.partialList)).flatMap PartialTaiList.octets,
        decide (target.length + ((entries.map Tai0.partialList).map PartialTaiList.size).sum ≤
          ogsNasMaxTaiListLen)) := by
  induction entries generalizing target with
  | nil => simp [buildList0, hstop, fitting, htarget]
  | cons entry entries ih =>
    have hvalid := h entry List.mem_cons_self
    have hsize := Tai0.size_partialList hvalid
    have hlength : entry.octets.length = entry.partialList.size := by
      rw [Tai0.octets_eq hvalid, PartialTaiList.length_octets]
    rw [List.cons_append, buildList0, if_neg hvalid.2.1, Fallible.assert_of hvalid.1,
      Fallible.ok_bind, Fallible.assert_of hvalid.2.2, Fallible.ok_bind, ← hsize, List.map_cons,
      List.map_cons, List.sum_cons, fitting]
    by_cases hroom : target.length + entry.partialList.size ≤ ogsNasMaxTaiListLen
    · rw [if_neg (by omega), if_pos (by omega),
        ih (fun e he => h e (List.mem_cons_of_mem entry he)) (by rw [List.length_append]; omega),
        List.length_append, hlength, Nat.sub_sub, List.flatMap_cons, List.append_assoc,
        ← Tai0.octets_eq hvalid, Nat.add_assoc]
    · have hmore : ¬target.length + (entry.partialList.size +
          ((entries.map Tai0.partialList).map PartialTaiList.size).sum) ≤ ogsNasMaxTaiListLen := by
        omega
      rw [if_pos (by omega), if_neg (by omega), List.flatMap_nil, List.append_nil,
        decide_eq_false hmore]

namespace Tai2List
variable {list2 : Tai2List}

/-- What the configuration makes of the list -/
def Valid (list2 : Tai2List) : Prop :=
  list2.num.val < ogsMaxNumOfTai ∧
    (list2.num ≠ 0 → list2.type = if list2.num.val = 1 then tai1Type else tai2Type)

/-- The partial list, unless there are no tracking areas -/
def partialLists (list2 : Tai2List) : List PartialTaiList :=
  match list2.tais with
  | [] => []
  | [tai] => [.consecutive tai 1]
  | tais => [.tais tais]

theorem length_tais (h : list2.Valid) : list2.tais.length = list2.num.val := by
  have hlt := h.1
  rw [tais, List.length_take, Vector.length_toList]
  exact Nat.min_eq_left hlt.le

theorem partialLists_eq (h : list2.Valid) (hnum : list2.num ≠ 0) :
    ∃ list, list2.partialLists = [list] ∧ list2.octets = list.octets ∧
      list.size = 1 + (3 + 2) * list2.num.val := by
  have hlength := length_tais h
  have hpos : list2.num.val ≠ 0 := fun h0 => hnum (Fin.ext h0)
  have htype := h.2 hnum
  have hval : (list2.num - 1).val = list2.num.val - 1 := by omega
  unfold partialLists octets partialListHeader
  rw [hval, ← hlength]
  rw [← hlength] at htype hpos
  match htais : list2.tais with
  | [] =>
    rw [htais] at hpos
    exact absurd rfl hpos
  | [tai] =>
    rw [htais, List.length_singleton, if_pos rfl] at htype
    refine ⟨.consecutive tai 1, rfl, ?_, rfl⟩
    rw [htype, List.flatMap_singleton]
    rfl
  | tai :: tai' :: taiList =>
    rw [htais, if_neg (by simp)] at htype
    refine ⟨.tais (tai :: tai' :: taiList), rfl, ?_, rfl⟩
    rw [htype]
    rfl

end Tai2List

/-- The longest beginning of the partial lists for which there is room is encoded. -/
theorem ogsNasTaiListBuild_eq {source0 : Tai0List} {source2 : Tai2List} {entries rest : List Tai0}
    {stop : Tai0} (hsource0 : source0.toList = entries ++ stop :: rest) (hstop : stop.num = 0)
    (h : ∀ entry ∈ entries, entry.Valid) (h2 : source2.Valid) :
    ogsNasTaiListBuild source0 source2 =
      .ok ((fitting PartialTaiList.size ogsNasMaxTaiListLen
        (entries.map Tai0.partialList ++ source2.partialLists)).flatMap PartialTaiList.octets) := by
  have hbuild : buildList0 (entries ++ stop :: rest) [] = _ :=
    buildList0_eq h hstop rest (Nat.zero_le _)
  rw [List.nil_append, List.length_nil, Nat.sub_zero, Nat.zero_add] at hbuild
  rw [ogsNasTaiListBuild, hsource0, hbuild, Fallible.ok_bind]
  generalize hlists : entries.map Tai0.partialList = lists
  simp only [decide_eq_true_eq]
  by_cases hroom : (lists.map PartialTaiList.size).sum ≤ ogsNasMaxTaiListLen
  · rw [fitting_append_of_le hroom, fitting_eq_self hroom]
    by_cases hnum : source2.num = 0
    · have hempty : source2.partialLists = [] := by
        have hlength := Tai2List.length_tais h2
        rw [hnum] at hlength
        rw [Tai2List.partialLists, List.eq_nil_of_length_eq_zero hlength]
      rw [if_neg (by simp [hnum]), hempty, fitting, List.append_nil]
    · obtain ⟨list, hlist, hoctets, hsize⟩ := Tai2List.partialLists_eq h2 hnum
      have htype : source2.type = tai1Type ∨ source2.type = tai2Type := by
        rw [h2.2 hnum]
        split_ifs
        · exact .inl rfl
        · exact .inr rfl
      have hlength : (lists.flatMap PartialTaiList.octets).length =
          (lists.map PartialTaiList.size).sum := by
        simp only [List.length_flatMap, PartialTaiList.length_octets]
      rw [if_pos ⟨hroom, hnum⟩, Fallible.assert_of htype, Fallible.ok_bind,
        Fallible.assert_of h2.1, Fallible.ok_bind, hlist, fitting, fitting, hlength, ← hsize,
        hoctets]
      by_cases hfits : list.size ≤ ogsNasMaxTaiListLen - (lists.map PartialTaiList.size).sum
      · rw [if_neg (by omega), if_pos hfits, List.flatMap_append, List.flatMap_singleton]
      · rw [if_pos (by omega), if_neg hfits, List.append_nil]
  · rw [fitting_append_of_lt (by omega), if_neg (by simp [hroom])]

end NextEpc
