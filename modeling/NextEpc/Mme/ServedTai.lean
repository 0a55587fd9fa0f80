import NextEpc.Nas.TaiList

/-!
# Served tracking areas

The configuration of the MME has lists of tracking areas. A UE is served by the first of them that
has its tracking area, and is sent this list.
-/

namespace NextEpc

open Codec

attribute [local instance] neZero32

/-- `MAX_NUM_OF_SERVED_TAI` -/
def maxNumOfServedTai : Nat := 16

/-- An element of `served_tai` -/
structure ServedTai where
  list0 : Tai0List
  list2 : Tai2List
  deriving DecidableEq, Repr

def ServedTai.none : ServedTai := ⟨Vector.replicate ogsMaxNumOfTai Tai0.none, Tai2List.none⟩

/-- A network that `ogs_plmn_id_build` is given -/
abbrev ConfiguredPlmnId := { plmnId : OgsPlmnId // plmnId.IsDecimal }

/-- An element of `tai` in the configuration, which may lack a code of the network. -/
structure TaiEntry where
  plmnId : Option ConfiguredPlmnId
  tac : List UInt16
  deriving DecidableEq, Repr

/-! ## The configuration -/

/-- One round of the loop over the elements of `tai`, with `num_of_list0` -/
def parseTaiEntry (state : ServedTai × Nat) (entry : TaiEntry) : TaiM (ServedTai × Nat) := do
  let (served, numOfList0) := state
  -- `num_of_tac` is asserted not to be more than the size of the array.
  if entry.tac.length > ogsMaxNumOfTai then .error .outOfBounds
  match entry.plmnId, entry.tac with
  | some plmnId, [tac] =>
    if h : served.list2.num.val < ogsMaxNumOfTai then
      let tai := served.list2.tai.set served.list2.num.val ⟨plmnId.1, tac⟩ h
      let num := served.list2.num + 1
      let list2 : Tai2List := ⟨if num.val > 1 then tai2Type else tai1Type, num, tai⟩
      .ok ({ served with list2 }, numOfList0)
    else .error .outOfBounds
  | some plmnId, tac :: tac' :: tacs =>
    if h : numOfList0 < ogsMaxNumOfTai then
      let old := served.list0.get ⟨numOfList0, h⟩
      let list0 := served.list0.set numOfList0
        { type := tai0Type
          num := Fin.ofNat 32 (tacs.length + 2)
          plmnId := plmnId.1
          tac := Vector.ofFn fun i => (tac :: tac' :: tacs).getD i (old.tac.get i) } h
      .ok ({ served with list0 }, numOfList0 + 1)
    else .error .outOfBounds
  | _, _ => .ok (served, numOfList0)

/-- The `tai` of the configuration. A list without usable elements leaves its record to the
next. -/
def parseTai (served : List ServedTai) (group : List TaiEntry) : TaiM (List ServedTai) := do
  Fallible.assert .servedTai (served.length ≤ maxNumOfServedTai)
  let (servedTai, numOfList0) ← group.foldlM parseTaiEntry (ServedTai.none, 0)
  if servedTai.list2.num ≠ 0 ∨ numOfList0 ≠ 0 then
    if served.length < maxNumOfServedTai then .ok (served ++ [servedTai])
    else .error .outOfBounds
  else .ok served

/-- `served_tai`, up to `num_of_served_tai` -/
def mmeServedTai (groups : List (List TaiEntry)) : TaiM (List ServedTai) :=
  groups.foldlM parseTai []

/-! ## The lookup -/

/-- The loop over `list0` in `mme_find_served_tai` -/
def findInList0 (tai : MmeTai) : List Tai0 → TaiM Bool
  | [] => .error .outOfBounds
  | entry :: entries =>
    if entry.num = 0 then .ok false
    else do
      Fallible.assert .list0Type (entry.type = tai0Type)
      Fallible.assert .list0Num (entry.num.val < ogsMaxNumOfTai)
      if entry.tacs.any fun tac => entry.plmnId = tai.plmnId && tac = tai.tac then .ok true
      else findInList0 tai entries

def findInList2 (tai : MmeTai) (list2 : Tai2List) : TaiM Bool :=
  if list2.num = 0 then .ok false
  else do
    Fallible.assert .list2Type (list2.type = tai1Type ∨ list2.type = tai2Type)
    Fallible.assert .list2Num (list2.num.val < ogsMaxNumOfTai)
    .ok (list2.tais.any fun served => served.plmnId = tai.plmnId && served.tac = tai.tac)

/-- `mme_find_served_tai`, from an index on -/
def findServedTaiFrom (tai : MmeTai) : (i : Nat) → List ServedTai → TaiM Int
  | _, [] => .ok (-1)
  | i, servedTai :: served => do
    if ← findInList0 tai servedTai.list0.toList then .ok i
    else if ← findInList2 tai servedTai.list2 then .ok i
    else findServedTaiFrom tai (i + 1) served

/-- `mme_find_served_tai` -/
def mmeFindServedTai (served : List ServedTai) (tai : MmeTai) : TaiM Int :=
  findServedTaiFrom tai 0 served

/-! ## What is configured -/

namespace TaiEntry

/-- The tracking areas of an element, if it is used -/
def areas (entry : TaiEntry) : List MmeTai :=
  match entry.plmnId with
  | some plmnId => entry.tac.map (⟨plmnId.1, ·⟩)
  | none => []

/-- The partial list of an element with several tracking areas -/
def list0? (entry : TaiEntry) : Option PartialTaiList :=
  match entry.plmnId, entry.tac with
  | some plmnId, tac :: tac' :: tacs => some (.tacs plmnId.1 (tac :: tac' :: tacs))
  | _, _ => none

/-- The tracking area of an element with a single one -/
def single? (entry : TaiEntry) : Option MmeTai :=
  match entry.plmnId, entry.tac with
  | some plmnId, [tac] => some ⟨plmnId.1, tac⟩
  | _, _ => none

end TaiEntry

/-- The partial list of the elements with a single tracking area -/
def singlesList : List MmeTai → List PartialTaiList
  | [] => []
  | [tai] => [.consecutive tai 1]
  | tais => [.tais tais]

/-- The partial lists of the elements, those with several tracking areas first -/
def partialLists (group : List TaiEntry) : List PartialTaiList :=
  group.filterMap TaiEntry.list0? ++ singlesList (group.filterMap TaiEntry.single?)

/-- The lists that have tracking areas -/
def usedGroups (groups : List (List TaiEntry)) : List (List TaiEntry) :=
  groups.filter fun group => partialLists group ≠ []

/-- One entry of each array is left over. -/
structure WithinArrays (group : List TaiEntry) : Prop where
  tacs : ∀ entry ∈ group, entry.tac.length < ogsMaxNumOfTai
  list0 : (group.filterMap TaiEntry.list0?).length < ogsMaxNumOfTai
  list2 : (group.filterMap TaiEntry.single?).length < ogsMaxNumOfTai

/-! ## The arrays of a list -/

/-- The arrays after some elements, with `num_of_list0` -/
structure Parsed (group : List TaiEntry) (state : ServedTai × Nat) : Prop where
  numOfList0 : state.2 = (group.filterMap TaiEntry.list0?).length
  list0 : ∃ entries, state.1.list0.toList =
      entries ++ List.replicate (ogsMaxNumOfTai - state.2) Tai0.none ∧
    entries.map Tai0.partialList = group.filterMap TaiEntry.list0? ∧ ∀ entry ∈ entries, entry.Valid
  num : state.1.list2.num.val = (group.filterMap TaiEntry.single?).length
  list2 : state.1.list2.Valid
  tais : state.1.list2.tais = group.filterMap TaiEntry.single?

theorem parsed_nil : Parsed [] (ServedTai.none, 0) where
  numOfList0 := rfl
  list0 := ⟨[], rfl, rfl, nofun⟩
  num := rfl
  list2 := ⟨by decide, fun h => absurd rfl h⟩
  tais := rfl

theorem take_ofFn_getD {α : Type} {n : Nat} {l : List α} (h : l.length ≤ n) (old : Fin n → α) :
    (Vector.ofFn fun i : Fin n => l.getD i (old i)).toList.take l.length = l := by
  apply List.ext_getElem
  · rw [List.length_take, Vector.length_toList, Nat.min_eq_left h]
  · intro i hi hi'
    simp [hi']

theorem WithinArrays.of_append {group group' : List TaiEntry} (h : WithinArrays (group ++ group')) :
    WithinArrays group where
  tacs entry hentry := h.tacs entry (List.mem_append_left _ hentry)
  list0 := by
    have hlt := h.list0
    rw [List.filterMap_append, List.length_append] at hlt
    omega
  list2 := by
    have hlt := h.list2
    rw [List.filterMap_append, List.length_append] at hlt
    omega

/-- An element with several tracking areas takes the next entry. -/
theorem Parsed.several {group : List TaiEntry} {state : ServedTai × Nat} (h : Parsed group state)
    {plmnId : ConfiguredPlmnId} {tac tac' : UInt16} {tacs : List UInt16}
    (hwithin : WithinArrays (group ++ [⟨some plmnId, tac :: tac' :: tacs⟩])) :
    ∃ state', parseTaiEntry state ⟨some plmnId, tac :: tac' :: tacs⟩ = .ok state' ∧
      Parsed (group ++ [⟨some plmnId, tac :: tac' :: tacs⟩]) state' := by
  obtain ⟨served, numOfList0⟩ := state
  have htacs : (tac :: tac' :: tacs).length < ogsMaxNumOfTai :=
    hwithin.tacs _ (List.mem_append_right _ (List.mem_singleton_self _))
  have hmax : ogsMaxNumOfTai = 16 := rfl
  have hlist0 := hwithin.list0
  rw [List.filterMap_append, List.length_append] at hlist0
  have hnum : numOfList0 < ogsMaxNumOfTai := by
    have heq : numOfList0 = _ := h.numOfList0
    omega
  obtain ⟨entries, hentries, hpart, hvalid⟩ := h.list0
  have hlength : entries.length = numOfList0 := by
    rw [← List.length_map Tai0.partialList, hpart]
    exact h.numOfList0.symm
  have hval : (Fin.ofNat 32 (tacs.length + 2)).val = (tac :: tac' :: tacs).length := by
    change (tacs.length + 2) % 32 = tacs.length + 2
    rw [List.length_cons, List.length_cons] at htacs
    omega
  simp only [parseTaiEntry, if_neg htacs.not_gt, dif_pos hnum]
  refine ⟨_, rfl, ?_, ?_, ?_, ?_, ?_⟩
  · rw [List.filterMap_append, List.length_append, ← h.numOfList0]
    rfl
  · generalize hentry : (Tai0.mk tai0Type (Fin.ofNat 32 (tacs.length + 2)) plmnId.1 _) = entry
    have htacsEq : entry.tacs = tac :: tac' :: tacs := by
      rw [← hentry, Tai0.tacs, hval]
      exact take_ofFn_getD htacs.le _
    refine ⟨entries ++ [entry], ?_, ?_, ?_⟩
    · have hreplicate : ogsMaxNumOfTai - numOfList0 = (ogsMaxNumOfTai - (numOfList0 + 1)) + 1 := by
        omega
      change (served.list0.set numOfList0 entry hnum).toList = _
      rw [Vector.toList_set, hentries, List.set_append_right _ _ hlength.le, hlength, Nat.sub_self,
        hreplicate, List.replicate_succ, List.set_cons_zero, List.append_assoc,
        List.singleton_append]
    · rw [List.map_append, hpart, List.filterMap_append, List.map_singleton, Tai0.partialList,
        htacsEq, ← hentry]
      rfl
    · intro entry' hentry'
      rcases List.mem_append.mp hentry' with hold | hnew
      · exact hvalid entry' hold
      · obtain rfl := List.mem_singleton.mp hnew
        have hnumVal : entry'.num.val = (tac :: tac' :: tacs).length := by
          rw [← hentry, hval]
        refine ⟨by rw [← hentry], ?_, by rw [hnumVal]; exact htacs⟩
        intro hzero
        rw [hzero] at hnumVal
        simp at hnumVal
  · rw [List.filterMap_append, List.length_append, h.num]
    rfl
  · exact h.list2
  · rw [List.filterMap_append]
    exact h.tais.trans (List.append_nil _).symm

/-- An element with a single tracking area is appended to the other array. -/
theorem Parsed.single {group : List TaiEntry} {state : ServedTai × Nat} (h : Parsed group state)
    {plmnId : ConfiguredPlmnId} {tac : UInt16}
    (hwithin : WithinArrays (group ++ [⟨some plmnId, [tac]⟩])) :
    ∃ state', parseTaiEntry state ⟨some plmnId, [tac]⟩ = .ok state' ∧
      Parsed (group ++ [⟨some plmnId, [tac]⟩]) state' := by
  obtain ⟨served, numOfList0⟩ := state
  have hmax : ogsMaxNumOfTai = 16 := rfl
  have hlist2 := hwithin.list2
  rw [List.filterMap_append, List.length_append] at hlist2
  have hold := h.num
  have hsingle : ([⟨some plmnId, [tac]⟩] : List TaiEntry).filterMap TaiEntry.single? =
      [⟨plmnId.1, tac⟩] := rfl
  rw [hsingle, List.length_singleton] at hlist2
  have hnum : served.list2.num.val < ogsMaxNumOfTai := by
    rw [hold]
    omega
  have hval : (served.list2.num + 1).val = served.list2.num.val + 1 := by
    change (served.list2.num.val + 1) % 32 = _
    omega
  have hone : ¬([tac] : List UInt16).length > ogsMaxNumOfTai := by
    rw [List.length_singleton]
    omega
  simp only [parseTaiEntry, if_neg hone, dif_pos hnum]
  refine ⟨_, rfl, ?_, ?_, ?_, ⟨?_, ?_⟩, ?_⟩
  · rw [List.filterMap_append]
    exact h.numOfList0.trans (congrArg List.length (List.append_nil _).symm)
  · obtain ⟨entries, hentries, hpart, hvalid⟩ := h.list0
    refine ⟨entries, hentries, ?_, hvalid⟩
    rw [List.filterMap_append]
    exact hpart.trans (List.append_nil _).symm
  · rw [List.filterMap_append, List.length_append, ← hold]
    exact hval
  · change (served.list2.num + 1).val < _
    rw [hval, hold]
    exact hlist2
  · intro _
    change (if (served.list2.num + 1).val > 1 then tai2Type else tai1Type) =
      if (served.list2.num + 1).val = 1 then tai1Type else tai2Type
    rw [hval]
    split_ifs
    · omega
    · rfl
    · rfl
    · omega
  · have htake : (served.list2.tai.set served.list2.num.val ⟨plmnId.1, tac⟩ hnum).toList.take
        (served.list2.num + 1).val = served.list2.tais ++ [⟨plmnId.1, tac⟩] := by
      have hlt : served.list2.num.val < served.list2.tai.toList.length := by
        rw [Vector.length_toList]
        exact hnum
      rw [hval, Vector.toList_set, List.take_add_one, List.take_set_of_le (Nat.le_refl _),
        List.getElem?_set_self hlt, Tai2List.tais, Option.toList_some]
    rw [List.filterMap_append, hsingle, ← h.tais]
    exact htake

/-- An element without a network or without tracking areas is ignored. -/
theorem Parsed.ignored {group : List TaiEntry} {state : ServedTai × Nat} (h : Parsed group state)
    {entry : TaiEntry} (hlist0 : entry.list0? = none) (hsingle : entry.single? = none) :
    Parsed (group ++ [entry]) state := by
  have h0 : (group ++ [entry]).filterMap TaiEntry.list0? = group.filterMap TaiEntry.list0? := by
    rw [List.filterMap_append, List.filterMap_cons_none hlist0, List.filterMap_nil,
      List.append_nil]
  have h2 : (group ++ [entry]).filterMap TaiEntry.single? = group.filterMap TaiEntry.single? := by
    rw [List.filterMap_append, List.filterMap_cons_none hsingle, List.filterMap_nil,
      List.append_nil]
  constructor
  · rw [h0]
    exact h.numOfList0
  · rw [h0]
    exact h.list0
  · rw [h2]
    exact h.num
  · exact h.list2
  · rw [h2]
    exact h.tais

theorem Parsed.entry {group : List TaiEntry} {state : ServedTai × Nat} (h : Parsed group state)
    {entry : TaiEntry} (hwithin : WithinArrays (group ++ [entry])) :
    ∃ state', parseTaiEntry state entry = .ok state' ∧ Parsed (group ++ [entry]) state' := by
  have hle : ¬entry.tac.length > ogsMaxNumOfTai :=
    (hwithin.tacs entry (List.mem_append_right _ (List.mem_singleton_self _))).not_gt
  obtain ⟨_ | plmnId, tacs⟩ := entry
  · refine ⟨state, ?_, h.ignored rfl rfl⟩
    simp only [parseTaiEntry, if_neg hle]
  · match tacs with
    | [] =>
      refine ⟨state, ?_, h.ignored rfl rfl⟩
      simp only [parseTaiEntry, if_neg hle]
    | [tac] => exact h.single hwithin
    | tac :: tac' :: tacs => exact h.several hwithin

theorem Parsed.entries {group rest : List TaiEntry} {state : ServedTai × Nat}
    (h : Parsed group state) (hwithin : WithinArrays (group ++ rest)) :
    ∃ state', rest.foldlM parseTaiEntry state = .ok state' ∧ Parsed (group ++ rest) state' := by
  induction rest generalizing group state with
  | nil =>
    rw [List.append_nil]
    exact ⟨state, rfl, h⟩
  | cons entry rest ih =>
    rw [List.append_cons] at hwithin ⊢
    obtain ⟨next, hnext, hparsed⟩ := h.entry hwithin.of_append
    rw [List.foldlM_cons, hnext, Fallible.ok_bind]
    exact ih hparsed hwithin

/-! ## The records -/

theorem singlesList_eq_nil {tais : List MmeTai} : singlesList tais = [] ↔ tais = [] := by
  match tais with
  | [] => exact iff_of_true rfl rfl
  | [_] => simp [singlesList]
  | _ :: _ :: _ => simp [singlesList]

/-- A record is that of a list. -/
def ServedTai.IsOf (servedTai : ServedTai) (group : List TaiEntry) : Prop :=
  ∃ numOfList0, Parsed group (servedTai, numOfList0)

theorem parseTai_eq {served : List ServedTai} {group : List TaiEntry} (h : WithinArrays group)
    (hlen : served.length + (usedGroups [group]).length ≤ maxNumOfServedTai) :
    ∃ servedTais, parseTai served group = .ok (served ++ servedTais) ∧
      List.Forall₂ ServedTai.IsOf servedTais (usedGroups [group]) := by
  obtain ⟨⟨servedTai, numOfList0⟩, hparse, hparsed⟩ := parsed_nil.entries h
  rw [List.nil_append] at hparsed
  have hused : (servedTai.list2.num ≠ 0 ∨ numOfList0 ≠ 0) ↔ partialLists group ≠ [] := by
    have hnum : servedTai.list2.num = 0 ↔ group.filterMap TaiEntry.single? = [] := by
      rw [← List.length_eq_zero_iff, ← hparsed.num]
      exact Fin.ext_iff
    have hnumOfList0 : numOfList0 = 0 ↔ group.filterMap TaiEntry.list0? = [] := by
      rw [← List.length_eq_zero_iff, ← hparsed.numOfList0]
    have hnil : partialLists group = [] ↔ numOfList0 = 0 ∧ servedTai.list2.num = 0 := by
      rw [partialLists, List.append_eq_nil_iff, singlesList_eq_nil, hnum, hnumOfList0]
    rw [ne_eq, ne_eq, ne_eq, hnil]
    tauto
  rw [parseTai, Fallible.assert_of (by omega), Fallible.ok_bind, hparse, Fallible.ok_bind]
  simp only []
  by_cases hne : partialLists group ≠ []
  · have hfilter : usedGroups [group] = [group] := by simp [usedGroups, hne]
    rw [hfilter, List.length_singleton] at hlen
    rw [if_pos (hused.mpr hne), if_pos (by omega), hfilter]
    exact ⟨[servedTai], rfl, .cons ⟨numOfList0, hparsed⟩ .nil⟩
  · have hfilter : usedGroups [group] = [] := by
      rw [not_not] at hne
      simp [usedGroups, hne]
    rw [if_neg (mt hused.mp hne), hfilter]
    exact ⟨[], by rw [List.append_nil], .nil⟩

theorem mmeServedTai_eq {groups : List (List TaiEntry)} (h : ∀ group ∈ groups, WithinArrays group)
    (hlen : (usedGroups groups).length ≤ maxNumOfServedTai) :
    ∃ served, mmeServedTai groups = .ok served ∧
      List.Forall₂ ServedTai.IsOf served (usedGroups groups) := by
  have hrun (served : List ServedTai) (hserved : served.length + (usedGroups groups).length ≤
      maxNumOfServedTai) : ∃ servedTais, groups.foldlM parseTai served = .ok (served ++ servedTais) ∧
        List.Forall₂ ServedTai.IsOf servedTais (usedGroups groups) := by
    clear hlen
    induction groups generalizing served with
    | nil => exact ⟨[], by rw [List.append_nil]; rfl, .nil⟩
    | cons group groups ih =>
      have hcons : usedGroups (group :: groups) = usedGroups [group] ++ usedGroups groups := by
        rw [usedGroups, ← List.singleton_append, List.filter_append]
        rfl
      rw [hcons, List.length_append] at hserved
      obtain ⟨first, hfirst, hof⟩ := parseTai_eq (h group List.mem_cons_self)
        (by omega : served.length + (usedGroups [group]).length ≤ maxNumOfServedTai)
      obtain ⟨servedTais, hrest, hofs⟩ := ih (fun g hg => h g (List.mem_cons_of_mem group hg))
        (served ++ first) (by rw [List.length_append, hof.length_eq]; omega)
      refine ⟨first ++ servedTais, ?_, ?_⟩
      · rw [List.foldlM_cons, hfirst, Fallible.ok_bind, hrest, List.append_assoc]
      · rw [hcons]
        exact List.rel_append hof hofs
  obtain ⟨served, hserved, hof⟩ := hrun [] (by rw [List.length_nil]; omega)
  exact ⟨served, hserved, hof⟩

/-! ## The tracking areas that are found -/

variable {tai : MmeTai}

/-- A tracking area is in one of some partial lists. -/
def InLists (tai : MmeTai) (lists : List PartialTaiList) : Prop := ∃ list ∈ lists, tai ∈ list.areas

instance (tai : MmeTai) (lists : List PartialTaiList) : Decidable (InLists tai lists) :=
  inferInstanceAs (Decidable (∃ list ∈ lists, tai ∈ list.areas))

theorem any_tais_iff {tais : List MmeTai} :
    (tais.any fun served => served.plmnId = tai.plmnId && served.tac = tai.tac) = true ↔
      tai ∈ tais := by
  rw [List.any_eq_true]
  constructor
  · rintro ⟨served, hserved, heq⟩
    rw [Bool.and_eq_true, decide_eq_true_eq, decide_eq_true_eq] at heq
    obtain rfl : served = tai := by
      cases served
      cases tai
      rw [MmeTai.mk.injEq]
      exact heq
    exact hserved
  · intro h
    exact ⟨tai, h, by simp⟩

theorem findInList0_eq {entries rest : List Tai0} {stop : Tai0} (hstop : stop.num = 0)
    (h : ∀ entry ∈ entries, entry.Valid) : findInList0 tai (entries ++ stop :: rest) =
      .ok (decide (InLists tai (entries.map Tai0.partialList))) := by
  induction entries with
  | nil => simp [findInList0, hstop, InLists]
  | cons entry entries ih =>
    have hvalid := h entry List.mem_cons_self
    have hany : (entry.tacs.any fun tac => entry.plmnId = tai.plmnId && tac = tai.tac) = true ↔
        tai ∈ entry.partialList.areas := by
      rw [← any_tais_iff]
      change _ ↔ ((entry.tacs.map (MmeTai.mk entry.plmnId)).any _) = true
      rw [List.any_map]
      rfl
    rw [List.cons_append, findInList0, if_neg hvalid.2.1, Fallible.assert_of hvalid.1,
      Fallible.ok_bind, Fallible.assert_of hvalid.2.2, Fallible.ok_bind,
      ih fun e he => h e (List.mem_cons_of_mem entry he)]
    have hcons : InLists tai ((entry :: entries).map Tai0.partialList) ↔
        tai ∈ entry.partialList.areas ∨ InLists tai (entries.map Tai0.partialList) := by
      simp only [InLists, List.map_cons, List.mem_cons, exists_eq_or_imp]
    simp only [hany]
    split_ifs with hmem
    · rw [decide_eq_true (hcons.mpr (.inl hmem))]
    · rw [decide_eq_decide.mpr (hcons.trans (or_iff_right hmem))]

theorem findInList2_eq {list2 : Tai2List} (h : list2.Valid) :
    findInList2 tai list2 = .ok (decide (tai ∈ list2.tais)) := by
  unfold findInList2
  split_ifs with hnum
  · have hlength := Tai2List.length_tais h
    rw [hnum] at hlength
    rw [List.eq_nil_of_length_eq_zero hlength]
    rfl
  · have htype : list2.type = tai1Type ∨ list2.type = tai2Type := by
      rw [h.2 hnum]
      split_ifs
      · exact .inl rfl
      · exact .inr rfl
    rw [Fallible.assert_of htype, Fallible.ok_bind, Fallible.assert_of h.1, Fallible.ok_bind]
    congr 1
    rw [Bool.eq_iff_iff, any_tais_iff, decide_eq_true_eq]

theorem inLists_singlesList {tais : List MmeTai} : InLists tai (singlesList tais) ↔ tai ∈ tais := by
  match tais with
  | [] => simp [InLists, singlesList]
  | [served] =>
    have hareas : (PartialTaiList.consecutive served 1).areas = [served] := by
      simp [PartialTaiList.areas]
    simp [InLists, singlesList, hareas]
  | _ :: _ :: _ => simp [InLists, singlesList, PartialTaiList.areas]

/-- The elements have the tracking areas of their partial lists. -/
theorem inLists_partialLists {group : List TaiEntry} :
    InLists tai (partialLists group) ↔ ∃ entry ∈ group, tai ∈ entry.areas := by
  have happend (lists lists' : List PartialTaiList) : InLists tai (lists ++ lists') ↔
      InLists tai lists ∨ InLists tai lists' := by
    simp only [InLists, List.mem_append, or_and_right, exists_or]
  have hentry (entry : TaiEntry) : tai ∈ entry.areas ↔
      (∃ list, entry.list0? = some list ∧ tai ∈ list.areas) ∨ entry.single? = some tai := by
    obtain ⟨_ | plmnId, tacs⟩ := entry
    · simp [TaiEntry.areas, TaiEntry.list0?, TaiEntry.single?]
    · match tacs with
      | [] => simp [TaiEntry.areas, TaiEntry.list0?, TaiEntry.single?]
      | [tac] => simp [TaiEntry.areas, TaiEntry.list0?, TaiEntry.single?, eq_comm]
      | _ :: _ :: _ =>
        simp [TaiEntry.areas, TaiEntry.list0?, TaiEntry.single?, PartialTaiList.areas]
  rw [partialLists, happend, inLists_singlesList]
  simp only [hentry, InLists, List.mem_filterMap, and_or_left, exists_or]
  constructor
  · rintro (⟨list, ⟨entry, hmem, hlist⟩, htai⟩ | hsingle)
    · exact .inl ⟨entry, hmem, list, hlist, htai⟩
    · exact .inr hsingle
  · rintro (⟨entry, hmem, list, hlist, htai⟩ | hsingle)
    · exact .inl ⟨list, ⟨entry, hmem, hlist⟩, htai⟩
    · exact .inr hsingle

/-- The arrays of a record end at an entry that is not used. -/
theorem ServedTai.IsOf.arrays {servedTai : ServedTai} {group : List TaiEntry}
    (h : servedTai.IsOf group) (hwithin : WithinArrays group) :
    ∃ entries rest, servedTai.list0.toList = entries ++ Tai0.none :: rest ∧
      (∀ entry ∈ entries, entry.Valid) ∧ servedTai.list2.Valid ∧
      entries.map Tai0.partialList = group.filterMap TaiEntry.list0? ∧
      servedTai.list2.tais = group.filterMap TaiEntry.single? := by
  obtain ⟨numOfList0, hparsed⟩ := h
  obtain ⟨entries, hentries, hpart, hvalid⟩ := hparsed.list0
  have hlt := hwithin.list0
  rw [← hparsed.numOfList0] at hlt
  obtain ⟨k, hk⟩ := Nat.exists_eq_add_of_lt hlt
  have hreplicate : ogsMaxNumOfTai - numOfList0 = k + 1 := by omega
  refine ⟨entries, List.replicate k Tai0.none, ?_, hvalid, hparsed.list2, hpart, hparsed.tais⟩
  rw [hentries, hreplicate, List.replicate_succ]

theorem findServedTaiFrom_eq {served : List ServedTai} {groups : List (List TaiEntry)}
    (h : List.Forall₂ ServedTai.IsOf served groups) (hwithin : ∀ group ∈ groups, WithinArrays group)
    (i : Nat) : findServedTaiFrom tai i served =
      .ok (((groups.findIdx? fun group => InLists tai (partialLists group)).map
        fun n => ((i + n : Nat) : Int)).getD (-1)) := by
  induction h generalizing i with
  | nil => rfl
  | @cons servedTai group served groups hof hrest ih =>
    obtain ⟨entries, rest, hlist0, hvalid, hvalid2, hpart, htais⟩ :=
      hof.arrays (hwithin group List.mem_cons_self)
    rw [findServedTaiFrom, hlist0, findInList0_eq rfl hvalid, Fallible.ok_bind,
      findInList2_eq hvalid2, ih fun g hg => hwithin g (List.mem_cons_of_mem group hg),
      List.findIdx?_cons]
    have hmem : InLists tai (partialLists group) ↔
        InLists tai (entries.map Tai0.partialList) ∨ tai ∈ servedTai.list2.tais := by
      rw [hpart, htais, ← inLists_singlesList, partialLists]
      simp only [InLists, List.mem_append, or_and_right, exists_or]
    by_cases hin : InLists tai (partialLists group)
    · rw [if_pos (decide_eq_true hin)]
      by_cases hfirst : InLists tai (entries.map Tai0.partialList)
      · simp [hfirst]
      · have hsecond := (hmem.mp hin).resolve_left hfirst
        simp [hfirst, hsecond]
    · have hneither := not_or.mp (mt hmem.mpr hin)
      simp [hin, hneither.1, hneither.2, Option.map_map, Function.comp_def, Nat.add_assoc,
        Nat.add_comm 1]

/-! ## The list that is sent -/

/-- The list that is built for an index, as a UE decodes it -/
def SendsTaiList (served : List ServedTai) (i : Nat) (lists : List PartialTaiList) : Prop :=
  ∃ servedTai target, served[i]? = some servedTai ∧
    ogsNasTaiListBuild servedTai.list0 servedTai.list2 = .ok target ∧
    target.length ≤ ogsNasMaxTaiListLen ∧ readTaiList target = some lists

/-- The claim: a tracking area that is found is in the list that is sent, and no other is found. -/
def FoundAreSent (groups : List (List TaiEntry)) : Prop :=
  ∃ served, mmeServedTai groups = .ok served ∧ ∀ tai,
    ((¬∃ group ∈ groups, ∃ entry ∈ group, tai ∈ entry.areas) ∧
      mmeFindServedTai served tai = .ok (-1)) ∨
    ∃ (i : Nat) (lists : List PartialTaiList), mmeFindServedTai served tai = .ok i ∧
      SendsTaiList served i lists ∧ InLists tai lists

/-- The number of octets of partial lists -/
def taiListSize (lists : List PartialTaiList) : Nat := (lists.map PartialTaiList.size).sum

/-- What the code does: the list that is sent is the longest beginning of the partial lists of the
list in which the tracking area is found first. -/
def FoundAreSentUpTo (groups : List (List TaiEntry)) : Prop :=
  ∃ served, mmeServedTai groups = .ok served ∧ ∀ tai,
    ((¬∃ group ∈ groups, ∃ entry ∈ group, tai ∈ entry.areas) ∧
      mmeFindServedTai served tai = .ok (-1)) ∨
    ∃ (i : Nat) (group : List TaiEntry) (lists : List PartialTaiList),
      (usedGroups groups)[i]? = some group ∧ (∃ entry ∈ group, tai ∈ entry.areas) ∧
      (∀ earlier ∈ (usedGroups groups).take i, ¬∃ entry ∈ earlier, tai ∈ entry.areas) ∧
      mmeFindServedTai served tai = .ok i ∧ SendsTaiList served i lists ∧
      lists <+: partialLists group ∧
      (∀ list rest, lists ++ list :: rest = partialLists group →
        ogsNasMaxTaiListLen < taiListSize lists + list.size) ∧
      (taiListSize (partialLists group) ≤ ogsNasMaxTaiListLen → InLists tai lists)

theorem encodable_partialLists {group : List TaiEntry} (h : WithinArrays group) :
    ∀ list ∈ partialLists group, list.Encodable := by
  intro list hlist
  rcases List.mem_append.mp hlist with hlist0 | hsingles
  · obtain ⟨⟨plmnId, tacs⟩, hentry, hsome⟩ := List.mem_filterMap.mp hlist0
    have htacs : tacs.length < ogsMaxNumOfTai := h.tacs _ hentry
    match plmnId, tacs with
    | some plmnId, tac :: tac' :: tacs =>
      obtain rfl := Option.some.inj hsome
      exact ⟨plmnId.2, Nat.succ_pos _, htacs.le⟩
  · have hdecimal : ∀ tai ∈ group.filterMap TaiEntry.single?, tai.plmnId.IsDecimal := by
      intro tai htai
      obtain ⟨⟨plmnId, tacs⟩, -, hsome⟩ := List.mem_filterMap.mp htai
      match plmnId, tacs with
      | some plmnId, [tac] =>
        obtain rfl := Option.some.inj hsome
        exact plmnId.2
    have hlt := h.list2
    generalize group.filterMap TaiEntry.single? = tais at hsingles hdecimal hlt
    match tais with
    | [tai] =>
      obtain rfl := List.mem_singleton.mp hsingles
      exact ⟨hdecimal tai (List.mem_singleton_self tai), Nat.le_refl 1, by decide⟩
    | tai :: tai' :: tais =>
      obtain rfl := List.mem_singleton.mp hsingles
      exact ⟨hdecimal, Nat.succ_pos _, hlt.le⟩

theorem sendsTaiList {served : List ServedTai} {servedTai : ServedTai} {i : Nat}
    {group : List TaiEntry} (hserved : served[i]? = some servedTai) (hof : servedTai.IsOf group)
    (h : WithinArrays group) : SendsTaiList served i
      (fitting PartialTaiList.size ogsNasMaxTaiListLen (partialLists group)) := by
  obtain ⟨entries, rest, hlist0, hvalid, hvalid2, hpart, htais⟩ := hof.arrays h
  have hlists : entries.map Tai0.partialList ++ servedTai.list2.partialLists =
      partialLists group := by
    rw [hpart, Tai2List.partialLists, htais]
    rfl
  have hbuild := ogsNasTaiListBuild_eq hlist0 rfl hvalid hvalid2
  rw [hlists] at hbuild
  refine ⟨servedTai, _, hserved, hbuild, ?_, readTaiList_octets ?_⟩
  · simp only [List.length_flatMap, PartialTaiList.length_octets]
    exact sum_fitting_le _ _ _
  · intro list hlist
    exact encodable_partialLists h list ((fitting_isPrefix _ _ _).subset hlist)

/-- A tracking area is found in the first list that has it, and the longest beginning of the
partial lists that fits is sent. -/
theorem found_are_sent_up_to (groups : List (List TaiEntry))
    (hwithin : ∀ group ∈ groups, WithinArrays group)
    (hlen : (usedGroups groups).length ≤ maxNumOfServedTai) : FoundAreSentUpTo groups := by
  obtain ⟨served, hserved, hof⟩ := mmeServedTai_eq hwithin hlen
  have hused : ∀ group ∈ usedGroups groups, WithinArrays group :=
    fun group hgroup => hwithin group (List.mem_of_mem_filter hgroup)
  refine ⟨served, hserved, fun tai => ?_⟩
  have hfind : mmeFindServedTai served tai = _ := findServedTaiFrom_eq hof hused 0
  cases hindex : (usedGroups groups).findIdx? fun group => InLists tai (partialLists group) with
  | none =>
    rw [hindex] at hfind
    refine .inl ⟨?_, hfind⟩
    rintro ⟨group, hgroup, hentry⟩
    have hin := inLists_partialLists.mpr hentry
    have hne : partialLists group ≠ [] := by
      obtain ⟨list, hlist, -⟩ := hin
      exact List.ne_nil_of_mem hlist
    have hnone := List.findIdx?_eq_none_iff.mp hindex group
      (List.mem_filter.mpr ⟨hgroup, decide_eq_true hne⟩)
    exact of_decide_eq_false hnone hin
  | some i =>
    rw [hindex, Option.map_some, Option.getD_some, Nat.zero_add] at hfind
    obtain ⟨hi, hgroup, hbefore⟩ := List.findIdx?_eq_some_iff_getElem.mp hindex
    have hin := of_decide_eq_true hgroup
    have hi' : i < served.length := by
      rw [hof.length_eq]
      exact hi
    have hsends := sendsTaiList (List.getElem?_eq_getElem hi') (hof.get hi' hi)
      (hused _ (List.getElem_mem hi))
    refine .inr ⟨i, _, _, List.getElem?_eq_getElem hi, inLists_partialLists.mp hin, ?_, hfind,
      hsends, fitting_isPrefix _ _ _, fun list rest h => lt_sum_of_fitting h, fun hsize => ?_⟩
    · intro earlier hearlier
      obtain ⟨j, hj, rfl⟩ := List.mem_take_iff_getElem.mp hearlier
      have hnot := hbefore j (by omega)
      rw [decide_eq_true_eq] at hnot
      exact mt inLists_partialLists.mpr hnot
    · have hall := @fitting_eq_self _ PartialTaiList.size _ _ hsize
      exact hall.symm ▸ hin

def plmnId00101 : ConfiguredPlmnId := ⟨.ofFn ![0x00, 0xf1, 0x10], by decide⟩

/-- Three elements with fifteen tracking areas each -/
def group45 : List TaiEntry :=
  [0, 100, 200].map fun first =>
    ⟨some plmnId00101, (List.range 15).map fun i => UInt16.ofNat (first + i)⟩

/-- Two lists, of which the second one does not fit. -/
theorem found_are_sent_up_to_one : FoundAreSentUpTo [[⟨some plmnId00101, [300, 301]⟩], group45] :=
  found_are_sent_up_to _ (by
    simp only [List.forall_mem_cons]
    exact ⟨⟨by decide, by decide, by decide⟩, ⟨by decide, by decide, by decide⟩,
      List.forall_mem_nil _⟩) (by decide)

/-- Two of them fit. -/
theorem not_found_are_sent : ¬FoundAreSent [group45] := by
  rintro ⟨served, hserved, h⟩
  obtain rfl := Except.ok.inj hserved
  rcases h ⟨plmnId00101.1, 200⟩ with ⟨hnone, -⟩ | ⟨i, lists, hfind, hsends, hin⟩
  · exact hnone (by decide +kernel)
  · have hzero : (0 : Int) = i := Except.ok.inj hfind
    obtain rfl : i = 0 := by omega
    obtain ⟨servedTai, target, hrecord, hbuild, -, hread⟩ := hsends
    obtain rfl := Option.some.inj hrecord
    obtain rfl := Except.ok.inj hbuild
    obtain rfl := Option.some.inj hread
    revert hin
    decide +kernel

end NextEpc
