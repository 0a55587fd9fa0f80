import NextEpc.Mme.ServedTai
import NextEpc.S1ap.Conv

/-!
# S1 Setup

The supported tracking areas of an eNB are pairs of a network and a tracking area code. An S1 Setup
Request has up to 256 codes, each with up to six networks; the array of the eNB has an entry for
each network of sixteen codes.
-/

namespace NextEpc

/-- The places where the handler asserts. -/
inductive S1SetupSite
  | globalEnbId
  | supportedTas
  | conv (site : S1apConvSite)
  deriving DecidableEq, Repr

abbrev S1SetupM := Fallible S1SetupSite

/-- `MAX_NUM_OF_BPLMN` -/
def maxNumOfBplmn : Nat := 6

/-- The size of `supported_ta_list` -/
def sizeOfSupportedTaList : Nat := ogsMaxNumOfTai * maxNumOfBplmn

/-- `S1AP_SupportedTAs_Item_t`, with octets of the sizes that S1AP has -/
structure S1apSupportedTasItem where
  tAC : Vector UInt8 2
  broadcastPLMNs : List OgsPlmnId
  deriving DecidableEq, Repr

/-- The information elements of an S1 Setup Request -/
structure S1SetupRequest where
  globalEnbId : Option S1apEnbIdRecord
  supportedTas : Option (List S1apSupportedTasItem)
  deriving DecidableEq, Repr

/-- What the handler writes of `mme_enb_t` -/
structure S1SetupEnb where
  enbId : UInt32
  numOfSupportedTaList : UInt8
  supportedTaList : Vector MmeTai sizeOfSupportedTaList
  deriving DecidableEq, Repr

/-- What is sent to the eNB -/
inductive S1SetupAnswer
  | response
  | failureUnspecified
  | failureUnknownPlmn
  deriving DecidableEq, Repr

namespace S1SetupEnb

/-- The body of the inner loop -/
def storeTai (tAC : Vector UInt8 2) (enb : S1SetupEnb) (pLMNidentity : OgsPlmnId) :
    S1SetupM S1SetupEnb :=
  if h : enb.numOfSupportedTaList.toNat < sizeOfSupportedTaList then
    let tac := UInt16.ofNat (tAC[0].toNat * 2 ^ 8 + tAC[1].toNat)
    .ok { enb with
      supportedTaList := enb.supportedTaList.set enb.numOfSupportedTaList.toNat ⟨pLMNidentity, tac⟩ h
      numOfSupportedTaList := enb.numOfSupportedTaList + 1 }
  else .error .outOfBounds

def storeItem (enb : S1SetupEnb) (item : S1apSupportedTasItem) : S1SetupM S1SetupEnb :=
  item.broadcastPLMNs.foldlM (storeTai item.tAC) enb

/-- The entries that are in use -/
def supportedTais (enb : S1SetupEnb) : List MmeTai :=
  enb.supportedTaList.toList.take enb.numOfSupportedTaList.toNat

/-- The answer, by `mme_find_served_tai`. The search ends at the first index of `served_tai`, and
the last index is the one that counts. -/
def answer (findServedTai : MmeTai → Int) (enb : S1SetupEnb) : S1SetupAnswer :=
  if enb.numOfSupportedTaList = 0 then .failureUnspecified
  else
    let indices := enb.supportedTais.map findServedTai
    let servedTaiIndex :=
      (indices.find? fun i : Int => 0 ≤ i && i < maxNumOfServedTai).getD (indices.getLastD (-1))
    if servedTaiIndex < 0 then .failureUnknownPlmn else .response

end S1SetupEnb

/-- `s1ap_handle_s1_setup_request`, with what is sent to the eNB -/
def handleS1SetupRequest (findServedTai : MmeTai → Int) (enb : S1SetupEnb)
    (request : S1SetupRequest) : S1SetupM (S1SetupEnb × S1SetupAnswer) := do
  let globalEnbId ← Fallible.assertSome .globalEnbId request.globalEnbId
  let enbId ← (enbIdToUint32 globalEnbId).at .conv
  let supportedTas ← Fallible.assertSome .supportedTas request.supportedTas
  let enb ← supportedTas.foldlM S1SetupEnb.storeItem { enb with enbId, numOfSupportedTaList := 0 }
  .ok (enb, enb.answer findServedTai)

/-! ## The pairs of a request -/

namespace S1SetupRequest
variable (request : S1SetupRequest)

/-- The pairs of a request, in their order -/
def pairs : List MmeTai :=
  (request.supportedTas.getD []).flatMap fun item => item.broadcastPLMNs.map fun plmnId =>
    ⟨plmnId, UInt16.ofNat (item.tAC[0].toNat * 2 ^ 8 + item.tAC[1].toNat)⟩

/-- The pairs are stored. If there are more than fit, the request is rejected or the first ones are
stored. -/
def IsStored (findServedTai : MmeTai → Int) (enb : S1SetupEnb) : Prop :=
  ∃ enb' answer, handleS1SetupRequest findServedTai enb request = .ok (enb', answer) ∧
    enb'.numOfSupportedTaList.toNat ≤ sizeOfSupportedTaList ∧
    (enb'.supportedTais = request.pairs ∨ sizeOfSupportedTaList < request.pairs.length ∧
      (answer ≠ .response ∨ enb'.supportedTais <+: request.pairs))

/-- The mandatory elements are there, with an identity of an eNB that the conversion knows, and
there is an entry for each pair. -/
structure Fits : Prop where
  globalEnbId : ∃ enbId, request.globalEnbId = some enbId ∧
    (enbId.present = .macroEnbId ∧ 3 ≤ enbId.choice.buf.length ∨
      enbId.present = .homeEnbId ∧ 4 ≤ enbId.choice.buf.length)
  supportedTas : request.supportedTas.isSome = true
  pairs : request.pairs.length ≤ sizeOfSupportedTaList

end S1SetupRequest

/-! ## The loops -/

namespace S1SetupEnb
variable {enb enb' enb'' : S1SetupEnb}

/-- Some entries are appended. -/
structure Appended (enb enb' : S1SetupEnb) (tais : List MmeTai) : Prop where
  enbId : enb'.enbId = enb.enbId
  num : enb'.numOfSupportedTaList.toNat = enb.numOfSupportedTaList.toNat + tais.length
  tais : enb'.supportedTais = enb.supportedTais ++ tais

/-- Some entries are appended if there is room for them, and else one is written outside. -/
def Appends (store : S1SetupEnb → S1SetupM S1SetupEnb) (tais : List MmeTai) : Prop :=
  ∀ enb, enb.numOfSupportedTaList.toNat ≤ sizeOfSupportedTaList →
    (enb.numOfSupportedTaList.toNat + tais.length ≤ sizeOfSupportedTaList →
      ∃ enb', store enb = .ok enb' ∧ Appended enb enb' tais) ∧
    (sizeOfSupportedTaList < enb.numOfSupportedTaList.toNat + tais.length →
      store enb = .error .outOfBounds)

theorem appends_storeTai (tAC : Vector UInt8 2) (plmnId : OgsPlmnId) :
    Appends (storeTai tAC · plmnId)
      [⟨plmnId, UInt16.ofNat (tAC[0].toNat * 2 ^ 8 + tAC[1].toNat)⟩] := by
  intro enb _
  have hsize : sizeOfSupportedTaList = 96 := rfl
  rw [List.length_singleton]
  constructor
  · intro hroom
    have hlt : enb.numOfSupportedTaList.toNat < sizeOfSupportedTaList := hroom
    have hnum : (enb.numOfSupportedTaList + 1).toNat = enb.numOfSupportedTaList.toNat + 1 := by
      rw [UInt8.toNat_add]
      change (enb.numOfSupportedTaList.toNat + 1) % 256 = _
      omega
    have hlt' : enb.numOfSupportedTaList.toNat < enb.supportedTaList.toList.length := by
      rw [Vector.length_toList]
      exact hlt
    refine ⟨_, dif_pos hlt, rfl, hnum, ?_⟩
    unfold supportedTais
    simp only []
    rw [hnum, Vector.toList_set, List.take_add_one, List.take_set_of_le (Nat.le_refl _),
      List.getElem?_set_self hlt', Option.toList_some]
  · intro hfull
    exact dif_neg (by omega)

/-- A loop appends what its rounds append. -/
theorem Appends.foldlM {α : Type} {store : S1SetupEnb → α → S1SetupM S1SetupEnb}
    {tais : α → List MmeTai} {l : List α} (h : ∀ a ∈ l, Appends (store · a) (tais a)) :
    Appends (fun enb => l.foldlM store enb) (l.flatMap tais) := by
  induction l with
  | nil =>
    intro enb hle
    rw [List.flatMap_nil, List.length_nil, Nat.add_zero]
    exact ⟨fun _ => ⟨enb, rfl, rfl, rfl, (List.append_nil _).symm⟩, fun hlt => absurd hlt hle.not_gt⟩
  | cons a l ih =>
    have hrest := ih fun a' ha' => h a' (List.mem_cons_of_mem a ha')
    intro enb hle
    obtain ⟨hok, herror⟩ := h a List.mem_cons_self enb hle
    simp only [List.flatMap_cons, List.length_append, List.foldlM_cons]
    by_cases hroom : enb.numOfSupportedTaList.toNat + (tais a).length ≤ sizeOfSupportedTaList
    · obtain ⟨enb', hstore, happended⟩ := hok hroom
      have hnum := happended.num
      obtain ⟨hok', herror'⟩ := hrest enb' (by omega)
      constructor
      · intro hall
        obtain ⟨enb'', hloop, happended'⟩ := hok' (by omega)
        refine ⟨enb'', ?_, happended'.enbId.trans happended.enbId, ?_, ?_⟩
        · exact Fallible.bind_eq_ok.mpr ⟨enb', hstore, hloop⟩
        · rw [happended'.num, hnum, List.length_append, Nat.add_assoc]
        · rw [happended'.tais, happended.tais, List.append_assoc]
      · intro hfull
        exact Fallible.bind_eq_error.mpr (.inr ⟨enb', hstore, herror' (by omega)⟩)
    · constructor
      · intro hall
        omega
      · intro _
        exact Fallible.bind_eq_error.mpr (.inl (herror (by omega)))

theorem appends_storeItem (item : S1apSupportedTasItem) :
    Appends (storeItem · item) (item.broadcastPLMNs.map fun plmnId =>
      ⟨plmnId, UInt16.ofNat (item.tAC[0].toNat * 2 ^ 8 + item.tAC[1].toNat)⟩) := by
  rw [List.map_eq_flatMap]
  exact Appends.foldlM fun plmnId _ => appends_storeTai item.tAC plmnId

end S1SetupEnb

/-! ## The setup -/

theorem enbIdToUint32_eq_ok {globalEnbId : S1apEnbIdRecord} :
    (∃ enbId, enbIdToUint32 globalEnbId = .ok enbId) ↔
      (globalEnbId.present = .macroEnbId ∧ 3 ≤ globalEnbId.choice.buf.length ∨
        globalEnbId.present = .homeEnbId ∧ 4 ≤ globalEnbId.choice.buf.length) := by
  obtain ⟨present, ⟨buf, bitsUnused⟩⟩ := globalEnbId
  cases present with
  | macroEnbId =>
    match buf with
    | [] | [_] | [_, _] => simp [enbIdToUint32]
    | _ :: _ :: _ :: _ => simp [enbIdToUint32]
  | homeEnbId =>
    match buf with
    | [] | [_] | [_, _] | [_, _, _] => simp [enbIdToUint32]
    | _ :: _ :: _ :: _ :: _ => simp [enbIdToUint32]
  | nothing | shortMacroEnbId | longMacroEnbId => simp [enbIdToUint32]

namespace S1SetupRequest

theorem handleS1SetupRequest_eq_ok {findServedTai : MmeTai → Int} {enb enb' : S1SetupEnb}
    {request : S1SetupRequest} {answer : S1SetupAnswer} :
    handleS1SetupRequest findServedTai enb request = .ok (enb', answer) ↔
      ∃ globalEnbId enbId supportedTas, request.globalEnbId = some globalEnbId ∧
        enbIdToUint32 globalEnbId = .ok enbId ∧
        request.supportedTas = some supportedTas ∧
        supportedTas.foldlM S1SetupEnb.storeItem { enb with enbId, numOfSupportedTaList := 0 } =
          .ok enb' ∧ enb'.answer findServedTai = answer := by
  simp only [handleS1SetupRequest, Fallible.bind_eq_ok, Fallible.assertSome_eq_ok,
    S1apConvM.at_eq_ok,
    Except.ok.injEq, Prod.mk.injEq]
  constructor
  · rintro ⟨globalEnbId, hglobal, enbId, henbId, supportedTas, htas, enb'', hloop, rfl, hanswer⟩
    exact ⟨globalEnbId, enbId, supportedTas, hglobal, henbId, htas, hloop, hanswer⟩
  · rintro ⟨globalEnbId, enbId, supportedTas, hglobal, henbId, htas, hloop, hanswer⟩
    exact ⟨globalEnbId, hglobal, enbId, henbId, supportedTas, htas, enb', hloop, rfl, hanswer⟩

/-- The pairs are stored if there is an entry for each of them, and else the handler writes outside
the array. -/
theorem isStored_iff (findServedTai : MmeTai → Int) (enb : S1SetupEnb) (request : S1SetupRequest) :
    request.IsStored findServedTai enb ↔ request.Fits := by
  have hloop (enbId : UInt32) (supportedTas : List S1apSupportedTasItem)
      (htas : request.supportedTas = some supportedTas) := by
    have happends : S1SetupEnb.Appends (fun enb => supportedTas.foldlM S1SetupEnb.storeItem enb)
        request.pairs := by
      rw [pairs, htas, Option.getD_some]
      exact S1SetupEnb.Appends.foldlM fun item _ => S1SetupEnb.appends_storeItem item
    exact happends { enb with enbId, numOfSupportedTaList := 0 } (Nat.zero_le _)
  constructor
  · rintro ⟨enb', answer, hok, -, -⟩
    obtain ⟨globalEnbId, enbId, supportedTas, hglobal, henbId, htas, hstored, -⟩ :=
      handleS1SetupRequest_eq_ok.mp hok
    refine ⟨⟨globalEnbId, hglobal, enbIdToUint32_eq_ok.mp ⟨enbId, henbId⟩⟩, ?_, ?_⟩
    · rw [htas, Option.isSome_some]
    · by_contra hlt
      have hzero : (0 : UInt8).toNat + request.pairs.length = request.pairs.length := Nat.zero_add _
      have herror := (hloop enbId supportedTas htas).2 (by rw [hzero]; omega)
      simp only [hstored] at herror
      cases herror
  · rintro ⟨⟨globalEnbId, hglobal, hknown⟩, hsome, hfits⟩
    obtain ⟨enbId, henbId⟩ := enbIdToUint32_eq_ok.mpr hknown
    obtain ⟨supportedTas, htas⟩ := Option.isSome_iff_exists.mp hsome
    have hzero : (0 : UInt8).toNat + request.pairs.length = request.pairs.length := Nat.zero_add _
    obtain ⟨enb', hstored, happended⟩ :=
      (hloop enbId supportedTas htas).1 (by rw [hzero]; exact hfits)
    refine ⟨enb', _, handleS1SetupRequest_eq_ok.mpr
      ⟨globalEnbId, enbId, supportedTas, hglobal, henbId, htas, hstored, rfl⟩, ?_, .inl ?_⟩
    · rw [happended.num]
      exact hzero.trans_le hfits
    · rw [happended.tais]
      rfl

/-- Seventeen tracking area codes with six networks each -/
def request102 : S1SetupRequest where
  globalEnbId := some ⟨.macroEnbId, ⟨[0, 0, 0x10], 4⟩⟩
  supportedTas := some (List.replicate 17
    ⟨#v[0, 1], (List.range 6).map fun i => #v[0, 0xf1, UInt8.ofNat i]⟩)

/-- The 97th pair is written outside the array. -/
theorem not_isStored_request102 : ¬request102.IsStored (fun _ => 0)
    ⟨0, 0, Vector.replicate sizeOfSupportedTaList ⟨Vector.replicate 3 0, 0⟩⟩ := by
  rintro ⟨enb', answer, hok, -⟩
  have herror : handleS1SetupRequest (fun _ => 0)
      ⟨0, 0, Vector.replicate sizeOfSupportedTaList ⟨Vector.replicate 3 0, 0⟩⟩ request102 =
        .error .outOfBounds := by
    rfl
  rw [herror] at hok
  cases hok

end S1SetupRequest
end NextEpc
