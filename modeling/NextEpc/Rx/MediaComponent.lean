import NextEpc.Gx.ChargingRule
import NextEpc.Lib.Loop

/-!
# Media components on the Rx interface

The loop of `pcrf_rx_aar_cb` over the AVPs of an AA-Request. Each media component, each of its
media sub-components and each flow of these is read into the next entry of an array, whose length
is not looked at.
-/

namespace NextEpc

/-- `OGS_DIAM_MAX_NUM_OF_MEDIA_SUB_COMPONENT` -/
def maxNumOfMediaSubComponent : Nat := 8

/-- `OGS_DIAM_MAX_NUM_OF_MEDIA_COMPONENT` -/
def maxNumOfMediaComponent : Nat := 16

/-- `ogs_diam_rx_media_sub_component_t`. The direction of a flow is not set. -/
structure MediaSubComponent (maxNumOfFlow : Nat) where
  flowNumber : UInt32
  flowUsage : UInt32
  flow : List CString
  flow_le : flow.length ≤ maxNumOfFlow
  deriving DecidableEq

/-- `ogs_diam_rx_media_component_t` -/
structure MediaComponent (maxNumOfFlow : Nat) where
  mediaComponentNumber : UInt32
  mediaType : UInt32
  maxRequestedBandwidthDl : UInt64
  maxRequestedBandwidthUl : UInt64
  minRequestedBandwidthDl : UInt64
  minRequestedBandwidthUl : UInt64
  rrBandwidth : UInt64
  rsBandwidth : UInt64
  sub : List (MediaSubComponent maxNumOfFlow)
  sub_le : sub.length ≤ maxNumOfMediaSubComponent
  deriving DecidableEq

/-- The media components of `ogs_diam_rx_message_t`, and the host of the peer. -/
structure RxMessage (maxNumOfFlow : Nat) where
  peerHost : Option CString
  mediaComponent : List (MediaComponent maxNumOfFlow)
  mediaComponent_le : mediaComponent.length ≤ maxNumOfMediaComponent
  deriving DecidableEq

/-! The record that `memset` leaves. -/

def MediaSubComponent.cleared (maxNumOfFlow : Nat) : MediaSubComponent maxNumOfFlow :=
  ⟨0, 0, [], Nat.zero_le _⟩

def MediaComponent.cleared (maxNumOfFlow : Nat) : MediaComponent maxNumOfFlow :=
  ⟨0, 0, 0, 0, 0, 0, 0, 0, [], Nat.zero_le _⟩

namespace Rx

/-! ## The codes -/

def acSessionId : Nat := 263
def acOriginHost : Nat := 264
def flowDescription : Nat := 507
def flowNumber : Nat := 509
def flowUsage : Nat := 512
def maxRequestedBandwidthDl : Nat := 515
def maxRequestedBandwidthUl : Nat := 516
def mediaComponentDescription : Nat := 517
def mediaComponentNumber : Nat := 518
def mediaSubComponent : Nat := 519
def mediaType : Nat := 520
def rrBandwidth : Nat := 521
def rsBandwidth : Nat := 522
def minRequestedBandwidthDl : Nat := 534
def minRequestedBandwidthUl : Nat := 535

/-- The types that the dictionary gives to these codes. -/
def dict (code : Nat) : Option Avp.Kind :=
  if code ∈ [acSessionId, acOriginHost, flowDescription] then some .octetString
  else if code ∈ [mediaComponentDescription, mediaSubComponent] then some .grouped
  else if code ∈ [flowNumber, flowUsage, maxRequestedBandwidthDl, maxRequestedBandwidthUl,
    mediaComponentNumber, mediaType, rrBandwidth, rsBandwidth, minRequestedBandwidthDl,
    minRequestedBandwidthUl] then some .word
  else none

/-! ## The decoder -/

variable {maxNumOfFlow : Nat}

/-- A word that is read as `int32_t` and stored as `uint64_t`. -/
def bandwidth (v : UInt32) : UInt64 := v.toInt32.toInt64.toUInt64

/-- A Flow-Description is copied into the next entry. -/
def decodeFlow (data : Bytes) (sub : MediaSubComponent maxNumOfFlow) :
    Option (MediaSubComponent maxNumOfFlow) :=
  if h : sub.flow.length < maxNumOfFlow then
    some { sub with
      flow := sub.flow ++ [CString.copy data]
      flow_le := by simpa using h }
  else none

def decodeSubMember (sub : MediaSubComponent maxNumOfFlow) (avpch3 : Avp) :
    Option (MediaSubComponent maxNumOfFlow) :=
  let code := avpch3.model.code
  if code = flowNumber then avpch3.u32.map fun v => { sub with flowNumber := v }
  else if code = flowUsage then avpch3.u32.map fun v => { sub with flowUsage := v }
  else if code = flowDescription then avpch3.os.bind fun data => decodeFlow data sub
  else some sub

/-- A Media-Sub-Component is read into the next entry. -/
def decodeMediaSubComponent (avpch2 : Avp) (mediaComponent : MediaComponent maxNumOfFlow) :
    Option (MediaComponent maxNumOfFlow) :=
  if h : mediaComponent.sub.length < maxNumOfMediaSubComponent then do
    let sub ← avpch2.children.foldlM decodeSubMember (.cleared maxNumOfFlow)
    some { mediaComponent with
      sub := mediaComponent.sub ++ [sub]
      sub_le := by simpa using h }
  else none

def decodeMediaMember (c : MediaComponent maxNumOfFlow) (avpch2 : Avp) :
    Option (MediaComponent maxNumOfFlow) :=
  let code := avpch2.model.code
  if code = mediaComponentNumber then avpch2.u32.map fun v => { c with mediaComponentNumber := v }
  else if code = mediaType then avpch2.u32.map fun v => { c with mediaType := v }
  else if code = maxRequestedBandwidthDl then
    avpch2.u32.map fun v => { c with maxRequestedBandwidthDl := bandwidth v }
  else if code = maxRequestedBandwidthUl then
    avpch2.u32.map fun v => { c with maxRequestedBandwidthUl := bandwidth v }
  else if code = rrBandwidth then avpch2.u32.map fun v => { c with rrBandwidth := bandwidth v }
  else if code = rsBandwidth then avpch2.u32.map fun v => { c with rsBandwidth := bandwidth v }
  else if code = minRequestedBandwidthDl then
    avpch2.u32.map fun v => { c with minRequestedBandwidthDl := bandwidth v }
  else if code = minRequestedBandwidthUl then
    avpch2.u32.map fun v => { c with minRequestedBandwidthUl := bandwidth v }
  else if code = mediaSubComponent then decodeMediaSubComponent avpch2 c
  else some c

/-- A Media-Component-Description is read into the next entry. -/
def decodeMediaComponent (avpch1 : Avp) (msg : RxMessage maxNumOfFlow) :
    Option (RxMessage maxNumOfFlow) :=
  if h : msg.mediaComponent.length < maxNumOfMediaComponent then do
    let c ← avpch1.children.foldlM decodeMediaMember (.cleared maxNumOfFlow)
    some { msg with
      mediaComponent := msg.mediaComponent ++ [c]
      mediaComponent_le := by simpa using h }
  else none

/-- One round of the loop. A Session-Id is taken for the host, too. -/
def decodeAarMember (msg : RxMessage maxNumOfFlow) (avpch1 : Avp) :
    Option (RxMessage maxNumOfFlow) :=
  let code := avpch1.model.code
  if code = acSessionId ∨ code = acOriginHost then
    avpch1.os.map fun data => { msg with peerHost := some (CString.copy data) }
  else if code = mediaComponentDescription then decodeMediaComponent avpch1 msg
  else some msg

/-- The loop of `pcrf_rx_aar_cb`. -/
def decodeAar (maxNumOfFlow : Nat) (peerHost : Option CString) (avps : List Avp) :
    Option (RxMessage maxNumOfFlow) :=
  avps.foldlM decodeAarMember ⟨peerHost, [], Nat.zero_le _⟩

/-! ## When the arrays are long enough -/

def SubFits (maxNumOfFlow : Nat) (avp : Avp) : Prop :=
  Avp.count flowDescription avp.children ≤ maxNumOfFlow

def ComponentFits (maxNumOfFlow : Nat) (avp : Avp) : Prop :=
  Avp.count mediaSubComponent avp.children ≤ maxNumOfMediaSubComponent ∧
    ∀ avp' ∈ avp.children, avp'.model.code = mediaSubComponent → SubFits maxNumOfFlow avp'

def AarFits (maxNumOfFlow : Nat) (avps : List Avp) : Prop :=
  Avp.count mediaComponentDescription avps ≤ maxNumOfMediaComponent ∧
    ∀ avp ∈ avps, avp.model.code = mediaComponentDescription → ComponentFits maxNumOfFlow avp

section
variable {avp : Avp} {avps : List Avp}

theorem exists_map_u32 {β : Type} {f : UInt32 → β} (h : avp.WellTyped dict)
    (hdict : dict avp.model.code = some .word) : ∃ v, avp.u32.map f = some (f v) := by
  obtain ⟨v, hv⟩ := h.u32 hdict
  exact ⟨v, by rw [hv, Option.map_some]⟩

/-! A member that is not read into an array is read. -/

theorem decodeSubMember_of_ne {sub : MediaSubComponent maxNumOfFlow} (h : avp.WellTyped dict)
    (hne : avp.model.code ≠ flowDescription) :
    ∃ t, decodeSubMember sub avp = some t ∧ t.flow = sub.flow := by
  rw [decodeSubMember]
  by_cases hnumber : avp.model.code = flowNumber
  · obtain ⟨v, hv⟩ := exists_map_u32 h (by rw [hnumber]; rfl)
    exact ⟨_, (if_pos hnumber).trans hv, rfl⟩
  · by_cases husage : avp.model.code = flowUsage
    · obtain ⟨v, hv⟩ := exists_map_u32 h (by rw [husage]; rfl)
      exact ⟨_, (if_neg hnumber).trans ((if_pos husage).trans hv), rfl⟩
    · exact ⟨sub, by simp only [if_neg hnumber, if_neg husage, if_neg hne], rfl⟩

theorem decodeSubMember_flow {sub : MediaSubComponent maxNumOfFlow} (h : avp.WellTyped dict)
    (hcode : avp.model.code = flowDescription) :
    ∃ data, decodeSubMember sub avp = decodeFlow data sub := by
  obtain ⟨data, hdata⟩ := h.os (by rw [hcode]; rfl)
  refine ⟨data, ?_⟩
  have hnumber : flowDescription ≠ flowNumber := by decide
  have husage : flowDescription ≠ flowUsage := by decide
  simp [decodeSubMember, hcode, hnumber, husage, hdata]

theorem decodeSubMember_iff {sub : MediaSubComponent maxNumOfFlow} (h : avp.WellTyped dict) :
    (∃ t, decodeSubMember sub avp = some t) ↔
      sub.flow.length + (if avp.model.code = flowDescription then 1 else 0) ≤ maxNumOfFlow := by
  by_cases hcode : avp.model.code = flowDescription
  · obtain ⟨data, hdata⟩ := @decodeSubMember_flow _ _ sub h hcode
    rw [hdata, decodeFlow, if_pos hcode, Nat.succ_le_iff]
    split <;> simp [*]
  · obtain ⟨t, ht, -⟩ := @decodeSubMember_of_ne _ _ sub h hcode
    rw [if_neg hcode]
    exact iff_of_true ⟨t, ht⟩ sub.flow_le

theorem decodeSubMember_count {sub t : MediaSubComponent maxNumOfFlow} (h : avp.WellTyped dict)
    (hdecode : decodeSubMember sub avp = some t) :
    t.flow.length = sub.flow.length + if avp.model.code = flowDescription then 1 else 0 := by
  by_cases hcode : avp.model.code = flowDescription
  · obtain ⟨data, hdata⟩ := @decodeSubMember_flow _ _ sub h hcode
    rw [hdata, decodeFlow, Option.dite_none_right_eq_some] at hdecode
    obtain ⟨_, hdecode⟩ := hdecode
    cases hdecode
    simp [hcode]
  · obtain ⟨t', ht, hflow⟩ := @decodeSubMember_of_ne _ _ sub h hcode
    rw [hdecode] at ht
    cases ht
    rw [hflow, if_neg hcode, Nat.add_zero]

theorem decodeSub_iff (h : avp.WellTyped dict) :
    (∃ t, avp.children.foldlM decodeSubMember (.cleared maxNumOfFlow) = some t) ↔
      SubFits maxNumOfFlow avp := by
  have hloop := @Loop.foldlM_bounded _ _ avp.children (MediaSubComponent.cleared maxNumOfFlow)
    decodeSubMember (fun sub => sub.flow.length)
    (fun avp => if avp.model.code = flowDescription then 1 else 0) (fun _ => True) maxNumOfFlow
    (fun sub => sub.flow_le)
    (fun sub child hchild => by rw [decodeSubMember_iff (h.children hchild), and_true])
    (fun sub child hchild t => decodeSubMember_count (h.children hchild))
  rw [hloop, ← Avp.count_eq_sum]
  simp [SubFits, MediaSubComponent.cleared]

/-! ## Media components -/

theorem decodeMediaMember_of_ne {c : MediaComponent maxNumOfFlow} (h : avp.WellTyped dict)
    (hne : avp.model.code ≠ mediaSubComponent) :
    ∃ t, decodeMediaMember c avp = some t ∧ t.sub = c.sub := by
  have hword : ∀ f : UInt32 → MediaComponent maxNumOfFlow, (∀ v, (f v).sub = c.sub) →
      dict avp.model.code = some .word → ∃ t, avp.u32.map f = some t ∧ t.sub = c.sub := by
    intro f hf hdict
    obtain ⟨v, hv⟩ := exists_map_u32 h hdict
    exact ⟨_, hv, hf v⟩
  rw [decodeMediaMember]
  split_ifs with h1 h2 h3 h4 h5 h6 h7 h8
  · exact hword _ (fun _ => rfl) (by rw [h1]; rfl)
  · exact hword _ (fun _ => rfl) (by rw [h2]; rfl)
  · exact hword _ (fun _ => rfl) (by rw [h3]; rfl)
  · exact hword _ (fun _ => rfl) (by rw [h4]; rfl)
  · exact hword _ (fun _ => rfl) (by rw [h5]; rfl)
  · exact hword _ (fun _ => rfl) (by rw [h6]; rfl)
  · exact hword _ (fun _ => rfl) (by rw [h7]; rfl)
  · exact hword _ (fun _ => rfl) (by rw [h8]; rfl)
  · exact ⟨c, rfl, rfl⟩

theorem decodeMediaMember_sub {c : MediaComponent maxNumOfFlow}
    (hcode : avp.model.code = mediaSubComponent) :
    decodeMediaMember c avp = decodeMediaSubComponent avp c := by
  rw [decodeMediaMember, hcode]
  rfl

theorem decodeMediaMember_iff {c : MediaComponent maxNumOfFlow} (h : avp.WellTyped dict) :
    (∃ t, decodeMediaMember c avp = some t) ↔
      c.sub.length + (if avp.model.code = mediaSubComponent then 1 else 0) ≤
          maxNumOfMediaSubComponent ∧
        (avp.model.code = mediaSubComponent → SubFits maxNumOfFlow avp) := by
  by_cases hcode : avp.model.code = mediaSubComponent
  · rw [decodeMediaMember_sub hcode, decodeMediaSubComponent, if_pos hcode, Nat.succ_le_iff,
      ← decodeSub_iff h]
    split
    · rename_i hlt
      simp only [Option.bind_eq_bind, Option.bind_eq_some_iff, hlt, hcode, true_and, forall_const]
      constructor
      · rintro ⟨_, sub, hsub, -⟩
        exact ⟨sub, hsub⟩
      · rintro ⟨sub, hsub⟩
        exact ⟨_, sub, hsub, rfl⟩
    · rename_i hlt
      simp [hlt]
  · obtain ⟨t, ht, -⟩ := @decodeMediaMember_of_ne _ _ c h hcode
    rw [if_neg hcode]
    exact iff_of_true ⟨t, ht⟩ ⟨c.sub_le, fun h => absurd h hcode⟩

theorem decodeMediaMember_count {c t : MediaComponent maxNumOfFlow} (h : avp.WellTyped dict)
    (hdecode : decodeMediaMember c avp = some t) :
    t.sub.length = c.sub.length + if avp.model.code = mediaSubComponent then 1 else 0 := by
  by_cases hcode : avp.model.code = mediaSubComponent
  · rw [decodeMediaMember_sub hcode, decodeMediaSubComponent,
      Option.dite_none_right_eq_some] at hdecode
    obtain ⟨_, hdecode⟩ := hdecode
    obtain ⟨sub, -, hdecode⟩ := Option.bind_eq_some_iff.mp hdecode
    cases hdecode
    simp [hcode]
  · obtain ⟨t', ht, hsub⟩ := @decodeMediaMember_of_ne _ _ c h hcode
    rw [hdecode] at ht
    cases ht
    rw [hsub, if_neg hcode, Nat.add_zero]

theorem decodeComponent_iff (h : avp.WellTyped dict) :
    (∃ t, avp.children.foldlM decodeMediaMember (.cleared maxNumOfFlow) = some t) ↔
      ComponentFits maxNumOfFlow avp := by
  have hloop := @Loop.foldlM_bounded _ _ avp.children (MediaComponent.cleared maxNumOfFlow)
    decodeMediaMember (fun c => c.sub.length)
    (fun avp => if avp.model.code = mediaSubComponent then 1 else 0)
    (fun avp => avp.model.code = mediaSubComponent → SubFits maxNumOfFlow avp)
    maxNumOfMediaSubComponent (fun c => c.sub_le)
    (fun c child hchild => decodeMediaMember_iff (h.children hchild))
    (fun c child hchild t => decodeMediaMember_count (h.children hchild))
  rw [hloop, ← Avp.count_eq_sum]
  simp [ComponentFits, MediaComponent.cleared]

/-! ## AA-Requests -/

theorem decodeAarMember_of_ne {msg : RxMessage maxNumOfFlow} (h : avp.WellTyped dict)
    (hne : avp.model.code ≠ mediaComponentDescription) :
    ∃ t, decodeAarMember msg avp = some t ∧ t.mediaComponent = msg.mediaComponent := by
  rw [decodeAarMember]
  by_cases hhost : avp.model.code = acSessionId ∨ avp.model.code = acOriginHost
  · have hdict : dict avp.model.code = some .octetString := by
      rcases hhost with hhost | hhost <;> rw [hhost] <;> rfl
    obtain ⟨data, hdata⟩ := h.os hdict
    refine ⟨{ msg with peerHost := some (CString.copy data) }, ?_, rfl⟩
    rw [if_pos hhost, hdata]
    rfl
  · exact ⟨msg, by simp only [if_neg hhost, if_neg hne], rfl⟩

theorem decodeAarMember_component {msg : RxMessage maxNumOfFlow}
    (hcode : avp.model.code = mediaComponentDescription) :
    decodeAarMember msg avp = decodeMediaComponent avp msg := by
  rw [decodeAarMember, hcode]
  rfl

theorem decodeAarMember_iff {msg : RxMessage maxNumOfFlow} (h : avp.WellTyped dict) :
    (∃ t, decodeAarMember msg avp = some t) ↔
      msg.mediaComponent.length + (if avp.model.code = mediaComponentDescription then 1 else 0) ≤
          maxNumOfMediaComponent ∧
        (avp.model.code = mediaComponentDescription → ComponentFits maxNumOfFlow avp) := by
  by_cases hcode : avp.model.code = mediaComponentDescription
  · rw [decodeAarMember_component hcode, decodeMediaComponent, if_pos hcode, Nat.succ_le_iff,
      ← decodeComponent_iff h]
    split
    · rename_i hlt
      simp only [Option.bind_eq_bind, Option.bind_eq_some_iff, hlt, hcode, true_and, forall_const]
      constructor
      · rintro ⟨_, c, hc, -⟩
        exact ⟨c, hc⟩
      · rintro ⟨c, hc⟩
        exact ⟨_, c, hc, rfl⟩
    · rename_i hlt
      simp [hlt]
  · obtain ⟨t, ht, -⟩ := @decodeAarMember_of_ne _ _ msg h hcode
    rw [if_neg hcode]
    exact iff_of_true ⟨t, ht⟩ ⟨msg.mediaComponent_le, fun h => absurd h hcode⟩

theorem decodeAarMember_count {msg t : RxMessage maxNumOfFlow} (h : avp.WellTyped dict)
    (hdecode : decodeAarMember msg avp = some t) : t.mediaComponent.length =
      msg.mediaComponent.length + if avp.model.code = mediaComponentDescription then 1 else 0 := by
  by_cases hcode : avp.model.code = mediaComponentDescription
  · rw [decodeAarMember_component hcode, decodeMediaComponent,
      Option.dite_none_right_eq_some] at hdecode
    obtain ⟨_, hdecode⟩ := hdecode
    obtain ⟨c, -, hdecode⟩ := Option.bind_eq_some_iff.mp hdecode
    cases hdecode
    simp [hcode]
  · obtain ⟨t', ht, hsame⟩ := @decodeAarMember_of_ne _ _ msg h hcode
    rw [hdecode] at ht
    cases ht
    rw [hsame, if_neg hcode, Nat.add_zero]

/-- The AA-Request is read to its end if and only if it fits into the arrays. -/
theorem decodeAar_iff {peerHost : Option CString} (h : ∀ avp ∈ avps, avp.WellTyped dict) :
    (∃ msg, decodeAar maxNumOfFlow peerHost avps = some msg) ↔ AarFits maxNumOfFlow avps := by
  have hloop := @Loop.foldlM_bounded _ _ avps
    (⟨peerHost, [], Nat.zero_le _⟩ : RxMessage maxNumOfFlow)
    decodeAarMember (fun msg => msg.mediaComponent.length)
    (fun avp => if avp.model.code = mediaComponentDescription then 1 else 0)
    (fun avp => avp.model.code = mediaComponentDescription → ComponentFits maxNumOfFlow avp)
    maxNumOfMediaComponent (fun msg => msg.mediaComponent_le)
    (fun msg avp havp => decodeAarMember_iff (h avp havp))
    (fun msg avp havp t => decodeAarMember_count (h avp havp))
  rw [decodeAar, hloop, ← Avp.count_eq_sum]
  simp [AarFits]

/-- No media component is left out. -/
theorem decodeAar_count {peerHost : Option CString} {msg : RxMessage maxNumOfFlow}
    (h : ∀ avp ∈ avps, avp.WellTyped dict)
    (hdecode : decodeAar maxNumOfFlow peerHost avps = some msg) :
    msg.mediaComponent.length = Avp.count mediaComponentDescription avps := by
  have hcount := @Loop.foldlM_count _ _ avps _ msg decodeAarMember
    (fun msg => msg.mediaComponent.length)
    (fun avp => if avp.model.code = mediaComponentDescription then 1 else 0)
    (fun msg avp havp t => decodeAarMember_count (h avp havp)) hdecode
  rw [hcount, Avp.count_eq_sum]
  simp

end
end Rx
end NextEpc
