import NextEpc.Mme.S1apHandover

/-!
# Counting Modify Bearer Responses

A Path Switch Request and a Handover Notify send a Modify Bearer Request for each bearer, and are
completed by the last response. The requests and responses are counted for the UE: any response is
counted, whatever its request was for, and a request that is given up stays in the count.
-/

namespace NextEpc

open Fallible

/-! ## Counters -/

namespace GtpCounter

/-- A number of responses are still to come. With none, the counter is closed. -/
def Awaits (counter : GtpCounter) (n : Nat) : Prop :=
  counter.request.toNat = counter.response.toNat + n ∧ (n = 0 → counter.response = 0)

variable {counter : GtpCounter} {n : Nat}

theorem awaits_zero : counter.Awaits 0 ↔ counter = ⟨0, 0⟩ := by
  obtain ⟨request, response⟩ := counter
  simp only [Awaits, Nat.add_zero, forall_const, mk.injEq]
  constructor
  · rintro ⟨heq, rfl⟩
    exact ⟨UInt8.toNat_inj.mp heq, rfl⟩
  · rintro ⟨rfl, rfl⟩
    exact ⟨rfl, rfl⟩

theorem check_of_closed (h : counter.Awaits 0) : counter.check = (counter, false) := by
  rw [awaits_zero.mp h]
  rfl

/-- A response is counted, and the last one closes the counter. -/
theorem check_of_open (h : counter.Awaits (n + 1)) :
    counter.check.1.Awaits n ∧ counter.check.2 = decide (n = 0) := by
  obtain ⟨hcount, -⟩ := h
  have hlt := counter.request.toNat_lt
  have hopen : counter.request ≠ 0 := by
    intro hzero
    rw [hzero, UInt8.toNat_zero] at hcount
    omega
  have hinc : (counter.response + 1).toNat = counter.response.toNat + 1 := by
    rw [UInt8.toNat_add, UInt8.toNat_one]
    omega
  have hlast : counter.request = counter.response + 1 ↔ n = 0 := by
    rw [← UInt8.toNat_inj, hinc]
    omega
  rw [check, if_neg hopen]
  split
  case isTrue heq =>
    rw [hlast.mp heq]
    exact ⟨awaits_zero.mpr rfl, rfl⟩
  case isFalse hne =>
    rw [hlast] at hne
    refine ⟨⟨?_, fun hzero => absurd hzero hne⟩, (decide_eq_false hne).symm⟩
    dsimp only
    rw [hinc]
    omega

/-- As many requests as an octet can count open a counter. -/
theorem awaits_inc (h : counter.Awaits 0) (hn : n < 256) : (inc^[n] counter).Awaits n := by
  rw [awaits_zero.mp h]
  have hinc : inc^[n] ⟨0, 0⟩ = ⟨UInt8.ofNat n, 0⟩ := by
    clear hn
    induction n with
    | zero => rfl
    | succ n ih => rw [Function.iterate_succ_apply', ih, inc, UInt8.ofNat_add]; rfl
  rw [hinc]
  constructor
  · simp [Nat.mod_eq_of_lt hn]
  · exact fun _ => rfl

end GtpCounter

/-! ## Runs -/

/-- What a Modify Bearer Request is for. Procedures are numbered. -/
inductive ModifyTag
  | ordinary
  | pathSwitch (n : Nat)
  | handoverNotify (n : Nat)
  deriving DecidableEq, Repr

namespace ModifyTag

def isPathSwitch : ModifyTag → Bool
  | .pathSwitch _ => true
  | _ => false

def isHandoverNotify : ModifyTag → Bool
  | .handoverNotify _ => true
  | _ => false

def number : ModifyTag → Nat
  | .ordinary => 0
  | .pathSwitch n | .handoverNotify n => n

/-- What the requests are for that a message makes the MME send -/
def ofProcedure (n : Nat) : S1apProcedure → ModifyTag
  | .pathSwitchRequest => .pathSwitch n
  | .handoverNotification => .handoverNotify n
  | _ => .ordinary

end ModifyTag

/-- The UE of a Modify Bearer Request -/
def S1Sent.modifyBearerUe : S1Sent → Option MmeUeId
  | .toSgw mmeUe (.modifyBearerRequest _ _) => some mmeUe
  | _ => none

/-- The state, with the requests that have no response yet and with what has been completed -/
structure ModifyRun where
  mme : S1Mme
  outstanding : MmeUeId → List ModifyTag
  /-- The procedures that have sent requests -/
  started : List ModifyTag
  /-- The number of the next procedure -/
  next : Nat
  /-- For each Path Switch Acknowledge, the response that it was sent at -/
  acks : List ModifyTag
  /-- For each release of the source of a handover, the response that it was sent at -/
  releases : List ModifyTag

namespace S1Mme

/-- The messages that a step has sent -/
def newSent (s t : S1Mme) : List S1Sent := t.sent.drop s.sent.length

/-- The counters of a UE stay. -/
def CountersKept (a b : S1MmeUe) : Prop :=
  b.pathSwitchCounter = a.pathSwitchCounter ∧ b.handoverNotifyCounter = a.handoverNotifyCounter

end S1Mme

namespace ModifyRun

open S1Mme hiding Step Event initial

inductive Event
  | s1ap (env : S1apEnv) (enb : MmeEnbId) (ies : S1apIes) (procedure : S1apProcedure)
  | modifyBearerResponse (mmeUe : MmeUeId) (tag : ModifyTag)
  /-- A request is given up after its retransmissions. -/
  | timeout (mmeUe : MmeUeId) (tag : ModifyTag)
  | other

section
variable (r : ModifyRun)

/-- What a step completes is recorded with the response. -/
def completing (t : S1Mme) (tag : ModifyTag) : ModifyRun :=
  { r with
    mme := t
    acks := List.replicate ((r.mme.newSent t).countP S1Sent.isPathSwitchAck) tag ++ r.acks
    releases :=
      List.replicate ((r.mme.newSent t).countP S1Sent.isHandoverRelease) tag ++ r.releases }

/-- The requests that a step has sent have no response yet. -/
def sending (t : S1Mme) (tag : ModifyTag) : ModifyRun :=
  { r.completing t .ordinary with
    outstanding := fun u => r.outstanding u ++
      List.replicate ((r.mme.newSent t).countP fun sent => sent.modifyBearerUe = some u) tag
    started :=
      if tag ≠ .ordinary ∧ (r.mme.newSent t).any (fun sent => sent.modifyBearerUe.isSome) then
        tag :: r.started
      else r.started
    next := r.next + 1 }

/-- One of the requests is no longer outstanding. -/
def settled (mmeUe : MmeUeId) (tag : ModifyTag) : ModifyRun :=
  { r with
    outstanding := Function.update r.outstanding mmeUe ((r.outstanding mmeUe).erase tag) }

/-- The response to one of the requests has come. -/
def answered (mmeUe : MmeUeId) (tag : ModifyTag) (t : S1Mme) : ModifyRun :=
  (r.settled mmeUe tag).completing t tag

end

/-- What other parts of the MME do: they keep the counters, and complete no procedure. The requests
that they send are ordinary. -/
def Elsewhere (s t : S1Mme) : Prop := Related CountersKept s t

inductive Step [Ogslib] [OgsCrypt] : ModifyRun → Event → ModifyRun → Prop
  | s1ap {r : ModifyRun} {t : S1Mme} {env : S1apEnv} {enb : MmeEnbId} {ies : S1apIes}
      {procedure : S1apProcedure} (h : r.mme.s1apHandle env enb ies procedure = .ok t) :
      Step r (.s1ap env enb ies procedure) (r.sending t (.ofProcedure r.next procedure))
  | modifyBearerResponse {r : ModifyRun} {t : S1Mme} {mmeUe : MmeUeId} {tag : ModifyTag}
      (htag : tag ∈ r.outstanding mmeUe)
      (h : r.mme.mmeS11HandleModifyBearerResponse mmeUe = .ok t) :
      Step r (.modifyBearerResponse mmeUe tag) (r.answered mmeUe tag t)
  | timeout {r : ModifyRun} {mmeUe : MmeUeId} {tag : ModifyTag}
      (htag : tag ∈ r.outstanding mmeUe) : Step r (.timeout mmeUe tag) (r.settled mmeUe tag)
  | other {r : ModifyRun} {t : S1Mme} (h : Elsewhere r.mme t) :
      Step r .other (r.sending t .ordinary)

def initial : ModifyRun := ⟨S1Mme.initial, fun _ => [], [], 0, [], []⟩

/-- All requests of a procedure that has begun have their responses. -/
def Done (r : ModifyRun) (tag : ModifyTag) : Prop :=
  tag ∈ r.started ∧ ∀ mmeUe, tag ∉ r.outstanding mmeUe

/-- What completes the procedures of a kind happened once for each of them, at a response that was
for it: if all its requests have their responses, and otherwise not yet. -/
structure Completed (r : ModifyRun) (kind : ModifyTag → Bool) (log : List ModifyTag) : Prop where
  once : ∀ tag, kind tag = true → r.Done tag → log.count tag = 1
  only : ∀ tag ∈ log, kind tag = true ∧ r.Done tag

/-- Path Switch Acknowledges are sent, and the sources of handovers are released, as the procedures
of the UEs ask for it. -/
def Exact (r : ModifyRun) : Prop :=
  r.Completed ModifyTag.isPathSwitch r.acks ∧ r.Completed ModifyTag.isHandoverNotify r.releases

/-- No procedure of the UE waits for responses. -/
def Idle (r : ModifyRun) (mmeUe : MmeUeId) : Prop := ∀ tag ∈ r.outstanding mmeUe, tag = .ordinary

/-- A procedure begins when no other one of the UE waits for responses, and has fewer than 256
bearers. While it waits, no other responses come, and its own requests are not given up. -/
def Alone (r : ModifyRun) : Event → Prop
  | .s1ap _ _ ies .pathSwitchRequest => ∀ enbUe mmeUe,
      ies.sourceMmeUeS1apId.bind r.mme.enbUeFindByMmeUeS1apId = some enbUe →
      (r.mme.enbUes.mem enbUe).mmeUe = some mmeUe →
      (r.mme.mmeUes.mem mmeUe).SecurityContextIsValid →
      r.Idle mmeUe ∧ (ies.eRabToBeSwitchedDlList.getD []).length < 256
  | .s1ap _ enb ies .handoverNotification => ∀ targetUe mmeUe,
      r.mme.handoverOf (ies.enbUeS1apId.bind (r.mme.enbUeFindByEnbUeS1apId enb)) =
        some (targetUe, mmeUe) →
      r.Idle mmeUe ∧ (r.mme.mmeUes.mem mmeUe).bearers.length < 256
  | .modifyBearerResponse mmeUe tag => ∀ t ∈ r.outstanding mmeUe, t = .ordinary ∨ t = tag
  | .timeout _ tag => tag = .ordinary
  | _ => True

end ModifyRun

/-! ## What the handlers do to the counters -/

namespace S1Mme
variable {s t : S1Mme} {enb : MmeEnbId} {ies : S1apIes} {mmeUe : MmeUeId} {l : List S1Sent}

theorem newSent_eq (h : t.sent = s.sent ++ l) : s.newSent t = l := by
  rw [newSent, h, List.drop_left]

theorem frame_countersKept : S1MmeUe.Frame CountersKept where
  same h := ⟨h.pathSwitchCounter, h.handoverNotifyCounter⟩
  trans h h' := ⟨h'.1.trans h.1, h'.2.trans h.2⟩
  filter _ _ := ⟨rfl, rfl⟩
  setEnbS1u _ _ _ := ⟨rfl, rfl⟩
  clearIndirectTunnel _ := ⟨rfl, rfl⟩

theorem checkPathSwitch_eq_ok (h : s.checkPathSwitch mmeUe = .ok t) :
    t.mmeUes = s.mmeUes.modify mmeUe (fun ue =>
      { ue with pathSwitchCounter := (s.mmeUes.mem mmeUe).pathSwitchCounter.check.1 }) ∧
    ∃ l, t.sent = s.sent ++ l ∧ l.countP S1Sent.isHandoverRelease = 0 ∧
      l.countP S1Sent.isPathSwitchAck =
        if (s.mmeUes.mem mmeUe).pathSwitchCounter.check.2 then 1 else 0 := by
  simp only [checkPathSwitch] at h
  split at h
  case isTrue hlast =>
    simp only [s1apSendPathSwitchAck, bind_eq_ok, assertSome_eq_ok, Except.ok.injEq] at h
    obtain ⟨enbUe, -, rfl⟩ := h
    exact ⟨rfl, [_], rfl, rfl, (if_pos hlast).symm⟩
  case isFalse hlast =>
    cases h
    exact ⟨rfl, [], (List.append_nil _).symm, rfl, (if_neg hlast).symm⟩

theorem checkHandoverNotify_eq_ok (h : s.checkHandoverNotify mmeUe = .ok t) :
    t.mmeUes = s.mmeUes.modify mmeUe (fun ue =>
      { ue with handoverNotifyCounter := (s.mmeUes.mem mmeUe).handoverNotifyCounter.check.1 }) ∧
    ∃ l, t.sent = s.sent ++ l ∧ l.countP S1Sent.isPathSwitchAck = 0 ∧
      l.countP S1Sent.isHandoverRelease =
        if (s.mmeUes.mem mmeUe).handoverNotifyCounter.check.2 then 1 else 0 := by
  simp only [checkHandoverNotify] at h
  split at h
  case isTrue hlast =>
    simp only [releaseSource, s1apSendUeContextReleaseCommand, if_true, bind_eq_ok,
      assertSome_eq_ok, assert_eq_ok, Except.ok.injEq] at h
    obtain ⟨targetUe, -, sourceUe, -, -, -, rfl⟩ := h
    exact ⟨rfl, [_], rfl, rfl, (if_pos hlast).symm⟩
  case isFalse hlast =>
    cases h
    exact ⟨rfl, [], (List.append_nil _).symm, rfl, (if_neg hlast).symm⟩

/-- A response is counted by both counters of the UE. -/
structure Responded (s : S1Mme) (mmeUe : MmeUeId) (t : S1Mme) : Prop where
  others : ∀ u, u ≠ mmeUe → t.mmeUes.mem u = s.mmeUes.mem u
  pathSwitchCounter : (t.mmeUes.mem mmeUe).pathSwitchCounter =
    (s.mmeUes.mem mmeUe).pathSwitchCounter.check.1
  handoverNotifyCounter : (t.mmeUes.mem mmeUe).handoverNotifyCounter =
    (s.mmeUes.mem mmeUe).handoverNotifyCounter.check.1
  acks : (s.newSent t).countP S1Sent.isPathSwitchAck =
    if (s.mmeUes.mem mmeUe).pathSwitchCounter.check.2 then 1 else 0
  releases : (s.newSent t).countP S1Sent.isHandoverRelease =
    if (s.mmeUes.mem mmeUe).handoverNotifyCounter.check.2 then 1 else 0

theorem responded (h : s.mmeS11HandleModifyBearerResponse mmeUe = .ok t) :
    Responded s mmeUe t := by
  obtain ⟨r, hr, ht⟩ := bind_eq_ok.mp h
  obtain ⟨hpath, l, hl, hlrelease, hlack⟩ := checkPathSwitch_eq_ok hr
  obtain ⟨hnotify, m, hm, hmack, hmrelease⟩ := checkHandoverNotify_eq_ok ht
  have hsent : s.newSent t = l ++ m := by
    apply newSent_eq
    rw [hm, hl, List.append_assoc]
  rw [hpath] at hnotify hmrelease
  constructor
  · intro u hu
    rw [hnotify, Pool.mem_modify, if_neg hu, Pool.mem_modify, if_neg hu]
  · simp [hnotify]
  · simp [hnotify]
  · rw [hsent, List.countP_append, hlack, hmack, Nat.add_zero]
  · rw [hsent, List.countP_append, hlrelease, hmrelease, Nat.zero_add]
    simp

/-- A number of Modify Bearer Requests for a UE are sent, and no other counter is touched. -/
structure Requested (s : S1Mme) (mmeUe : MmeUeId) (n : Nat) (t : S1Mme) : Prop where
  others : ∀ u, u ≠ mmeUe → CountersKept (s.mmeUes.mem u) (t.mmeUes.mem u)
  sent : ∃ l, t.sent = s.sent ++ l ∧ l.length = n ∧
    ∀ sent ∈ l, sent.modifyBearerUe = some mmeUe ∧ Quiet sent

/-- What a Path Switch Request does that is accepted: the requests are counted. -/
structure Switched (s : S1Mme) (mmeUe : MmeUeId) (n : Nat) (t : S1Mme) : Prop
    extends Requested s mmeUe n t where
  pathSwitchCounter : (t.mmeUes.mem mmeUe).pathSwitchCounter =
    GtpCounter.inc^[n] (s.mmeUes.mem mmeUe).pathSwitchCounter
  handoverNotifyCounter :
    (t.mmeUes.mem mmeUe).handoverNotifyCounter = (s.mmeUes.mem mmeUe).handoverNotifyCounter

theorem Notified.requested (h : Notified s mmeUe t) :
    Requested s mmeUe (s.mmeUes.mem mmeUe).bearers.length t := by
  constructor
  · intro u hu
    rw [h.others u hu]
    exact ⟨rfl, rfl⟩
  · refine ⟨_, h.sent, List.length_map _, ?_⟩
    intro sent hsent
    obtain ⟨bearer, -, rfl⟩ := List.mem_map.mp hsent
    exact ⟨rfl, rfl, rfl⟩

/-- What is written before, beside the counters. -/
theorem Switched.of_kept (hmem : ∀ u, CountersKept (s.mmeUes.mem u) (t.mmeUes.mem u))
    (hsent : t.sent = s.sent) : Switched s mmeUe 0 t where
  others u _ := hmem u
  sent := ⟨[], by rw [hsent, List.append_nil], rfl, by simp⟩
  pathSwitchCounter := (hmem mmeUe).1
  handoverNotifyCounter := (hmem mmeUe).2

theorem Switched.trans {r : S1Mme} {m n : Nat} (h : Switched s mmeUe m r)
    (h' : Switched r mmeUe n t) : Switched s mmeUe (m + n) t := by
  obtain ⟨l, hl, hlength, hall⟩ := h.sent
  obtain ⟨l', hl', hlength', hall'⟩ := h'.sent
  constructor
  · constructor
    · exact fun u hu => frame_countersKept.trans (h.others u hu) (h'.others u hu)
    · refine ⟨l ++ l', by rw [hl', hl, List.append_assoc], by simp [hlength, hlength'], ?_⟩
      intro sent hsent
      rcases List.mem_append.mp hsent with hsent | hsent
      · exact hall sent hsent
      · exact hall' sent hsent
  · rw [h'.pathSwitchCounter, h.pathSwitchCounter, Nat.add_comm, Function.iterate_add_apply]
  · rw [h'.handoverNotifyCounter, h.handoverNotifyCounter]

theorem switched_pathSwitchErab {erab : S1apErab} (h : s.pathSwitchErab mmeUe erab = .ok t) :
    Switched s mmeUe 1 t := by
  simp only [pathSwitchErab, S1Mme.setEnbS1u, bind_eq_ok, Except.ok.injEq] at h
  obtain ⟨_, -, _, ⟨_, -, ip, -, rfl⟩, rfl⟩ := h
  constructor
  · constructor
    · intro u hu
      simp [mmeGtpSendModifyBearerRequest, S1Mme.send, S1Mme.modifyMmeUe, writeBearer, hu,
        CountersKept]
    · exact ⟨[_], rfl, rfl, List.forall_mem_singleton.mpr ⟨rfl, rfl, rfl⟩⟩
  · simp [mmeGtpSendModifyBearerRequest, S1Mme.send, S1Mme.modifyMmeUe, writeBearer,
      S1MmeUe.updateBearer]
  · simp [mmeGtpSendModifyBearerRequest, S1Mme.send, S1Mme.modifyMmeUe, writeBearer,
      S1MmeUe.updateBearer]

/-- The loop of a Path Switch Request, over some E-RABs. -/
theorem switched_foldlM {list : List S1apErab}
    (h : list.foldlM (fun s erab => s.pathSwitchErab mmeUe erab) s = .ok t) :
    Switched s mmeUe list.length t := by
  induction list generalizing s with
  | nil =>
    cases h
    exact .of_kept (fun _ => ⟨rfl, rfl⟩) rfl
  | cons erab list ih =>
    obtain ⟨r, hr, hrest⟩ := bind_eq_ok.mp h
    rw [List.length_cons, Nat.add_comm]
    exact (switched_pathSwitchErab hr).trans (ih hrest)

/-- A Path Switch Request is refused, or a request for each E-RAB is sent and counted. -/
theorem pathSwitchRequest_cases [OgsCrypt] (h : s.s1apHandlePathSwitchRequest enb ies = .ok t) :
    (Related CountersKept s t ∧ ∀ sent ∈ s.newSent t, sent.modifyBearerUe = none) ∨
    ∃ enbUe mmeUe, ies.sourceMmeUeS1apId.bind s.enbUeFindByMmeUeS1apId = some enbUe ∧
      (s.enbUes.mem enbUe).mmeUe = some mmeUe ∧
      (s.mmeUes.mem mmeUe).SecurityContextIsValid ∧
      Switched s mmeUe (ies.eRabToBeSwitchedDlList.getD []).length t := by
  have refused {pdu : S1Sent} (hquiet : Quiet pdu) (hnone : pdu.modifyBearerUe = none) :
      Related CountersKept s (s.send pdu) ∧
        ∀ sent ∈ s.newSent (s.send pdu), sent.modifyBearerUe = none := by
    refine ⟨(Related.refl frame_countersKept s).send hquiet, ?_⟩
    rw [newSent_eq (l := [pdu]) rfl]
    exact List.forall_mem_singleton.mpr hnone
  simp only [s1apHandlePathSwitchRequest, assertMmeUe, bind_eq_ok, assertSome_eq_ok] at h
  obtain ⟨_, -, _, -, location, -, capabilities, -, id, hid, enbUeS1apId, -, h⟩ := h
  split at h
  case h_1 =>
    cases h
    exact .inl (refused ⟨rfl, rfl⟩ rfl)
  case h_2 enbUe hfind =>
    obtain ⟨mmeUe, hmmeUe, h⟩ := bind_eq_ok.mp h
    split at h
    case isTrue hvalid =>
      simp only [bind_eq_ok, Except.ok.injEq] at h
      obtain ⟨list, hlist, r, hloop, rfl⟩ := h
      refine .inr ⟨enbUe, mmeUe, by rw [hid]; exact hfind, assertSome_eq_ok.mp hmmeUe, hvalid, ?_⟩
      rw [assertSome_eq_ok.mp hlist, Option.getD_some]
      have hbefore : Switched s mmeUe 0 (((s.modifyMmeUe mmeUe S1MmeUe.nextNh).modifyEnbUe enbUe
          fun e => { e with enbUeS1apId := enbUeS1apId, saved := location }).pathSwitchUe mmeUe
            location capabilities) := by
        apply Switched.of_kept
        · intro u
          by_cases hu : u = mmeUe
          · subst hu
            simp [pathSwitchUe, S1Mme.modifyMmeUe, S1Mme.modifyEnbUe, S1MmeUe.nextNh, CountersKept]
          · simp [pathSwitchUe, S1Mme.modifyMmeUe, S1Mme.modifyEnbUe, hu, CountersKept]
        · rfl
      have hall := hbefore.trans (switched_foldlM hloop)
      rw [Nat.zero_add] at hall
      exact ⟨⟨hall.others, hall.sent⟩, hall.pathSwitchCounter, hall.handoverNotifyCounter⟩
    case isFalse =>
      cases h
      exact .inl (refused ⟨rfl, rfl⟩ rfl)

/-! ### Requests that are sent -/

section
variable {n : Nat}

theorem Requested.length (h : Requested s mmeUe n t) : (s.newSent t).length = n := by
  obtain ⟨l, hl, hlength, -⟩ := h.sent
  rw [newSent_eq hl, hlength]

theorem Requested.mem (h : Requested s mmeUe n t) {sent : S1Sent} (hsent : sent ∈ s.newSent t) :
    sent.modifyBearerUe = some mmeUe ∧ Quiet sent := by
  obtain ⟨l, hl, -, hall⟩ := h.sent
  rw [newSent_eq hl] at hsent
  exact hall sent hsent

theorem Requested.quiet (h : Requested s mmeUe n t) : ∀ sent ∈ s.newSent t, Quiet sent :=
  fun _ hsent => (h.mem hsent).2

theorem Requested.countP_self (h : Requested s mmeUe n t) :
    (s.newSent t).countP (fun sent => sent.modifyBearerUe = some mmeUe) = n := by
  rw [← h.length, List.countP_eq_length]
  exact fun sent hsent => by simp [(h.mem hsent).1]

theorem Requested.countP_other (h : Requested s mmeUe n t) {u : MmeUeId} (hu : u ≠ mmeUe) :
    (s.newSent t).countP (fun sent => sent.modifyBearerUe = some u) = 0 := by
  rw [List.countP_eq_zero]
  exact fun sent hsent => by simp [(h.mem hsent).1, hu.symm]

theorem Requested.any (h : Requested s mmeUe (n + 1) t) :
    (s.newSent t).any (fun sent => sent.modifyBearerUe.isSome) = true := by
  obtain ⟨sent, hsent⟩ := List.exists_mem_of_length_eq_add_one h.length
  exact List.any_eq_true.mpr ⟨sent, hsent, by rw [(h.mem hsent).1]; rfl⟩

theorem Related.quiet {Q : S1MmeUe → S1MmeUe → Prop} (h : Related Q s t) :
    ∀ sent ∈ s.newSent t, Quiet sent := by
  obtain ⟨l, hl, hall⟩ := h.2
  rw [newSent_eq hl]
  exact hall

end

end S1Mme

/-! ## The invariant -/

namespace ModifyRun

open S1Mme hiding Step Event initial

/-- A counter of a UE awaits the responses for the procedures of its kind. -/
def Counts (t : S1Mme) (outstanding : MmeUeId → List ModifyTag) (kind : ModifyTag → Bool)
    (counter : S1MmeUe → GtpCounter) : Prop :=
  ∀ u, (counter (t.mmeUes.mem u)).Awaits ((outstanding u).countP kind)

/-- The requests without a response that are not ordinary: those of a UE are for one procedure, and
it has begun. -/
structure Tagged (outstanding : MmeUeId → List ModifyTag) (started : List ModifyTag) (next : Nat) :
    Prop where
  one : ∀ u, ∀ tag ∈ outstanding u, ∀ tag' ∈ outstanding u,
    tag ≠ .ordinary → tag' ≠ .ordinary → tag = tag'
  owner : ∀ u v tag, tag ≠ .ordinary → tag ∈ outstanding u → tag ∈ outstanding v → u = v
  begun : ∀ u tag, tag ≠ .ordinary → tag ∈ outstanding u → tag ∈ started
  fresh : ∀ tag ∈ started, tag ≠ .ordinary ∧ tag.number < next

structure Inv (r : ModifyRun) : Prop where
  pathSwitch : Counts r.mme r.outstanding ModifyTag.isPathSwitch S1MmeUe.pathSwitchCounter
  handoverNotify :
    Counts r.mme r.outstanding ModifyTag.isHandoverNotify S1MmeUe.handoverNotifyCounter
  tagged : Tagged r.outstanding r.started r.next
  exact : r.Exact

variable {r r' : ModifyRun} {t : S1Mme} {mmeUe u : MmeUeId} {tag : ModifyTag}
  {kind : ModifyTag → Bool} {log : List ModifyTag} {outstanding : MmeUeId → List ModifyTag}
  {started : List ModifyTag} {next : Nat}

/-! ### Requests -/

/-- The same procedures wait for responses. -/
theorem Tagged.congr (h : Tagged outstanding started next)
    {outstanding' : MmeUeId → List ModifyTag}
    (hmem : ∀ u tag, tag ≠ .ordinary → tag ∈ outstanding' u → tag ∈ outstanding u) {next' : Nat}
    (hnext : next ≤ next') : Tagged outstanding' started next' where
  one u tag htag tag' htag' hne hne' :=
    h.one u tag (hmem u tag hne htag) tag' (hmem u tag' hne' htag') hne hne'
  owner u v tag hne hu hv := h.owner u v tag hne (hmem u tag hne hu) (hmem v tag hne hv)
  begun u tag hne htag := h.begun u tag hne (hmem u tag hne htag)
  fresh tag htag := ⟨(h.fresh tag htag).1, Nat.lt_of_lt_of_le (h.fresh tag htag).2 hnext⟩

/-- A procedure has not begun under a number that is not yet given out. -/
theorem Tagged.not_started (h : Tagged outstanding started tag.number) : tag ∉ started :=
  fun hmem => Nat.lt_irrefl _ (h.fresh tag hmem).2

/-- A procedure begins, of a UE for which no other one waits. -/
theorem Tagged.begin (h : Tagged outstanding started tag.number) (htag : tag ≠ .ordinary)
    (hidle : ∀ tag' ∈ outstanding mmeUe, tag' = .ordinary)
    {outstanding' : MmeUeId → List ModifyTag}
    (hmem : ∀ u tag', tag' ≠ .ordinary → tag' ∈ outstanding' u →
      tag' ∈ outstanding u ∨ (u = mmeUe ∧ tag' = tag)) :
    Tagged outstanding' (tag :: started) (tag.number + 1) := by
  have hnew : ∀ u, tag ∈ outstanding' u → u = mmeUe := by
    intro u hu
    rcases hmem u tag htag hu with hold | ⟨hu, -⟩
    · exact absurd (h.begun u tag htag hold) h.not_started
    · exact hu
  have hthis : ∀ tag' ∈ outstanding' mmeUe, tag' ≠ .ordinary → tag' = tag := by
    intro tag' htag' hne
    rcases hmem mmeUe tag' hne htag' with hold | ⟨-, rfl⟩
    · exact absurd (hidle tag' hold) hne
    · rfl
  have hold : ∀ u tag', tag' ≠ .ordinary → tag' ≠ tag → tag' ∈ outstanding' u →
      tag' ∈ outstanding u := by
    intro u tag' hne hother htag'
    rcases hmem u tag' hne htag' with hold | ⟨-, heq⟩
    · exact hold
    · exact absurd heq hother
  constructor
  · intro u tag₁ htag₁ tag₂ htag₂ hne₁ hne₂
    by_cases hu : u = mmeUe
    · subst hu
      rw [hthis tag₁ htag₁ hne₁, hthis tag₂ htag₂ hne₂]
    · have hother : ∀ tag' ∈ outstanding' u, tag' ≠ tag := by
        rintro tag' htag' rfl
        exact hu (hnew u htag')
      exact h.one u tag₁ (hold u tag₁ hne₁ (hother tag₁ htag₁) htag₁) tag₂
        (hold u tag₂ hne₂ (hother tag₂ htag₂) htag₂) hne₁ hne₂
  · intro u v tag' hne hu hv
    by_cases heq : tag' = tag
    · subst heq
      rw [hnew u hu, hnew v hv]
    · exact h.owner u v tag' hne (hold u tag' hne heq hu) (hold v tag' hne heq hv)
  · intro u tag' hne htag'
    by_cases heq : tag' = tag
    · exact heq ▸ List.mem_cons_self
    · exact List.mem_cons_of_mem _ (h.begun u tag' hne (hold u tag' hne heq htag'))
  · intro tag' htag'
    rcases List.mem_cons.mp htag' with rfl | htag'
    · exact ⟨htag, Nat.lt_succ_self _⟩
    · exact ⟨(h.fresh tag' htag').1, Nat.lt_succ_of_lt (h.fresh tag' htag').2⟩

/-! ### Completions -/

theorem Completed.congr (h : r.Completed kind log)
    (hdone : ∀ tag, kind tag = true → (r'.Done tag ↔ r.Done tag)) : r'.Completed kind log where
  once tag htag hd := h.once tag htag ((hdone tag htag).mp hd)
  only tag htag := ⟨(h.only tag htag).1, (hdone tag (h.only tag htag).1).mpr (h.only tag htag).2⟩

/-- The last response for a procedure completes it, and no other one does. -/
theorem Completed.respond (h : r.Completed kind log) (hopen : ¬r.Done tag)
    {last : Prop} [Decidable last]
    (hdone : ∀ tag', kind tag' = true → (r'.Done tag' ↔ r.Done tag' ∨ (tag' = tag ∧ last))) :
    r'.Completed kind
      (List.replicate (if kind tag && decide last then 1 else 0) tag ++ log) := by
  split
  case isTrue hlast =>
    simp only [Bool.and_eq_true, decide_eq_true_eq] at hlast
    constructor
    · intro tag' hkind hd
      rcases (hdone tag' hkind).mp hd with hd | ⟨rfl, -⟩
      · have hne : tag ≠ tag' := by
          rintro rfl
          exact hopen hd
        rw [List.replicate_one, List.singleton_append, List.count_cons_of_ne hne]
        exact h.once tag' hkind hd
      · have hnew : tag' ∉ log := fun hmem => hopen (h.only tag' hmem).2
        rw [List.replicate_one, List.singleton_append, List.count_cons_self,
          List.count_eq_zero_of_not_mem hnew]
    · intro tag' htag'
      rcases List.mem_cons.mp htag' with rfl | htag'
      · exact ⟨hlast.1, (hdone tag' hlast.1).mpr (.inr ⟨rfl, hlast.2⟩)⟩
      · obtain ⟨hkind, hd⟩ := h.only tag' htag'
        exact ⟨hkind, (hdone tag' hkind).mpr (.inl hd)⟩
  case isFalse hlast =>
    refine h.congr fun tag' hkind => ?_
    rw [hdone tag' hkind, or_iff_left_iff_imp]
    rintro ⟨rfl, hl⟩
    simp [hkind, hl] at hlast

/-! ### Steps -/

/-- Nothing changes for the procedures that wait. -/
theorem Inv.kept (h : Inv r)
    (hpath : Counts r'.mme r'.outstanding ModifyTag.isPathSwitch S1MmeUe.pathSwitchCounter)
    (hnotify :
      Counts r'.mme r'.outstanding ModifyTag.isHandoverNotify S1MmeUe.handoverNotifyCounter)
    (hmem : ∀ u tag, tag ≠ .ordinary → (tag ∈ r'.outstanding u ↔ tag ∈ r.outstanding u))
    (hstarted : r'.started = r.started) (hnext : r.next ≤ r'.next) (hacks : r'.acks = r.acks)
    (hreleases : r'.releases = r.releases) : Inv r' := by
  have hdone : ∀ tag, r'.Done tag ↔ r.Done tag := by
    intro tag
    rw [Done, Done, hstarted]
    refine and_congr_right fun hmemStarted => forall_congr' fun u => ?_
    rw [hmem u tag (h.tagged.fresh tag hmemStarted).1]
  refine ⟨hpath, hnotify, ?_, ?_⟩
  · rw [hstarted]
    exact h.tagged.congr (fun u tag hne => (hmem u tag hne).mp) hnext
  · rw [Exact, hacks, hreleases]
    exact ⟨h.exact.1.congr fun tag _ => hdone tag, h.exact.2.congr fun tag _ => hdone tag⟩

theorem completing_of_quiet (h : ∀ sent ∈ r.mme.newSent t, Quiet sent) :
    r.completing t tag = { r with mme := t } := by
  have hacks : (r.mme.newSent t).countP S1Sent.isPathSwitchAck = 0 :=
    List.countP_eq_zero.mpr fun sent hsent => by simp [(h sent hsent).1]
  have hreleases : (r.mme.newSent t).countP S1Sent.isHandoverRelease = 0 :=
    List.countP_eq_zero.mpr fun sent hsent => by simp [(h sent hsent).2]
  rw [completing, hacks, hreleases]
  rfl

theorem countP_sending : ((r.sending t tag).outstanding u).countP kind =
    (r.outstanding u).countP kind +
      if kind tag then (r.mme.newSent t).countP (fun sent => sent.modifyBearerUe = some u)
      else 0 := by
  rw [sending, List.countP_append, List.countP_replicate]

theorem mem_sending {tag' : ModifyTag} : tag' ∈ (r.sending t tag).outstanding u ↔
    tag' ∈ r.outstanding u ∨
      ((r.mme.newSent t).countP (fun sent => sent.modifyBearerUe = some u) ≠ 0 ∧ tag' = tag) := by
  rw [sending, List.mem_append, List.mem_replicate]

/-- A step that sends ordinary requests or none at all. -/
theorem Inv.sending_kept (h : Inv r)
    (hkept : ∀ u, CountersKept (r.mme.mmeUes.mem u) (t.mmeUes.mem u))
    (hquiet : ∀ sent ∈ r.mme.newSent t, Quiet sent)
    (hnone : tag = .ordinary ∨ ∀ sent ∈ r.mme.newSent t, sent.modifyBearerUe = none) :
    Inv (r.sending t tag) := by
  have hzero : ∀ u, tag ≠ .ordinary →
      (r.mme.newSent t).countP (fun sent => sent.modifyBearerUe = some u) = 0 := by
    intro u hne
    refine List.countP_eq_zero.mpr fun sent hsent => ?_
    simp [hnone.resolve_left hne sent hsent]
  have hcount : ∀ kind : ModifyTag → Bool, kind .ordinary = false → ∀ u,
      ((r.sending t tag).outstanding u).countP kind = (r.outstanding u).countP kind := by
    intro kind hkind u
    rw [countP_sending]
    by_cases htag : tag = .ordinary
    · simp [htag, hkind]
    · simp [hzero u htag]
  apply h.kept
  · intro u
    rw [hcount _ rfl]
    exact (hkept u).1 ▸ h.pathSwitch u
  · intro u
    rw [hcount _ rfl]
    exact (hkept u).2 ▸ h.handoverNotify u
  · intro u tag' hne
    rw [mem_sending, or_iff_left_iff_imp]
    rintro ⟨hsent, rfl⟩
    exact absurd (hzero u hne) hsent
  · rw [sending]
    split
    case isTrue hbegin =>
      obtain ⟨hne, hany⟩ := hbegin
      obtain ⟨sent, hsent, hsome⟩ := List.any_eq_true.mp hany
      simp [hnone.resolve_left hne sent hsent] at hsome
    case isFalse => rfl
  · exact Nat.le_succ _
  · rw [sending, completing_of_quiet hquiet]
  · rw [sending, completing_of_quiet hquiet]

theorem countP_of_idle (h : r.Idle u) (hkind : kind .ordinary = false) :
    (r.outstanding u).countP kind = 0 :=
  List.countP_eq_zero.mpr fun tag htag => by simp [h tag htag, hkind]

/-- The counter of a procedure that begins opens, and the others stay. -/
theorem Counts.sending {counter : S1MmeUe → GtpCounter} {n : Nat}
    (h : Counts r.mme r.outstanding kind counter) (hkind : kind .ordinary = false)
    (hsent : Requested r.mme mmeUe n t) (hidle : r.Idle mmeUe)
    (hkept : ∀ u, u ≠ mmeUe → counter (t.mmeUes.mem u) = counter (r.mme.mmeUes.mem u))
    (hself : (counter (t.mmeUes.mem mmeUe)).Awaits (if kind tag then n else 0)) :
    Counts t (r.sending t tag).outstanding kind counter := by
  intro u
  rw [countP_sending]
  by_cases hu : u = mmeUe
  · subst hu
    rwa [hsent.countP_self, countP_of_idle hidle hkind, Nat.zero_add]
  · rw [hsent.countP_other hu, ite_self, Nat.add_zero, hkept u hu]
    exact h u

/-- A step that begins a procedure of a UE for which no other one waits. -/
theorem Inv.sending_begin (h : Inv r) {n : Nat} (hsent : Requested r.mme mmeUe n t)
    (hidle : r.Idle mmeUe) (htag : tag ≠ .ordinary) (hnumber : tag.number = r.next)
    (hpath : (t.mmeUes.mem mmeUe).pathSwitchCounter.Awaits (if tag.isPathSwitch then n else 0))
    (hnotify : (t.mmeUes.mem mmeUe).handoverNotifyCounter.Awaits
      (if tag.isHandoverNotify then n else 0)) : Inv (r.sending t tag) := by
  have hpaths := h.pathSwitch.sending rfl hsent hidle (fun u hu => (hsent.others u hu).1) hpath
  have hnotifies :=
    h.handoverNotify.sending rfl hsent hidle (fun u hu => (hsent.others u hu).2) hnotify
  have hlogs : r.completing t .ordinary = { r with mme := t } := completing_of_quiet hsent.quiet
  cases n with
  | zero =>
    have hnew : r.mme.newSent t = [] := List.eq_nil_of_length_eq_zero hsent.length
    apply h.kept hpaths hnotifies
    · intro u tag' _
      simp [mem_sending, hnew]
    · simp [ModifyRun.sending, hnew, completing]
    · exact Nat.le_succ _
    · rw [ModifyRun.sending, hlogs]
    · rw [ModifyRun.sending, hlogs]
  | succ n =>
    have hmem : ∀ u tag', tag' ∈ (r.sending t tag).outstanding u ↔
        tag' ∈ r.outstanding u ∨ (u = mmeUe ∧ tag' = tag) := by
      intro u tag'
      rw [mem_sending]
      by_cases hu : u = mmeUe
      · subst hu
        simp [hsent.countP_self]
      · simp [hsent.countP_other hu, hu]
    have hstarted : (r.sending t tag).started = tag :: r.started := by
      rw [ModifyRun.sending]
      exact if_pos ⟨htag, hsent.any⟩
    have hfresh : Tagged r.outstanding r.started tag.number := hnumber ▸ h.tagged
    -- The procedure is not done before, as it has not begun, and not after.
    have hdone : ∀ tag', (r.sending t tag).Done tag' ↔ r.Done tag' := by
      intro tag'
      by_cases heq : tag' = tag
      · subst heq
        refine iff_of_false (fun hd => hd.2 mmeUe ?_) fun hd => hfresh.not_started hd.1
        exact (hmem mmeUe tag').mpr (.inr ⟨rfl, rfl⟩)
      · simp [Done, hstarted, hmem, heq]
    refine ⟨hpaths, hnotifies, ?_, ?_⟩
    · have hnext : (r.sending t tag).next = tag.number + 1 := congrArg Nat.succ hnumber.symm
      rw [hstarted, hnext]
      exact hfresh.begin htag hidle fun u tag' _ => (hmem u tag').mp
    · rw [Exact, ModifyRun.sending, hlogs]
      exact ⟨h.exact.1.congr fun tag' _ => hdone tag', h.exact.2.congr fun tag' _ => hdone tag'⟩

/-! ### Responses -/

/-- A response finds the counter of its kind open, and is the last one if no other is to come. The
other counter is closed. -/
theorem check_response {counter : GtpCounter} {l : List ModifyTag}
    (hkind : kind .ordinary = false) (h : counter.Awaits (l.countP kind)) (htag : tag ∈ l)
    (halone : ∀ tag' ∈ l, tag' = .ordinary ∨ tag' = tag) :
    counter.check.1.Awaits ((l.erase tag).countP kind) ∧
      counter.check.2 = (kind tag && decide (tag ∉ l.erase tag)) := by
  cases hk : kind tag with
  | true =>
    have hcount : l.countP kind = (l.erase tag).countP kind + 1 := by
      have hpos : 0 < l.countP kind := List.countP_pos_iff.mpr ⟨tag, htag, hk⟩
      rw [List.countP_erase]
      simp only [htag, hk, and_self, if_true]
      omega
    rw [hcount] at h
    obtain ⟨hawaits, hlast⟩ := GtpCounter.check_of_open h
    refine ⟨hawaits, hlast.trans ?_⟩
    rw [Bool.true_and, decide_eq_decide, List.countP_eq_zero]
    constructor
    · exact fun hnone hmem => hnone tag hmem hk
    · rintro hmem tag' htag' hk'
      rcases halone tag' (List.mem_of_mem_erase htag') with rfl | rfl
      · rw [hkind] at hk'
        cases hk'
      · exact hmem htag'
  | false =>
    have hnone : ∀ tag' ∈ l, ¬kind tag' = true := by
      intro tag' htag'
      rcases halone tag' htag' with rfl | rfl
      · simp [hkind]
      · simp [hk]
    rw [List.countP_eq_zero.mpr hnone] at h
    rw [GtpCounter.check_of_closed h,
      List.countP_eq_zero.mpr fun tag' htag' => hnone tag' (List.mem_of_mem_erase htag')]
    exact ⟨h, rfl⟩

theorem outstanding_settled : (r.settled mmeUe tag).outstanding u =
    if u = mmeUe then (r.outstanding mmeUe).erase tag else r.outstanding u :=
  Function.update_apply _ _ _ _

theorem Counts.settled {counter : S1MmeUe → GtpCounter}
    (h : Counts r.mme r.outstanding kind counter)
    (hkept : ∀ u, u ≠ mmeUe → counter (t.mmeUes.mem u) = counter (r.mme.mmeUes.mem u))
    (hself : (counter (t.mmeUes.mem mmeUe)).Awaits (((r.outstanding mmeUe).erase tag).countP kind)) :
    Counts t (r.settled mmeUe tag).outstanding kind counter := by
  intro u
  rw [outstanding_settled]
  split
  case isTrue hu => exact hu ▸ hself
  case isFalse hu => exact hkept u hu ▸ h u

theorem mem_of_mem_settled {tag' : ModifyTag} (h : tag' ∈ (r.settled mmeUe tag).outstanding u) :
    tag' ∈ r.outstanding u := by
  rw [outstanding_settled] at h
  split at h
  case isTrue hu => exact hu ▸ List.mem_of_mem_erase h
  case isFalse => exact h

/-- The last response for a procedure is for its UE. -/
theorem Inv.done_settled (h : Inv r) (htag : tag ∈ r.outstanding mmeUe) {tag' : ModifyTag}
    (hne : tag' ≠ .ordinary) : (r.settled mmeUe tag).Done tag' ↔
      r.Done tag' ∨ (tag' = tag ∧ tag ∉ (r.outstanding mmeUe).erase tag) := by
  have hself : (r.settled mmeUe tag).outstanding mmeUe = (r.outstanding mmeUe).erase tag :=
    Function.update_self _ _ _
  have hother : ∀ u, u ≠ mmeUe → (r.settled mmeUe tag).outstanding u = r.outstanding u :=
    fun u hu => Function.update_of_ne hu _ _
  constructor
  · intro hd
    by_cases heq : tag' = tag
    · subst heq
      exact .inr ⟨rfl, hself ▸ hd.2 mmeUe⟩
    · refine .inl ⟨hd.1, fun u hu => hd.2 u ?_⟩
      by_cases hu' : u = mmeUe
      · subst hu'
        rwa [hself, List.mem_erase_of_ne heq]
      · rwa [hother u hu']
  · rintro (hd | ⟨rfl, hlast⟩)
    · exact ⟨hd.1, fun u hu => hd.2 u (mem_of_mem_settled hu)⟩
    · refine ⟨h.tagged.begun mmeUe tag' hne htag, fun u hu => ?_⟩
      have howner : u = mmeUe := h.tagged.owner u mmeUe tag' hne (mem_of_mem_settled hu) htag
      subst howner
      exact hlast (hself ▸ hu)

/-- A response while no other procedure waits for one. -/
theorem Inv.respond (h : Inv r) (htag : tag ∈ r.outstanding mmeUe)
    (halone : ∀ tag' ∈ r.outstanding mmeUe, tag' = .ordinary ∨ tag' = tag)
    (ht : Responded r.mme mmeUe t) : Inv (r.answered mmeUe tag t) := by
  obtain ⟨hpath, hack⟩ := check_response rfl (h.pathSwitch mmeUe) htag halone
  obtain ⟨hnotify, hrelease⟩ := check_response rfl (h.handoverNotify mmeUe) htag halone
  have hopen : ¬r.Done tag := fun hd => hd.2 mmeUe htag
  have hdone : ∀ kind : ModifyTag → Bool, kind .ordinary = false → ∀ tag', kind tag' = true →
      ((r.settled mmeUe tag).Done tag' ↔
        r.Done tag' ∨ (tag' = tag ∧ tag ∉ (r.outstanding mmeUe).erase tag)) := by
    intro kind hkind tag' hk
    apply h.done_settled htag
    rintro rfl
    rw [hkind] at hk
    cases hk
  constructor
  · apply h.pathSwitch.settled
    · exact fun u hu => congrArg _ (ht.others u hu)
    · exact ht.pathSwitchCounter ▸ hpath
  · apply h.handoverNotify.settled
    · exact fun u hu => congrArg _ (ht.others u hu)
    · exact ht.handoverNotifyCounter ▸ hnotify
  · exact h.tagged.congr (fun u tag' _ => mem_of_mem_settled) (Nat.le_refl _)
  · constructor
    · have hacks := h.exact.1.respond hopen (hdone _ rfl)
      rw [← hack, ← ht.acks] at hacks
      exact hacks.congr fun _ _ => Iff.rfl
    · have hreleases := h.exact.2.respond hopen (hdone _ rfl)
      rw [← hrelease, ← ht.releases] at hreleases
      exact hreleases.congr fun _ _ => Iff.rfl

/-- An ordinary request that is given up is counted by no counter. -/
theorem Inv.timeout (h : Inv r) : Inv (r.settled mmeUe .ordinary) := by
  have hcount : ∀ kind : ModifyTag → Bool, kind .ordinary = false →
      ((r.outstanding mmeUe).erase .ordinary).countP kind = (r.outstanding mmeUe).countP kind := by
    intro kind hkind
    simp [List.countP_erase, hkind]
  have hpath := hcount ModifyTag.isPathSwitch rfl ▸ h.pathSwitch mmeUe
  have hnotify := hcount ModifyTag.isHandoverNotify rfl ▸ h.handoverNotify mmeUe
  apply h.kept
  · exact h.pathSwitch.settled (fun _ _ => rfl) hpath
  · exact h.handoverNotify.settled (fun _ _ => rfl) hnotify
  · intro u tag hne
    refine ⟨mem_of_mem_settled, fun hmem => ?_⟩
    by_cases hu : u = mmeUe
    · subst hu
      rwa [outstanding_settled, if_pos rfl, List.mem_erase_of_ne hne]
    · rwa [outstanding_settled, if_neg hu]
  · rfl
  · exact Nat.le_refl _
  · rfl
  · rfl

theorem inv_initial : Inv initial where
  pathSwitch _ := GtpCounter.awaits_zero.mpr rfl
  handoverNotify _ := GtpCounter.awaits_zero.mpr rfl
  tagged := by constructor <;> simp [initial]
  exact := by constructor <;> constructor <;> simp [initial, Done]

/-- While no procedure of a UE waits, its counters are closed. -/
theorem Inv.closed (h : Inv r) (hidle : r.Idle u) :
    (r.mme.mmeUes.mem u).pathSwitchCounter.Awaits 0 ∧
      (r.mme.mmeUes.mem u).handoverNotifyCounter.Awaits 0 := by
  have hpath := h.pathSwitch u
  have hnotify := h.handoverNotify u
  rw [countP_of_idle hidle rfl] at hpath hnotify
  exact ⟨hpath, hnotify⟩

theorem Inv.pathSwitchRequest [OgsCrypt] (h : Inv r) {env : S1apEnv} {enb : MmeEnbId}
    {ies : S1apIes} (halone : r.Alone (.s1ap env enb ies .pathSwitchRequest))
    (ht : r.mme.s1apHandlePathSwitchRequest enb ies = .ok t) :
    Inv (r.sending t (.pathSwitch r.next)) := by
  rcases pathSwitchRequest_cases ht with ⟨hrel, hnone⟩ | ⟨enbUe, u, hfind, hu, hvalid, hswitched⟩
  · exact h.sending_kept hrel.1 hrel.quiet (.inr hnone)
  · obtain ⟨hidle, hlt⟩ := halone enbUe u hfind hu hvalid
    obtain ⟨hpath, hnotify⟩ := h.closed hidle
    apply h.sending_begin hswitched.toRequested hidle (by simp) rfl
    · rw [hswitched.pathSwitchCounter]
      exact GtpCounter.awaits_inc hpath hlt
    · rw [hswitched.handoverNotifyCounter]
      exact hnotify

theorem Inv.handoverNotification (h : Inv r) {env : S1apEnv} {enb : MmeEnbId} {ies : S1apIes}
    (halone : r.Alone (.s1ap env enb ies .handoverNotification))
    (ht : r.mme.s1apHandleHandoverNotification enb ies = .ok t) :
    Inv (r.sending t (.handoverNotify r.next)) := by
  obtain ⟨targetUe, u, hof, hnotified⟩ := notified_handoverNotification ht
  obtain ⟨hidle, hlt⟩ := halone targetUe u hof
  obtain ⟨hpath, hnotify⟩ := h.closed hidle
  apply h.sending_begin hnotified.requested hidle (by simp) rfl
  · rw [hnotified.pathSwitchCounter]
    exact hpath
  · rw [hnotified.handoverNotifyCounter]
    exact GtpCounter.awaits_inc hnotify hlt

theorem Inv.step [Ogslib] [OgsCrypt] (h : Inv r) {e : Event} (halone : r.Alone e)
    (hstep : Step r e r') :
    Inv r' := by
  have hkept {t : S1Mme} (ht : Related CountersKept r.mme t) : Inv (r.sending t .ordinary) :=
    h.sending_kept ht.1 ht.quiet (.inl rfl)
  cases hstep with
  | modifyBearerResponse htag ht => exact h.respond htag halone (responded ht)
  | timeout htag =>
    cases halone
    exact h.timeout
  | other ht => exact hkept ht
  | @s1ap t env enb ies procedure ht =>
    have hquiet (hmore : ¬WritesMore procedure) : Related CountersKept r.mme t :=
      related_s1apHandle frame_countersKept env hmore t ht
    cases procedure
    case pathSwitchRequest => exact h.pathSwitchRequest halone ht
    case handoverNotification => exact h.handoverNotification halone ht
    case handoverRequestAck =>
      exact hkept (related_handoverRequestAck frame_countersKept (fun _ _ _ => ⟨rfl, rfl⟩)
        (fun _ _ _ => ⟨rfl, rfl⟩) (fun _ _ _ => ⟨rfl, rfl⟩) t ht)
    all_goals exact hkept (hquiet id)

end ModifyRun

/-! ## Counts in all runs -/

namespace ModifyRun

open S1Mme hiding Step Event initial
open HandoverRun (sampleUe sampleBearers)

/-- Where each procedure is alone, it is completed once, at its last response. -/
theorem modify_bearers_counted [Ogslib] [OgsCrypt] {tr : List (Event × ModifyRun)}
    (htr : Lts.Trace (Lts.Restrict Alone Step) initial tr) : ∀ p ∈ tr, p.2.Exact := by
  intro p hp
  have hinv : Inv p.2 :=
    htr.invariant (fun _ _ _ h hstep => h.step hstep.1 hstep.2) inv_initial p hp
  exact hinv.exact

/-- The elements of a Path Switch Request and of an E-RAB Setup Response -/
def sampleErabs (ebis : List UInt8) : S1apIes where
  sourceMmeUeS1apId := some 1
  enbUeS1apId := some 5
  tai := some ⟨[0, 0xf1, 0x10], [0, 2]⟩
  eutranCgi := some ⟨[0, 0xf1, 0x10], [0, 0, 0, 0x20]⟩
  ueSecurityCapabilities := some ⟨0, 0⟩
  eRabToBeSwitchedDlList := some (ebis.map fun ebi => ⟨ebi, [10, 0, 0, 3], #v[0, 0, 0, 1]⟩)
  eRabSetupListBearerSuRes := some (ebis.map fun ebi => ⟨ebi, [10, 0, 0, 3], #v[0, 0, 0, 1]⟩)

/-- A UE with two bearers is added. -/
def sampleRun (b : S1Mme) : ModifyRun :=
  (initial.sending b .ordinary).sending (sampleBearers (sampleUe b)) .ordinary

theorem trace_sampleRun {b : S1Mme} (hue : (b.mmeUes.mem 9).enbUe = none)
    (hb : @S1Mme.s1apHandle Ogslib.reference OgsCrypt.reference S1Mme.initial (sampleEnv 1) 1
      (sampleIes 5 none) .initialUeMessage = .ok b) :
    ∃ tr, Lts.finalState initial tr = sampleRun b ∧
      Lts.Trace (Lts.Restrict Alone (@Step Ogslib.reference OgsCrypt.reference)) initial tr := by
  let _ := Ogslib.reference
  let _ := OgsCrypt.reference
  have hadd : b.mmeUeAdd 1 9 sampleSTmsi = { b with
      mmeUes := b.mmeUes.alloc 9
      gutiUeHash := Function.update b.gutiUeHash sampleSTmsi (some 9) }.mmeUeAssociateEnbUe 9 1 := by
    simp [S1Mme.mmeUeAdd, associateSTmsi, hue]
  have hother : Elsewhere b (sampleBearers (sampleUe b)) := by
    constructor
    · intro u
      by_cases hu : u = 9
      · simp [sampleBearers, sampleUe, hadd, mmeUeAssociateEnbUe, S1Mme.modifyEnbUe,
          S1Mme.modifyMmeUe, mmeSessAdd, mmeBearerAdd, CountersKept, hu]
      · simp [sampleBearers, sampleUe, hadd, mmeUeAssociateEnbUe, S1Mme.modifyEnbUe,
          S1Mme.modifyMmeUe, mmeSessAdd, mmeBearerAdd, CountersKept, hu]
    · refine ⟨[], ?_, by simp⟩
      simp [sampleBearers, sampleUe, hadd, mmeUeAssociateEnbUe, S1Mme.modifyEnbUe,
        S1Mme.modifyMmeUe, mmeSessAdd, mmeBearerAdd]
  have hfirst : Lts.Restrict Alone Step initial
      (.s1ap (sampleEnv 1) 1 (sampleIes 5 none) .initialUeMessage) (initial.sending b .ordinary) :=
    ⟨trivial, .s1ap hb⟩
  have hsecond : Lts.Restrict Alone Step (initial.sending b .ordinary) .other (sampleRun b) :=
    ⟨trivial, .other hother⟩
  exact ⟨_, rfl, .cons hfirst (.cons hsecond (.nil _))⟩

/-- A Path Switch Request for two bearers, and its two responses -/
theorem modify_bearers_counted_two :
    ∃ tr e r, Lts.Trace (Lts.Restrict Alone (@Step Ogslib.reference OgsCrypt.reference)) initial tr ∧
      (e, r) ∈ tr ∧ r.acks = [.pathSwitch 2] ∧ r.outstanding 9 = [] ∧ ∀ p ∈ tr, p.2.Exact := by
  let _ := Ogslib.reference
  let _ := OgsCrypt.reference
  obtain ⟨b, c, d, e, r, hb, hc, hd, he, hr, hue, hidle, htwo, hone, hnone, hacks⟩ :
      ∃ (b c d e : S1Mme) (r : ModifyRun),
      S1Mme.initial.s1apHandle (sampleEnv 1) 1 (sampleIes 5 none) .initialUeMessage = .ok b ∧
      (sampleBearers (sampleUe b)).s1apHandle (sampleEnv 2) 1 (sampleErabs [5, 6])
        .pathSwitchRequest = .ok c ∧
      c.mmeS11HandleModifyBearerResponse 9 = .ok d ∧
      d.mmeS11HandleModifyBearerResponse 9 = .ok e ∧
      (sampleRun b).sending c (.pathSwitch 2) = r ∧
      (b.mmeUes.mem 9).enbUe = none ∧ (∀ u, (sampleRun b).outstanding u = []) ∧
      r.outstanding 9 = [.pathSwitch 2, .pathSwitch 2] ∧
      (r.answered 9 (.pathSwitch 2) d).outstanding 9 = [.pathSwitch 2] ∧
      ((r.answered 9 (.pathSwitch 2) d).answered 9 (.pathSwitch 2) e).outstanding 9 = [] ∧
      ((r.answered 9 (.pathSwitch 2) d).answered 9 (.pathSwitch 2) e).acks = [.pathSwitch 2] :=
    ⟨_, _, _, _, _, rfl, rfl, rfl, rfl, rfl, rfl, fun _ => rfl, rfl, rfl, rfl, rfl⟩
  obtain ⟨tr, hfinal, hbefore⟩ := trace_sampleRun hue hb
  have hswitch : (sampleRun b).Alone
      (.s1ap (sampleEnv 2) 1 (sampleErabs [5, 6]) .pathSwitchRequest) := by
    intro enbUe u _ _ _
    refine ⟨?_, by decide⟩
    rw [Idle, hidle]
    exact fun _ h => absurd h List.not_mem_nil
  have hthree : Lts.Trace (Lts.Restrict Alone Step) (sampleRun b)
      [(.s1ap (sampleEnv 2) 1 (sampleErabs [5, 6]) .pathSwitchRequest, r),
        (.modifyBearerResponse 9 (.pathSwitch 2), r.answered 9 (.pathSwitch 2) d),
        (.modifyBearerResponse 9 (.pathSwitch 2),
          (r.answered 9 (.pathSwitch 2) d).answered 9 (.pathSwitch 2) e)] := by
    refine .cons ⟨hswitch, hr ▸ .s1ap hc⟩ (.cons ⟨?_, .modifyBearerResponse ?_ ?_⟩
      (.cons ⟨?_, .modifyBearerResponse ?_ he⟩ (.nil _)))
    · simp [Alone, htwo]
    · simp [htwo]
    · exact hr ▸ hd
    · simp [Alone, hone]
    · simp [hone]
  rw [← hfinal] at hthree
  have htr := hbefore.append hthree
  exact ⟨_, _, _, htr, List.mem_append_right _ (List.mem_cons_of_mem _
    (List.mem_cons_of_mem _ List.mem_cons_self)), hacks, hnone, modify_bearers_counted htr⟩

/-- A response for another request is counted: the Acknowledge is sent one response too early. -/
theorem modify_bearers_miscounted :
    ¬∀ r, Lts.Reaches (@Step Ogslib.reference OgsCrypt.reference) initial r → r.Exact := by
  intro hclaim
  let _ := Ogslib.reference
  let _ := OgsCrypt.reference
  obtain ⟨b, c, d, e, f, r, hb, hc, hd, he, hf, hr, hue, htags, hother, hwaits, hacks⟩ :
      ∃ (b c d e f : S1Mme) (r : ModifyRun),
      S1Mme.initial.s1apHandle (sampleEnv 1) 1 (sampleIes 5 none) .initialUeMessage = .ok b ∧
      (sampleBearers (sampleUe b)).s1apHandle (sampleEnv 2) 1 (sampleErabs [5])
        .eRabSetupResponse = .ok c ∧
      c.s1apHandle (sampleEnv 2) 1 (sampleErabs [5, 6]) .pathSwitchRequest = .ok d ∧
      d.mmeS11HandleModifyBearerResponse 9 = .ok e ∧
      e.mmeS11HandleModifyBearerResponse 9 = .ok f ∧
      ((sampleRun b).sending c .ordinary).sending d (.pathSwitch 3) = r ∧
      (b.mmeUes.mem 9).enbUe = none ∧
      r.outstanding 9 = [.ordinary, .pathSwitch 3, .pathSwitch 3] ∧
      (r.answered 9 .ordinary e).outstanding 9 = [.pathSwitch 3, .pathSwitch 3] ∧
      ((r.answered 9 .ordinary e).answered 9 (.pathSwitch 3) f).outstanding 9 = [.pathSwitch 3] ∧
      ((r.answered 9 .ordinary e).answered 9 (.pathSwitch 3) f).acks = [.pathSwitch 3] :=
    ⟨_, _, _, _, _, _, rfl, rfl, rfl, rfl, rfl, rfl, rfl, rfl, rfl, rfl, rfl⟩
  obtain ⟨tr, hfinal, hbefore⟩ := trace_sampleRun hue hb
  have hrun : Lts.Trace Step _ tr := hbefore.mono fun _ _ _ h => h.2
  have hstart := hrun.reaches_final
  rw [hfinal] at hstart
  have hordinary : Step (sampleRun b) (.s1ap (sampleEnv 2) 1 (sampleErabs [5]) .eRabSetupResponse)
      ((sampleRun b).sending c .ordinary) := .s1ap hc
  have hswitch : Step ((sampleRun b).sending c .ordinary)
      (.s1ap (sampleEnv 2) 1 (sampleErabs [5, 6]) .pathSwitchRequest) r := hr ▸ .s1ap hd
  have hsent : Lts.Reaches Step initial r := (hstart.snoc hordinary).snoc hswitch
  have hfirst : Step r (.modifyBearerResponse 9 .ordinary) (r.answered 9 .ordinary e) :=
    .modifyBearerResponse (by simp [htags]) (hr ▸ he)
  have hsecond : Step (r.answered 9 .ordinary e) (.modifyBearerResponse 9 (.pathSwitch 3))
      ((r.answered 9 .ordinary e).answered 9 (.pathSwitch 3) f) :=
    .modifyBearerResponse (by simp [hother]) hf
  have hdone := ((hclaim _ ((hsent.snoc hfirst).snoc hsecond)).1.only (.pathSwitch 3)
    (by simp [hacks])).2
  exact hdone.2 9 (by simp [hwaits])

end ModifyRun

end NextEpc
