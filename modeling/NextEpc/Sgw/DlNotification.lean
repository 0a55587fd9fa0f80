import NextEpc.Lib.Incarnation
import NextEpc.Sgw.FreshSlot

/-!
# Notifications in the event queue

Messages and notifications are processed in the order in which they were queued, while packets are
handled as they come. A notification points to the bearer of a packet, and messages that are before
it in the queue may remove this bearer and give its slot to another one.
-/

namespace NextEpc

/-- `sgw_event_t`, as it is queued: the messages of S11 and S5, and `SGW_EVT_LO_DLDATA_NOTI` with
the bearer that it was made for. -/
inductive SgwQueueEvent
  | message (op : SgwContext.Op)
  | loDldataNoti (bearer : Slots.Ref SgwBearerId)
  deriving DecidableEq

/-- A Downlink Data Notification, with the node and the TEID that it is sent to. -/
structure DownlinkDataNotification where
  gnode : Option NodeId
  teid : UInt32
  ebi : UInt8
  deriving DecidableEq

/-- The context and the queue, and how many bearers each slot has held. -/
structure SgwQueue where
  ctx : SgwContext
  births : SgwBearerId → Nat
  queue : List SgwQueueEvent

/-- What happens, and what is sent. -/
inductive SgwQueueAct
  | gtpuRecv (type : UInt8) (teid : UInt32) (payload : Bytes) (pushed : Bool)
    (out : List SgwOutput)
  | receive (op : SgwContext.Op)
  | message (op : SgwContext.Op) (out : List SgwOutput)
  | discard (op : SgwContext.Op)
  | loDldataNoti (bearer : Slots.Ref SgwBearerId) (noti : DownlinkDataNotification)
  deriving DecidableEq

/-- The events that are messages: all but packets. -/
def SgwContext.Op.isMessage : SgwContext.Op → Bool
  | .gtpuRecv .. => false
  | _ => true

/-- `sgw_s11_handle_lo_dldata_notification` -/
def SgwContext.sgwS11HandleLoDldataNotification (s : SgwContext) (bearer : SgwBearerId) :
    DownlinkDataNotification :=
  let sgwUe := (s.bearers.mem bearer).sgwUe
  ⟨(s.ues.mem sgwUe).gnode, (s.ues.mem sgwUe).mmeS11Teid, (s.bearers.mem bearer).ebi⟩

namespace SgwQueue

def initial : SgwQueue := ⟨SgwContext.initial, fun _ => 0, []⟩

section
variable (s : SgwQueue)

/-- The bearers in their slots. -/
def slots : Slots SgwBearerId := ⟨s.ctx.bearers.live, s.births⟩

/-- A slot that comes into use holds another bearer. -/
def birthsAfter (t : SgwContext) (b : SgwBearerId) : Nat :=
  if s.ctx.bearers.live b = false ∧ t.bearers.live b = true then s.births b + 1 else s.births b

/-- The notifications that a packet leads to, with the bearers that they are for. -/
def notifications (out : List SgwOutput) : List SgwQueueEvent :=
  out.filterMap fun
    | .dlDataNoti _ bearer => some (.loDldataNoti (s.slots.refer bearer))
    | _ => none

end

/-- A packet is handled when it is received, and a message when it comes to the front of the
queue. Then it is discarded if it is malformed or sent again, or if there is no UE or session with
its TEID any more. -/
inductive Step (s : SgwQueue) : SgwQueueAct → SgwQueue → Prop
  | gtpuRecv {type : UInt8} {teid : UInt32} {payload : Bytes} {pushed : Bool}
    {out : List SgwOutput} {t : SgwContext} :
    s.ctx.Step (.gtpuRecv type teid payload pushed, out) t →
    Step s (.gtpuRecv type teid payload pushed out)
      ⟨t, s.birthsAfter t, s.queue ++ s.notifications out⟩
  | receive {op : SgwContext.Op} : op.isMessage = true →
    Step s (.receive op) { s with queue := s.queue ++ [.message op] }
  | message {op : SgwContext.Op} {out : List SgwOutput} {t : SgwContext}
    {queue : List SgwQueueEvent} : s.queue = .message op :: queue → s.ctx.Step (op, out) t →
    Step s (.message op out) ⟨t, s.birthsAfter t, queue⟩
  | discard {op : SgwContext.Op} {queue : List SgwQueueEvent} :
    s.queue = .message op :: queue → Step s (.discard op) { s with queue := queue }
  | loDldataNoti {bearer : Slots.Ref SgwBearerId} {queue : List SgwQueueEvent} :
    s.queue = .loDldataNoti bearer :: queue →
    Step s (.loDldataNoti bearer (s.ctx.sgwS11HandleLoDldataNotification bearer.slot))
      { s with queue := queue }

/-! ## Notifications and their bearers -/

/-- The bearer of a notification is the one that it was made for, and the notification is sent to
the UE of its session with its identity. -/
structure Notifies (s : SgwQueue) (bearer : Slots.Ref SgwBearerId)
    (noti : DownlinkDataNotification) : Prop where
  valid : s.slots.Valid bearer
  sess : s.ctx.sesss.live (s.ctx.bearers.mem bearer.slot).sess = true
  ue : s.ctx.ues.live (s.ctx.sesss.mem (s.ctx.bearers.mem bearer.slot).sess).sgwUe = true
  gnode : noti.gnode =
    (s.ctx.ues.mem (s.ctx.sesss.mem (s.ctx.bearers.mem bearer.slot).sess).sgwUe).gnode
  teid : noti.teid =
    (s.ctx.ues.mem (s.ctx.sesss.mem (s.ctx.bearers.mem bearer.slot).sess).sgwUe).mmeS11Teid
  ebi : noti.ebi = (s.ctx.bearers.mem bearer.slot).ebi

end SgwQueue

/-- A message removes a bearer. -/
def SgwContext.Removes (s : SgwContext) (b : SgwBearerId) : SgwContext.Op → Prop
  | .ueRemove sgwUe => (s.sesss.mem (s.bearers.mem b).sess).sgwUe = sgwUe
  | .deleteSessionResponse sess cause => cause = true ∧ (s.bearers.mem b).sess = sess
  | .deleteBearerResponse sgwUe ebi => ∃ e, ebi = some e ∧ s.sgwBearerFindByUeEbi sgwUe e = some b
  | _ => False

/-- No bearer is removed for which a notification is queued. -/
def SgwQueue.Spares (s : SgwQueue) : SgwQueueAct → Prop
  | .message op _ => ∀ r, .loDldataNoti r ∈ s.queue → ¬s.ctx.Removes r.slot op
  | _ => True

/-! ## Bearers that are removed -/

namespace SgwContext
variable {s t : SgwContext} {sgwUe : SgwUeId} {sess : SgwSessId} {b : SgwBearerId}
  {out : List SgwOutput}

theorem live_foldl_bearerRemove (l : List SgwBearerId) (hl : l.Nodup) (h : s.SubTree)
    (hlive : ∀ b ∈ l, s.bearers.live b = true) :
    (l.foldl sgwBearerRemove s).bearers.live b = true ↔ b ∉ l ∧ s.bearers.live b = true := by
  induction l generalizing s with
  | nil => simp
  | cons bearer l ih =>
    obtain ⟨hnew, hrest⟩ := List.nodup_cons.mp hl
    have hbearer := hlive bearer List.mem_cons_self
    have hothers : ∀ b ∈ l, (s.sgwBearerRemove bearer).bearers.live b = true := by
      intro b hb
      rw [live_bearerRemove h hbearer]
      refine ⟨?_, hlive b (List.mem_cons_of_mem _ hb)⟩
      rintro rfl
      exact hnew hb
    rw [List.foldl_cons, ih hrest (h.bearerRemove hbearer) hothers, live_bearerRemove h hbearer,
      List.mem_cons, not_or]
    tauto

theorem live_sessRemove (h : s.Tree) (hsess : s.sesss.live sess = true) :
    (s.sgwSessRemove sess).bearers.live b = true ↔
      (s.bearers.mem b).sess ≠ sess ∧ s.bearers.live b = true := by
  have hlist := h.bearers.mem_iff sess hsess
  have hfoldl : ((s.unlinkSess sess).sgwBearerRemoveAll sess).bearers.live b = true ↔
      b ∉ (s.sesss.mem sess).bearerList ∧ s.bearers.live b = true :=
    live_foldl_bearerRemove _ (h.bearers.nodup sess hsess) (h.toSubTree.unlinkSess sess)
      fun b hb => ((hlist b).mp hb).1
  rw [sgwSessRemove_eq]
  rw [hlist] at hfoldl
  exact hfoldl.trans (by tauto)

theorem live_foldl_sessRemove (l : List SgwSessId) (hl : l.Nodup) (h : s.Tree)
    (hlive : ∀ σ ∈ l, s.sesss.live σ = true) :
    (l.foldl sgwSessRemove s).bearers.live b = true ↔
      (s.bearers.mem b).sess ∉ l ∧ s.bearers.live b = true := by
  induction l generalizing s with
  | nil => simp
  | cons sess l ih =>
    obtain ⟨hnew, hrest⟩ := List.nodup_cons.mp hl
    have hsess := hlive sess List.mem_cons_self
    obtain ⟨htree, hshrinks, -, hsesss⟩ := sessRemove_spec h hsess
    have hothers : ∀ σ ∈ l, (s.sgwSessRemove sess).sesss.live σ = true := by
      intro σ hσ
      rw [hsesss]
      refine ⟨?_, hlive σ (List.mem_cons_of_mem _ hσ)⟩
      rintro rfl
      exact hnew hσ
    rw [List.foldl_cons, ih hrest htree hothers, live_sessRemove h hsess, (hshrinks.bearer b).1,
      List.mem_cons, not_or]
    tauto

theorem live_ueRemove (h : s.Tree) (hue : s.ues.live sgwUe = true) :
    (s.sgwUeRemove sgwUe).bearers.live b = true ↔
      (s.sesss.mem (s.bearers.mem b).sess).sgwUe ≠ sgwUe ∧ s.bearers.live b = true := by
  have hlist := h.sesss.mem_iff sgwUe hue
  have hfoldl : (s.sgwSessRemoveAll sgwUe).bearers.live b = true ↔
      (s.bearers.mem b).sess ∉ (s.ues.mem sgwUe).sessList ∧ s.bearers.live b = true :=
    live_foldl_sessRemove _ (h.sesss.nodup sgwUe hue) h fun σ hσ => ((hlist σ).mp hσ).1
  change (s.sgwSessRemoveAll sgwUe).bearers.live b = true ↔ _
  rw [hfoldl, hlist]
  have hsess := h.bearers.live b
  tauto

/-- A bearer that is not removed stays in its slot. -/
theorem WellFormed.live_step {op : Op} (h : s.WellFormed) (hstep : Step s (op, out) t)
    (hb : s.bearers.live b = true) (hspared : ¬s.Removes b op) : t.bearers.live b = true := by
  have heq := hstep.apply
  have hsame (hshape : s.SameShape t) : t.bearers.live b = true := by
    rw [hshape.bearers]
    exact hb
  cases op with
  | ueAdd ue imsi gnode =>
    have heq := (silent_eq_some.mp heq).1
    rw [sgwUeAdd, Option.ite_none_right_eq_some] at heq
    cases heq.2
    exact hb
  | ueRemove ue =>
    cases (silent_eq_some.mp heq).1
    exact (live_ueRemove h.toTree (hstep.sgwUe ue rfl)).mpr ⟨hspared, hb⟩
  | createSessionRequest σ bearer s1u s5u ue ebi apn mmeS11Teid pgw uli =>
    rcases createSessionRequest_cases heq with ⟨-, rfl | ⟨σ', hforward⟩⟩ |
      ⟨e, a, -, -, -, -, hslots, hforward⟩
    · exact hb
    · exact hsame (sameShape_forwardCreateSessionRequest hforward)
    · rw [(sameShape_forwardCreateSessionRequest hforward).bearers]
      change ((s.sgwSessAlloc σ ue a).bearerAdded bearer s1u s5u σ).bearers.live b = true
      exact live_bearerAdded.mpr (Or.inr hb)
  | createSessionResponse =>
    exact hsame (sameShape_createSessionResponse (silent_eq_some.mp heq).1)
  | deleteSessionResponse σ cause =>
    cases (silent_eq_some.mp heq).1
    rw [sgwS5cHandleDeleteSessionResponse]
    split
    next hcause =>
      rw [live_sessRemove h.toTree (hstep.sess σ rfl)]
      exact ⟨fun hsess => hspared ⟨hcause, hsess⟩, hb⟩
    · exact hb
  | createBearerRequest bearer s1u s5u σ complete pgwS5uTeid =>
    rcases createBearerRequest_cases (silent_eq_some.mp heq).1 with
      ⟨rfl, -⟩ | ⟨pgw, -, -, hslots, rfl⟩
    · exact hb
    · rw [(sameShape_setRemote _ s5u pgw).bearers]
      exact live_bearerAdded.mpr (Or.inr hb)
  | createBearerResponse =>
    exact hsame (sameShape_createBearerResponse (silent_eq_some.mp heq).1)
  | deleteBearerResponse ue ebi =>
    have heq := (silent_eq_some.mp heq).1
    rw [sgwS11HandleDeleteBearerResponse.eq_def] at heq
    split at heq
    · cases heq
      exact hb
    next _ e _ =>
      obtain ⟨bearer, hfind, heq⟩ := Option.bind_eq_some_iff.mp heq
      cases heq
      rw [live_bearerRemove h.toSubTree (h.bearer_of_ueEbi (hstep.sgwUe ue rfl) hfind).1]
      refine ⟨?_, hb⟩
      rintro rfl
      exact hspared ⟨e, rfl, hfind⟩
  | modifyBearerRequest => exact hsame (sgwS11HandleModifyBearerRequest_cases heq).sameShape
  | releaseAccessBearersRequest => exact hsame (sameShape_release (silent_eq_some.mp heq).1)
  | createIndirectTunnelRequest ue reqs =>
    rw [(accounts_createIndirect reqs (silent_eq_some.mp heq).1).2]
    exact hb
  | deleteIndirectTunnelRequest ue =>
    cases (silent_eq_some.mp heq).1
    rw [(pruned_indirect h.toTree (hstep.sgwUe ue rfl)).live]
    exact hb
  | gtpuRecv =>
    have halloc : s.SameShape s.pkbufAlloc := sameShape_of_eq rfl rfl rfl rfl
    exact hsame (halloc.trans (gtpv1URecvCb_cases heq).sameShape)

/-- A notification is for a bearer that is in use. -/
theorem WellFormed.live_of_noti {type : UInt8} {teid : UInt32} {payload : Bytes} {pushed : Bool}
    (h : s.WellFormed) (hstep : Step s (.gtpuRecv type teid payload pushed, out) t)
    (hnoti : .dlDataNoti sgwUe b ∈ out) : s.bearers.live b = true := by
  cases gtpv1URecvCb_cases hstep.apply with
  | other out hout =>
    rcases hout with rfl | ⟨gnode, teid, rfl⟩ | ⟨gnode, teid, rfl⟩
    all_goals simp at hnoti
  | downlink tunnel t out hfind htype hdownlink =>
    have hbearer : b = (s.pkbufAlloc.tunnels.mem tunnel).bearer := by
      cases hdownlink with
      | forward => simp at hnoti
      | buffer tunnel ue noti _ _ _ _ hcases =>
        rcases hcases with rfl | ⟨-, rfl⟩
        · simp at hnoti
        · exact (by simpa using hnoti : sgwUe = ue ∧ _).2
      | full tunnel ue noti _ _ _ _ hcases =>
        rcases hcases with rfl | ⟨-, rfl⟩
        · simp at hnoti
        · exact (by simpa using hnoti : sgwUe = ue ∧ _).2
      | active => simp at hnoti
    rw [hbearer]
    exact (h.tunnelTree.bearer teid tunnel hfind).1

end SgwContext

/-! ## Runs -/

namespace SgwQueue
variable {s t : SgwQueue} {r : Slots.Ref SgwBearerId}

/-- The pointers in the queue are to the bearers that they were made for. -/
structure Sound (s : SgwQueue) : Prop where
  wellFormed : s.ctx.WellFormed
  queue : ∀ r, .loDldataNoti r ∈ s.queue → s.slots.Valid r

/-- A bearer that stays is the same one. -/
theorem valid_after {ctx : SgwContext} {queue : List SgwQueueEvent} (h : s.slots.Valid r)
    (hlive : ctx.bearers.live r.slot = true) :
    (SgwQueue.mk ctx (s.birthsAfter ctx) queue).slots.Valid r := by
  refine ⟨hlive, ?_⟩
  have hbirths : s.birthsAfter ctx r.slot = s.births r.slot := by
    rw [birthsAfter, if_neg]
    rintro ⟨hfree, -⟩
    exact Bool.false_ne_true (hfree.symm.trans h.1)
  exact h.2.trans (congrArg some hbirths.symm)

theorem mem_notifications {out : List SgwOutput} (h : .loDldataNoti r ∈ s.notifications out) :
    ∃ ue bearer, .dlDataNoti ue bearer ∈ out ∧ r = s.slots.refer bearer := by
  obtain ⟨a, ha, heq⟩ := List.mem_filterMap.mp h
  split at heq
  next ue bearer =>
    cases heq
    exact ⟨ue, bearer, ha, rfl⟩
  · cases heq

theorem Sound.dequeue {e : SgwQueueEvent} {queue : List SgwQueueEvent} (h : s.Sound)
    (hqueue : s.queue = e :: queue) : Sound { s with queue := queue } := by
  refine ⟨h.wellFormed, ?_⟩
  intro r hr
  apply h.queue r
  rw [hqueue]
  exact List.mem_cons_of_mem _ hr

theorem Sound.step {a : SgwQueueAct} (h : s.Sound) (hspares : s.Spares a) (hstep : Step s a t) :
    t.Sound := by
  cases hstep with
  | @gtpuRecv type teid payload pushed out ctx hctx =>
    refine ⟨h.wellFormed.step hctx, ?_⟩
    intro r hr
    have hvalid : s.slots.Valid r := by
      rcases List.mem_append.mp hr with hqueue | hnew
      · exact h.queue r hqueue
      · obtain ⟨ue, bearer, hnoti, rfl⟩ := mem_notifications hnew
        exact Slots.valid_refer_iff.mpr (h.wellFormed.live_of_noti hctx hnoti)
    -- packets remove no bearer
    exact valid_after hvalid (h.wellFormed.live_step hctx hvalid.1 id)
  | receive =>
    refine ⟨h.wellFormed, ?_⟩
    intro r hr
    rcases List.mem_append.mp hr with hqueue | hnew
    · exact h.queue r hqueue
    · cases List.mem_singleton.mp hnew
  | @message op out ctx queue hqueue hctx =>
    refine ⟨h.wellFormed.step hctx, ?_⟩
    intro r hr
    have hmem : .loDldataNoti r ∈ s.queue := by
      rw [hqueue]
      exact List.mem_cons_of_mem _ hr
    have hvalid := h.queue r hmem
    exact valid_after hvalid (h.wellFormed.live_step hctx hvalid.1 (hspares r hmem))
  | discard hqueue => exact h.dequeue hqueue
  | loDldataNoti hqueue => exact h.dequeue hqueue

/-- A pointer that is valid leads to the UE of the session. -/
theorem Sound.notifies (h : s.Sound) (hvalid : s.slots.Valid r) :
    s.Notifies r (s.ctx.sgwS11HandleLoDldataNotification r.slot) := by
  have howner := h.wellFormed.owner r.slot hvalid.1
  have hsess := h.wellFormed.bearers.live r.slot hvalid.1
  refine ⟨hvalid, hsess, h.wellFormed.sesss.live _ hsess, ?_, ?_, rfl⟩
  · rw [← howner]
    rfl
  · rw [← howner]
    rfl

theorem sound_initial : initial.Sound := ⟨SgwContext.wellFormed_initial, nofun⟩

/-- In a run in which no bearer is removed while a notification for it is queued, every
notification that is processed is for the bearer whose packet led to it, and is sent to the UE of
this bearer with its identity. -/
theorem notifies_run (tr : List (SgwQueueAct × SgwQueue))
    (htrace : Lts.Trace (Lts.Restrict Spares Step) initial tr) :
    ∀ p ∈ tr, ∀ r noti, p.1 = .loDldataNoti r noti → p.2.Notifies r noti := by
  have hsound := htrace.invariant_of (I := Sound) (Q := fun _ => True)
    (fun _ _ _ hs hstep _ => hs.step hstep.1 hstep.2) (fun _ _ => trivial) sound_initial
  rintro ⟨a, t⟩ hp r noti ⟨⟩
  obtain ⟨s, hs, ⟨-, hstep⟩, -⟩ := hsound _ hp
  cases hstep with
  | loDldataNoti hqueue =>
    have hvalid : s.slots.Valid r := by
      apply hs.queue r
      rw [hqueue]
      exact List.mem_cons_self
    exact (hs.dequeue hqueue).notifies hvalid

/-- The state after a message, and what is left in the queue. -/
def processed (s : SgwQueue) (op : SgwContext.Op) (queue : List SgwQueueEvent) : SgwQueue :=
  ⟨s.ctx.next op, s.birthsAfter (s.ctx.next op), queue⟩

/-- The state after a packet that is taken. -/
def packet (s : SgwQueue) (teid : UInt32) (payload : Bytes) : SgwQueue :=
  let op := .gtpuRecv 255 teid payload true
  ⟨s.ctx.next op, s.birthsAfter (s.ctx.next op), s.queue ++ s.notifications (s.ctx.sent op)⟩

theorem step_packet (teid : UInt32) (payload : Bytes)
    (hsome : (s.ctx.apply (.gtpuRecv 255 teid payload true)).isSome = true) :
    Step s (.gtpuRecv 255 teid payload true (s.ctx.sent (.gtpuRecv 255 teid payload true)))
      (s.packet teid payload) := by
  apply Step.gtpuRecv
  apply SgwContext.step_next hsome
  · rintro ue ⟨⟩
  · rintro σ ⟨⟩

/-- A message is received when there is nothing in the queue. -/
theorem trace_message {op : SgwContext.Op} {tr : List (SgwQueueAct × SgwQueue)}
    (hempty : s.queue = []) (hmessage : op.isMessage = true)
    (hstep : s.ctx.Step (op, s.ctx.sent op) (s.ctx.next op))
    (h : Lts.Trace (Lts.Restrict Spares Step) (s.processed op []) tr) :
    Lts.Trace (Lts.Restrict Spares Step) s
      ((.receive op, { s with queue := s.queue ++ [.message op] }) ::
        (.message op (s.ctx.sent op), s.processed op []) :: tr) := by
  have hqueue : s.queue ++ [.message op] = [.message op] := by rw [hempty, List.nil_append]
  apply Lts.Trace.cons ⟨trivial, .receive hmessage⟩
  refine Lts.Trace.cons ⟨?_, .message hqueue hstep⟩ h
  intro r hr
  have hnone : .loDldataNoti r ∈ [SgwQueueEvent.message op] := hqueue ▸ hr
  cases List.mem_singleton.mp hnone

/-- A UE is attached and becomes idle. -/
def idle : SgwQueue :=
  ((initial.processed SgwContext.ueRequest []).processed SgwContext.sessionRequest []).processed
    (.releaseAccessBearersRequest 1) []

theorem trace_idle : ∃ tr, Lts.Trace (Lts.Restrict Spares Step) initial tr ∧
    Lts.finalState initial tr = idle := by
  refine ⟨_, trace_message rfl rfl SgwContext.step_ue
    (trace_message rfl rfl SgwContext.step_session (trace_message rfl rfl ?_ (.nil _))), rfl⟩
  apply SgwContext.step_next (by decide)
  · rintro ue ⟨⟩
    decide
  · rintro σ ⟨⟩

/-- A packet comes for the idle UE, and the MME is notified. -/
theorem notifies_run_idle :
    Notifies { idle.packet 2 [0] with queue := [] } ⟨1, some 1⟩ ⟨some 7, 9, 5⟩ := by
  obtain ⟨tr, htrace, hfinal⟩ := trace_idle
  have hpacket := step_packet (s := idle) 2 [0] (by decide)
  have hqueue : (idle.packet 2 [0]).queue = [.loDldataNoti ⟨1, some 1⟩] := by decide
  obtain ⟨rest, hrest, hmem⟩ : ∃ rest, Lts.Trace (Lts.Restrict Spares Step) idle rest ∧
      (.loDldataNoti ⟨1, some 1⟩ ⟨some 7, 9, 5⟩, { idle.packet 2 [0] with queue := [] }) ∈ rest :=
    ⟨_, .cons ⟨by trivial, hpacket⟩ (.cons ⟨by trivial, .loDldataNoti hqueue⟩ (.nil _)),
      List.mem_of_getElem? (i := 1) rfl⟩
  exact notifies_run _ (htrace.append (hfinal ▸ hrest)) _ (List.mem_append_right _ hmem) _ _ rfl

/-- The session is deleted at the PDN gateway, and before the response is processed a packet comes
for its bearer. -/
theorem notifies_removed : ¬∀ tr, Lts.Trace Step initial tr →
    ∀ p ∈ tr, ∀ r noti, p.1 = .loDldataNoti r noti → p.2.Notifies r noti := by
  intro hclaim
  obtain ⟨tr, htrace, hfinal⟩ := trace_idle
  let response : SgwContext.Op := .deleteSessionResponse 1 true
  let received : SgwQueue := { idle with queue := [.message response] }
  let buffered := received.packet 2 [0]
  let removed := buffered.processed response [.loDldataNoti ⟨1, some 1⟩]
  have hresponse : Step buffered (.message response (buffered.ctx.sent response)) removed := by
    apply Step.message (by decide)
    apply SgwContext.step_next (by decide)
    · rintro ue ⟨⟩
    · rintro σ ⟨⟩
      decide
  obtain ⟨rest, hrest, hmem⟩ : ∃ rest, Lts.Trace Step idle rest ∧
      (.loDldataNoti ⟨1, some 1⟩ (removed.ctx.sgwS11HandleLoDldataNotification 1),
        { removed with queue := [] }) ∈ rest :=
    ⟨_, .cons (.receive rfl) (.cons (step_packet 2 [0] (by decide)) (.cons hresponse
      (.cons (.loDldataNoti rfl) (.nil _)))), List.mem_of_getElem? (i := 3) rfl⟩
  have hrun := htrace.mono (fun _ _ _ h => h.2)
  have hnotifies := hclaim _ (hrun.append (hfinal ▸ hrest)) _ (List.mem_append_right _ hmem) _ _ rfl
  exact absurd hnotifies.valid.1 (by decide)

end SgwQueue
end NextEpc
