import NextEpc.Gtp.Xact
import NextEpc.Lib.Trace

/-!
# Credit control

`pgw-fd-path.c` for one slot of the pool of sessions: `pgw_gx_send_ccr` in the main thread, the
callbacks for answers and Re-Auth-Requests in the threads of freeDiameter, and the answers that
the main thread gets from its queue. A callback takes the state of its Diameter session out, and
puts it back at its end; so does `pgw_gx_send_ccr`. All that is between is left out.
-/

namespace NextEpc

/-! ## Records -/

/-- A Diameter session. Its Session-Id is not given to another one. -/
abbrev DiamSessId := Nat

/-- A `struct sess_state` that was allocated. -/
abbrev SessStateId := Nat

/-- The packet buffer of a GTP message. -/
abbrev GtpbufId := Nat

/-- `MAX_CC_REQUEST_NUMBER` -/
def maxCcRequestNumber : UInt32 := 32

/-- `OGS_DIAM_GX_CC_REQUEST_TYPE_INITIAL_REQUEST` -/
def ccRequestTypeInitial : UInt32 := 1

/-- `OGS_DIAM_GX_CC_REQUEST_TYPE_TERMINATION_REQUEST` -/
def ccRequestTypeTermination : UInt32 := 3

/-- `OGS_DIAM_GX_CC_REQUEST_TYPE_EVENT_REQUEST` -/
def ccRequestTypeEvent : UInt32 := 4

/-- `struct sess_state`, with the Diameter session that `gx_sid` is the Session-Id of. -/
structure SessState where
  gxSid : DiamSessId
  xact : UInt32 → Option XactIdx
  gtpbuf : UInt32 → Option GtpbufId
  ccRequestType : UInt32
  ccRequestNumber : UInt32

/-- `new_state` -/
def SessState.new (sid : DiamSessId) : SessState := ⟨sid, fun _ => none, fun _ => none, 0, 0⟩

/-- The CC-Request-Number of the next request. -/
def SessState.nextNumber (data : SessState) (ccRequestType : UInt32) : UInt32 :=
  if ccRequestType = ccRequestTypeInitial ∨ ccRequestType = ccRequestTypeEvent then 0
  else data.ccRequestNumber + 1

/-- A Credit-Control-Request: its Diameter session, the state that the callback gets, its number,
and what it was sent for: a GTP transaction, in its slot and with a number that no other one has,
and the message. -/
structure Ccr where
  session : DiamSessId
  data : SessStateId
  number : UInt32
  xact : XactIdx
  serial : Nat
  gtpbuf : GtpbufId
  deriving DecidableEq

/-- What the callback takes from an answer and from the state. -/
structure Cca where
  ccr : Ccr
  number : UInt32
  xact : XactIdx
  gtpbuf : GtpbufId
  deriving DecidableEq

/-- An answer that the main thread has acted upon, with the transaction in the slot and with the
message. -/
structure Delivery where
  ccr : Ccr
  serial : Nat
  gtpbuf : GtpbufId
  allocated : Bool
  deriving DecidableEq

/-- Why a run ends: an assertion failed, an index is out of bounds, or memory that was freed is
read. -/
inductive GxEnd
  | assert
  | outOfBounds
  | freed
  deriving DecidableEq

/-! ## Operations -/

/-- The session, its states and the Diameter sessions. -/
structure GxSession where
  live : Bool
  gxSid : Option SessStateId
  states : SessStateId → SessState
  freed : SessStateId → Bool
  nextState : Nat
  store : DiamSessId → Option SessStateId
  nextSession : Nat

/-- The GTP messages, the requests and answers that are on their way, and the answers that were
acted upon. `sending` is the request in the middle of `pgw_gx_send_ccr`. -/
structure GxTransit where
  gtpbufs : GtpbufId → Bool
  nextGtpbuf : Nat
  sending : Option Ccr
  sent : List Ccr
  answered : List Ccr
  answering : List Cca
  queue : List Cca
  delivered : List Delivery

structure GxContext extends GxSession, GxTransit where
  xacts : XactIdx → Option Nat
  nextSerial : Nat
  authorizing : List (DiamSessId × SessStateId)
  ended : Option GxEnd

namespace GxContext

def initial : GxContext where
  live := false
  gxSid := none
  states := fun _ => .new 0
  freed := fun _ => false
  nextState := 0
  store := fun _ => none
  nextSession := 0
  xacts := fun _ => none
  nextSerial := 0
  gtpbufs := fun _ => false
  nextGtpbuf := 0
  sending := none
  sent := []
  answered := []
  answering := []
  authorizing := []
  queue := []
  delivered := []
  ended := none

section
variable (s : GxContext)

def fail (e : GxEnd) : GxContext := { s with ended := some e }

/-- `fd_sess_state_store`, which does not replace a state. -/
def fdSessStateStore (session : DiamSessId) (data : SessStateId) : GxContext :=
  if s.store session = none then { s with store := Function.update s.store session (some data) }
  else s.fail .assert

/-- `fd_sess_state_retrieve`, which takes the state out. -/
def fdSessStateRetrieve (session : DiamSessId) : GxContext :=
  { s with store := Function.update s.store session none }

/-- `state_cleanup` -/
def stateCleanup (data : SessStateId) : GxContext :=
  { s with freed := Function.update s.freed data true }

/-- The state for a request is that of the Diameter session, or a new one. -/
def sessData (session : DiamSessId) : SessStateId × GxContext :=
  match s.store session with
  | some data => (data, s.fdSessStateRetrieve session)
  | none => (s.nextState, { s with
      states := Function.update s.states s.nextState (.new session)
      freed := Function.update s.freed s.nextState false
      nextState := s.nextState + 1
      gxSid := some s.nextState })

/-- The middle of `pgw_gx_send_ccr`: the number is one more than that of the last request, and the
transaction and the message are kept at it. -/
def ccrPrepare (session : DiamSessId) (data : SessStateId) (ccRequestType : UInt32)
    (xact : XactIdx) (serial : Nat) : GxContext :=
  let number := (s.states data).nextNumber ccRequestType
  let numbered := { s.states data with ccRequestType := ccRequestType, ccRequestNumber := number }
  let s := { s with states := Function.update s.states data numbered }
  if maxCcRequestNumber < number then s.fail .assert
  else if number = maxCcRequestNumber then s.fail .outOfBounds
  else { s with
    states := Function.update s.states data { numbered with
      xact := Function.update numbered.xact number (some xact)
      gtpbuf := Function.update numbered.gtpbuf number (some s.nextGtpbuf) }
    gtpbufs := Function.update s.gtpbufs s.nextGtpbuf true
    nextGtpbuf := s.nextGtpbuf + 1
    sending := some ⟨session, data, number, xact, serial, s.nextGtpbuf⟩ }

def ccrSend (session : DiamSessId) (ccRequestType : UInt32) (xact : XactIdx) (serial : Nat) :
    GxContext :=
  let (data, s) := s.sessData session
  s.ccrPrepare session data ccRequestType xact serial

/-- `pgw_gx_send_ccr` up to `fd_sess_state_store`, for a message that was received in a
transaction. -/
def pgwGxSendCcr (ccRequestType : UInt32) (xact : XactIdx) (serial : Nat) : GxContext :=
  match s.gxSid with
  | some sid =>
    if s.freed sid = true then s.fail .freed
    else s.ccrSend (s.states sid).gxSid ccRequestType xact serial
  | none =>
    { s with nextSession := s.nextSession + 1 }.ccrSend s.nextSession ccRequestType xact serial

/-- The rest of it. -/
def pgwGxSendCcrEnd (ccr : Ccr) : GxContext :=
  let s := s.fdSessStateStore ccr.session ccr.data
  { s with sending := none, sent := s.sent ++ [ccr] }

/-- `pgw_gx_cca_cb` up to where the transaction and the message are read. The number is that in the
answer. -/
def pgwGxCcaCb (ccr : Ccr) (number : UInt32) : GxContext :=
  let s := { s with answered := s.answered ++ [ccr] }
  if s.store ccr.session ≠ some ccr.data then s.fail .assert
  else
    let s := s.fdSessStateRetrieve ccr.session
    if maxCcRequestNumber ≤ number then s.fail .outOfBounds
    else
      match (s.states ccr.data).xact number, (s.states ccr.data).gtpbuf number with
      | some xact, some gtpbuf =>
        { s with answering := s.answering ++ [⟨ccr, number, xact, gtpbuf⟩] }
      | _, _ => s.fail .assert

/-- A message that was handled, or that there is an error with, is freed. -/
def gtpbufFree (gtpbuf : GtpbufId) : GxContext :=
  { s with gtpbufs := Function.update s.gtpbufs gtpbuf false }

/-- No request was sent after the one with the number. -/
def isLast (data : SessStateId) (number : UInt32) : Bool :=
  (s.states data).ccRequestType = ccRequestTypeTermination ∧
    (s.states data).ccRequestNumber ≤ number

/-- The rest of it. An answer in which nothing is missing goes to the queue, if there is room. -/
def pgwGxCcaCbEnd (cca : Cca) (pushed : Bool) : GxContext :=
  let s := { s with answering := s.answering.erase cca }
  let s := if pushed = true then { s with queue := s.queue ++ [cca] } else s.gtpbufFree cca.gtpbuf
  if s.isLast cca.ccr.data cca.number = true then s.stateCleanup cca.ccr.data
  else s.fdSessStateStore cca.ccr.session cca.ccr.data

/-- The main thread gets the first answer of the queue and looks for the transaction in its
slot. -/
def ccaHandle (cca : Cca) (queue : List Cca) : GxContext :=
  match s.xacts cca.xact with
  | none => s.fail .assert
  | some serial =>
    { s.gtpbufFree cca.gtpbuf with
      queue := queue
      delivered := s.delivered ++ [⟨cca.ccr, serial, cca.gtpbuf, s.gtpbufs cca.gtpbuf⟩] }

end

/-! ## Events -/

/-- What can happen. GTP transactions come and go with messages and timers, and freeDiameter
cleans up the states of sessions that expire. An answer may have any number, and come often or
not at all. -/
inductive Event
  | sessAdd
  | sessRemove
  | xactNew (xact : XactIdx)
  | xactDelete (xact : XactIdx)
  | sendCcr (ccRequestType : UInt32) (xact : XactIdx)
  | sendCcrEnd
  | ccaCb (ccr : Ccr) (number : UInt32)
  | ccaCbEnd (cca : Cca) (pushed : Bool)
  | rarCb (session : DiamSessId)
  | rarCbEnd (session : DiamSessId) (data : SessStateId)
  | expire (session : DiamSessId)
  | ccaHandle
  deriving DecidableEq

/-- The events in the main thread, which does one thing after the other. -/
def Event.inMain : Event → Bool
  | .ccaCb _ _ | .ccaCbEnd _ _ | .rarCb _ | .rarCbEnd _ _ | .expire _ | .sendCcrEnd => false
  | _ => true

/-- `pgw_sess_add` leaves `gx_sid` as it is. -/
def exec (s : GxContext) : Event → Option GxContext
  | .sessAdd => if s.live = false then some { s with live := true } else none
  | .sessRemove => if s.live = true then some { s with live := false } else none
  | .xactNew xact =>
    if s.xacts xact = none then
      some { s with
        xacts := Function.update s.xacts xact (some s.nextSerial), nextSerial := s.nextSerial + 1 }
    else none
  | .xactDelete xact => some { s with xacts := Function.update s.xacts xact none }
  | .sendCcr ccRequestType xact =>
    if s.live = true then (s.xacts xact).map fun serial => s.pgwGxSendCcr ccRequestType xact serial
    else none
  | .sendCcrEnd => s.sending.map fun ccr => s.pgwGxSendCcrEnd ccr
  | .ccaCb ccr number => if ccr ∈ s.sent then some (s.pgwGxCcaCb ccr number) else none
  | .ccaCbEnd cca pushed =>
    if cca ∈ s.answering then some (s.pgwGxCcaCbEnd cca pushed) else none
  | .rarCb session =>
    (s.store session).map fun data =>
      { s.fdSessStateRetrieve session with authorizing := s.authorizing ++ [(session, data)] }
  | .rarCbEnd session data =>
    if (session, data) ∈ s.authorizing then
      some ({ s with authorizing := s.authorizing.erase (session, data) }.fdSessStateStore
        session data)
    else none
  | .expire session =>
    (s.store session).map fun data => (s.fdSessStateRetrieve session).stateCleanup data
  | .ccaHandle =>
    match s.queue with
    | [] => none
    | cca :: queue => some (s.ccaHandle cca queue)

/-- An event in a run that has not ended. -/
structure Step (s : GxContext) (a : Event) (t : GxContext) : Prop where
  running : s.ended = none
  main : a.inMain = true → s.sending = none
  exec : s.exec a = some t

/-! ## Answers and sessions -/

/-- No index was out of bounds, the answers were acted upon with the transactions and the messages
of their requests, and `gx_sid` of the session is there. -/
structure Sound (s : GxContext) : Prop where
  inBounds : s.ended ≠ some .outOfBounds
  delivered : ∀ d ∈ s.delivered, d.serial = d.ccr.serial ∧ d.gtpbuf = d.ccr.gtpbuf ∧
    d.allocated = true
  gxSid : s.live = true → ∀ sid, s.gxSid = some sid → s.freed sid = false

/-- The Diameter session of the next request. -/
def ccrSession (s : GxContext) : DiamSessId :=
  (s.gxSid.map fun sid => (s.states sid).gxSid).getD s.nextSession

/-- The condition on a step. A session that is added has no `gx_sid` that was freed. The number of
a request is not 32. An answer is the first one to its request and has its number, and no other
request had that number since. The state that `gx_sid` of the session is part of is not freed. And
the slot of the GTP transaction of a request has not been given to another transaction. -/
def Proper (s : GxContext) : Event → Prop
  | .sessAdd => ∀ sid ∈ s.gxSid, s.freed sid = false
  | .sendCcr ccRequestType _ => ∀ data ∈ s.store s.ccrSession,
    (s.states data).nextNumber ccRequestType ≠ maxCcRequestNumber
  | .ccaCb ccr number => s.store ccr.session = some ccr.data → number = ccr.number ∧
    (s.states ccr.data).xact number = some ccr.xact ∧
    (s.states ccr.data).gtpbuf number = some ccr.gtpbuf ∧ ccr ∉ s.answered
  | .ccaCbEnd cca _ => s.isLast cca.ccr.data cca.number = true → s.live = true →
    s.gxSid ≠ some cca.ccr.data
  | .expire session => ∀ data ∈ s.store session, s.live = true → s.gxSid ≠ some data
  | .ccaHandle => ∀ cca ∈ s.queue.head?, ∀ serial ∈ s.xacts cca.ccr.xact,
    serial = cca.ccr.serial
  | _ => True

end GxContext

/-! ## Requests and answers on their way -/

namespace GxTransit
variable {s t : GxTransit} {ccr : Ccr} {cca : Cca} {gtpbuf : GtpbufId}

/-- The requests, with the one that is being sent. -/
def requests (s : GxTransit) : List Ccr := s.sent ++ s.sending.toList

/-- The answers that were taken and not yet acted upon. -/
def answers (s : GxTransit) : List Cca := s.answering ++ s.queue

/-- Every answer belongs to its request, and the messages are not freed before. -/
structure Matched (s : GxTransit) : Prop where
  delivered : ∀ d ∈ s.delivered, d.serial = d.ccr.serial ∧ d.gtpbuf = d.ccr.gtpbuf ∧
    d.allocated = true
  requests : ∀ ccr ∈ s.requests, ccr.number < maxCcRequestNumber ∧ ccr.gtpbuf < s.nextGtpbuf
  distinct : (s.requests.map Ccr.gtpbuf).Nodup
  waiting : ∀ ccr ∈ s.requests, ccr ∉ s.answered → s.gtpbufs ccr.gtpbuf = true
  answered : ∀ ccr ∈ s.answered, ccr ∈ s.sent
  answers : ∀ cca ∈ s.answers, cca.ccr ∈ s.answered ∧ cca.xact = cca.ccr.xact ∧
    cca.gtpbuf = cca.ccr.gtpbuf ∧ s.gtpbufs cca.gtpbuf = true
  once : (s.answers.map Cca.gtpbuf).Nodup

theorem Matched.eq_of_gtpbuf (h : s.Matched) {ccr ccr' : Ccr} (hccr : ccr ∈ s.requests)
    (hccr' : ccr' ∈ s.requests) (heq : ccr.gtpbuf = ccr'.gtpbuf) : ccr = ccr' :=
  List.inj_on_of_nodup_map h.distinct hccr hccr' heq

theorem Matched.mem_requests (h : s.Matched) (hccr : ccr ∈ s.answered) : ccr ∈ s.requests :=
  List.mem_append_left _ (h.answered ccr hccr)

/-- A request is prepared for a new message. -/
def prepared (s : GxTransit) (ccr : Ccr) : GxTransit :=
  { s with
    gtpbufs := Function.update s.gtpbufs s.nextGtpbuf true
    nextGtpbuf := s.nextGtpbuf + 1
    sending := some ccr }

theorem Matched.prepared (h : s.Matched) (hidle : s.sending = none)
    (hnumber : ccr.number < maxCcRequestNumber) (hgtpbuf : ccr.gtpbuf = s.nextGtpbuf) :
    (s.prepared ccr).Matched := by
  have hold : s.requests = s.sent := by simp [GxTransit.requests, hidle]
  have hrequests : (s.prepared ccr).requests = s.requests ++ [ccr] := by
    rw [hold]
    rfl
  have hlt : ∀ r ∈ s.requests, r.gtpbuf ≠ s.nextGtpbuf := by
    intro r hr
    exact Nat.ne_of_lt (h.requests r hr).2
  refine ⟨h.delivered, ?_, ?_, ?_, h.answered, ?_, h.once⟩
  · intro r hr
    rw [hrequests] at hr
    rcases List.mem_append.mp hr with hr | hr
    · have hr := h.requests r hr
      exact ⟨hr.1, Nat.lt_succ_of_lt hr.2⟩
    · cases List.mem_singleton.mp hr
      rw [hgtpbuf]
      exact ⟨hnumber, Nat.lt_succ_self _⟩
  · rw [hrequests, List.map_append, List.nodup_append]
    refine ⟨h.distinct, List.nodup_singleton _, ?_⟩
    intro g hg g' hg'
    obtain ⟨r, hr, rfl⟩ := List.mem_map.mp hg
    rw [List.map_singleton, List.mem_singleton] at hg'
    rw [hg', hgtpbuf]
    exact hlt r hr
  · intro r hr hwaits
    rw [hrequests] at hr
    rcases List.mem_append.mp hr with hr | hr
    · exact (Function.update_of_ne (hlt r hr) ..).trans (h.waiting r hr hwaits)
    · cases List.mem_singleton.mp hr
      rw [hgtpbuf]
      exact Function.update_self ..
  · intro c hc
    have hc := h.answers c hc
    have hne : c.gtpbuf ≠ s.nextGtpbuf := by
      rw [hc.2.2.1]
      exact hlt _ (h.mem_requests hc.1)
    exact ⟨hc.1, hc.2.1, hc.2.2.1, (Function.update_of_ne hne ..).trans hc.2.2.2⟩

/-- The request is sent. -/
theorem Matched.sent (h : s.Matched) (hsending : s.sending = some ccr) :
    GxTransit.Matched { s with sending := none, sent := s.sent ++ [ccr] } := by
  have hrequests : GxTransit.requests { s with sending := none, sent := s.sent ++ [ccr] } =
      s.requests := by simp [GxTransit.requests, hsending]
  constructor
  · exact h.delivered
  · rw [hrequests]
    exact h.requests
  · rw [hrequests]
    exact h.distinct
  · rw [hrequests]
    exact h.waiting
  · exact fun r hr => List.mem_append_left _ (h.answered r hr)
  · exact h.answers
  · exact h.once

/-- An answer was received, and nothing was taken. -/
theorem Matched.answered_append (h : s.Matched) (hsent : ccr ∈ s.sent) :
    GxTransit.Matched { s with answered := s.answered ++ [ccr] } := by
  refine ⟨h.delivered, h.requests, h.distinct, ?_, ?_, ?_, h.once⟩
  · intro r hr hwaits
    exact h.waiting r hr fun hin => hwaits (List.mem_append_left _ hin)
  · intro r hr
    rcases List.mem_append.mp hr with hr | hr
    · exact h.answered r hr
    · cases List.mem_singleton.mp hr
      exact hsent
  · intro c hc
    exact ⟨List.mem_append_left _ (h.answers c hc).1, (h.answers c hc).2⟩

/-- The first answer to a request was taken, with the transaction and the message of the request. -/
theorem Matched.taken (h : s.Matched) (hsent : cca.ccr ∈ s.sent) (hfirst : cca.ccr ∉ s.answered)
    (hxact : cca.xact = cca.ccr.xact) (hgtpbuf : cca.gtpbuf = cca.ccr.gtpbuf) :
    GxTransit.Matched { s with
      answered := s.answered ++ [cca.ccr], answering := s.answering ++ [cca] } := by
  have happend := h.answered_append hsent
  have hrequest : cca.ccr ∈ s.requests := List.mem_append_left _ hsent
  refine ⟨happend.delivered, happend.requests, happend.distinct, happend.waiting,
    happend.answered, ?_, ?_⟩
  · intro c hc
    have hc : c = cca ∨ c ∈ s.answers := by
      simp only [GxTransit.answers, List.mem_append, List.mem_singleton] at hc ⊢
      tauto
    rcases hc with rfl | hc
    · refine ⟨List.mem_append_right _ (List.mem_singleton_self _), hxact, hgtpbuf, ?_⟩
      rw [hgtpbuf]
      exact h.waiting c.ccr hrequest hfirst
    · exact happend.answers c hc
  · have hperm : (s.answering ++ [cca] ++ s.queue).Perm (cca :: s.answers) := by
      rw [List.append_assoc]
      exact List.perm_middle
    rw [GxTransit.answers, (hperm.map _).nodup_iff, List.map_cons, List.nodup_cons]
    refine ⟨?_, h.once⟩
    intro hin
    -- another answer with the message would be one to the same request
    obtain ⟨c, hc, heq⟩ := List.mem_map.mp hin
    have hc := h.answers c hc
    have hsame := h.eq_of_gtpbuf (h.mem_requests hc.1) hrequest
      (hc.2.2.1.symm.trans (heq.trans hgtpbuf))
    rw [hsame] at hc
    exact hfirst hc.1

/-- An answer goes from the callback to the queue. -/
theorem Matched.pushed (h : s.Matched) (hcca : cca ∈ s.answering) :
    GxTransit.Matched { s with
      answering := s.answering.erase cca, queue := s.queue ++ [cca] } := by
  have hperm : (s.answering.erase cca ++ (s.queue ++ [cca])).Perm s.answers := by
    have hfirst := (List.perm_cons_erase hcca).symm.append_right s.queue
    rw [← List.append_assoc]
    exact (List.perm_append_singleton cca _).trans hfirst
  refine ⟨h.delivered, h.requests, h.distinct, h.waiting, h.answered, ?_, ?_⟩
  · intro c hc
    exact h.answers c (hperm.mem_iff.mp hc)
  · exact ((hperm.map _).nodup_iff).mpr h.once

/-- An answer is gone, and its message is freed. -/
theorem Matched.freed (h : s.Matched) {answering queue : List Cca} {delivered : List Delivery}
    (hperm : s.answers.Perm (cca :: (answering ++ queue)))
    (hdelivered : ∀ d ∈ delivered, d.serial = d.ccr.serial ∧ d.gtpbuf = d.ccr.gtpbuf ∧
      d.allocated = true) :
    GxTransit.Matched { s with
      answering := answering, queue := queue, delivered := delivered
      gtpbufs := Function.update s.gtpbufs cca.gtpbuf false } := by
  have hcca := h.answers cca (hperm.mem_iff.mpr List.mem_cons_self)
  have honce := h.once
  rw [(hperm.map _).nodup_iff, List.map_cons, List.nodup_cons] at honce
  refine ⟨hdelivered, h.requests, h.distinct, ?_, h.answered, ?_, honce.2⟩
  · intro r hr hwaits
    have hne : r.gtpbuf ≠ cca.gtpbuf := by
      intro heq
      have hsame := h.eq_of_gtpbuf hr (h.mem_requests hcca.1) (heq.trans hcca.2.2.1)
      rw [hsame] at hwaits
      exact hwaits hcca.1
    exact (Function.update_of_ne hne ..).trans (h.waiting r hr hwaits)
  · intro c hc
    have hold := h.answers c (hperm.mem_iff.mpr (List.mem_cons_of_mem _ hc))
    have hne : c.gtpbuf ≠ cca.gtpbuf := by
      intro heq
      exact honce.1 (List.mem_map.mpr ⟨c, hc, heq⟩)
    exact ⟨hold.1, hold.2.1, hold.2.2.1, (Function.update_of_ne hne ..).trans hold.2.2.2⟩

end GxTransit

/-! ## The session and its states -/

namespace GxSession
variable {s t : GxSession}

/-- `gx_sid` of a session is not part of a state that was freed. -/
def Kept (s : GxSession) : Prop := s.live = true → ∀ sid, s.gxSid = some sid → s.freed sid = false

/-- A state that `gx_sid` is not part of is freed. -/
theorem Kept.cleanup (h : s.Kept) {data : SessStateId}
    (hgxSid : s.live = true → s.gxSid ≠ some data) :
    GxSession.Kept { s with freed := Function.update s.freed data true } := by
  intro hlive sid hsid
  have hne : sid ≠ data := by
    rintro rfl
    exact hgxSid hlive hsid
  exact (Function.update_of_ne hne ..).trans (h hlive sid hsid)

end GxSession

/-! ## Steps -/

namespace GxContext
variable {s t : GxContext} {session : DiamSessId} {data : SessStateId} {ccr : Ccr} {cca : Cca}
  {number ccRequestType : UInt32} {xact : XactIdx} {serial : Nat}

/-- What the conditions keep. -/
structure Tidy (s : GxContext) : Prop where
  inBounds : s.ended ≠ some .outOfBounds
  session : s.toGxSession.Kept
  transit : s.toGxTransit.Matched

theorem Tidy.sound (h : s.Tidy) : s.Sound := ⟨h.inBounds, h.transit.delivered, h.session⟩

theorem Tidy.fail (h : s.Tidy) : (s.fail .assert).Tidy := by
  refine ⟨?_, h.session, h.transit⟩
  rintro ⟨⟩

theorem Tidy.fdSessStateStore (h : s.Tidy) : (s.fdSessStateStore session data).Tidy := by
  rw [GxContext.fdSessStateStore]
  split
  · exact ⟨h.inBounds, h.session, h.transit⟩
  · exact h.fail

theorem transit_fdSessStateStore :
    (s.fdSessStateStore session data).toGxTransit = s.toGxTransit := by
  rw [GxContext.fdSessStateStore]
  split
  · rfl
  · rfl

theorem Tidy.fdSessStateRetrieve (h : s.Tidy) : (s.fdSessStateRetrieve session).Tidy :=
  ⟨h.inBounds, h.session, h.transit⟩

/-! ### Requests -/

/-- What is known of the state that a request gets. -/
theorem Tidy.sessData (h : s.Tidy) (session : DiamSessId) (ccRequestType : UInt32) :
    (s.sessData session).2.Tidy ∧ (s.sessData session).2.toGxTransit = s.toGxTransit ∧
      ((∀ data, s.store session = some data →
        (s.states data).nextNumber ccRequestType ≠ maxCcRequestNumber) →
      ((s.sessData session).2.states (s.sessData session).1).nextNumber ccRequestType ≠
        maxCcRequestNumber) := by
  rw [GxContext.sessData]
  split
  · rename_i data hdata
    refine ⟨⟨h.inBounds, h.session, h.transit⟩, rfl, ?_⟩
    exact fun hnumber => hnumber data hdata
  · refine ⟨⟨h.inBounds, ?_, h.transit⟩, rfl, ?_⟩
    · rintro _ sid ⟨⟩
      exact Function.update_self ..
    · intro _
      -- the number of a request of a new state is 0 or 1
      simp only [Function.update_self, SessState.nextNumber, SessState.new]
      split <;> decide

theorem lt_of_not_lt_of_ne (h : ¬maxCcRequestNumber < number) (hne : number ≠ maxCcRequestNumber) :
    number < maxCcRequestNumber := by
  rw [UInt32.lt_iff_toNat_lt] at h ⊢
  rw [ne_eq, ← UInt32.toNat_inj] at hne
  omega

theorem Tidy.ccrPrepare (h : s.Tidy) (hidle : s.sending = none)
    (hnumber : (s.states data).nextNumber ccRequestType ≠ maxCcRequestNumber) :
    (s.ccrPrepare session data ccRequestType xact serial).Tidy := by
  rw [GxContext.ccrPrepare]
  dsimp only
  split
  · exact Tidy.fail ⟨h.inBounds, h.session, h.transit⟩
  · rename_i hle
    refine ⟨h.inBounds, h.session, ?_⟩
    apply h.transit.prepared hidle
    · exact lt_of_not_lt_of_ne hle hnumber
    · rfl

theorem Tidy.ccrSend (h : s.Tidy) (hidle : s.sending = none)
    (hnumber : ∀ data, s.store session = some data →
      (s.states data).nextNumber ccRequestType ≠ maxCcRequestNumber) :
    (s.ccrSend session ccRequestType xact serial).Tidy := by
  obtain ⟨htidy, htransit, hnext⟩ := h.sessData session ccRequestType
  apply htidy.ccrPrepare
  · rw [htransit]
    exact hidle
  · exact hnext hnumber

theorem Tidy.pgwGxSendCcr (h : s.Tidy) (hidle : s.sending = none)
    (hproper : s.Proper (.sendCcr ccRequestType xact)) :
    (s.pgwGxSendCcr ccRequestType xact serial).Tidy := by
  rw [GxContext.pgwGxSendCcr]
  split
  · rename_i sid hsid
    split
    · refine ⟨?_, h.session, h.transit⟩
      rintro ⟨⟩
    · apply h.ccrSend hidle
      simpa [Proper, ccrSession, hsid] using hproper
  · rename_i hsid
    have hnext : Tidy { s with nextSession := s.nextSession + 1 } :=
      ⟨h.inBounds, h.session, h.transit⟩
    apply hnext.ccrSend hidle
    simpa [Proper, ccrSession, hsid] using hproper

theorem Tidy.pgwGxSendCcrEnd (h : s.Tidy) (hsending : s.sending = some ccr) :
    (s.pgwGxSendCcrEnd ccr).Tidy := by
  have hstore : (s.fdSessStateStore ccr.session ccr.data).Tidy := h.fdSessStateStore
  refine ⟨hstore.inBounds, hstore.session, ?_⟩
  apply hstore.transit.sent
  rw [transit_fdSessStateStore]
  exact hsending

/-! ### Answers -/

theorem Tidy.pgwGxCcaCb (h : s.Tidy) (hsent : ccr ∈ s.sent)
    (hproper : s.Proper (.ccaCb ccr number)) : (s.pgwGxCcaCb ccr number).Tidy := by
  have hanswered : Tidy { s with answered := s.answered ++ [ccr] } :=
    ⟨h.inBounds, h.session, h.transit.answered_append hsent⟩
  rw [GxContext.pgwGxCcaCb]
  dsimp only
  split
  · exact hanswered.fail
  · rename_i hstore
    obtain ⟨rfl, hxact, hgtpbuf, hfirst⟩ := hproper (not_not.mp hstore)
    have hrequest := h.transit.requests ccr (List.mem_append_left _ hsent)
    rw [if_neg (UInt32.not_le.mpr hrequest.1)]
    simp only [GxContext.fdSessStateRetrieve, hxact, hgtpbuf]
    refine ⟨h.inBounds, h.session, ?_⟩
    let cca : Cca := ⟨ccr, ccr.number, ccr.xact, ccr.gtpbuf⟩
    have hsent' : cca.ccr ∈ s.sent := hsent
    exact h.transit.taken hsent' hfirst rfl rfl

theorem Tidy.stateCleanup (h : s.Tidy) (hgxSid : s.live = true → s.gxSid ≠ some data) :
    (s.stateCleanup data).Tidy := ⟨h.inBounds, h.session.cleanup hgxSid, h.transit⟩

theorem Tidy.pgwGxCcaCbEnd {pushed : Bool} (h : s.Tidy) (hcca : cca ∈ s.answering)
    (hproper : s.Proper (.ccaCbEnd cca pushed)) : (s.pgwGxCcaCbEnd cca pushed).Tidy := by
  let u : GxContext := if pushed = true then
      { s with answering := s.answering.erase cca, queue := s.queue ++ [cca] }
    else { s with answering := s.answering.erase cca }.gtpbufFree cca.gtpbuf
  have hu : u.Tidy ∧ u.toGxSession = s.toGxSession := by
    dsimp only [u]
    split
    · exact ⟨⟨h.inBounds, h.session, h.transit.pushed hcca⟩, rfl⟩
    · refine ⟨⟨h.inBounds, h.session, ?_⟩, rfl⟩
      apply h.transit.freed _ h.transit.delivered
      exact (List.perm_cons_erase hcca).append_right s.queue
  have heq : s.pgwGxCcaCbEnd cca pushed = if u.isLast cca.ccr.data cca.number = true then
      u.stateCleanup cca.ccr.data else u.fdSessStateStore cca.ccr.session cca.ccr.data := rfl
  rw [heq]
  split
  · rename_i hlast
    apply hu.1.stateCleanup
    rw [hu.2]
    exact hproper (by rwa [isLast, hu.2] at hlast)
  · exact hu.1.fdSessStateStore

theorem Tidy.ccaHandle {queue : List Cca} (h : s.Tidy) (hqueue : s.queue = cca :: queue)
    (hproper : s.Proper .ccaHandle) : (s.ccaHandle cca queue).Tidy := by
  have hperm : s.answers.Perm (cca :: (s.answering ++ queue)) := by
    rw [GxTransit.answers, hqueue]
    exact List.perm_middle
  obtain ⟨-, hxact, hgtpbuf, hallocated⟩ :=
    h.transit.answers cca (hperm.mem_iff.mpr List.mem_cons_self)
  rw [GxContext.ccaHandle]
  split
  · exact h.fail
  · rename_i serial hserial
    refine ⟨h.inBounds, h.session, ?_⟩
    apply h.transit.freed hperm
    intro d hd
    rcases List.mem_append.mp hd with hd | hd
    · exact h.transit.delivered d hd
    · cases List.mem_singleton.mp hd
      rw [hxact] at hserial
      have hhead : s.queue.head? = some cca := by rw [hqueue, List.head?_cons]
      exact ⟨hproper cca hhead serial hserial, hgtpbuf, hallocated⟩

theorem Tidy.step {a : Event} (h : s.Tidy) (hproper : s.Proper a) (hstep : s.Step a t) :
    t.Tidy := by
  have hexec := hstep.exec
  cases a with
  | sessAdd =>
    obtain ⟨-, hexec⟩ := Option.ite_none_right_eq_some.mp hexec
    cases hexec
    exact ⟨h.inBounds, fun _ => hproper, h.transit⟩
  | sessRemove =>
    obtain ⟨-, hexec⟩ := Option.ite_none_right_eq_some.mp hexec
    cases hexec
    refine ⟨h.inBounds, ?_, h.transit⟩
    rintro ⟨⟩
  | xactNew =>
    obtain ⟨-, hexec⟩ := Option.ite_none_right_eq_some.mp hexec
    cases hexec
    exact ⟨h.inBounds, h.session, h.transit⟩
  | xactDelete =>
    cases hexec
    exact ⟨h.inBounds, h.session, h.transit⟩
  | sendCcr =>
    obtain ⟨-, hexec⟩ := Option.ite_none_right_eq_some.mp hexec
    obtain ⟨serial, -, rfl⟩ := Option.map_eq_some_iff.mp hexec
    exact h.pgwGxSendCcr (hstep.main rfl) hproper
  | sendCcrEnd =>
    obtain ⟨ccr, hccr, rfl⟩ := Option.map_eq_some_iff.mp hexec
    exact h.pgwGxSendCcrEnd hccr
  | ccaCb =>
    obtain ⟨hsent, hexec⟩ := Option.ite_none_right_eq_some.mp hexec
    cases hexec
    exact h.pgwGxCcaCb hsent hproper
  | ccaCbEnd =>
    obtain ⟨hcca, hexec⟩ := Option.ite_none_right_eq_some.mp hexec
    cases hexec
    exact h.pgwGxCcaCbEnd hcca hproper
  | rarCb =>
    obtain ⟨data, -, rfl⟩ := Option.map_eq_some_iff.mp hexec
    exact ⟨h.inBounds, h.session, h.transit⟩
  | rarCbEnd =>
    obtain ⟨-, hexec⟩ := Option.ite_none_right_eq_some.mp hexec
    cases hexec
    apply Tidy.fdSessStateStore
    exact ⟨h.inBounds, h.session, h.transit⟩
  | expire =>
    obtain ⟨data, hdata, rfl⟩ := Option.map_eq_some_iff.mp hexec
    exact h.fdSessStateRetrieve.stateCleanup (hproper data hdata)
  | ccaHandle =>
    dsimp only [exec] at hexec
    split at hexec
    · cases hexec
    · rename_i cca queue hqueue
      cases hexec
      exact h.ccaHandle hqueue hproper

/-! ## Runs -/

theorem tidy_initial : initial.Tidy := by
  refine ⟨?_, ?_, ?_⟩
  · rintro ⟨⟩
  · rintro ⟨⟩
  · constructor
    all_goals simp [initial, GxTransit.requests, GxTransit.answers]

/-- In a run in which every step meets the condition, no index is out of bounds, every answer is
acted upon with the transaction and the message of its request, and `gx_sid` is never freed. -/
theorem sound_of_reaches (h : Lts.Reaches (Lts.Restrict Proper Step) initial s) : s.Sound := by
  apply Tidy.sound
  apply h.invariant (I := Tidy)
  · exact fun s a t htidy hstep => htidy.step hstep.1 hstep.2
  · exact tidy_initial

instance (s : GxContext) (a : Event) : Decidable (s.Proper a) := by
  cases a
  all_goals
    dsimp only [Proper]
    infer_instance

/-- The state after an event, if it can happen. -/
def next (s : GxContext) (a : Event) : Option GxContext :=
  if s.ended = none ∧ (a.inMain = true → s.sending = none) then s.exec a else none

theorem step_of_next {a : Event} (h : s.next a = some t) : s.Step a t := by
  rw [next, Option.ite_none_right_eq_some] at h
  exact ⟨h.1.1, h.1.2, h.2⟩

/-- The state after some events that can happen. -/
def run (s : GxContext) (events : List Event) : Option GxContext := events.foldlM next s

theorem reaches_run {events : List Event} (h : (s.run events).isSome = true) :
    Lts.Reaches Step s ((s.run events).getD s) := by
  obtain ⟨t, ht⟩ := Option.isSome_iff_exists.mp h
  rw [ht]
  apply Lts.reaches_of_foldlM _ ht
  exact fun u a v hv => ⟨a, step_of_next hv⟩

/-- The same if all meet the condition. -/
def properRun (s : GxContext) (events : List Event) : Option GxContext :=
  events.foldlM (fun s a => if s.Proper a then s.next a else none) s

theorem reaches_properRun {events : List Event} (h : (s.properRun events).isSome = true) :
    Lts.Reaches (Lts.Restrict Proper Step) s ((s.properRun events).getD s) := by
  obtain ⟨t, ht⟩ := Option.isSome_iff_exists.mp h
  rw [ht]
  apply Lts.reaches_of_foldlM _ ht
  intro u a v hv
  rw [Option.ite_none_right_eq_some] at hv
  exact ⟨a, hv.1, step_of_next hv.2⟩

/-- A session is added, and its first request is answered. -/
def answeredInitial : List Event :=
  let ccr : Ccr := ⟨0, 0, 0, 1, 0, 0⟩
  [.sessAdd, .xactNew 1, .sendCcr ccRequestTypeInitial 1, .sendCcrEnd, .ccaCb ccr 0,
    .ccaCbEnd ⟨ccr, 0, 1, 0⟩ true, .ccaHandle]

/-- So is the request for its end. -/
def answeredTermination : List Event :=
  let ccr : Ccr := ⟨0, 0, 1, 2, 1, 1⟩
  [.xactNew 2, .sendCcr ccRequestTypeTermination 2, .sendCcrEnd, .ccaCb ccr 1,
    .ccaCbEnd ⟨ccr, 1, 2, 1⟩ true]

/-- After the answer to the first request all is well. -/
theorem sound_answeredInitial : ((initial.properRun answeredInitial).getD initial).Sound :=
  sound_of_reaches (reaches_properRun (by decide))

/-- After the answer to the last one `gx_sid` of the session is freed. -/
theorem not_sound_answeredTermination : ¬∀ s, Lts.Reaches Step initial s → s.Sound := by
  intro hclaim
  have hreaches := @reaches_run initial (answeredInitial ++ answeredTermination) (by decide)
  have hsound := hclaim _ hreaches
  exact absurd (hsound.gxSid (by decide) 0 (by decide)) (by decide)

/-- An answer with the number 32 is enough for an index that is out of bounds. -/
example : ((initial.run [.sessAdd, .xactNew 1, .sendCcr ccRequestTypeInitial 1, .sendCcrEnd,
    .ccaCb ⟨0, 0, 0, 1, 0, 0⟩ 32]).getD initial).ended = some .outOfBounds := by
  decide

end GxContext
end NextEpc
