import NextEpc.Lib.Custody
import NextEpc.Lib.Trace
import NextEpc.Pcrf.AarFailure

/-!
# Gx and Rx sessions

The handlers of AA-Requests, Session-Termination-Requests, Credit-Control-Requests and
Re-Auth-Answers run in several threads. Each of them takes the states it works on out of their
Diameter sessions and stores them again. A step here is what a handler does from one such call to
the next one.
-/

namespace NextEpc

/-- What is looked at in a Credit-Control-Request. A Subscription-Id that cannot be used has no
IMSI. -/
structure CcrMessage where
  peerHost : CString
  framedIpv6PrefixLen : Option UInt8
  subscriptionId : Option (Option CString)
  calledStationId : Option CString

/-- A handler between two calls of `fd_sess_state_retrieve` and `fd_sess_state_store`, with the
states that it has taken. -/
inductive PcrfHandler (maxNumOfFlow : Nat)
  | aar (sid : CString) (rx : RxSess) (isNew : Bool) (gxSid : Option CString) (avps : List Avp)
  | aarRar (sid : CString) (rx : RxSess) (isNew : Bool) (gxSid : CString)
      (msg : RxMessage maxNumOfFlow) (gx : GxSess maxNumOfFlow)
  | aarEnd (sid : CString) (rx : Option RxSess)
  | str (sid : CString) (rx : RxSess)
  | strRar (sid : CString) (rx : RxSess) (gxSid : CString) (gx : GxSess maxNumOfFlow)
  | strEnd (sid : CString)
  | ccrUpdate (gxSid : CString) (gx : GxSess maxNumOfFlow)
  | ccrTerminate (gxSid : CString) (gx : GxSess maxNumOfFlow)
  | ccrAsr (gxSid : CString) (gx : GxSess maxNumOfFlow) (sid : CString) (rx : RxSess)
  | raa (gxSid : CString) (gx : GxSess maxNumOfFlow)

/-- A thread begins with a message, or its handler goes on. -/
inductive PcrfEvent
  | aar (sid : CString) (framedIpv6PrefixLen : Option UInt8) (gxSid : Option CString)
      (avps : List Avp)
  | str (sid : CString)
  | ccrUpdate (gxSid : CString) (msg : CcrMessage)
  | ccrTerminate (gxSid : CString) (msg : CcrMessage)
  | raa (gxSid : CString)
  | next

/-- The stored states, the handlers of the threads, and the Gx sessions of the Re-Auth-Requests
that are not answered yet. -/
structure PcrfSystem (maxNumOfFlow : Nat) where
  stored : PcrfContext maxNumOfFlow
  running : Nat → Option (PcrfHandler maxNumOfFlow)
  outstanding : List CString

namespace Pcrf
variable {maxNumOfFlow : Nat}

/-! ## The handlers -/

/-- The branch of `pcrf_gx_send_rar` for a Session-Termination-Request: the state to be stored and
the names of the rules that are removed -/
def sendRarStr (rxSid : CString) (gx : GxSess maxNumOfFlow) :
    Option (GxSess maxNumOfFlow × Option (List CString)) := do
  let entry ← gx.rxList.find? fun entry => entry.sid == rxSid
  let names ← entry.pccRule.mapM fun pccRule => pccRule.name
  let gx := { gx with rxList := gx.rxList.eraseP fun entry => entry.sid == rxSid }
  if names = [] then some (gx, none)
  else do
    let _ ← gx.peerHost
    some (gx, some names)

/-- The members of a Credit-Control-Request that are kept, and whether the request is served. -/
def readCcr (env : PcrfEnv maxNumOfFlow) (msg : CcrMessage) (gx : GxSess maxNumOfFlow) :
    GxSess maxNumOfFlow × Bool :=
  let gx := { gx with peerHost := some msg.peerHost }
  match msg.subscriptionId with
  | some none => (gx, false)
  | subscriptionId =>
    let gx := { gx with imsiBcd := subscriptionId.join <|> gx.imsiBcd }
    match gx.imsiBcd with
    | none => (gx, false)
    | some imsiBcd =>
      let gx := { gx with apn := msg.calledStationId <|> gx.apn }
      match gx.apn with
      | none => (gx, false)
      | some apn => (gx, (env.qosData imsiBcd apn).isSome)

/-- `fd_sess_state_store`, whose result is asserted -/
def store {α : Type} (stored : CString → Option α) (sid : CString) (a : α) :
    Option (CString → Option α) :=
  match stored sid with
  | none => some (Function.update stored sid (some a))
  | some _ => none

/-- A handler goes on: the stored states, what the thread does next, and the Gx sessions that get
a Re-Auth-Request. -/
def goOn (env : PcrfEnv maxNumOfFlow) (p : PcrfContext maxNumOfFlow) :
    PcrfHandler maxNumOfFlow →
    Option (PcrfContext maxNumOfFlow × Option (PcrfHandler maxNumOfFlow) × List CString)
  | .aar sid _ _ none _ => some (p, some (.aarEnd sid none), [])
  | .aar sid rx isNew (some gxSid) avps => do
    let msg ← Rx.decodeAar maxNumOfFlow rx.peerHost avps
    match p.gx gxSid with
    | none => some (p, some (.aarEnd sid none), [])
    | some gx =>
      some ({ p with gx := Function.update p.gx gxSid none },
        some (.aarRar sid rx isNew gxSid msg gx), [])
  | .aarRar sid rx _ gxSid msg gx => do
    let (gx, rar, code) ← sendRarAa env sid msg.mediaComponent gx
    let gxs ← store p.gx gxSid gx
    let rx : RxSess := { rx with
      gxSid := rx.gxSid <|> some gxSid
      peerHost := msg.peerHost }
    some ({ p with gx := gxs },
      some (.aarEnd sid (if code = erDiameterSuccess then some rx else none)),
      if rar.isSome then [gxSid] else [])
  | .aarEnd sid (some rx) => do
    let rxs ← store p.rx sid rx
    some ({ p with rx := rxs }, none, [])
  | .aarEnd _ none => some (p, none, [])
  | .str sid rx => do
    let gxSid ← rx.gxSid
    if rx.aborted then some (p, some (.strEnd sid), [])
    else
      match p.gx gxSid with
      | none => some (p, some (.strEnd sid), [])
      | some gx =>
        some ({ p with gx := Function.update p.gx gxSid none }, some (.strRar sid rx gxSid gx), [])
  | .strRar sid _ gxSid gx => do
    let (gx, rar) ← sendRarStr sid gx
    let gxs ← store p.gx gxSid gx
    some ({ p with gx := gxs }, some (.strEnd sid), if rar.isSome then [gxSid] else [])
  | .strEnd _ => some (p, none, [])
  | .ccrUpdate gxSid gx => do
    let gxs ← store p.gx gxSid gx
    some ({ p with gx := gxs }, none, [])
  | .ccrTerminate gxSid gx =>
    match gx.rxList with
    | [] => some (p, none, [])
    | entry :: _ => do
      -- `pcrf_rx_send_asr`
      let rx ← p.rx entry.sid
      some ({ p with rx := Function.update p.rx entry.sid none },
        some (.ccrAsr gxSid gx entry.sid rx), [])
  | .ccrAsr gxSid gx sid rx => do
    let _ ← rx.peerHost
    let rxs ← store p.rx sid { rx with aborted := true }
    some ({ p with rx := rxs }, some (.ccrTerminate gxSid { gx with rxList := gx.rxList.tail }), [])
  | .raa gxSid gx => do
    let gxs ← store p.gx gxSid gx
    some ({ p with gx := gxs }, none, [])

/-- A thread begins with a message. -/
def begin (env : PcrfEnv maxNumOfFlow) (p : PcrfContext maxNumOfFlow) :
    PcrfEvent → Option (PcrfContext maxNumOfFlow × Option (PcrfHandler maxNumOfFlow))
  | .aar sid framedIpv6PrefixLen gxSid avps =>
    if framedIpv6PrefixLen.all (· == 128) then
      some ({ p with rx := Function.update p.rx sid none },
        some (.aar sid (retrieveOrNew p sid) (p.rx sid).isNone gxSid avps))
    else none
  | .str sid => do
    let rx ← p.rx sid
    let _ ← rx.gxSid
    some ({ p with rx := Function.update p.rx sid none }, some (.str sid rx))
  | .ccrUpdate gxSid msg =>
    match p.gx gxSid with
    | none => some (p, none)
    | some gx =>
      if msg.framedIpv6PrefixLen.all (· == 128) then
        some ({ p with gx := Function.update p.gx gxSid none },
          some (.ccrUpdate gxSid (readCcr env msg gx).1))
      else none
  | .ccrTerminate gxSid msg =>
    match p.gx gxSid with
    | none => some (p, none)
    | some gx =>
      if msg.framedIpv6PrefixLen.all (· == 128) then
        -- `state_cleanup` when the request is not served
        some ({ p with gx := Function.update p.gx gxSid none },
          if (readCcr env msg gx).2 then some (.ccrTerminate gxSid (readCcr env msg gx).1) else none)
      else none
  | .raa gxSid => do
    let gx ← p.gx gxSid
    some ({ p with gx := Function.update p.gx gxSid none }, some (.raa gxSid gx))
  | .next => none

/-- One step of a thread. There is no state after an `ogs_assert` has failed. -/
def exec (env : PcrfEnv maxNumOfFlow) (s : PcrfSystem maxNumOfFlow) (thread : Nat) :
    PcrfEvent → Option (PcrfSystem maxNumOfFlow)
  | .next => do
    let handler ← s.running thread
    let (p, handler, rars) ← goOn env s.stored handler
    some
      { stored := p
        running := Function.update s.running thread handler
        outstanding := rars ++ s.outstanding }
  | event => do
    let (p, handler) ← begin env s.stored event
    some
      { stored := p
        running := Function.update s.running thread handler
        outstanding := match event with
          | .raa gxSid => s.outstanding.erase gxSid
          | _ => s.outstanding }

/-- The AVPs of a request are those of the dictionary, and its Session-Id is there. -/
def WellFormedAar (avps : List Avp) : Prop :=
  (∀ avp ∈ avps, avp.WellTyped Rx.dict) ∧ ∃ avp ∈ avps, avp.model.code = Rx.acSessionId

/-- A thread begins when it has nothing to do, and goes on when it has. A Re-Auth-Answer is one to
a request. -/
def Enabled (s : PcrfSystem maxNumOfFlow) (thread : Nat) : PcrfEvent → Prop
  | .next => (s.running thread).isSome
  | .aar _ _ _ avps => s.running thread = none ∧ WellFormedAar avps
  | .raa gxSid => s.running thread = none ∧ gxSid ∈ s.outstanding
  | _ => s.running thread = none

/-- The PCRF does a step, with any thread and any message. -/
inductive Step (env : PcrfEnv maxNumOfFlow) :
    Option (PcrfSystem maxNumOfFlow) → Nat × PcrfEvent → Option (PcrfSystem maxNumOfFlow) → Prop
  | run {s : PcrfSystem maxNumOfFlow} {thread : Nat} {event : PcrfEvent}
      (h : Enabled s thread event) : Step env (some s) (thread, event) (exec env s thread event)

/-- Gx sessions without Rx sessions, whose Credit-Control-Requests had an Origin-Host. -/
structure Initial (s : PcrfSystem maxNumOfFlow) : Prop where
  running : ∀ thread, s.running thread = none
  outstanding : s.outstanding = []
  gx : ∀ gxSid gx, s.stored.gx gxSid = some gx → gx.rxList = [] ∧ gx.peerHost.isSome
  rx : ∀ sid, s.stored.rx sid = none

end Pcrf

end NextEpc
