import NextEpc.Pgw.FreshSlot
import NextEpc.Sgw.TunnelRun

/-!
# Responses to Create Bearer Requests

A response is taken for the request with its sequence number that was sent to the peer. The SGW
and the PGW then look up the bearer with a TEID in the response, among all bearers they have, and
not with the UE or session of the response. Here is exactly when it is the right bearer.
-/

namespace NextEpc

/-! ## Requests -/

/-- A request about a bearer that waits for its response: the node that it was sent to, its
sequence number and, if it is a Create Bearer Request, the bearer, as long as that is there. -/
structure BearerRequest where
  gnode : Option NodeId
  xid : UInt32
  bearer : Option Nat
  deriving DecidableEq

namespace BearerRequest

/-- `ogs_gtp_xact_find_by_xid` finds the request in the list of the node. -/
def Waits (requests : List BearerRequest) (gnode : Option NodeId) (xid : UInt32) : Prop :=
  ∃ r ∈ requests, r.gnode = gnode ∧ r.xid = xid

instance (requests : List BearerRequest) (gnode : Option NodeId) (xid : UInt32) :
    Decidable (Waits requests gnode xid) := inferInstanceAs (Decidable (∃ r ∈ requests, _))

/-- The requests that still wait after the response. -/
def answer (requests : List BearerRequest) (gnode : Option NodeId) (xid : UInt32) :
    List BearerRequest :=
  requests.eraseP fun r => r.gnode = gnode ∧ r.xid = xid

/-- A bearer that was removed is waited for no longer. -/
def forget (live : Nat → Bool) (requests : List BearerRequest) : List BearerRequest :=
  requests.map fun r => { r with bearer := r.bearer.filter live }

/-- A Create Bearer Request for the bearer waits. -/
def Outstanding (requests : List BearerRequest) (bearer : Nat) : Prop :=
  ∃ r ∈ requests, r.bearer = some bearer

end BearerRequest

open BearerRequest

/-! ## The SGW -/

/-- The location of a bearer. -/
structure SgwLocation where
  tai : Tai
  eCgi : ECgi
  deriving DecidableEq

/-- A Create Bearer Response on S11. -/
structure SgwBearerResponse where
  sgwS1uTeid : Option UInt32
  ebi : Option UInt8
  enbS1uTeid : Option SgwFTeid
  uli : Option SgwLocation
  deriving DecidableEq

def SgwBearerResponse.op (rsp : SgwBearerResponse) (sgwUe : SgwUeId) : SgwContext.Op :=
  .createBearerResponse sgwUe rsp.sgwS1uTeid rsp.ebi rsp.enbS1uTeid rsp.uli.isSome

/-- The context with the locations of the bearers and the requests to the MMEs. -/
structure SgwExchange where
  ctx : SgwContext
  location : SgwBearerId → SgwLocation
  requests : List BearerRequest

namespace SgwExchange
variable {m m' : SgwExchange}

/-- What happens besides the other events: a Create Bearer Response for a UE, an Update or Delete
Bearer Request that is passed on to its MME, and a request that no longer waits. Other handlers
write locations too. -/
inductive Event
  | response (sgwUe : SgwUeId) (xid : UInt32) (rsp : SgwBearerResponse)
  | event (op : SgwContext.Op) (out : List SgwOutput) (xid : UInt32)
      (location : SgwBearerId → SgwLocation)
  | request (sgwUe : SgwUeId) (xid : UInt32)
  | done (request : BearerRequest)

def isBearerResponse : SgwContext.Op → Bool
  | .createBearerResponse _ _ _ _ _ => true
  | _ => false

/-- The Create Bearer Request that is passed on to the MME. -/
def passedOn (s : SgwContext) (xid : UInt32) : SgwContext.Op → List BearerRequest
  | .createBearerRequest bearer _ _ sess true (some _) =>
    [⟨(s.ues.mem (s.sesss.mem sess).sgwUe).gnode, xid, some bearer⟩]
  | _ => []

/-- The location is written to the bearer that has the tunnel. -/
def located (m : SgwExchange) (rsp : SgwBearerResponse) : SgwBearerId → SgwLocation :=
  match rsp with
  | ⟨some sgwS1uTeid, some _, some _, some uli⟩ =>
    match m.ctx.sgwTunnelFindByTeid sgwS1uTeid with
    | some tunnel => Function.update m.location (m.ctx.tunnels.mem tunnel).bearer uli
    | none => m.location
  | _ => m.location

inductive Step (m : SgwExchange) : Event → SgwExchange → Prop
  | response {sgwUe : SgwUeId} {xid : UInt32} {rsp : SgwBearerResponse} {t : SgwContext} :
    Waits m.requests (m.ctx.ues.mem sgwUe).gnode xid →
    SgwContext.Step m.ctx (rsp.op sgwUe, []) t →
    Step m (.response sgwUe xid rsp)
      ⟨t, m.located rsp, answer m.requests (m.ctx.ues.mem sgwUe).gnode xid⟩
  | event {op : SgwContext.Op} {out : List SgwOutput} {xid : UInt32}
    {location : SgwBearerId → SgwLocation} {t : SgwContext} :
    isBearerResponse op = false → SgwContext.Step m.ctx (op, out) t →
    Step m (.event op out xid location)
      ⟨t, location, forget t.bearers.live (m.requests ++ passedOn m.ctx xid op)⟩
  | request {sgwUe : SgwUeId} {xid : UInt32} :
    Step m (.request sgwUe xid)
      { m with requests := m.requests ++ [⟨(m.ctx.ues.mem sgwUe).gnode, xid, none⟩] }
  | done {request : BearerRequest} :
    Step m (.done request) { m with requests := m.requests.erase request }

def initial (location : SgwBearerId → SgwLocation) : SgwExchange :=
  ⟨SgwContext.initial, location, []⟩

/-- Bearers and tunnels of other UEs are the same. -/
structure Isolated (m : SgwExchange) (sgwUe : SgwUeId) (m' : SgwExchange) : Prop where
  bearers : ∀ b, m.ctx.bearers.live b = true → (m.ctx.bearers.mem b).sgwUe ≠ sgwUe →
    m'.ctx.bearers.mem b = m.ctx.bearers.mem b ∧ m'.location b = m.location b
  tunnels : ∀ x, m.ctx.tunnels.live x = true →
    (m.ctx.bearers.mem (m.ctx.tunnels.mem x).bearer).sgwUe ≠ sgwUe →
    m'.ctx.tunnels.mem x = m.ctx.tunnels.mem x

/-- The S1-U tunnel with the TEID, of a bearer that a request waits for. -/
structure Awaited (m : SgwExchange) (teid : UInt32) (tunnel : SgwTunnelId) : Prop where
  find : m.ctx.sgwTunnelFindByTeid teid = some tunnel
  s1u : (m.ctx.tunnels.mem tunnel).interfaceType = s1uSgwGtpU
  outstanding : Outstanding m.requests (m.ctx.tunnels.mem tunnel).bearer

/-- A bearer and its S1-U tunnel have what is in a response. -/
structure Has (m : SgwExchange) (tunnel : SgwTunnelId) (ebi : UInt8) (enb : SgwFTeid)
    (uli : SgwLocation) : Prop where
  ebi : (m.ctx.bearers.mem (m.ctx.tunnels.mem tunnel).bearer).ebi = ebi
  location : m.location (m.ctx.tunnels.mem tunnel).bearer = uli
  teid : (m.ctx.tunnels.mem tunnel).remoteTeid = enb.teid
  gnode : (m.ctx.tunnels.mem tunnel).gnode = some enb.gnode

/-- What the step by a response should be: other UEs are left alone, and if the response is
accepted it completes a bearer that a request waits for. -/
def Lawful (m : SgwExchange) : Event → SgwExchange → Prop
  | .response sgwUe _ rsp, m' => m.Isolated sgwUe m' ∧ ∀ teid ebi enb uli,
    rsp = ⟨some teid, some ebi, some enb, some uli⟩ →
      ∃ tunnel, m.Awaited teid tunnel ∧ m'.Has tunnel ebi enb uli
  | _, _ => True

/-- A response has the TEID of the S1-U tunnel of a bearer of its UE that a request waits for. If
it is a bearer of another UE, this has all that is in the response already. -/
def RightBearer (m : SgwExchange) : Event → Prop
  | .response sgwUe _ rsp => ∀ teid ebi enb uli,
    rsp = ⟨some teid, some ebi, some enb, some uli⟩ → ∃ tunnel, m.Awaited teid tunnel ∧
      ((m.ctx.bearers.mem (m.ctx.tunnels.mem tunnel).bearer).sgwUe = sgwUe ∨
        m.Has tunnel ebi enb uli)
  | _ => True

end SgwExchange

namespace SgwContext
variable {s t : SgwContext} {sgwUe : SgwUeId} {rsp : SgwBearerResponse}

/-- The bearer of a tunnel gets its EBI, and the tunnel the eNB. -/
def completed (s : SgwContext) (sgwUe : SgwUeId) (tunnel : SgwTunnelId) (ebi : UInt8)
    (enb : SgwFTeid) : SgwContext :=
  let s := { s with
    bearers := s.bearers.modify (s.tunnels.mem tunnel).bearer fun m => { m with ebi := ebi } }
  (s.setRemote tunnel enb).setUe sgwUe fun m => { m with s1uInactive := false }

/-- What a Create Bearer Response does. -/
inductive Completion (s : SgwContext) (sgwUe : SgwUeId) :
    SgwBearerResponse → SgwContext → Prop
  | completed {teid : UInt32} {ebi : UInt8} {enb : SgwFTeid} {uli : SgwLocation}
    (tunnel : SgwTunnelId) : s.sgwTunnelFindByTeid teid = some tunnel →
    Completion s sgwUe ⟨some teid, some ebi, some enb, some uli⟩ (s.completed sgwUe tunnel ebi enb)
  | lacking {rsp : SgwBearerResponse} :
    (∀ teid ebi enb uli, rsp ≠ ⟨some teid, some ebi, some enb, some uli⟩) →
    Completion s sgwUe rsp s

theorem completion_of_step (h : Step s (rsp.op sgwUe, []) t) : Completion s sgwUe rsp t := by
  have heq := (silent_eq_some.mp h.apply).1
  obtain ⟨teid, ebi, enb, uli⟩ := rsp
  dsimp only [SgwBearerResponse.op] at heq
  rw [sgwS11HandleCreateBearerResponse.eq_def] at heq
  split at heq
  · rename_i teid ebi enb
    cases uli with
    | none =>
      cases heq
      apply Completion.lacking
      simp
    | some uli =>
      rw [if_pos (by rfl)] at heq
      simp only [Option.bind_eq_bind, Option.bind_eq_some_iff] at heq
      obtain ⟨tunnel, hfind, _, _, _, _, heq⟩ := heq
      cases heq
      exact Completion.completed tunnel hfind
  · rename_i hlacking
    cases heq
    apply Completion.lacking
    rintro teid' ebi' enb' uli' ⟨⟩
    exact hlacking teid' ebi' enb' rfl rfl rfl

end SgwContext

namespace SgwExchange
variable {m m' : SgwExchange} {sgwUe : SgwUeId} {tunnel : SgwTunnelId} {ebi : UInt8}
  {enb : SgwFTeid} {uli : SgwLocation}

/-- The state after a response was accepted. -/
theorem has_completed {t : SgwContext} (ht : t = m.ctx.completed sgwUe tunnel ebi enb)
    (requests : List BearerRequest) : Has ⟨t, Function.update m.location
      (m.ctx.tunnels.mem tunnel).bearer uli, requests⟩ tunnel ebi enb uli := by
  subst ht
  constructor
  · simp [SgwContext.completed, SgwContext.setRemote, SgwContext.setUe]
  · simp [SgwContext.completed, SgwContext.setRemote, SgwContext.setUe]
  · simp [SgwContext.completed, SgwContext.setRemote, SgwContext.setUe]
  · simp [SgwContext.completed, SgwContext.setRemote, SgwContext.setUe]

/-- Writing what is there changes nothing. -/
theorem isolated_completed {requests : List BearerRequest}
    (h : (m.ctx.bearers.mem (m.ctx.tunnels.mem tunnel).bearer).sgwUe = sgwUe ∨
      m.Has tunnel ebi enb uli) :
    m.Isolated sgwUe ⟨m.ctx.completed sgwUe tunnel ebi enb, Function.update m.location
      (m.ctx.tunnels.mem tunnel).bearer uli, requests⟩ := by
  constructor
  · intro b _ hother
    by_cases hb : b = (m.ctx.tunnels.mem tunnel).bearer
    · subst hb
      have hhas := h.resolve_left hother
      simp [SgwContext.completed, SgwContext.setRemote, SgwContext.setUe, ← hhas.ebi,
        hhas.location]
    · simp [SgwContext.completed, SgwContext.setRemote, SgwContext.setUe, hb]
  · intro x _ hother
    by_cases hx : x = tunnel
    · subst hx
      have hhas := h.resolve_left hother
      simp [SgwContext.completed, SgwContext.setRemote, SgwContext.setUe, ← hhas.teid,
        ← hhas.gnode]
    · simp [SgwContext.completed, SgwContext.setRemote, SgwContext.setUe, hx]

/-- A bearer of another UE that has what is in a response had it before. -/
theorem Isolated.has (h : m.Isolated sgwUe m') (hwell : m.ctx.WellFormed) {teid : UInt32}
    (hfind : m.ctx.sgwTunnelFindByTeid teid = some tunnel)
    (hown : (m.ctx.bearers.mem (m.ctx.tunnels.mem tunnel).bearer).sgwUe ≠ sgwUe)
    (hhas : m'.Has tunnel ebi enb uli) : m.Has tunnel ebi enb uli := by
  have hlive := ((hwell.indexTeid.find teid).mp hfind).1
  have htunnel := h.tunnels tunnel hlive hown
  obtain ⟨hbearer, hlocation⟩ := h.bearers _ (hwell.tunnels.live tunnel hlive) hown
  obtain ⟨hebi, huli, hteid, hgnode⟩ := hhas
  rw [htunnel] at hebi huli hteid hgnode
  rw [hbearer] at hebi
  rw [hlocation] at huli
  exact ⟨hebi, huli, hteid, hgnode⟩

theorem located_of_lacking {rsp : SgwBearerResponse}
    (h : ∀ teid ebi enb uli, rsp ≠ ⟨some teid, some ebi, some enb, some uli⟩) :
    m.located rsp = m.location := by
  rw [located.eq_def]
  split
  · exact absurd rfl (h _ _ _ _)
  · rfl

theorem lawful_iff {a : Event} (h : m.ctx.WellFormed) (hstep : m.Step a m') :
    m.Lawful a m' ↔ m.RightBearer a := by
  cases hstep with
  | event => exact Iff.rfl
  | request => exact Iff.rfl
  | done => exact Iff.rfl
  | @response sgwUe xid rsp t _ hctx =>
    cases SgwContext.completion_of_step hctx with
    | lacking hlacking =>
      apply iff_of_true
      · refine ⟨⟨fun b _ _ => ⟨rfl, ?_⟩, fun _ _ _ => rfl⟩, ?_⟩
        · rw [located_of_lacking hlacking]
        · exact fun teid ebi enb uli heq => absurd heq (hlacking teid ebi enb uli)
      · exact fun teid ebi enb uli heq => absurd heq (hlacking teid ebi enb uli)
    | @completed teid ebi enb uli tunnel hfind =>
      have hlocated : m.located ⟨some teid, some ebi, some enb, some uli⟩ =
          Function.update m.location (m.ctx.tunnels.mem tunnel).bearer uli := by
        simp [located, hfind]
      rw [hlocated]
      constructor
      · rintro ⟨hisolated, hcompletes⟩ _ _ _ _ ⟨⟩
        obtain ⟨x, hawaited, hhas⟩ := hcompletes _ _ _ _ rfl
        refine ⟨x, hawaited, ?_⟩
        by_cases hown : (m.ctx.bearers.mem (m.ctx.tunnels.mem x).bearer).sgwUe = sgwUe
        · exact Or.inl hown
        · exact Or.inr (hisolated.has h hawaited.find hown hhas)
      · intro hright
        obtain ⟨x, hawaited, hhas⟩ := hright _ _ _ _ rfl
        obtain rfl : tunnel = x := Option.some_inj.mp (hfind.symm.trans hawaited.find)
        refine ⟨isolated_completed hhas, ?_⟩
        rintro _ _ _ _ ⟨⟩
        exact ⟨tunnel, hawaited, has_completed rfl _⟩

/-! ### Runs -/

theorem wellFormed_step {a : Event} (h : m.ctx.WellFormed) (hstep : m.Step a m') :
    m'.ctx.WellFormed := by
  cases hstep with
  | response _ hctx => exact h.step hctx
  | event _ hctx => exact h.step hctx
  | request => exact h
  | done => exact h

/-- A step that is lawful if it is one by a response. -/
def LawfulStep (m : SgwExchange) (a : Event) (m' : SgwExchange) : Prop :=
  m.Lawful a m' ∧ m.Step a m'

theorem lawful_run (location : SgwBearerId → SgwLocation) (tr : List (Event × SgwExchange)) :
    Lts.Trace LawfulStep (initial location) tr ↔
      Lts.Trace (Lts.Restrict RightBearer Step) (initial location) tr := by
  apply Lts.Trace.congr (J := fun m => m.ctx.WellFormed)
  · exact fun m a m' h hstep => wellFormed_step h hstep.2
  · intro m a m' h
    apply and_congr_left
    exact fun hstep => lawful_iff h hstep
  · exact SgwContext.wellFormed_initial

end SgwExchange

/-! ## The PGW -/

/-- The context with the requests to the SGWs. -/
structure PgwExchange where
  ctx : PgwContext
  requests : List BearerRequest

namespace PgwExchange
variable {cfg : PgwConfig} {compile : CString → Option PgwRule} {maxNumOfFlow : Nat}
  {m m' : PgwExchange} {sess : PgwSessId} {bearer : PgwBearerId} {rsp : PgwBearerResponse}

/-- What happens besides the other events: a Create Bearer Response for a session, and a request
that no longer waits. -/
inductive Event (maxNumOfFlow : Nat)
  | response (sess : PgwSessId) (xid : UInt32) (rsp : Option PgwBearerResponse)
  | event (op : PgwContext.Op maxNumOfFlow) (out : List PgwOutput) (xid : UInt32)
  | done (request : BearerRequest)

def isBearerResponse : PgwContext.Op maxNumOfFlow → Bool
  | .createBearerResponse _ _ => true
  | _ => false

/-- The bearer that is created with a message. -/
def created : PgwOutput → Option PgwBearerId
  | .createBearerRequest bearer _ _ _ _ _ => some bearer
  | _ => none

/-- The requests that a rule sends. -/
def sent (s : PgwContext) (xid : UInt32) (out : List PgwOutput) :
    PgwContext.Op maxNumOfFlow → List BearerRequest
  | .pccRule sess _ _ _ => out.map fun o => ⟨(s.sessMem sess).gnode, xid, created o⟩
  | _ => []

inductive Step [Ogslib] (cfg : PgwConfig) (compile : CString → Option PgwRule) (m : PgwExchange) :
    Event maxNumOfFlow → PgwExchange → Prop
  | response {sess : PgwSessId} {xid : UInt32} {rsp : Option PgwBearerResponse} {t : PgwContext} :
    Waits m.requests (m.ctx.sessMem sess).gnode xid →
    m.ctx.Step cfg compile ((.createBearerResponse sess rsp : PgwContext.Op maxNumOfFlow), []) t →
    Step cfg compile m (.response sess xid rsp)
      ⟨t, answer m.requests (m.ctx.sessMem sess).gnode xid⟩
  | event {op : PgwContext.Op maxNumOfFlow} {out : List PgwOutput} {xid : UInt32}
    {t : PgwContext} :
    isBearerResponse op = false → m.ctx.Step cfg compile (op, out) t →
    Step cfg compile m (.event op out xid)
      ⟨t, forget t.bearers.live (m.requests ++ sent m.ctx xid out op)⟩
  | done {request : BearerRequest} :
    Step cfg compile m (.done request) { m with requests := m.requests.erase request }

def initial (arrays : List (List PgwUeIp)) : PgwExchange := ⟨PgwContext.initial arrays, []⟩

/-- Bearers of other sessions are the same. -/
def Isolated (m : PgwExchange) (sess : PgwSessId) (m' : PgwExchange) : Prop :=
  ∀ b, m.ctx.bearers.live b = true → (m.ctx.bearers.mem b).sess ≠ sess →
    m'.ctx.bearers.mem b = m.ctx.bearers.mem b

/-- The bearer with the TEID, that a request waits for. -/
structure Awaited (m : PgwExchange) (teid : UInt32) (bearer : PgwBearerId) : Prop where
  find : m.ctx.pgwBearerFindByPgwS5uTeid teid = some bearer
  outstanding : Outstanding m.requests bearer

/-- A bearer has what is in a response. -/
structure Has (m : PgwExchange) (bearer : PgwBearerId) (rsp : PgwBearerResponse) : Prop where
  ebi : (m.ctx.bearers.mem bearer).ebi = rsp.ebi
  teid : (m.ctx.bearers.mem bearer).sgwS5uTeid = rsp.sgwS5uTeid
  gnode : (m.ctx.bearers.mem bearer).gnode = some rsp.gnode

/-- What the step by a response should be: other sessions are left alone, and if the response is
accepted it completes a bearer that a request waits for. -/
def Lawful (m : PgwExchange) : Event maxNumOfFlow → PgwExchange → Prop
  | .response sess _ rsp?, m' => m.Isolated sess m' ∧ ∀ rsp, rsp? = some rsp →
    ∃ bearer, m.Awaited rsp.pgwS5uTeid bearer ∧ m'.Has bearer rsp
  | _, _ => True

/-- A response has the TEID of a bearer of its session that a request waits for. If it is a bearer
of another session, this has all that is in the response already. -/
def RightBearer (m : PgwExchange) : Event maxNumOfFlow → Prop
  | .response sess _ rsp? => ∀ rsp, rsp? = some rsp →
    ∃ bearer, m.Awaited rsp.pgwS5uTeid bearer ∧
      ((m.ctx.bearers.mem bearer).sess = sess ∨ m.Has bearer rsp)
  | _ => True

theorem live_of_find {teid : UInt32}
    (h : m.ctx.pgwBearerFindByPgwS5uTeid teid = some bearer) :
    m.ctx.bearers.live bearer = true := by
  rw [PgwContext.pgwBearerFindByPgwS5uTeid, Option.ite_none_right_eq_some] at h
  obtain ⟨hlive, hteid⟩ := h
  rwa [← Option.some_inj.mp hteid]

theorem lawful_iff [Ogslib] {a : Event maxNumOfFlow} (hstep : m.Step cfg compile a m') :
    m.Lawful a m' ↔ m.RightBearer a := by
  cases hstep with
  | event => exact Iff.rfl
  | done => exact Iff.rfl
  | @response sess xid rsp? t _ hctx =>
    cases PgwContext.effect_of_step hctx with
    | noBearerResponse =>
      apply iff_of_true
      · refine ⟨fun _ _ _ => rfl, ?_⟩
        rintro _ ⟨⟩
      · rintro _ ⟨⟩
    | @createBearerResponse _ rsp bearer hsess hfind =>
      constructor
      · rintro ⟨hisolated, hcompletes⟩ _ ⟨⟩
        obtain ⟨b, hawaited, hhas⟩ := hcompletes rsp rfl
        refine ⟨b, hawaited, ?_⟩
        by_cases hown : (m.ctx.bearers.mem b).sess = sess
        · exact Or.inl hown
        · -- the bearer had it before
          have hlive : m.ctx.bearers.live b = true := live_of_find hawaited.find
          obtain ⟨hebi, hteid, hgnode⟩ := hhas
          rw [hisolated b hlive hown] at hebi hteid hgnode
          exact Or.inr ⟨hebi, hteid, hgnode⟩
      · intro hright
        obtain ⟨b, hawaited, hhas⟩ := hright rsp rfl
        obtain rfl : bearer = b := Option.some_inj.mp (hfind.symm.trans hawaited.find)
        refine ⟨?_, ?_⟩
        · intro b _ hother
          by_cases hb : b = bearer
          · subst hb
            have hhas := hhas.resolve_left hother
            simp [PgwContext.setBearer, ← hhas.ebi, ← hhas.teid, ← hhas.gnode]
          · simp [PgwContext.setBearer, hb]
        · rintro _ ⟨⟩
          refine ⟨bearer, hawaited, ?_, ?_, ?_⟩
          all_goals simp [PgwContext.setBearer]

def LawfulStep [Ogslib] (cfg : PgwConfig) (compile : CString → Option PgwRule) (m : PgwExchange)
    (a : Event maxNumOfFlow) (m' : PgwExchange) : Prop :=
  m.Lawful a m' ∧ m.Step cfg compile a m'

theorem lawful_run [Ogslib] (cfg : PgwConfig) (compile : CString → Option PgwRule)
    (maxNumOfFlow : Nat) (arrays : List (List PgwUeIp))
    (tr : List (Event maxNumOfFlow × PgwExchange)) :
    Lts.Trace (LawfulStep cfg compile) (initial arrays) tr ↔
      Lts.Trace (Lts.Restrict RightBearer (Step cfg compile)) (initial arrays) tr := by
  apply Lts.Trace.congr (J := fun _ => True)
  · exact fun _ _ _ _ _ => trivial
  · intro m a m' _
    apply and_congr_left
    exact fun hstep => lawful_iff hstep
  · trivial

end PgwExchange

/-! ## Both gateways -/

/-- In every run of the SGW and of the PGW all steps by Create Bearer Responses are lawful if and
only if the responses have TEIDs of bearers of their own UE or session that requests wait for. -/
theorem bearerResponse_run [Ogslib] (location : SgwBearerId → SgwLocation) (cfg : PgwConfig)
    (compile : CString → Option PgwRule) (maxNumOfFlow : Nat) (arrays : List (List PgwUeIp)) :
    (∀ tr : List (SgwExchange.Event × SgwExchange),
      Lts.Trace SgwExchange.LawfulStep (SgwExchange.initial location) tr ↔
        Lts.Trace (Lts.Restrict SgwExchange.RightBearer SgwExchange.Step)
          (SgwExchange.initial location) tr) ∧
    ∀ tr : List (PgwExchange.Event maxNumOfFlow × PgwExchange),
      Lts.Trace (PgwExchange.LawfulStep cfg compile) (PgwExchange.initial arrays) tr ↔
        Lts.Trace (Lts.Restrict PgwExchange.RightBearer (PgwExchange.Step cfg compile))
          (PgwExchange.initial arrays) tr :=
  ⟨SgwExchange.lawful_run location, PgwExchange.lawful_run cfg compile maxNumOfFlow arrays⟩

namespace SgwExchange
variable {m m' : SgwExchange}

/-- The state after an event, if it can happen. -/
def next (m : SgwExchange) (xid : UInt32) (op : SgwContext.Op) : Option SgwExchange :=
  if isBearerResponse op = false ∧ (∀ ue ∈ op.sgwUe, m.ctx.ues.live ue = true) ∧
      ∀ σ ∈ op.sess, m.ctx.sesss.live σ = true then
    (m.ctx.apply op).map fun (t, _) =>
      ⟨t, m.location, forget t.bearers.live (m.requests ++ passedOn m.ctx xid op)⟩
  else none

/-- The state after some events, with the numbers for requests. -/
def run (m : SgwExchange) (events : List (UInt32 × SgwContext.Op)) : Option SgwExchange :=
  events.foldlM (fun m e => m.next e.1 e.2) m

theorem reaches_run {events : List (UInt32 × SgwContext.Op)}
    (h : (m.run events).isSome = true) : Lts.Reaches Step m ((m.run events).getD m) := by
  obtain ⟨m', hm'⟩ := Option.isSome_iff_exists.mp h
  rw [hm']
  apply Lts.reaches_of_foldlM _ hm'
  intro u e v hv
  rw [next, Option.ite_none_right_eq_some, Option.map_eq_some_iff] at hv
  obtain ⟨⟨hop, hue, hsess⟩, ⟨t, out⟩, happly, rfl⟩ := hv
  exact ⟨_, Step.event hop ⟨hue, hsess, happly⟩⟩

def nowhere : SgwLocation := ⟨⟨[0, 0, 0], 0⟩, ⟨[0, 0, 0], 0⟩⟩

/-- A UE attaches and gets a session, in slots with its number. -/
def attach (ue : Nat) : List (UInt32 × SgwContext.Op) :=
  [(0, .ueAdd ue [1] 7),
    (0, .createSessionRequest ue ue (2 * ue - 1) (2 * ue) ue (some 5) (some [1]) (some 9) (some 8)
      true)]

/-- Two UEs attach, and a bearer for each is requested. -/
def twoRequests : SgwExchange :=
  ((initial fun _ => nowhere).run (attach 1 ++ attach 2 ++
    [(1, .createBearerRequest 3 5 6 1 true (some ⟨31, 8⟩)),
      (2, .createBearerRequest 4 7 8 2 true (some ⟨32, 8⟩))])).getD (initial fun _ => nowhere)

theorem reaches_twoRequests : Lts.Reaches Step (initial fun _ => nowhere) twoRequests :=
  reaches_run (by decide)

/-- The response to the first request, with the TEID of the bearer of the other UE. -/
def crossed : SgwBearerResponse := ⟨some 7, some 6, some ⟨41, 9⟩, some nowhere⟩

theorem step_crossed : Step twoRequests (.response 1 1 crossed)
    ⟨twoRequests.ctx.next (crossed.op 1), twoRequests.located crossed,
      answer twoRequests.requests (some 7) 1⟩ := by
  apply Step.response
  · decide
  · apply SgwContext.step_next (by decide)
    · rintro ue ⟨⟩
      decide
    · rintro σ ⟨⟩

end SgwExchange

namespace PgwExchange
variable {cfg : PgwConfig} {compile : CString → Option PgwRule} {maxNumOfFlow : Nat}
  {m m' : PgwExchange}

/-- The state after an event, if it can happen. -/
def next [Ogslib] (cfg : PgwConfig) (compile : CString → Option PgwRule) (m : PgwExchange)
    (xid : UInt32) (op : PgwContext.Op maxNumOfFlow) : Option PgwExchange :=
  if isBearerResponse op = false then
    (m.ctx.apply cfg compile op).map fun (t, out) =>
      ⟨t, forget t.bearers.live (m.requests ++ sent m.ctx xid out op)⟩
  else none

/-- The state after some events, with the numbers for requests. -/
def run [Ogslib] (cfg : PgwConfig) (compile : CString → Option PgwRule) (m : PgwExchange)
    (events : List (UInt32 × PgwContext.Op maxNumOfFlow)) : Option PgwExchange :=
  events.foldlM (fun m e => m.next cfg compile e.1 e.2) m

theorem reaches_run [Ogslib] {events : List (UInt32 × PgwContext.Op maxNumOfFlow)}
    (h : (m.run cfg compile events).isSome = true) :
    Lts.Reaches (@Step maxNumOfFlow _ cfg compile) m ((m.run cfg compile events).getD m) := by
  obtain ⟨m', hm'⟩ := Option.isSome_iff_exists.mp h
  rw [hm']
  apply Lts.reaches_of_foldlM _ hm'
  intro u e v hv
  rw [next, Option.ite_none_right_eq_some, Option.map_eq_some_iff] at hv
  obtain ⟨hop, ⟨t, out⟩, happly, rfl⟩ := hv
  exact ⟨_, Step.event hop happly⟩

attribute [local instance] Ogslib.reference

/-- Two sessions, and a bearer for each is requested. -/
def twoRequests : PgwExchange :=
  ((initial PgwContext.coincidingArrays).run PgwContext.coincidingSubnets
    (fun _ => some PgwContext.anyPacket)
    [(0, .createSessionRequest 1 1 [] [] Pgw.pdnTypeIpv4 5 0 0 7 none),
      (0, .createSessionRequest 2 2 [] [] Pgw.pdnTypeIpv6 5 0 0 7 none),
      (1, .pccRule 1 PgwContext.anyPacketRule 3 [0]),
      (2, .pccRule 2 PgwContext.anyPacketRule 4 [1])]).getD
    (initial PgwContext.coincidingArrays)

theorem reaches_twoRequests :
    Lts.Reaches (@Step 1 _ PgwContext.coincidingSubnets fun _ => some PgwContext.anyPacket)
      (initial PgwContext.coincidingArrays) twoRequests :=
  reaches_run (by decide)

/-- The response to the first request, with the TEID of the bearer of the other session. -/
def crossed : PgwBearerResponse := ⟨4, 6, 41, 9⟩

/-- The context after it. -/
def afterCrossed : PgwContext :=
  twoRequests.ctx.setBearer 4 fun m => { m with ebi := 6, sgwS5uTeid := 41, gnode := some 9 }

theorem step_crossed : Step PgwContext.coincidingSubnets
    (fun _ => some PgwContext.anyPacket) twoRequests
    (.response 1 1 (some crossed) : Event 1)
    ⟨afterCrossed, answer twoRequests.requests (some 7) 1⟩ :=
  Step.response (by decide) rfl

end PgwExchange

attribute [local instance] Ogslib.reference in
/-- The bearer of another UE or session gets the EBI. -/
theorem bearerResponse_crossed :
    (¬∀ location m, Lts.Reaches SgwExchange.Step (SgwExchange.initial location) m →
      ∀ a m', m.Step a m' → m.Lawful a m') ∧
    ¬∀ (cfg : PgwConfig) (compile : CString → Option PgwRule) (arrays : List (List PgwUeIp)),
      pgwUePoolGenerate cfg = .ok arrays → ∀ m,
        Lts.Reaches (@PgwExchange.Step 1 _ cfg compile) (PgwExchange.initial arrays) m →
          ∀ (a : PgwExchange.Event 1) m', m.Step cfg compile a m' → m.Lawful a m' := by
  constructor
  · intro hclaim
    have hlawful := hclaim _ _ SgwExchange.reaches_twoRequests _ _ SgwExchange.step_crossed
    have hsame := (hlawful.1.bearers 4 (by decide) (by decide)).1
    exact absurd (congrArg SgwBearerRecord.ebi hsame) (by decide)
  · intro hclaim
    have hlawful := hclaim _ _ _ PgwContext.pgwUePoolGenerate_coinciding _
      PgwExchange.reaches_twoRequests _ _ PgwExchange.step_crossed
    have hsame := hlawful.1 4 (by decide) (by decide)
    exact absurd (congrArg PgwBearerRecord.ebi hsame) (by decide)

end NextEpc
