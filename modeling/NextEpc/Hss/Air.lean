import NextEpc.Lib.Serial
import NextEpc.Lib.Trace
import NextEpc.Mme.Context

/-!
# Authentication-Information-Requests

`hss_ogs_diam_s6a_air_cb` of `hss-fd-path.c` with the database functions of `hss-context.c`. Each
request has a thread of its own. The thread reads the subscriber's authentication data, writes
RAND and SQN back, increments the SQN and answers. It holds the lock of the database in each of
the three calls but not in between, and not when it answers.
-/

namespace NextEpc

abbrev Octets6 := Vector UInt8 6

abbrev Octets8 := Vector UInt8 8

/-! ## Code outside the repository -/

/-- What `milenage_generate` returns. -/
structure MilenageVector where
  autn : Octets16
  ik : Octets16
  ck : Octets16
  ak : Octets6
  xres : Octets8
  deriving DecidableEq, Repr

/-- The MILENAGE functions. -/
class Milenage where
  /-- `milenage_opc(k, op, opc)` -/
  opc : Octets16 → Octets16 → Octets16
  /-- `milenage_f1(opc, k, rand, sqn, amf, NULL, mac_s)` -/
  f1 : Octets16 → Octets16 → Octets16 → Octets6 → Vector UInt8 2 → Octets8
  /-- `milenage_f2345(opc, k, rand, NULL, NULL, NULL, NULL, akstar)` -/
  f2345 : Octets16 → Octets16 → Octets16 → Octets6
  /-- `milenage_generate(opc, amf, k, sqn, rand, autn, ik, ck, ak, res, res_len)` -/
  generate : Octets16 → Vector UInt8 2 → Octets16 → Octets6 → Octets16 → MilenageVector

/-- Functions that depend on the key, RAND and SQN, for runs on concrete inputs. -/
@[reducible] def Milenage.reference : Milenage where
  opc k op := Vector.zipWith (fun a b => a ^^^ b) k op
  f1 _ k rand sqn _ := Vector.ofFn fun i =>
    sqn.toList.getD i 0 ^^^ k.toList.getD i 0 ^^^ rand.toList.getD i 0
  f2345 _ k rand := Vector.ofFn fun i => k.toList.getD i 0 ^^^ rand.toList.getD i 0
  generate _ _ k sqn rand :=
    { autn := Vector.ofFn fun i =>
        sqn.toList.getD i 0 ^^^ k.toList.getD i 0 ^^^ rand.toList.getD i 0
      ik := k
      ck := rand
      ak := Vector.ofFn fun i => k.toList.getD i 0 ^^^ rand.toList.getD i 0
      xres := Vector.ofFn fun i => k.toList.getD i 0 ^^^ rand.toList.getD i 0 }

/-! ## Data -/

/-- `hss_db_auth_info_t`, as `security` in the document of the subscriber. -/
structure HssDbAuthInfo where
  k : Octets16
  useOpc : Bool
  opc : Octets16
  op : Octets16
  amf : Vector UInt8 2
  rand : Octets16
  sqn : UInt64
  deriving DecidableEq, Repr

/-- Re-Synchronization-Info: RAND and AUTS. -/
structure ReSynchronizationInfo where
  rand : Octets16
  concSqnMs : Octets6
  macS : Octets8
  deriving DecidableEq, Repr

/-- What the handler reads of a request. -/
structure AirRequest where
  reSynchronizationInfo : Option ReSynchronizationInfo
  visitedPlmnId : Vector UInt8 3
  deriving DecidableEq, Repr

/-- E-UTRAN-Vector -/
structure HssEUtranVector where
  rand : Octets16
  xres : Octets8
  autn : Octets16
  kasme : Octets32
  deriving DecidableEq, Repr

/-- `HSS_MAX_SQN` -/
def hssMaxSqn : UInt64 := 0x7ffffffffff

section
variable [Milenage]

/-- `hss_auc_sqn`: SQN_MS without its concealment, and MAC-S over it. -/
def hssAucSqn (opc k : Octets16) (auts : ReSynchronizationInfo) : Octets6 × Octets8 :=
  let ak := Milenage.f2345 opc k auts.rand
  let sqnMs := Vector.zipWith (fun a b => a ^^^ b) ak auts.concSqnMs
  (sqnMs, Milenage.f1 opc k auts.rand sqnMs (Vector.replicate 2 0))

/-- `hss_auc_kasme` -/
def hssAucKasme [OgsCrypt] (ck ik : Octets16) (plmnId : Vector UInt8 3) (sqn ak : Octets6) :
    Octets32 :=
  let s := [0x10] ++ plmnId.toList ++ [0x00, 0x03] ++
    (Vector.zipWith (fun a b => a ^^^ b) sqn ak).toList ++ [0x00, 0x06]
  OgsCrypt.hmacSha256 (ck ++ ik : Vector UInt8 (16 + 16)) s

namespace HssDbAuthInfo

/-- The `opc` of the handler. -/
def milenageOpc (info : HssDbAuthInfo) : Octets16 :=
  if info.useOpc then info.opc else Milenage.opc info.k info.op

/-- SQN_MS of a request for this subscriber. -/
def sqnMs (info : HssDbAuthInfo) (request : AirRequest) : Option Octets6 :=
  request.reSynchronizationInfo.map fun auts => (hssAucSqn info.milenageOpc info.k auts).1

/-- A RAND for a subscriber that has none yet. -/
def withRand (info : HssDbAuthInfo) (random : Octets16) : HssDbAuthInfo :=
  if info.rand = Vector.replicate 16 0 then { info with rand := random } else info

/-- The SQN is set by a Re-Synchronization-Info whose MAC-S is right. -/
def resynchronize [OgsConv] (info : HssDbAuthInfo) (request : AirRequest) (random : Octets16) :
    Option HssDbAuthInfo :=
  match request.reSynchronizationInfo with
  | none => some info
  | some auts =>
    if (hssAucSqn info.milenageOpc info.k auts).2 = auts.macS then
      -- 33.102 C.3.4 Guide : IND + 1
      some { info with
        rand := random
        sqn := (OgsConv.bufferToUint64 (hssAucSqn info.milenageOpc info.k auts).1.toList + 32 + 1)
          &&& hssMaxSqn }
    else none

/-- The handler between `hss_db_auth_info` and `hss_db_update_rand_and_sqn`. `random` and
`random'` are the results of its two calls of `ogs_random`. -/
def prepare [OgsConv] (info : HssDbAuthInfo) (request : AirRequest) (random random' : Octets16) :
    Option HssDbAuthInfo :=
  (info.withRand random).resynchronize request random'

/-- `hss_db_update_rand_and_sqn` -/
def updateRandAndSqn (db : HssDbAuthInfo) (rand : Octets16) (sqn : UInt64) : HssDbAuthInfo :=
  { db with rand := rand, sqn := sqn }

/-- The first update of `hss_db_increment_sqn`. -/
def incSqn (db : HssDbAuthInfo) : HssDbAuthInfo := { db with sqn := db.sqn + 32 }

/-- The second update of `hss_db_increment_sqn`. -/
def bitSqn (db : HssDbAuthInfo) : HssDbAuthInfo := { db with sqn := db.sqn &&& hssMaxSqn }

end HssDbAuthInfo

/-! ## Handlers -/

/-- How far a handler is: which of the database calls have returned, and its `auth_info`. -/
inductive AirPhase
  | received
  | read (info : HssDbAuthInfo)
  | updated (info : HssDbAuthInfo)
  | incremented (info : HssDbAuthInfo)
  deriving DecidableEq, Repr

structure AirHandler where
  request : AirRequest
  phase : AirPhase
  deriving DecidableEq, Repr

/-- An answer with a vector: the request, and the `auth_info` that the vector is made from. -/
structure AirAnswer where
  request : AirRequest
  info : HssDbAuthInfo
  deriving DecidableEq, Repr

namespace AirAnswer

/-- The SQN of the vector. -/
def sqn [OgsConv] (a : AirAnswer) : Octets6 := OgsConv.uint64ToBuffer a.info.sqn 6

/-- The SQN_MS that the vector is meant to follow. -/
def sqnMs (a : AirAnswer) : Option Octets6 := a.info.sqnMs a.request

/-- `hss_ogs_diam_s6a_air_cb` after the database: what the answer carries. -/
def vector [OgsConv] [OgsCrypt] (a : AirAnswer) : HssEUtranVector :=
  let v := Milenage.generate a.info.milenageOpc a.info.amf a.info.k a.sqn a.info.rand
  { rand := a.info.rand
    xres := v.xres
    autn := v.autn
    kasme := hssAucKasme v.ck v.ik a.request.visitedPlmnId a.sqn v.ak }

end AirAnswer
end

/-- One subscriber: the stored data, the handlers at work and the vectors returned so far, the
newest first. -/
structure HssAir where
  db : HssDbAuthInfo
  handlers : Nat → Option AirHandler
  answers : List AirAnswer

namespace HssAir

def initial (db : HssDbAuthInfo) : HssAir := ⟨db, fun _ => none, []⟩

def setHandler (s : HssAir) (i : Nat) (h : Option AirHandler) : HssAir :=
  { s with handlers := Function.update s.handlers i h }

def setDb (s : HssAir) (db : HssDbAuthInfo) : HssAir := { s with db := db }

def answer (s : HssAir) (a : AirAnswer) : HssAir := { s with answers := a :: s.answers }

section
variable {s : HssAir} {i j : Nat} {h : Option AirHandler} {db : HssDbAuthInfo} {a : AirAnswer}

@[simp] theorem handlers_setHandler :
    (s.setHandler i h).handlers = Function.update s.handlers i h := rfl

@[simp] theorem db_setHandler : (s.setHandler i h).db = s.db := rfl

@[simp] theorem answers_setHandler : (s.setHandler i h).answers = s.answers := rfl

@[simp] theorem handlers_setDb : (s.setDb db).handlers = s.handlers := rfl

@[simp] theorem db_setDb : (s.setDb db).db = db := rfl

@[simp] theorem answers_setDb : (s.setDb db).answers = s.answers := rfl

@[simp] theorem handlers_answer : (s.answer a).handlers = s.handlers := rfl

@[simp] theorem db_answer : (s.answer a).db = s.db := rfl

@[simp] theorem answers_answer : (s.answer a).answers = a :: s.answers := rfl

end

inductive Op
  | receive (i : Nat) (request : AirRequest)
  | dbAuthInfo (i : Nat) (random random' : Octets16)
  | dbUpdateRandAndSqn (i : Nat)
  | dbIncrementSqn (i : Nat)
  | answer (i : Nat)
  deriving DecidableEq

variable [OgsConv] [Milenage]

/-- A request comes in, or a handler makes its next call of the database or sends its answer. Each
call may fail, an update also after it was made. -/
inductive Step : HssAir → Op → HssAir → Prop
  | receive {s : HssAir} {i : Nat} {request : AirRequest} : s.handlers i = none →
      Step s (.receive i request) (s.setHandler i (some ⟨request, .received⟩))
  | unknown {s : HssAir} {i : Nat} {request : AirRequest} {random random' : Octets16} :
      s.handlers i = some ⟨request, .received⟩ →
      Step s (.dbAuthInfo i random random') (s.setHandler i none)
  | read {s : HssAir} {i : Nat} {request : AirRequest} {random random' : Octets16}
      {info : HssDbAuthInfo} : s.handlers i = some ⟨request, .received⟩ →
      s.db.prepare request random random' = some info →
      Step s (.dbAuthInfo i random random') (s.setHandler i (some ⟨request, .read info⟩))
  | macFailed {s : HssAir} {i : Nat} {request : AirRequest} {random random' : Octets16} :
      s.handlers i = some ⟨request, .received⟩ → s.db.prepare request random random' = none →
      Step s (.dbAuthInfo i random random') (s.setHandler i none)
  | update {s : HssAir} {i : Nat} {request : AirRequest} {info : HssDbAuthInfo} :
      s.handlers i = some ⟨request, .read info⟩ →
      Step s (.dbUpdateRandAndSqn i) ((s.setDb (s.db.updateRandAndSqn info.rand info.sqn)).setHandler
        i (some ⟨request, .updated info⟩))
  | updateFailed {s : HssAir} {i : Nat} {request : AirRequest} {info : HssDbAuthInfo} :
      s.handlers i = some ⟨request, .read info⟩ →
      Step s (.dbUpdateRandAndSqn i) (s.setHandler i none)
  | updateLost {s : HssAir} {i : Nat} {request : AirRequest} {info : HssDbAuthInfo} :
      s.handlers i = some ⟨request, .read info⟩ →
      Step s (.dbUpdateRandAndSqn i) ((s.setDb (s.db.updateRandAndSqn info.rand info.sqn)).setHandler
        i none)
  | increment {s : HssAir} {i : Nat} {request : AirRequest} {info : HssDbAuthInfo} :
      s.handlers i = some ⟨request, .updated info⟩ →
      Step s (.dbIncrementSqn i)
        ((s.setDb s.db.incSqn.bitSqn).setHandler i (some ⟨request, .incremented info⟩))
  | incFailed {s : HssAir} {i : Nat} {request : AirRequest} {info : HssDbAuthInfo} :
      s.handlers i = some ⟨request, .updated info⟩ →
      Step s (.dbIncrementSqn i) (s.setHandler i none)
  | bitFailed {s : HssAir} {i : Nat} {request : AirRequest} {info : HssDbAuthInfo} :
      s.handlers i = some ⟨request, .updated info⟩ →
      Step s (.dbIncrementSqn i) ((s.setDb s.db.incSqn).setHandler i none)
  | incrementLost {s : HssAir} {i : Nat} {request : AirRequest} {info : HssDbAuthInfo} :
      s.handlers i = some ⟨request, .updated info⟩ →
      Step s (.dbIncrementSqn i) ((s.setDb s.db.incSqn.bitSqn).setHandler i none)
  | answer {s : HssAir} {i : Nat} {request : AirRequest} {info : HssDbAuthInfo} :
      s.handlers i = some ⟨request, .incremented info⟩ →
      Step s (.answer i) ((s.setHandler i none).answer ⟨request, info⟩)

end HssAir
end NextEpc
