import NextEpc.Gx.ChargingRule
import NextEpc.Lib.KeyTable
import NextEpc.Lib.Trace

/-!
# Sessions and their addresses

`ip_hash` leads from an address to the Session-Id of a Gx session. Its keys stay in the states of
the sessions, which Credit-Control-Requests overwrite and cleaning up frees.
-/

namespace NextEpc

inductive IpFamily
  | ipv4
  | ipv6
  deriving DecidableEq

/-- The length of a key -/
def IpFamily.len : IpFamily → Nat
  | .ipv4 => 4
  | .ipv6 => 16

/-- An address, with the family that gives its length. -/
abbrev FramedIp := IpFamily × Bytes

/-- `&sess_data->addr` or `sess_data->addr6` -/
abbrev IpPlace := CString × IpFamily

/-- The addresses of a Gx session, and the flags `ipv4` and `ipv6` -/
structure GxAddress where
  addr : IpFamily → Bytes
  present : IpFamily → Bool

/-- What is in the memory of the states, which of them there are, and `ip_hash` -/
structure AddressContext (η : Type) where
  mem : CString → GxAddress
  live : CString → Bool
  ipHash : List (KeyTable.Entry η IpPlace CString)

inductive AddressEvent
  | ccrInitial (sid : CString) (ipv4 ipv6 : Option Bytes)
  | ccrUpdate (sid : CString) (ipv4 ipv6 : Option Bytes)
  | ccrTerminate (sid : CString) (ipv4 ipv6 : Option Bytes)
  | cleanup (sid : CString)
  -- the memory of a state that was freed is used for something else
  | reuse (sid : CString) (other : GxAddress)

/-- The PCRF, and the session that was the last one to report an address -/
structure AddressRun (η : Type) where
  context : AddressContext η
  latest : FramedIp → Option CString

namespace Pcrf
variable {η : Type} [DecidableEq η] [KeyTable.HashTable η]

/-! ## The hash table -/

/-- The key that is in a place at the moment -/
def keyAt (mem : CString → GxAddress) (place : IpPlace) : FramedIp :=
  (place.2, (mem place.1).addr place.2)

/-- `pcrf_sess_set_ipv4` and `pcrf_sess_set_ipv6`. The address of no session is removed. -/
def sessSetIp (hash : FramedIp → η) (p : AddressContext η) (place : IpPlace) :
    Option CString → AddressContext η
  | some sid => { p with ipHash := KeyTable.set (keyAt p.mem) hash p.ipHash place sid }
  | none => { p with ipHash := KeyTable.unset (keyAt p.mem) hash p.ipHash (keyAt p.mem place) }

/-- `pcrf_sess_find_by_ipv4` and `pcrf_sess_find_by_ipv6` -/
def sessFindByIp (hash : FramedIp → η) (p : AddressContext η) (ip : FramedIp) : Option CString :=
  KeyTable.get (keyAt p.mem) hash p.ipHash ip

/-! ## The states of the sessions -/

def newAddress (p : AddressContext η) (sid : CString) : AddressContext η :=
  { p with
    mem := Function.update p.mem sid ⟨fun family => List.replicate family.len 0, fun _ => false⟩
    live := Function.update p.live sid true }

/-- A state with another address in it -/
def writeIp (g : GxAddress) (ip : FramedIp) : GxAddress :=
  ⟨Function.update g.addr ip.1 ip.2, Function.update g.present ip.1 true⟩

/-- `pcrf_gx_ccr_cb` for a Framed-IP-Address or a Framed-IPv6-Prefix -/
def framedIp (hash : FramedIp → η) (sid : CString) (p : AddressContext η) (ip : FramedIp) :
    AddressContext η :=
  let p := { p with mem := Function.update p.mem sid (writeIp (p.mem sid) ip) }
  sessSetIp hash p (sid, ip.1) (some sid)

def dropIp (hash : FramedIp → η) (sid : CString) (p : AddressContext η) (family : IpFamily) :
    AddressContext η :=
  if (p.mem sid).present family then sessSetIp hash p (sid, family) none else p

def addressCleanup (hash : FramedIp → η) (p : AddressContext η) (sid : CString) :
    AddressContext η :=
  let p := dropIp hash sid (dropIp hash sid p .ipv4) .ipv6
  { p with live := Function.update p.live sid false }

/-- The addresses that are in a request, in the order in which they are read -/
def framedIps (ipv4 ipv6 : Option Bytes) : List FramedIp :=
  (ipv4.map fun addr => (IpFamily.ipv4, addr)).toList ++
    (ipv6.map fun addr => (IpFamily.ipv6, addr)).toList

def framedAll (hash : FramedIp → η) (sid : CString) (p : AddressContext η)
    (ips : List FramedIp) : AddressContext η :=
  ips.foldl (framedIp hash sid) p

/-- `pcrf_gx_ccr_cb` and `state_cleanup`. A prefix that has not 128 bits is not among the events:
it fails an assertion. -/
def addressCb (hash : FramedIp → η) (p : AddressContext η) : AddressEvent → AddressContext η
  | .ccrInitial sid ipv4 ipv6 =>
    framedAll hash sid (if p.live sid then p else newAddress p sid) (framedIps ipv4 ipv6)
  | .ccrUpdate sid ipv4 ipv6 =>
    if p.live sid then framedAll hash sid p (framedIps ipv4 ipv6) else p
  | .ccrTerminate sid ipv4 ipv6 =>
    if p.live sid then addressCleanup hash (framedAll hash sid p (framedIps ipv4 ipv6)) sid else p
  | .cleanup sid => if p.live sid then addressCleanup hash p sid else p
  | .reuse sid other =>
    if p.live sid then p else { p with mem := Function.update p.mem sid other }

/-! ## What is reported -/

/-- A session reports its addresses. -/
def report (sid : CString) (latest : FramedIp → Option CString) (ips : List FramedIp) :
    FramedIp → Option CString :=
  ips.foldl (fun latest ip => Function.update latest ip (some sid)) latest

def reported (p : AddressContext η) (latest : FramedIp → Option CString) :
    AddressEvent → FramedIp → Option CString
  | .ccrInitial sid ipv4 ipv6 => report sid latest (framedIps ipv4 ipv6)
  | .ccrUpdate sid ipv4 ipv6 | .ccrTerminate sid ipv4 ipv6 =>
    if p.live sid then report sid latest (framedIps ipv4 ipv6) else latest
  | _ => latest

def addressNext (hash : FramedIp → η) (s : AddressRun η) (event : AddressEvent) :
    AddressRun η :=
  ⟨addressCb hash s.context event, reported s.context s.latest event⟩

/-- There are no sessions at the start. -/
def addressStart (η : Type) (mem : CString → GxAddress) : AddressRun η :=
  ⟨⟨mem, fun _ => false, []⟩, fun _ => none⟩

/-- A live session has an address. -/
def HoldsIp (p : AddressContext η) (sid : CString) (ip : FramedIp) : Prop :=
  p.live sid = true ∧ (p.mem sid).present ip.1 = true ∧ (p.mem sid).addr ip.1 = ip.2

instance (p : AddressContext η) (sid : CString) (ip : FramedIp) : Decidable (HoldsIp p sid ip) :=
  inferInstanceAs (Decidable (_ ∧ _))

/-- What is claimed of the table. -/
def FindsLatest (hash : FramedIp → η) (s : AddressRun η) : Prop :=
  ∀ ip sid, sessFindByIp hash s.context ip = some sid ↔
    s.latest ip = some sid ∧ HoldsIp s.context sid ip

/-! ## The condition -/

section
variable (hash : FramedIp → η) (p : AddressContext η) (sid : CString)

/-- A session may report another address than its own, if the entry for the old one was made for
its place if and only if it leads to it, and no entry that was made for its place comes back while
there is one for the new address. -/
def Reportable (ip : FramedIp) : Prop :=
  (p.mem sid).present ip.1 = true → (p.mem sid).addr ip.1 ≠ ip.2 →
    (∀ e ∈ p.ipHash, e.matches (keyAt p.mem) hash (keyAt p.mem (sid, ip.1)) = true →
      (e.key = (sid, ip.1) ↔ e.val = sid)) ∧
    ∀ e ∈ p.ipHash, e.key = (sid, ip.1) → e.hash = hash ip →
      ∀ e' ∈ p.ipHash, e'.matches (keyAt p.mem) hash ip ≠ true

def ReportableAll : AddressContext η → List FramedIp → Prop
  | _, [] => True
  | p, ip :: ips => Reportable hash p sid ip ∧ ReportableAll (framedIp hash sid p ip) ips

/-- A session may end, if its addresses lead to no other session, and the entries for its places
are those for the addresses that it has. -/
def Endable : Prop :=
  ∀ family, (p.mem sid).present family = true →
    (∀ sid', sessFindByIp hash p (keyAt p.mem (sid, family)) = some sid' → sid' = sid) ∧
    ∀ e ∈ p.ipHash, e.key = (sid, family) → e.Active (keyAt p.mem) hash

end

def AddressAllowed (hash : FramedIp → η) (p : AddressContext η) : AddressEvent → Prop
  | .ccrInitial sid ipv4 ipv6 =>
      ReportableAll hash sid (if p.live sid then p else newAddress p sid) (framedIps ipv4 ipv6)
  | .ccrUpdate sid ipv4 ipv6 => p.live sid = true → ReportableAll hash sid p (framedIps ipv4 ipv6)
  | .ccrTerminate sid ipv4 ipv6 => p.live sid = true →
      ReportableAll hash sid p (framedIps ipv4 ipv6) ∧
        Endable hash (framedAll hash sid p (framedIps ipv4 ipv6)) sid
  | .cleanup sid => p.live sid = true → Endable hash p sid
  | .reuse _ _ => True

end Pcrf

end NextEpc
