import NextEpc.Lib.Extent
import NextEpc.Lib.Fallible
import NextEpc.Lib.Octets

/-!
# Protocol configuration options

`pgw_pco_build` answers the containers of a request with entries of an array of fixed length. An
entry holds a pointer to a local variable, so that what it says is what the variable holds when
the response is encoded. The array, the parser and the encoder belong to the core library; a
request stands for what the parser has made of it.
-/

namespace NextEpc

/-- The places of the assertions. -/
inductive PcoSite
  | parse
  deriving DecidableEq, Repr

abbrev PcoM := Fallible PcoSite

/-- `OGS_PCO_ID_CHALLENGE_HANDSHAKE_AUTHENTICATION_PROTOCOL` -/
def pcoIdChap : UInt16 := 0xc223

/-- `OGS_PCO_ID_INTERNET_PROTOCOL_CONTROL_PROTOCOL` -/
def pcoIdIpcp : UInt16 := 0x8021

/-- `OGS_PCO_ID_DNS_SERVER_IPV4_ADDRESS_REQUEST` -/
def pcoIdDnsIpv4 : UInt16 := 0x000d

/-- `OGS_PCO_ID_DNS_SERVER_IPV6_ADDRESS_REQUEST` -/
def pcoIdDnsIpv6 : UInt16 := 0x0003

/-- `OGS_PCO_ID_P_CSCF_IPV4_ADDRESS_REQUEST` -/
def pcoIdPCscfIpv4 : UInt16 := 0x000c

/-- `OGS_PCO_ID_P_CSCF_IPV6_ADDRESS_REQUEST` -/
def pcoIdPCscfIpv6 : UInt16 := 0x0001

/-- A container that was received. -/
structure PcoId where
  id : UInt16
  data : Bytes
  deriving DecidableEq

/-- `ogs_pco_t` as it is received -/
structure Pco where
  ext : Bool
  configurationProtocol : UInt8
  ids : List PcoId
  deriving DecidableEq

/-- Addresses that are given out in turn. -/
structure AddrRing (α : Type) where
  addrs : List α
  index : Nat
  index_lt : addrs ≠ [] → index < addrs.length

namespace AddrRing
variable {α : Type} (ring : AddrRing α)

/-- The address whose turn it is. -/
def current : Option α := ring.addrs[ring.index]?

def next : AddrRing α where
  addrs := ring.addrs
  index := if ring.addrs.isEmpty then ring.index else (ring.index + 1) % ring.addrs.length
  index_lt h := by
    rw [if_neg (by simpa using h)]
    exact Nat.mod_lt _ (List.length_pos_iff.mpr h)

/-- The addresses that are given out to `n` requests. -/
def turns (ring : AddrRing α) : Nat → List α
  | 0 => []
  | n + 1 => ring.current.toList ++ ring.next.turns n

end AddrRing

/-- The part of `pgw_self()` that is configured for PCO. -/
structure PgwPcoConfig where
  dns : Option Octets4 × Option Octets4
  dns6 : Option (Vector UInt8 16) × Option (Vector UInt8 16)
  pCscf : AddrRing Octets4
  pCscf6 : AddrRing (Vector UInt8 16)

/-- The variables that the entries of the response point to. -/
inductive PcoBuffer
  | success
  | pcoIpcp
  | dnsPrimary
  | dnsSecondary
  | dns6Primary
  | dns6Secondary
  | pCscf
  | pCscf6
  deriving DecidableEq, Repr

/-- An entry of the array of the response. -/
structure PcoEntry where
  id : UInt16
  len : Nat
  data : PcoBuffer
  deriving DecidableEq

/-- The state of `pgw_pco_build`: the array, the local variables and `pgw_self()`. -/
structure PcoState where
  ids : List PcoEntry
  mem : PcoBuffer → Bytes
  self : PgwPcoConfig

/-- `"\x03\x00\x00\x04"` -/
def chapSuccess : Bytes := [3, 0, 0, 4]

/-- An option of `ogs_pco_ipcp_t`, which is zero without an address. -/
def ipcpOption (type : UInt8) (addr : Option Octets4) : Bytes :=
  match addr with
  | some addr => [type, 6] ++ addr.toList
  | none => List.replicate 6 0

/-- The Configuration Ack in `pco_ipcp` -/
def PgwPcoConfig.ipcp (self : PgwPcoConfig) : Bytes :=
  [2, 0, 0, 16] ++ ipcpOption 129 self.dns.1 ++ ipcpOption 131 self.dns.2

/-- `data[0]` -/
def firstOctet : Bytes → PcoM UInt8
  | [] => .error .outOfBounds
  | octet :: _ => .ok octet

namespace PcoState
variable (capacity : Nat) (s : PcoState)

/-- A variable is filled. -/
def fill (buffer : PcoBuffer) (value : Option Bytes) : PcoState :=
  match value with
  | some value => { s with mem := Function.update s.mem buffer value }
  | none => s

/-- A variable is filled, and the next entry of the array points to it. -/
def push (id : UInt16) (len : Nat) (buffer : PcoBuffer) (value : Option Bytes) : PcoM PcoState :=
  match value with
  | some value =>
    if s.ids.length < capacity then
      .ok { s.fill buffer (some value) with ids := s.ids ++ [⟨id, len, buffer⟩] }
    else .error .outOfBounds
  | none => .ok s

/-- One round of the loop over the containers. -/
def serve (r : PcoId) : PcoM PcoState :=
  if r.id = pcoIdChap then do
    let code ← firstOctet r.data
    if code = 2 then s.push capacity r.id 4 .success (some chapSuccess) else .ok s
  else if r.id = pcoIdIpcp then do
    let code ← firstOctet r.data
    if code = 1 then
      let s := s.fill .dnsPrimary (s.self.dns.1.map Vector.toList)
      let s := s.fill .dnsSecondary (s.self.dns.2.map Vector.toList)
      s.push capacity r.id 16 .pcoIpcp (some s.self.ipcp)
    else .ok s
  else if r.id = pcoIdDnsIpv4 then do
    let s ← s.push capacity r.id 4 .dnsPrimary (s.self.dns.1.map Vector.toList)
    s.push capacity r.id 4 .dnsSecondary (s.self.dns.2.map Vector.toList)
  else if r.id = pcoIdDnsIpv6 then do
    let s ← s.push capacity r.id 16 .dns6Primary (s.self.dns6.1.map Vector.toList)
    s.push capacity r.id 16 .dns6Secondary (s.self.dns6.2.map Vector.toList)
  else if r.id = pcoIdPCscfIpv4 then do
    let s ← s.push capacity r.id 4 .pCscf (s.self.pCscf.current.map Vector.toList)
    .ok { s with self := { s.self with pCscf := s.self.pCscf.next } }
  else if r.id = pcoIdPCscfIpv6 then do
    let s ← s.push capacity r.id 16 .pCscf6 (s.self.pCscf6.current.map Vector.toList)
    .ok { s with self := { s.self with pCscf6 := s.self.pCscf6.next } }
  else .ok s

/-- The entries of the response with what their pointers refer to at the end. -/
def response : List (UInt16 × Bytes) := s.ids.map fun e => (e.id, (s.mem e.data).take e.len)

end PcoState

/-- `OGS_MAX_NUM_OF_PROTOCOL_OR_CONTAINER_ID`, `OGS_MAX_PCO_LEN`, `ogs_pco_parse`, which has a size
of 0 if it gives nothing, and `ogs_pco_build`, which writes one octet, and for each entry its
identifier, its length and its contents. -/
structure PcoLib where
  capacity : Nat
  maxPcoLen : Nat
  parse : Bytes → Option Pco
  build : Bool → UInt8 → List (UInt16 × Bytes) → Bytes
  length_build : ∀ ext protocol ids,
    (build ext protocol ids).length = 1 + (ids.map fun e => 3 + e.2.length).sum
  capacity_le : 1 + 19 * capacity ≤ maxPcoLen

/-- The local variables have any contents `mem` at first. What is given back is the state after
the loop and what is written to `pco_buf`. -/
def pgwPcoBuild (lib : PcoLib) (mem : PcoBuffer → Bytes) (self : PgwPcoConfig) (tlvPco : Bytes) :
    PcoM (PcoState × Bytes) := do
  let ue ← Fallible.assertSome .parse (lib.parse tlvPco)
  let s ← ue.ids.foldlM (PcoState.serve lib.capacity) ⟨[], mem, self⟩
  .ok (s, lib.build ue.ext ue.configurationProtocol s.response)

/-! ## The answers to a request -/

/-- What a container is answered with, and what its variable is to hold. -/
structure PcoAnswer where
  entry : PcoEntry
  value : Bytes
  deriving DecidableEq

def pcoAnswers (id : UInt16) (len : Nat) (data : PcoBuffer) (value : Option Bytes) :
    List PcoAnswer :=
  (value.map fun value => ⟨⟨id, len, data⟩, value⟩).toList

namespace PgwPcoConfig
variable (self : PgwPcoConfig)

/-- The answers to a container with the addresses that are configured. -/
def answer (r : PcoId) : List PcoAnswer :=
  if r.id = pcoIdChap then
    if r.data.head? = some 2 then pcoAnswers r.id 4 .success (some chapSuccess) else []
  else if r.id = pcoIdIpcp then
    if r.data.head? = some 1 then pcoAnswers r.id 16 .pcoIpcp (some self.ipcp) else []
  else if r.id = pcoIdDnsIpv4 then
    pcoAnswers r.id 4 .dnsPrimary (self.dns.1.map Vector.toList) ++
      pcoAnswers r.id 4 .dnsSecondary (self.dns.2.map Vector.toList)
  else if r.id = pcoIdDnsIpv6 then
    pcoAnswers r.id 16 .dns6Primary (self.dns6.1.map Vector.toList) ++
      pcoAnswers r.id 16 .dns6Secondary (self.dns6.2.map Vector.toList)
  else if r.id = pcoIdPCscfIpv4 then
    pcoAnswers r.id 4 .pCscf (self.pCscf.current.map Vector.toList)
  else if r.id = pcoIdPCscfIpv6 then
    pcoAnswers r.id 16 .pCscf6 (self.pCscf6.current.map Vector.toList)
  else []

/-- The configuration for the next container: the P-CSCF addresses take turns. -/
def after (r : PcoId) : PgwPcoConfig :=
  if r.id = pcoIdPCscfIpv4 then { self with pCscf := self.pCscf.next }
  else if r.id = pcoIdPCscfIpv6 then { self with pCscf6 := self.pCscf6.next }
  else self

/-- The answers to all containers. -/
def answers (self : PgwPcoConfig) : List PcoId → List PcoAnswer
  | [] => []
  | r :: rs => self.answer r ++ (self.after r).answers rs

end PgwPcoConfig

/-- The response fits, and each container is answered with the addresses that are configured for
it, those of the P-CSCFs in turn. -/
def Negotiates (lib : PcoLib) (mem : PcoBuffer → Bytes) (self : PgwPcoConfig) (tlvPco : Bytes) :
    Prop :=
  ∃ ue s octets, lib.parse tlvPco = some ue ∧ pgwPcoBuild lib mem self tlvPco = .ok (s, octets) ∧
    s.ids.length ≤ lib.capacity ∧ octets.length ≤ lib.maxPcoLen ∧
      s.response = (self.answers ue.ids).map fun a => (a.entry.id, a.value)

/-- How many containers have an identifier. -/
def Pco.count (ue : Pco) (id : UInt16) : Nat := (ue.ids.filter (·.id = id)).length

/-- Containers whose code is looked at have one, there are entries for all answers, and the P-CSCF
addresses whose turn comes are the same for each family. -/
structure Negotiable (capacity : Nat) (config : PgwPcoConfig) (ue : Pco) : Prop where
  code : ∀ r ∈ ue.ids, r.id = pcoIdChap ∨ r.id = pcoIdIpcp → r.data ≠ []
  capacity : (config.answers ue.ids).length ≤ capacity
  pCscf : ∀ a ∈ config.pCscf.turns (ue.count pcoIdPCscfIpv4),
    ∀ b ∈ config.pCscf.turns (ue.count pcoIdPCscfIpv4), a = b
  pCscf6 : ∀ a ∈ config.pCscf6.turns (ue.count pcoIdPCscfIpv6),
    ∀ b ∈ config.pCscf6.turns (ue.count pcoIdPCscfIpv6), a = b

/-! ## Rounds of the loop -/

variable {capacity : Nat} {s t : PcoState} {self : PgwPcoConfig} {r : PcoId} {ue : Pco}

namespace PgwPcoConfig
variable (self : PgwPcoConfig)

/-- What is written to the local variables for a container. For IPCP the DNS addresses are looked
up on the way. -/
def writes (r : PcoId) : List (PcoBuffer × Bytes) :=
  (if r.id = pcoIdIpcp ∧ r.data.head? = some 1 then
    (self.dns.1.map fun addr => (.dnsPrimary, addr.toList)).toList ++
      (self.dns.2.map fun addr => (.dnsSecondary, addr.toList)).toList else []) ++
    (self.answer r).map fun a => (a.entry.data, a.value)

/-- What is written for all containers. -/
def allWrites (self : PgwPcoConfig) : List PcoId → List (PcoBuffer × Bytes)
  | [] => []
  | r :: rs => self.writes r ++ (self.after r).allWrites rs

/-- The configuration after all containers. -/
def afterAll (self : PgwPcoConfig) (rs : List PcoId) : PgwPcoConfig := rs.foldl after self

end PgwPcoConfig

/-- The code of a container that is looked at is there. -/
def PcoId.HasCode (r : PcoId) : Prop := r.id = pcoIdChap ∨ r.id = pcoIdIpcp → r.data ≠ []

/-- The places where some answers are written. -/
def pcoWrites (as : List PcoAnswer) : List (PcoBuffer × Bytes) :=
  as.map fun a => (a.entry.data, a.value)

namespace PcoState

/-- The effect of some answers, which are written together with other variables. -/
def grow (s : PcoState) (as : List PcoAnswer) (writes : List (PcoBuffer × Bytes))
    (self : PgwPcoConfig) : PcoState :=
  ⟨s.ids ++ as.map PcoAnswer.entry, Extent.writeAll s.mem writes, self⟩

theorem length_grow (s : PcoState) (as : List PcoAnswer) (ws : List (PcoBuffer × Bytes))
    (self : PgwPcoConfig) : (s.grow as ws self).ids.length = s.ids.length + as.length := by
  rw [grow, List.length_append, List.length_map]

theorem grow_grow (s : PcoState) (as as' : List PcoAnswer) (ws ws' : List (PcoBuffer × Bytes))
    (self self' : PgwPcoConfig) :
    (s.grow as ws self).grow as' ws' self' = s.grow (as ++ as') (ws ++ ws') self' := by
  rw [grow, grow, grow, Extent.writeAll_append, List.map_append, List.append_assoc]

theorem grow_nil (s : PcoState) : s.grow [] [] s.self = s := by
  rw [grow, List.map_nil, List.append_nil]
  rfl

theorem fill_eq_grow (s : PcoState) (buffer : PcoBuffer) (value : Option Bytes) :
    s.fill buffer value = s.grow [] (value.map fun value => (buffer, value)).toList s.self := by
  rw [grow, List.map_nil, List.append_nil]
  cases value <;> rfl

@[simp] theorem self_fill (s : PcoState) (buffer : PcoBuffer) (value : Option Bytes) :
    (s.fill buffer value).self = s.self := by
  cases value <;> rfl

variable {id : UInt16} {len : Nat} {buffer buffer' : PcoBuffer} {value value' : Option Bytes}

theorem push_eq_ok (hle : s.ids.length ≤ capacity) :
    s.push capacity id len buffer value = .ok t ↔
      s.ids.length + (pcoAnswers id len buffer value).length ≤ capacity ∧
        t = s.grow (pcoAnswers id len buffer value) (pcoWrites (pcoAnswers id len buffer value))
          s.self := by
  cases value with
  | none =>
    have hnil : pcoAnswers id len buffer none = [] := rfl
    rw [push, hnil, pcoWrites, List.map_nil, grow_nil, List.length_nil, Nat.add_zero,
      and_iff_right hle, Except.ok.injEq]
    exact eq_comm
  | some value =>
    rw [push]
    change _ ↔ s.ids.length + 1 ≤ capacity ∧ t = _
    by_cases hlt : s.ids.length < capacity
    · rw [if_pos hlt, Except.ok.injEq, and_iff_right (Nat.succ_le_of_lt hlt)]
      exact eq_comm
    · rw [if_neg hlt]
      exact iff_of_false nofun fun h => hlt (Nat.lt_of_succ_le h.1)

/-- A round that fills other variables before it gives an answer. -/
theorem push_grow_eq_ok (hle : s.ids.length ≤ capacity) (ws : List (PcoBuffer × Bytes)) :
    (s.grow [] ws s.self).push capacity id len buffer value = .ok t ↔
      s.ids.length + (pcoAnswers id len buffer value).length ≤ capacity ∧
        t = s.grow (pcoAnswers id len buffer value)
          (ws ++ pcoWrites (pcoAnswers id len buffer value)) s.self := by
  have hself : (s.grow [] ws s.self).self = s.self := rfl
  rw [push_eq_ok (by rwa [length_grow]), length_grow, hself, grow_grow]
  rfl

/-- A round that gives up to two answers. -/
theorem push_push_eq_ok {f : PgwPcoConfig → Option Bytes} (hle : s.ids.length ≤ capacity) :
    (s.push capacity id len buffer value >>= fun u =>
      u.push capacity id len buffer' (f u.self)) = .ok t ↔
      s.ids.length + (pcoAnswers id len buffer value ++
        pcoAnswers id len buffer' (f s.self)).length ≤ capacity ∧
      t = s.grow (pcoAnswers id len buffer value ++ pcoAnswers id len buffer' (f s.self))
        (pcoWrites (pcoAnswers id len buffer value ++ pcoAnswers id len buffer' (f s.self)))
          s.self := by
  have hself (as : List PcoAnswer) (ws : List (PcoBuffer × Bytes)) :
      (s.grow as ws s.self).self = s.self := rfl
  rw [Fallible.bind_eq_ok, List.length_append, pcoWrites, List.map_append, ← Nat.add_assoc]
  constructor
  · rintro ⟨u, hu, ht⟩
    obtain ⟨hfirst, rfl⟩ := (push_eq_ok hle).mp hu
    rw [push_eq_ok (by rwa [length_grow]), length_grow, hself, grow_grow] at ht
    exact ht
  · rintro ⟨hboth, rfl⟩
    have hfirst : s.ids.length + (pcoAnswers id len buffer value).length ≤ capacity := by omega
    refine ⟨_, (push_eq_ok hle).mpr ⟨hfirst, rfl⟩, ?_⟩
    rw [push_eq_ok (by rwa [length_grow]), length_grow, hself, grow_grow]
    exact ⟨hboth, rfl⟩

/-- A round that gives an answer and moves on to the next address. -/
theorem push_next_eq_ok {f : PgwPcoConfig → PgwPcoConfig} (hle : s.ids.length ≤ capacity) :
    (s.push capacity id len buffer value >>= fun u => .ok { u with self := f u.self }) = .ok t ↔
      s.ids.length + (pcoAnswers id len buffer value).length ≤ capacity ∧
        t = s.grow (pcoAnswers id len buffer value) (pcoWrites (pcoAnswers id len buffer value))
          (f s.self) := by
  rw [Fallible.bind_eq_ok]
  constructor
  · rintro ⟨u, hu, ht⟩
    obtain ⟨hfirst, rfl⟩ := (push_eq_ok hle).mp hu
    cases ht
    exact ⟨hfirst, rfl⟩
  · rintro ⟨hfirst, rfl⟩
    exact ⟨_, (push_eq_ok hle).mpr ⟨hfirst, rfl⟩, rfl⟩

theorem idle_eq_ok (hle : s.ids.length ≤ capacity) : (.ok s : PcoM PcoState) = .ok t ↔
    s.ids.length + ([] : List PcoAnswer).length ≤ capacity ∧ t = s.grow [] [] s.self := by
  rw [grow_nil, List.length_nil, Nat.add_zero, and_iff_right hle, Except.ok.injEq]
  exact eq_comm

theorem serve_chap (data : Bytes) (hle : s.ids.length ≤ capacity) :
    s.serve capacity ⟨pcoIdChap, data⟩ = .ok t ↔ data ≠ [] ∧
      s.ids.length + (s.self.answer ⟨pcoIdChap, data⟩).length ≤ capacity ∧
        t = s.grow (s.self.answer ⟨pcoIdChap, data⟩) (s.self.writes ⟨pcoIdChap, data⟩) s.self := by
  simp +decide only [serve, PgwPcoConfig.writes, PgwPcoConfig.answer, if_true, if_false, false_and,
    List.nil_append]
  cases data with
  | nil => exact iff_of_false nofun fun h => h.1 rfl
  | cons code data =>
    rw [and_iff_right (List.cons_ne_nil _ _), firstOctet, Fallible.ok_bind, List.head?_cons]
    by_cases hcode : code = 2
    · rw [if_pos hcode, if_pos (congrArg some hcode)]
      exact push_eq_ok hle
    · rw [if_neg hcode, if_neg (fun h => hcode (Option.some_inj.mp h))]
      exact idle_eq_ok hle

theorem serve_ipcp (data : Bytes) (hle : s.ids.length ≤ capacity) :
    s.serve capacity ⟨pcoIdIpcp, data⟩ = .ok t ↔ data ≠ [] ∧
      s.ids.length + (s.self.answer ⟨pcoIdIpcp, data⟩).length ≤ capacity ∧
        t = s.grow (s.self.answer ⟨pcoIdIpcp, data⟩) (s.self.writes ⟨pcoIdIpcp, data⟩) s.self := by
  simp +decide only [serve, PgwPcoConfig.writes, PgwPcoConfig.answer, if_true, if_false, true_and]
  cases data with
  | nil => exact iff_of_false nofun fun h => h.1 rfl
  | cons code data =>
    rw [and_iff_right (List.cons_ne_nil _ _), firstOctet, Fallible.ok_bind, List.head?_cons]
    by_cases hcode : code = 1
    · simp only [if_pos hcode, if_pos (congrArg some hcode), fill_eq_grow, grow_grow,
        Option.map_map]
      exact push_grow_eq_ok hle _
    · rw [if_neg hcode, if_neg (fun h => hcode (Option.some_inj.mp h)), if_neg
        (fun h => hcode (Option.some_inj.mp h))]
      exact idle_eq_ok hle

/-- What one round does, if it does not leave the arrays. -/
theorem serve_eq_ok (hle : s.ids.length ≤ capacity) : s.serve capacity r = .ok t ↔ r.HasCode ∧
    s.ids.length + (s.self.answer r).length ≤ capacity ∧
      t = s.grow (s.self.answer r) (s.self.writes r) (s.self.after r) := by
  obtain ⟨id, data⟩ := r
  by_cases hchap : id = pcoIdChap
  · subst hchap
    simp +decide only [serve_chap data hle, PcoId.HasCode, PgwPcoConfig.after, if_false, true_or,
      true_imp_iff]
  · by_cases hipcp : id = pcoIdIpcp
    · subst hipcp
      simp +decide only [serve_ipcp data hle, PcoId.HasCode, PgwPcoConfig.after, if_false, or_true,
        true_imp_iff]
    · have hcode : PcoId.HasCode ⟨id, data⟩ := fun h => h.elim (absurd · hchap) (absurd · hipcp)
      rw [and_iff_right hcode, serve, PgwPcoConfig.writes, PgwPcoConfig.answer, PgwPcoConfig.after]
      simp only [hchap, hipcp, if_false, false_and, List.nil_append]
      by_cases hdns : id = pcoIdDnsIpv4
      · subst hdns
        simp +decide only [if_true, if_false]
        exact push_push_eq_ok (f := fun self => self.dns.2.map Vector.toList) hle
      · by_cases hdns6 : id = pcoIdDnsIpv6
        · subst hdns6
          simp +decide only [if_true, if_false]
          exact push_push_eq_ok (f := fun self => self.dns6.2.map Vector.toList) hle
        · simp only [hdns, hdns6, if_false]
          by_cases hpCscf : id = pcoIdPCscfIpv4
          · subst hpCscf
            simp only [if_true]
            exact push_next_eq_ok (f := fun self => { self with pCscf := self.pCscf.next }) hle
          · by_cases hpCscf6 : id = pcoIdPCscfIpv6
            · subst hpCscf6
              simp +decide only [if_true, if_false]
              exact push_next_eq_ok
                (f := fun self => { self with pCscf6 := self.pCscf6.next }) hle
            · simp only [hpCscf, hpCscf6, if_false]
              exact idle_eq_ok hle

/-- What the loop does, if it does not leave the arrays. -/
theorem foldlM_serve_eq_ok (hle : s.ids.length ≤ capacity) (rs : List PcoId) :
    rs.foldlM (serve capacity) s = .ok t ↔ (∀ r ∈ rs, r.HasCode) ∧
      s.ids.length + (s.self.answers rs).length ≤ capacity ∧
        t = s.grow (s.self.answers rs) (s.self.allWrites rs) (s.self.afterAll rs) := by
  induction rs generalizing s with
  | nil =>
    rw [List.foldlM_nil, and_iff_right (by simp)]
    exact idle_eq_ok hle
  | cons r rs ih =>
    have hself (as : List PcoAnswer) (ws : List (PcoBuffer × Bytes)) (self : PgwPcoConfig) :
        (s.grow as ws self).self = self := rfl
    rw [List.foldlM_cons, Fallible.bind_eq_ok, PgwPcoConfig.answers, PgwPcoConfig.allWrites,
      PgwPcoConfig.afterAll, List.foldl_cons, List.length_append, List.forall_mem_cons,
      ← Nat.add_assoc]
    constructor
    · rintro ⟨u, hu, ht⟩
      obtain ⟨hcode, hfirst, rfl⟩ := (serve_eq_ok hle).mp hu
      rw [ih (by rwa [length_grow]), length_grow, hself, grow_grow] at ht
      exact ⟨⟨hcode, ht.1⟩, ht.2⟩
    · rintro ⟨⟨hcode, hcodes⟩, hall, rfl⟩
      have hfirst : s.ids.length + (s.self.answer r).length ≤ capacity := by omega
      refine ⟨_, (serve_eq_ok hle).mpr ⟨hcode, hfirst, rfl⟩, ?_⟩
      rw [ih (by rwa [length_grow]), length_grow, hself, grow_grow]
      exact ⟨hcodes, hall, rfl⟩

end PcoState

/-! ## What the variables hold -/

/-- How many octets of a variable are given out. -/
def PcoBuffer.len : PcoBuffer → Nat
  | .success | .dnsPrimary | .dnsSecondary | .pCscf => 4
  | .pcoIpcp | .dns6Primary | .dns6Secondary | .pCscf6 => 16

/-- The request that a variable is given out for. -/
def PcoBuffer.id : PcoBuffer → UInt16
  | .success => pcoIdChap
  | .pcoIpcp => pcoIdIpcp
  | .dnsPrimary | .dnsSecondary => pcoIdDnsIpv4
  | .dns6Primary | .dns6Secondary => pcoIdDnsIpv6
  | .pCscf => pcoIdPCscfIpv4
  | .pCscf6 => pcoIdPCscfIpv6

namespace PgwPcoConfig
variable {rs : List PcoId} {a : PcoAnswer} {w : PcoBuffer × Bytes} {data : PcoBuffer}
  {value : Bytes}

/-- What is written to a variable next. -/
def contents (self : PgwPcoConfig) : PcoBuffer → Option Bytes
  | .success => some chapSuccess
  | .pcoIpcp => some self.ipcp
  | .dnsPrimary => self.dns.1.map Vector.toList
  | .dnsSecondary => self.dns.2.map Vector.toList
  | .dns6Primary => self.dns6.1.map Vector.toList
  | .dns6Secondary => self.dns6.2.map Vector.toList
  | .pCscf => self.pCscf.current.map Vector.toList
  | .pCscf6 => self.pCscf6.current.map Vector.toList

theorem length_ipcpOption (type : UInt8) (addr : Option Octets4) :
    (ipcpOption type addr).length = 6 := by
  cases addr with
  | none => rfl
  | some addr => rw [ipcpOption, List.length_append, Vector.length_toList]; rfl

theorem length_of_contents {data : PcoBuffer} {value : Bytes}
    (h : self.contents data = some value) : value.length = data.len := by
  have hvector {n : Nat} {addr : Option (Vector UInt8 n)}
      (h : addr.map Vector.toList = some value) : value.length = n := by
    obtain ⟨addr, -, rfl⟩ := Option.map_eq_some_iff.mp h
    exact Vector.length_toList
  cases data with
  | success => exact (congrArg List.length (Option.some_inj.mp h)).symm
  | pcoIpcp =>
    rw [← Option.some_inj.mp h, ipcp, List.length_append, List.length_append, length_ipcpOption,
      length_ipcpOption]
    rfl
  | dnsPrimary => exact hvector h
  | dnsSecondary => exact hvector h
  | dns6Primary => exact hvector h
  | dns6Secondary => exact hvector h
  | pCscf => exact hvector h
  | pCscf6 => exact hvector h

theorem mem_pcoAnswers {id : UInt16} {len : Nat} {data : PcoBuffer} {value : Option Bytes} :
    a ∈ pcoAnswers id len data value ↔ a.entry = ⟨id, len, data⟩ ∧ value = some a.value := by
  rw [pcoAnswers, Option.mem_toList, Option.map_eq_some_iff]
  constructor
  · rintro ⟨value, rfl, rfl⟩
    exact ⟨rfl, rfl⟩
  · rintro ⟨hentry, rfl⟩
    exact ⟨a.value, rfl, by rw [← hentry]⟩

/-- An answer is about the container, and gives the contents of its variable. -/
theorem of_mem_answer (h : a ∈ self.answer r) : a.entry.data.id = r.id ∧
    a.entry.len = a.entry.data.len ∧ self.contents a.entry.data = some a.value := by
  have hone (data : PcoBuffer) (hid : r.id = data.id)
      (h : a ∈ pcoAnswers r.id data.len data (self.contents data)) : a.entry.data.id = r.id ∧
        a.entry.len = a.entry.data.len ∧ self.contents a.entry.data = some a.value := by
    obtain ⟨hentry, hvalue⟩ := mem_pcoAnswers.mp h
    rw [hentry]
    exact ⟨hid.symm, rfl, hvalue⟩
  rw [answer] at h
  split at h
  next hid =>
    split at h
    · exact hone .success hid h
    · exact absurd h List.not_mem_nil
  split at h
  next hid =>
    split at h
    · exact hone .pcoIpcp hid h
    · exact absurd h List.not_mem_nil
  split at h
  next hid =>
    rcases List.mem_append.mp h with h | h
    · exact hone .dnsPrimary hid h
    · exact hone .dnsSecondary hid h
  split at h
  next hid =>
    rcases List.mem_append.mp h with h | h
    · exact hone .dns6Primary hid h
    · exact hone .dns6Secondary hid h
  split at h
  next hid => exact hone .pCscf hid h
  split at h
  next hid => exact hone .pCscf6 hid h
  exact absurd h List.not_mem_nil

/-- What is written beside the answers are addresses of DNS servers. -/
theorem of_mem_writes (h : w ∈ self.writes r) : self.contents w.1 = some w.2 ∧
    ((w.1 = .pCscf ∨ w.1 = .pCscf6) → w ∈ pcoWrites (self.answer r)) := by
  rw [writes, List.mem_append] at h
  rcases h with h | h
  · split at h
    · have hdns {data : PcoBuffer} {addr : Option Octets4}
          (h : w ∈ (addr.map fun addr => (data, addr.toList)).toList)
          (hcontents : self.contents data = addr.map Vector.toList) (hpCscf : data ≠ .pCscf)
          (hpCscf6 : data ≠ .pCscf6) : self.contents w.1 = some w.2 ∧
            ((w.1 = .pCscf ∨ w.1 = .pCscf6) → w ∈ pcoWrites (self.answer r)) := by
        obtain ⟨addr, rfl, rfl⟩ := Option.map_eq_some_iff.mp (Option.mem_toList.mp h)
        exact ⟨hcontents, fun h => h.elim (absurd · hpCscf) (absurd · hpCscf6)⟩
      rcases List.mem_append.mp h with h | h
      · exact hdns h rfl nofun nofun
      · exact hdns h rfl nofun nofun
    · exact absurd h List.not_mem_nil
  · obtain ⟨a, ha, rfl⟩ := List.mem_map.mp h
    exact ⟨(of_mem_answer ha).2.2, fun _ => h⟩

theorem contents_after (hpCscf : data ≠ .pCscf) (hpCscf6 : data ≠ .pCscf6) :
    (self.after r).contents data = self.contents data := by
  rw [after]
  split
  · cases data <;> first | rfl | exact absurd rfl hpCscf
  split
  · cases data <;> first | rfl | exact absurd rfl hpCscf6
  · rfl

theorem mem_answers_cons : a ∈ self.answers (r :: rs) ↔
    a ∈ self.answer r ∨ a ∈ (self.after r).answers rs := List.mem_append

theorem mem_allWrites_cons : w ∈ self.allWrites (r :: rs) ↔
    w ∈ self.writes r ∨ w ∈ (self.after r).allWrites rs := List.mem_append

/-- The variables for which the configuration does not take turns. -/
theorem contents_of_mem_allWrites (h : w ∈ self.allWrites rs) (hpCscf : w.1 ≠ .pCscf)
    (hpCscf6 : w.1 ≠ .pCscf6) : self.contents w.1 = some w.2 := by
  induction rs generalizing self with
  | nil => exact absurd h List.not_mem_nil
  | cons r rs ih =>
    rcases mem_allWrites_cons.mp h with h | h
    · exact (of_mem_writes h).1
    · rw [← contents_after (r := r) hpCscf hpCscf6]
      exact ih h

/-- The variables for which it does are written for answers only. -/
theorem mem_pcoWrites_of_mem_allWrites (h : w ∈ self.allWrites rs)
    (hturns : w.1 = .pCscf ∨ w.1 = .pCscf6) : w ∈ pcoWrites (self.answers rs) := by
  induction rs generalizing self with
  | nil => exact absurd h List.not_mem_nil
  | cons r rs ih =>
    rw [pcoWrites, answers, List.map_append, List.mem_append]
    rcases mem_allWrites_cons.mp h with h | h
    · exact .inl ((of_mem_writes h).2 hturns)
    · exact .inr (ih h)

theorem of_mem_answers (h : a ∈ self.answers rs) : a.value.length = a.entry.len ∧
    a.entry.len = a.entry.data.len ∧ (a.entry.data, a.value) ∈ self.allWrites rs := by
  induction rs generalizing self with
  | nil => exact absurd h List.not_mem_nil
  | cons r rs ih =>
    rw [mem_allWrites_cons]
    rcases mem_answers_cons.mp h with h | h
    · obtain ⟨-, hlen, hcontents⟩ := of_mem_answer h
      have hwrites : (a.entry.data, a.value) ∈ self.writes r :=
        List.mem_append_right _ (List.mem_map_of_mem h)
      exact ⟨hlen ▸ length_of_contents hcontents, hlen, .inl hwrites⟩
    · obtain ⟨hvalue, hlen, hwrites⟩ := ih h
      exact ⟨hvalue, hlen, .inr hwrites⟩

/-- The answers from a ring of addresses, which moves on with each request. -/
theorem exists_mem_answers_iff {n : Nat} (data : PcoBuffer)
    (ring : PgwPcoConfig → AddrRing (Vector UInt8 n))
    (hanswer : ∀ self r value, (∃ a ∈ PgwPcoConfig.answer self r, a.entry.data = data ∧
      a.value = value) ↔ r.id = data.id ∧ ∃ addr ∈ (ring self).current, addr.toList = value)
    (hafter : ∀ self r, ring (PgwPcoConfig.after self r) =
      if r.id = data.id then (ring self).next else ring self) :
    (∃ a ∈ self.answers rs, a.entry.data = data ∧ a.value = value) ↔
      ∃ addr ∈ (ring self).turns (rs.filter (·.id = data.id)).length, addr.toList = value := by
  induction rs generalizing self with
  | nil =>
    exact iff_of_false (fun ⟨a, ha, _⟩ => List.not_mem_nil ha)
      fun ⟨addr, haddr, _⟩ => List.not_mem_nil haddr
  | cons r rs ih =>
    simp only [mem_answers_cons, or_and_right, exists_or]
    rw [hanswer, ih, hafter]
    by_cases hid : r.id = data.id
    · rw [if_pos hid, and_iff_right hid, List.filter_cons_of_pos (by simpa using hid),
        List.length_cons, AddrRing.turns]
      simp only [List.mem_append, Option.mem_toList, Option.mem_def, or_and_right, exists_or]
    · rw [if_neg hid, List.filter_cons_of_neg (by simpa using hid)]
      exact or_iff_right fun h => hid h.1

theorem exists_pCscf_iff : (∃ a ∈ self.answers rs, a.entry.data = .pCscf ∧ a.value = value) ↔
    ∃ addr ∈ self.pCscf.turns (rs.filter (·.id = pcoIdPCscfIpv4)).length, addr.toList = value := by
  refine exists_mem_answers_iff .pCscf pCscf (fun self r value => ?_)
    fun self r => ?_
  · constructor
    · rintro ⟨a, ha, hdata, rfl⟩
      obtain ⟨hid, -, hcontents⟩ := of_mem_answer ha
      rw [hdata] at hid hcontents
      exact ⟨hid.symm, Option.map_eq_some_iff.mp hcontents⟩
    · rintro ⟨hid, addr, haddr, rfl⟩
      have hid : r.id = pcoIdPCscfIpv4 := hid
      refine ⟨⟨⟨r.id, 4, .pCscf⟩, addr.toList⟩, ?_, rfl, rfl⟩
      simp +decide only [answer, hid, if_true, if_false, mem_pcoAnswers, true_and]
      exact Option.map_eq_some_iff.mpr ⟨addr, haddr, rfl⟩
  · rw [after]
    change _ = if r.id = pcoIdPCscfIpv4 then _ else _
    split
    · rfl
    split <;> rfl

theorem exists_pCscf6_iff : (∃ a ∈ self.answers rs, a.entry.data = .pCscf6 ∧ a.value = value) ↔
    ∃ addr ∈ self.pCscf6.turns (rs.filter (·.id = pcoIdPCscfIpv6)).length, addr.toList = value := by
  refine exists_mem_answers_iff .pCscf6 pCscf6 (fun self r value => ?_)
    fun self r => ?_
  · constructor
    · rintro ⟨a, ha, hdata, rfl⟩
      obtain ⟨hid, -, hcontents⟩ := of_mem_answer ha
      rw [hdata] at hid hcontents
      exact ⟨hid.symm, Option.map_eq_some_iff.mp hcontents⟩
    · rintro ⟨hid, addr, haddr, rfl⟩
      have hid : r.id = pcoIdPCscfIpv6 := hid
      refine ⟨⟨⟨r.id, 16, .pCscf6⟩, addr.toList⟩, ?_, rfl, rfl⟩
      simp +decide only [answer, hid, if_true, if_false, mem_pcoAnswers, true_and]
      exact Option.map_eq_some_iff.mpr ⟨addr, haddr, rfl⟩
  · rw [after]
    change _ = if r.id = pcoIdPCscfIpv6 then _ else _
    split
    next hid => rw [if_neg (by rw [hid]; decide)]
    · split <;> rfl

/-- What each variable holds at the end is what its answers say. -/
theorem forall_answers_iff {mem : PcoBuffer → Bytes} :
    (∀ a ∈ self.answers rs,
      (Extent.writeAll mem (self.allWrites rs) a.entry.data).take a.entry.len = a.value) ↔
      ∀ data : PcoBuffer, data = .pCscf ∨ data = .pCscf6 → ∀ value value',
        (∃ a ∈ self.answers rs, a.entry.data = data ∧ a.value = value) →
          (∃ a ∈ self.answers rs, a.entry.data = data ∧ a.value = value') → value = value' := by
  constructor
  · rintro h data - value value' ⟨a, ha, hdata, rfl⟩ ⟨b, hb, hdata', rfl⟩
    have hlen : a.entry.len = b.entry.len := by
      rw [(of_mem_answers ha).2.1, (of_mem_answers hb).2.1, hdata, hdata']
    rw [← h a ha, ← h b hb, hdata, hdata', hlen]
  · intro h a ha
    obtain ⟨hlength, -, hwrites⟩ := of_mem_answers ha
    obtain ⟨w, hw, hdata, heq⟩ := Extent.exists_of_writeAll mem ⟨_, hwrites, rfl⟩
    have hdata : w.1 = a.entry.data := hdata
    have hvalue : w.2 = a.value := by
      by_cases hturns : a.entry.data = .pCscf ∨ a.entry.data = .pCscf6
      · obtain ⟨b, hb, hbw⟩ := List.mem_map.mp
          (mem_pcoWrites_of_mem_allWrites hw (by rwa [hdata]))
        refine h _ hturns _ _ ⟨b, hb, ?_, ?_⟩ ⟨a, ha, rfl, rfl⟩
        · rw [← hdata, ← hbw]
        · rw [← hbw]
      · obtain ⟨hpCscf, hpCscf6⟩ := not_or.mp hturns
        have hcontents := contents_of_mem_allWrites hwrites hpCscf hpCscf6
        have hcontents' := contents_of_mem_allWrites hw (by rwa [hdata]) (by rwa [hdata])
        rw [hdata, hcontents] at hcontents'
        exact (Option.some_inj.mp hcontents').symm
    rw [heq, hvalue, ← hlength, List.take_length]

end PgwPcoConfig

/-! ## The negotiation -/

theorem response_grow_eq_iff (mem : PcoBuffer → Bytes) (self self' : PgwPcoConfig)
    (as : List PcoAnswer) (ws : List (PcoBuffer × Bytes)) :
    (PcoState.grow ⟨[], mem, self⟩ as ws self').response =
        (as.map fun a => (a.entry.id, a.value)) ↔
      ∀ a ∈ as, (Extent.writeAll mem ws a.entry.data).take a.entry.len = a.value := by
  rw [PcoState.response, PcoState.grow, List.nil_append, List.map_map, List.map_inj_left]
  simp only [Function.comp_apply, Prod.mk.injEq, true_and]

/-- No contents are longer than an IPv6 address. -/
theorem length_pcoBuild_le (lib : PcoLib) (ext : Bool) (protocol : UInt8) (rs : List PcoId)
    (h : (self.answers rs).length ≤ lib.capacity) :
    (lib.build ext protocol ((self.answers rs).map fun a => (a.entry.id, a.value))).length ≤
      lib.maxPcoLen := by
  have hvalue : ∀ a ∈ self.answers rs, 3 + a.value.length ≤ 19 := by
    intro a ha
    obtain ⟨hlength, hlen, -⟩ := PgwPcoConfig.of_mem_answers ha
    have hdata : a.entry.data.len ≤ 16 := by
      cases a.entry.data <;> decide
    omega
  have hsum := List.sum_le_card_nsmul ((self.answers rs).map fun a => 3 + a.value.length) 19
    (List.forall_mem_map.mpr hvalue)
  have hle := lib.capacity_le
  rw [List.length_map, smul_eq_mul] at hsum
  rw [lib.length_build, List.map_map]
  change 1 + ((self.answers rs).map fun a => 3 + a.value.length).sum ≤ _
  omega

/-- A request is answered as it should be if and only if its containers have the codes that are
looked at, the answers fit into the array, and the variable for the addresses of P-CSCFs holds
one address for all requests of its family. -/
theorem negotiates_iff (lib : PcoLib) (mem : PcoBuffer → Bytes) (self : PgwPcoConfig)
    (tlvPco : Bytes) : Negotiates lib mem self tlvPco ↔
      ∃ ue, lib.parse tlvPco = some ue ∧ Negotiable lib.capacity self ue := by
  constructor
  · rintro ⟨ue, s, octets, hue, hbuild, -, -, hresponse⟩
    refine ⟨ue, hue, ?_⟩
    rw [pgwPcoBuild, hue, Fallible.assertSome_some, Fallible.ok_bind, Fallible.bind_eq_ok] at hbuild
    obtain ⟨t, hloop, ht⟩ := hbuild
    obtain ⟨rfl, -⟩ := Prod.mk.inj (Except.ok.inj ht)
    obtain ⟨hcode, hcapacity, rfl⟩ := (PcoState.foldlM_serve_eq_ok (Nat.zero_le _) _).mp hloop
    have hvalues := PgwPcoConfig.forall_answers_iff.mp
      ((response_grow_eq_iff mem self _ _ _).mp hresponse)
    refine ⟨hcode, (Nat.zero_add _).symm.trans_le hcapacity, fun a ha b hb => ?_,
      fun a ha b hb => ?_⟩
    · exact Vector.toList_inj.mp (hvalues .pCscf (.inl rfl) _ _
        (PgwPcoConfig.exists_pCscf_iff.mpr ⟨a, ha, rfl⟩)
        (PgwPcoConfig.exists_pCscf_iff.mpr ⟨b, hb, rfl⟩))
    · exact Vector.toList_inj.mp (hvalues .pCscf6 (.inr rfl) _ _
        (PgwPcoConfig.exists_pCscf6_iff.mpr ⟨a, ha, rfl⟩)
        (PgwPcoConfig.exists_pCscf6_iff.mpr ⟨b, hb, rfl⟩))
  · rintro ⟨ue, hue, h⟩
    have hloop := (PcoState.foldlM_serve_eq_ok (s := ⟨[], mem, self⟩) (Nat.zero_le _) ue.ids).mpr
      ⟨h.code, (Nat.zero_add _).trans_le h.capacity, rfl⟩
    have hresponse := (response_grow_eq_iff mem self
      (self.afterAll ue.ids) (self.answers ue.ids) (self.allWrites ue.ids)).mpr
        (PgwPcoConfig.forall_answers_iff.mpr ?_)
    · refine ⟨ue, _, lib.build ue.ext ue.configurationProtocol ((self.answers ue.ids).map
        fun a => (a.entry.id, a.value)), hue, ?_, ?_, ?_, hresponse⟩
      · rw [pgwPcoBuild, hue, Fallible.assertSome_some, Fallible.ok_bind, hloop, Fallible.ok_bind,
          hresponse]
      · rw [PcoState.length_grow]
        exact (Nat.zero_add _).trans_le h.capacity
      · exact length_pcoBuild_le lib _ _ _ h.capacity
    · rintro data (rfl | rfl) value value' hvalue hvalue'
      · obtain ⟨a, ha, rfl⟩ := PgwPcoConfig.exists_pCscf_iff.mp hvalue
        obtain ⟨b, hb, rfl⟩ := PgwPcoConfig.exists_pCscf_iff.mp hvalue'
        rw [h.pCscf a ha b hb]
      · obtain ⟨a, ha, rfl⟩ := PgwPcoConfig.exists_pCscf6_iff.mp hvalue
        obtain ⟨b, hb, rfl⟩ := PgwPcoConfig.exists_pCscf6_iff.mp hvalue'
        rw [h.pCscf6 a ha b hb]

/-- The octets of a request for DNS servers, five times. -/
def dnsRequests : Bytes := 0x80 :: (List.replicate 5 [0x00, 0x0d, 0x00]).flatten

/-- An encoder, and what a parser makes of these octets. -/
def dnsRequestLib : PcoLib where
  capacity := 8
  maxPcoLen := 251
  parse tlvPco :=
    if tlvPco = dnsRequests then some ⟨true, 0, List.replicate 5 ⟨pcoIdDnsIpv4, []⟩⟩ else none
  build ext protocol ids :=
    (if ext then 0x80 ||| protocol else protocol) :: ids.flatMap fun (e : UInt16 × Bytes) =>
      [(e.1 >>> 8).toUInt8, e.1.toUInt8, UInt8.ofNat e.2.length] ++ e.2
  length_build ext protocol ids := by
    rw [List.length_cons, List.length_flatMap, Nat.add_comm]
    congr 3
    funext e
    rw [List.length_append]
    rfl
  capacity_le := by decide

/-- Two servers for each request do not fit into the array. -/
theorem not_negotiates_dnsRequests : ¬Negotiates dnsRequestLib (fun _ => [])
    ⟨(some #v[8, 8, 8, 8], some #v[8, 8, 4, 4]), (none, none), ⟨[], 0, nofun⟩, ⟨[], 0, nofun⟩⟩
      dnsRequests := by
  rintro ⟨ue, s, octets, -, hbuild, -⟩
  have hparse : dnsRequestLib.parse dnsRequests =
      some ⟨true, 0, List.replicate 5 ⟨pcoIdDnsIpv4, []⟩⟩ := by
    simp only [dnsRequestLib, if_true]
  rw [pgwPcoBuild, hparse, Fallible.assertSome_some, Fallible.ok_bind] at hbuild
  obtain ⟨t, hloop, -⟩ := Fallible.bind_eq_ok.mp hbuild
  obtain ⟨-, hcapacity, -⟩ := (PcoState.foldlM_serve_eq_ok (Nat.zero_le _) _).mp hloop
  exact absurd hcapacity (by decide)

end NextEpc
