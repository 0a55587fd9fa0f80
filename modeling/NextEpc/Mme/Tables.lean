import NextEpc.Lib.KeyTable
import NextEpc.Mme.EcmAssoc

/-!
# The lookup tables of the MME

`mme-context.c`: UEs are found by IMSI and by GUTI, eNBs by their identity. The hash tables
are those of ogslib, which keep a pointer to the key, and the keys are fields of the records,
written in place. M-TMSIs come from a pool that is filled with random values at the start. A
record that is removed keeps its fields, and the next record in its slot starts with them.
-/

namespace NextEpc

/-- The index of an M-TMSI in the array of the pool. -/
abbrev MTmsiId := Nat

/-- `ogs_nas_guti_t` -/
structure OgsNasGuti where
  nasPlmnId : Vector UInt8 3
  mmeGid : UInt16
  mmeCode : UInt8
  mTmsi : UInt32
  deriving DecidableEq, Repr

/-- The pools of ogslib. An object that is not in use is in a list, which has room for each
object once. -/
class OgsPool where
  /-- The list after `ogs_pool_free(pool, object)`, for a pool of some size -/
  free {α : Type} (size : Nat) (l : List α) (object : α) : List α
  free_of_lt {α : Type} (size : Nat) (l : List α) (object : α) :
    l.length < size → free size l object = l ++ [object]
  free_of_le {α : Type} (size : Nat) (l : List α) (object : α) :
    size ≤ l.length → free size l object = l

/-- `ogs_hash_get` and `ogs_hash_set`, with the hash function on the octets of the three kinds of
key, and the pools. -/
class OgsHash extends KeyTable.HashTable UInt32, OgsPool where
  imsi : Bytes → UInt32
  guti : OgsNasGuti → UInt32
  enbId : UInt32 → UInt32

/-- `OGS_MAX_IMSI_LEN` -/
def maxImsiLen : Nat := 8

/-- The fields of `mme_ue_t` that the tables are about. -/
structure MmeUeKeys where
  imsi : Vector UInt8 maxImsiLen
  imsiLen : Nat
  guti : OgsNasGuti
  mTmsi : Option MTmsiId

/-- The field of `mme_enb_t` that the tables are about. Whether it was set since the eNB was
added is not in the source; it is here to say which eNBs have an identity. -/
structure MmeEnbKeys where
  enbId : UInt32
  idSet : Bool

/-- Where the key of an entry for an IMSI is: the octets of `imsi` of a record, as many as the
IMSI had when it was entered. -/
abbrev ImsiKey := MmeUeId × Nat

/-- The part of `mme_context_t` that the tables are about. `servedGummei` is the first
configured GUMMEI with its first PLMN identity, group and code. -/
structure MmeTables where
  servedGummei : OgsNasGuti
  mTmsi : List UInt32
  mTmsiFree : List MTmsiId
  mmeUes : Pool MmeUeKeys
  enbs : Pool MmeEnbKeys
  imsiUeHash : List (KeyTable.Entry UInt32 ImsiKey MmeUeId)
  gutiUeHash : List (KeyTable.Entry UInt32 MmeUeId MmeUeId)
  enbIdHash : List (KeyTable.Entry UInt32 MmeEnbId MmeEnbId)

/-! ## The pool of M-TMSIs -/

/-- A random value made into an M-TMSI that a mapped GUTI can have. -/
def mTmsiOfRandom (random : UInt32) : UInt32 := (random ||| 0xc0000000) &&& 0xff00ffff

/-- The loop of `mme_m_tmsi_pool_generate`: a value that the array has already is drawn
again. `random` is what `ogs_random32` returns from the i-th call on. -/
def mmeMTmsiPoolGenerateFrom (random : Nat → UInt32) (poolUe : Nat) :
    Nat → Nat → List UInt32 → Option (List UInt32)
  | 0, _, _ => none
  | fuel + 1, i, array =>
    if array.length < poolUe then
      let mTmsi := mTmsiOfRandom (random i)
      if mTmsi ∈ array then mmeMTmsiPoolGenerateFrom random poolUe fuel (i + 1) array
      else mmeMTmsiPoolGenerateFrom random poolUe fuel (i + 1) (array ++ [mTmsi])
    else some array

def mmeMTmsiPoolGenerate (random : Nat → UInt32) (poolUe fuel : Nat) : Option (List UInt32) :=
  mmeMTmsiPoolGenerateFrom random poolUe fuel 0 []

namespace MmeTables

/-- The context after the M-TMSIs were generated, with cleared memory. -/
def initial (servedGummei : OgsNasGuti) (mTmsi : List UInt32) : MmeTables where
  servedGummei := servedGummei
  mTmsi := mTmsi
  mTmsiFree := List.range mTmsi.length
  mmeUes := Pool.unused fun _ => ⟨Vector.replicate _ 0, 0, ⟨Vector.replicate _ 0, 0, 0, 0⟩, none⟩
  enbs := Pool.unused fun _ => ⟨0, false⟩
  imsiUeHash := []
  gutiUeHash := []
  enbIdHash := []

/-- `mme_m_tmsi_free` -/
def mmeMTmsiFree [OgsPool] (s : MmeTables) (mTmsi : MTmsiId) : MmeTables :=
  { s with mTmsiFree := OgsPool.free s.mTmsi.length s.mTmsiFree mTmsi }

/-- `ogs_pool_alloc` takes one from the list. -/
def mmeMTmsiAlloc (s : MmeTables) (mTmsi : MTmsiId) : MmeM MmeTables := do
  Fallible.assert .mmeContext (mTmsi ∈ s.mTmsiFree)
  .ok { s with mTmsiFree := s.mTmsiFree.erase mTmsi }

/-! ## What the keys of the entries point to -/

def imsiKey (s : MmeTables) (key : ImsiKey) : Bytes :=
  (s.mmeUes.mem key.1).imsi.toList.take key.2

def gutiKey (s : MmeTables) (ue : MmeUeId) : OgsNasGuti := (s.mmeUes.mem ue).guti

def enbIdKey (s : MmeTables) (enb : MmeEnbId) : UInt32 := (s.enbs.mem enb).enbId

section
variable [OgsHash] (s : MmeTables)

/-! ## UEs -/

/-- The part of `mme_ue_new_guti` and of `mme_ue_remove` for a UE that has an M-TMSI. The
pointer to it stays in the record. -/
def removeGuti (ue : MmeUeId) : MmeTables :=
  match (s.mmeUes.mem ue).mTmsi with
  | some old =>
    { s with
      gutiUeHash :=
        KeyTable.unset s.gutiKey OgsHash.guti s.gutiUeHash (s.gutiKey ue) }.mmeMTmsiFree old
  | none => s

def mmeUeNewGuti (ue : MmeUeId) (mTmsi : MTmsiId) : MmeM MmeTables := do
  let s := s.removeGuti ue
  let s ← s.mmeMTmsiAlloc mTmsi
  let guti := { s.servedGummei with mTmsi := s.mTmsi.getD mTmsi 0 }
  let s := { s with
    mmeUes := s.mmeUes.modify ue fun m => { m with guti := guti, mTmsi := some mTmsi } }
  .ok { s with gutiUeHash := KeyTable.set s.gutiKey OgsHash.guti s.gutiUeHash ue ue }

omit [OgsHash] in
/-- `ogs_pool_alloc` of `mme_ue_pool` -/
def allocMmeUe (ue : MmeUeId) : MmeTables := { s with mmeUes := s.mmeUes.alloc ue }

def mmeUeAdd (ue : MmeUeId) (mTmsi : MTmsiId) : MmeM MmeTables :=
  (s.allocMmeUe ue).mmeUeNewGuti ue mTmsi

def mmeUeRemove (ue : MmeUeId) : MmeTables :=
  let s := s.removeGuti ue
  let s :=
    if (s.mmeUes.mem ue).imsiLen ≠ 0 then
      { s with
        imsiUeHash := KeyTable.unset s.imsiKey OgsHash.imsi s.imsiUeHash
          (s.imsiKey (ue, (s.mmeUes.mem ue).imsiLen)) }
    else s
  { s with mmeUes := s.mmeUes.free ue }

/-- `ogs_bcd_to_buffer` writes the octets of the IMSI and leaves those after them. -/
def overwrite (old : Vector UInt8 maxImsiLen) (imsi : Bytes) : Vector UInt8 maxImsiLen :=
  Vector.ofFn fun i => imsi.getD i (old.get i)

/-- `mme_ue_set_imsi`, with the octets that the digits are turned into. -/
def mmeUeSetImsi (ue : MmeUeId) (imsi : Bytes) : MmeTables :=
  let s := { s with
    mmeUes := s.mmeUes.modify ue fun m =>
      { m with imsi := overwrite m.imsi imsi, imsiLen := imsi.length } }
  { s with
    imsiUeHash := KeyTable.set s.imsiKey OgsHash.imsi s.imsiUeHash (ue, imsi.length) ue }

def mmeUeFindByImsi (imsi : Bytes) : Option MmeUeId :=
  KeyTable.get s.imsiKey OgsHash.imsi s.imsiUeHash imsi

def mmeUeFindByGuti (guti : OgsNasGuti) : Option MmeUeId :=
  KeyTable.get s.gutiKey OgsHash.guti s.gutiUeHash guti

/-! ## eNBs -/

omit [OgsHash] in
def mmeEnbAdd (enb : MmeEnbId) : MmeTables :=
  { s with enbs := (s.enbs.alloc enb).modify enb fun m => { m with idSet := false } }

def mmeEnbSetEnbId (enb : MmeEnbId) (enbId : UInt32) : MmeTables :=
  let s := { s with enbs := s.enbs.modify enb fun _ => ⟨enbId, true⟩ }
  { s with enbIdHash := KeyTable.set s.enbIdKey OgsHash.enbId s.enbIdHash enb enb }

/-- The identity is removed from the table also if the eNB never sent one. -/
def mmeEnbRemove (enb : MmeEnbId) : MmeTables :=
  { s with
    enbIdHash := KeyTable.unset s.enbIdKey OgsHash.enbId s.enbIdHash (s.enbIdKey enb)
    enbs := s.enbs.free enb }

def mmeEnbFindByEnbId (enbId : UInt32) : Option MmeEnbId :=
  KeyTable.get s.enbIdKey OgsHash.enbId s.enbIdHash enbId

end

/-! ## Runs -/

inductive Op
  | mmeUeAdd (ue : MmeUeId) (mTmsi : MTmsiId)
  | mmeUeNewGuti (ue : MmeUeId) (mTmsi : MTmsiId)
  | mmeUeRemove (ue : MmeUeId)
  | mmeUeSetImsi (ue : MmeUeId) (imsi : Bytes)
  | mmeEnbAdd (enb : MmeEnbId)
  | mmeEnbSetEnbId (enb : MmeEnbId) (enbId : UInt32)
  | mmeEnbRemove (enb : MmeEnbId)
  deriving DecidableEq, Repr

/-- A record is added in a free slot, and the other operations are on records in use. The
callers of `mme_ue_set_imsi` pass at least one digit, and it keeps at most fifteen. -/
inductive Step [OgsHash] : MmeTables → Op → MmeTables → Prop
  | mmeUeAdd {s t : MmeTables} {ue : MmeUeId} {mTmsi : MTmsiId} :
    s.mmeUes.live ue = false → s.mmeUeAdd ue mTmsi = .ok t → Step s (.mmeUeAdd ue mTmsi) t
  | mmeUeNewGuti {s t : MmeTables} {ue : MmeUeId} {mTmsi : MTmsiId} :
    s.mmeUes.live ue = true → s.mmeUeNewGuti ue mTmsi = .ok t →
    Step s (.mmeUeNewGuti ue mTmsi) t
  | mmeUeRemove {s : MmeTables} {ue : MmeUeId} :
    s.mmeUes.live ue = true → Step s (.mmeUeRemove ue) (s.mmeUeRemove ue)
  | mmeUeSetImsi {s : MmeTables} {ue : MmeUeId} {imsi : Bytes} :
    s.mmeUes.live ue = true → imsi ≠ [] → imsi.length ≤ maxImsiLen →
    Step s (.mmeUeSetImsi ue imsi) (s.mmeUeSetImsi ue imsi)
  | mmeEnbAdd {s : MmeTables} {enb : MmeEnbId} :
    s.enbs.live enb = false → Step s (.mmeEnbAdd enb) (s.mmeEnbAdd enb)
  | mmeEnbSetEnbId {s : MmeTables} {enb : MmeEnbId} {enbId : UInt32} :
    s.enbs.live enb = true → Step s (.mmeEnbSetEnbId enb enbId) (s.mmeEnbSetEnbId enb enbId)
  | mmeEnbRemove {s : MmeTables} {enb : MmeEnbId} :
    s.enbs.live enb = true → Step s (.mmeEnbRemove enb) (s.mmeEnbRemove enb)

end MmeTables
end NextEpc
