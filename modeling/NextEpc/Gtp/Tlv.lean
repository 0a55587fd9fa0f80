import NextEpc.Gtp.Xact

/-!
# TLV messages

The codec of `lib/gtp/tlv.c`. A descriptor tree says how a message is laid out in memory;
the builder walks over the message and adds a TLV for every present member, the parser walks
over the received TLVs and stores each into the member that its type and instance name. The
two walks compute the offsets of the members independently.

A message is a map from addresses to the leaf structures that lie there, all of which start
with the presence flag. The octets that a `data` pointer gives access to are kept with the
pointer. Offsets stay far below the bounds of the integers that hold them: a descriptor has
at most 128 members of less than 64 kB, repeated at most 8 times.
-/

namespace NextEpc

inductive TlvSite
  | addLeaf
  | addCompound
  | buildMsg
  | findDesc
  | parseLeaf
  | parseCompound
  | parseMsg
  deriving DecidableEq, Repr

abbrev TlvM := Fallible TlvSite

/-! ## Descriptors and messages -/

/-- `ogs_tlv_type_e` -/
inductive TlvType
  | uint8
  | uint16
  | uint24
  | uint32
  | int8
  | int16
  | int24
  | int32
  | fixedStr
  | varStr
  | null
  | more
  | compound
  | message
  deriving DecidableEq, Repr

/-- `ogs_tlv_desc_t`; `inst` is the field `instance`. -/
structure TlvDesc where
  ctype : TlvType
  type : Nat
  length : Nat
  inst : Nat
  vsize : Nat
  childDescs : List TlvDesc

/-- `ogs_tlv_desc_more1`, `ogs_tlv_desc_more2`, ... -/
def ogsTlvDescMore (n : Nat) : TlvDesc := ⟨.more, 0, n, 0, 0, []⟩

/-- `sizeof(ogs_tlv_presence_t)` -/
def tlvPresenceSize : Nat := 8

/-- The fields of the leaf structures, seen from one address. `u32` is also the field `u24`;
a null pointer gives access to no octet. -/
structure TlvCell where
  presence : Bool := false
  u8 : UInt8 := 0
  u16 : UInt16 := 0
  u32 : UInt32 := 0
  data : Bytes := []
  len : Nat := 0
  deriving DecidableEq

/-- A message in memory, by offset. -/
abbrev TlvMsg := Nat → TlvCell

/-- A message whose memory has been cleared. -/
def TlvMsg.zeroed : TlvMsg := fun _ => {}

namespace TlvMsg

def set (msg : TlvMsg) (a : Nat) (cell : TlvCell) : TlvMsg := Function.update msg a cell

/-- `*presence_p = 1` -/
def setPresence (msg : TlvMsg) (a : Nat) : TlvMsg := msg.set a { msg a with presence := true }

theorem set_apply (msg : TlvMsg) (a b : Nat) (cell : TlvCell) :
    msg.set a cell b = if b = a then cell else msg b := by
  simp [set, Function.update_apply]

@[simp] theorem set_self (msg : TlvMsg) (a : Nat) (cell : TlvCell) : msg.set a cell a = cell := by
  simp [set_apply]

end TlvMsg

/-! ## What the codec uses of ogslib -/

/-- An element of a received block. -/
structure Tlv where
  type : Nat
  inst : Nat
  value : Bytes
  deriving DecidableEq, Repr

def Tlv.length (tlv : Tlv) : Nat := tlv.value.length

/-- An element made by `ogs_tlv_add` or `ogs_tlv_embed`, with those embedded in it. -/
structure TlvNode where
  type : Nat
  inst : Nat
  value : Bytes
  embedded : List TlvNode

/-- `ogs_tlv_render` and `ogs_tlv_parse_block` for one mode; a null block has no element. -/
class OgsTlv where
  render : List Tlv → Bytes
  parseBlock : Bytes → List Tlv

/-- The mode with one octet for the type, two for the length and one for the instance. -/
def OgsTlv.renderT1L2I1 (l : List Tlv) : Bytes :=
  l.flatMap fun tlv => UInt8.ofNat tlv.type :: Octets.htons tlv.length ++
    UInt8.ofNat tlv.inst :: tlv.value

def OgsTlv.parseT1L2I1 : Nat → Bytes → List Tlv
  | n + 1, type :: hi :: lo :: inst :: rest =>
    let length := hi.toNat * 2 ^ 8 + lo.toNat
    if rest.length < length then []
    else ⟨type.toNat, inst.toNat, rest.take length⟩ :: parseT1L2I1 n (rest.drop length)
  | _, _ => []

/-- An implementation of `OgsTlv`, for runs on concrete inputs. -/
@[reducible] def OgsTlv.reference : OgsTlv where
  render := OgsTlv.renderT1L2I1
  parseBlock data := OgsTlv.parseT1L2I1 data.length data

/-- `ogs_tlv_parse_embedded_block` -/
def Tlv.block [OgsTlv] (tlv : Tlv) : List Tlv := OgsTlv.parseBlock tlv.value

mutual

/-- An element as it is rendered: the value of a compound is the block embedded in it. -/
def TlvNode.tlv [OgsTlv] : TlvNode → Tlv
  | ⟨type, inst, value, []⟩ => ⟨type, inst, value⟩
  | ⟨type, inst, _, node :: nodes⟩ => ⟨type, inst, OgsTlv.render (node.tlv :: tlvs nodes)⟩

def tlvs [OgsTlv] : List TlvNode → List Tlv
  | [] => []
  | node :: nodes => node.tlv :: tlvs nodes

end

/-! ## Building -/

/-- `n` octets behind a `data` pointer. -/
def TlvCell.read (cell : TlvCell) (n : Nat) : TlvM Bytes :=
  if n ≤ cell.data.length then .ok (cell.data.take n) else .error .outOfBounds

/-- `tlv_add_leaf`: the structure as the builder leaves it, and the new element. -/
def tlvAddLeaf (desc : TlvDesc) (cell : TlvCell) : TlvM (TlvCell × TlvNode) :=
  match desc.ctype with
  | .uint8 | .int8 => return (cell, ⟨desc.type, desc.inst, [cell.u8], []⟩)
  | .uint16 =>
    let cell := { cell with u16 := Octets.swap16 cell.u16 }
    return (cell, ⟨desc.type, desc.inst, Octets.host16 cell.u16, []⟩)
  | .uint24 | .int24 =>
    let cell := { cell with u32 := cell.u32 <<< 8 }
    let cell := { cell with u32 := Octets.swap32 cell.u32 }
    return (cell, ⟨desc.type, desc.inst, (Octets.host32 cell.u32).take 3, []⟩)
  | .uint32 | .int32 =>
    let cell := { cell with u32 := Octets.swap32 cell.u32 }
    return (cell, ⟨desc.type, desc.inst, Octets.host32 cell.u32, []⟩)
  | .fixedStr => do return (cell, ⟨desc.type, desc.inst, ← cell.read desc.length, []⟩)
  | .varStr => do
    Fallible.assert .addLeaf (0 < cell.len)
    return (cell, ⟨desc.type, desc.inst, ← cell.read cell.len, []⟩)
  | .null => return (cell, ⟨desc.type, desc.inst, [], []⟩)
  | _ => throw (.assert .addLeaf)

/-- A member that is present: the message, its element and the number of elements made.
`compound` builds the block of a compound at an address. -/
def tlvAddMember (compound : List TlvDesc → TlvMsg → Nat → TlvM (TlvMsg × List TlvNode × Nat))
    (desc : TlvDesc) (msg : TlvMsg) (a : Nat) : TlvM (TlvMsg × TlvNode × Nat) :=
  if desc.ctype = .compound then do
    let (msg, embTlv, r) ← compound desc.childDescs msg (a + tlvPresenceSize)
    Fallible.assert .addCompound (0 < r ∧ embTlv ≠ [])
    return (msg, ⟨desc.type, desc.inst, [], embTlv⟩, 1 + r)
  else do
    let (cell, tlv) ← tlvAddLeaf desc (msg a)
    return (msg.set a cell, tlv, 1)

section
variable (compound : List TlvDesc → TlvMsg → Nat → TlvM (TlvMsg × List TlvNode × Nat))

/-- The members of an array, up to the first one that is not present. -/
def tlvAddMore (desc : TlvDesc) : Nat → TlvMsg → Nat → TlvM (TlvMsg × List TlvNode × Nat)
  | 0, msg, _ => return (msg, [], 0)
  | n + 1, msg, a =>
    if (msg a).presence = false then return (msg, [], 0)
    else do
      let (msg, tlv, count) ← tlvAddMember compound desc msg a
      let (msg, tlvs, count') ← tlvAddMore desc n msg (a + desc.vsize)
      return (msg, tlv :: tlvs, count + count')

def tlvAddOne (desc : TlvDesc) (msg : TlvMsg) (a : Nat) : TlvM (TlvMsg × List TlvNode × Nat) :=
  if (msg a).presence = true then do
    let (msg, tlv, count) ← tlvAddMember compound desc msg a
    return (msg, [tlv], count)
  else return (msg, [], 0)

/-- The loop of `tlv_add_compound` over the members from an offset on. -/
def tlvAddMembers (p : Nat) : Nat → List TlvDesc → TlvMsg → TlvM (TlvMsg × List TlvNode × Nat)
  | _, [], msg => return (msg, [], 0)
  | offset, [desc], msg => tlvAddOne compound desc msg (p + offset)
  | offset, desc :: next :: descs, msg =>
    if next.ctype = .more then do
      let (msg, tlvs, count) ← tlvAddMore compound desc next.length msg (p + offset)
      let (msg, tlvs', count') ← tlvAddMembers p (offset + desc.vsize * next.length) descs msg
      return (msg, tlvs ++ tlvs', count + count')
    else do
      let (msg, tlvs, count) ← tlvAddOne compound desc msg (p + offset)
      let (msg, tlvs', count') ← tlvAddMembers p (offset + desc.vsize) (next :: descs) msg
      return (msg, tlvs ++ tlvs', count + count')

end

/-- The number of nested blocks that `depth <= 8` allows. -/
def tlvLevels : Nat := 9

/-- `tlv_add_compound`, with the number of levels that are left in place of the depth. -/
def tlvAddCompound : Nat → List TlvDesc → TlvMsg → Nat → TlvM (TlvMsg × List TlvNode × Nat)
  | 0, _, _, _ => throw (.assert .addCompound)
  | levels + 1, descs, msg, p => tlvAddMembers (tlvAddCompound levels) p 0 descs msg

def ogsTlvBuildMsg [OgsTlv] (desc : TlvDesc) (msg : TlvMsg) : TlvM (TlvMsg × Bytes) := do
  Fallible.assert .buildMsg (desc.ctype = .message)
  Fallible.assert .buildMsg (desc.childDescs ≠ [])
  let (msg, root, r) ← tlvAddCompound tlvLevels desc.childDescs msg 0
  Fallible.assert .buildMsg (0 < r ∧ root ≠ [])
  return (msg, OgsTlv.render (tlvs root))

/-! ## Parsing -/

def TlvDesc.names (desc : TlvDesc) (tlv : Tlv) : Bool := desc.type = tlv.type ∧ desc.inst = tlv.inst

/-- `tlv_find_desc`: the index, the offset and the descriptor of the member that an element
is for. -/
def tlvFindDesc (tlv : Tlv) : Nat → Nat → Option TlvDesc → List TlvDesc →
    TlvM (Option (Nat × Nat × TlvDesc))
  | _, _, _, [] => return none
  | i, offset, prevDesc, desc :: descs =>
    if desc.names tlv = true then return some (i, offset, desc)
    else if desc.ctype = .more then do
      let prev ← Fallible.assertSome .findDesc prevDesc
      Fallible.assert .findDesc (prev.ctype ≠ .more)
      -- the length may be 0, so that the difference is taken of the offset
      tlvFindDesc tlv (i + 1) (offset + prev.vsize * desc.length - prev.vsize) (some desc) descs
    else tlvFindDesc tlv (i + 1) (offset + desc.vsize) (some desc) descs

/-- `tlv_parse_leaf`: the structure is written only if the length is right. -/
def tlvParseLeaf (cell : TlvCell) (desc : TlvDesc) (tlv : Tlv) : TlvM (TlvCell × Rv) :=
  match desc.ctype with
  | .uint8 | .int8 =>
    match tlv.value with
    | [a] => return ({ cell with u8 := a }, .ok)
    | _ => return (cell, .error)
  | .uint16 | .int16 =>
    match tlv.value with
    | [a, b] => return ({ cell with u16 := UInt16.ofNat (a.toNat * 2 ^ 8 + b.toNat) }, .ok)
    | _ => return (cell, .error)
  | .uint24 | .int24 =>
    match tlv.value with
    | [a, b, c] =>
      return ({ cell with
        u32 := UInt32.ofNat (a.toNat * 2 ^ 16 + b.toNat * 2 ^ 8 + c.toNat) }, .ok)
    | _ => return (cell, .error)
  | .uint32 | .int32 =>
    match tlv.value with
    | [a, b, c, d] =>
      return ({ cell with
        u32 := UInt32.ofNat (a.toNat * 2 ^ 24 + b.toNat * 2 ^ 16 + c.toNat * 2 ^ 8 + d.toNat) },
        .ok)
    | _ => return (cell, .error)
  | .fixedStr =>
    if tlv.length ≠ desc.length then return (cell, .error)
    else return ({ cell with data := tlv.value, len := tlv.length }, .ok)
  | .varStr => return ({ cell with data := tlv.value, len := tlv.length }, .ok)
  | .null => if tlv.length ≠ 0 then return (cell, .error) else return (cell, .ok)
  | _ => throw (.assert .parseLeaf)

/-- The first member of an array that is not present. -/
def tlvFindRoom (msg : TlvMsg) (a vsize length : Nat) : Option Nat :=
  (List.range length).find? fun j => (msg (a + vsize * j)).presence = false

section
variable [OgsTlv] (compound : List TlvDesc → TlvMsg → Nat → List Tlv → TlvM (TlvMsg × Rv))
  (descs : List TlvDesc) (p : Nat)

/-- The offset of the structure for an element: behind `More`, that of the first member of
the array that is not present. -/
def tlvRoomOffset (msg : TlvMsg) (index offset : Nat) (desc : TlvDesc) : TlvM Nat :=
  match descs[index + 1]? with
  | none => return offset
  | some nextDesc =>
    if nextDesc.ctype = .more then do
      let j ← Fallible.assertSome .parseCompound
        (tlvFindRoom msg (p + offset) desc.vsize nextDesc.length)
      return offset + desc.vsize * j
    else return offset

/-- Store an element at an address. `compound` parses the block of a compound into the
members at an address. -/
def tlvParseInto (msg : TlvMsg) (a : Nat) (desc : TlvDesc) (tlv : Tlv) : TlvM (TlvMsg × Rv) :=
  if desc.ctype = .compound then
    if tlv.block = [] then return (msg, .error)
    else do
      let (msg, rv) ← compound desc.childDescs msg (a + tlvPresenceSize) tlv.block
      if rv ≠ .ok then return (msg, .error) else return (msg.setPresence a, .ok)
  else do
    let (cell, rv) ← tlvParseLeaf (msg a) desc tlv
    let msg := msg.set a cell
    if rv ≠ .ok then return (msg, .error) else return (msg.setPresence a, .ok)

/-- The body of the loop of `tlv_parse_compound`. -/
def tlvParseMember (msg : TlvMsg) (tlv : Tlv) : TlvM (TlvMsg × Rv) := do
  match ← tlvFindDesc tlv 0 0 none descs with
  | none => return (msg, .error)
  | some (index, offset, desc) =>
    let offset ← tlvRoomOffset descs p msg index offset desc
    tlvParseInto compound msg (p + offset) desc tlv

def tlvParseMembers : TlvMsg → List Tlv → TlvM (TlvMsg × Rv)
  | msg, [] => return (msg, .ok)
  | msg, tlv :: tlvs => do
    let (msg, rv) ← tlvParseMember compound descs p msg tlv
    if rv ≠ .ok then return (msg, rv) else tlvParseMembers msg tlvs

end

/-- `tlv_parse_compound`, with the number of levels that are left in place of the depth. -/
def tlvParseCompound [OgsTlv] : Nat → List TlvDesc → TlvMsg → Nat → List Tlv → TlvM (TlvMsg × Rv)
  | 0, _, _, _, _ => throw (.assert .parseCompound)
  | levels + 1, descs, msg, p, tlvs => do
    Fallible.assert .parseCompound (tlvs ≠ [])
    tlvParseMembers (tlvParseCompound levels) descs p msg tlvs

def ogsTlvParseMsg [OgsTlv] (msg : TlvMsg) (desc : TlvDesc) (pkbuf : Bytes) :
    TlvM (TlvMsg × Rv) := do
  Fallible.assert .parseMsg (desc.ctype = .message)
  Fallible.assert .parseMsg (desc.childDescs ≠ [])
  let root := OgsTlv.parseBlock pkbuf
  if root = [] then return (msg, .error)
  else tlvParseCompound tlvLevels desc.childDescs msg 0 root

end NextEpc
