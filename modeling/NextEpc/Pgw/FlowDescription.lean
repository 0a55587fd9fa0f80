import NextEpc.Lib.Fallible
import NextEpc.Pgw.Tft

/-!
# Flow descriptions

`pgw_compile_packet_filter` copies the words of a description to an array of 32 pointers, the first
of which is not used, and compares the first two words before it knows that they are there. The
rule is read from the instructions that `compile_rule` makes of the words, which is vendored and
stands here for any function with one instruction for each component of the description. Of a list
of addresses or ports the first entry is read, and neither `not` nor `or` is.
-/

namespace NextEpc

/-- `MAX_NUM_OF_TOKEN` -/
def maxNumOfToken : Nat := 32

/-- The places of the assertions. -/
inductive IpfwSite
  | description
  deriving DecidableEq, Repr

abbrev IpfwM := Fallible IpfwSite

/-- `av[i++] = token`, with the tokens from `av[1]` on. -/
def pushToken (av : List Bytes) (token : Bytes) : IpfwM (List Bytes) :=
  if av.length + 1 < maxNumOfToken then .ok (av ++ [token]) else .error .outOfBounds

/-- `strcmp` of a token with a word. A token that is not there is NULL. -/
def tokenIs (token : Option Bytes) (word : Bytes) : IpfwM Bool :=
  match token with
  | none => .error .dangling
  | some octets => .ok (octets == word)

/-- `pgw_compile_packet_filter` with the accesses to memory: `none` is `OGS_ERROR`. -/
def compilePacketFilter (compileRule : List Bytes → List IpfwInsn) (description : CString) :
    IpfwM (Option PgwRule) := do
  let words := tokens description.octets
  if !(← tokenIs words[0]? permit) then .ok none
  else if !(← tokenIs words[1]? out) then .ok none
  else
    let av ← (words.drop 2).foldlM pushToken [permit]
    let av ← pushToken av out
    -- the pointer that ends the array
    if av.length + 1 < maxNumOfToken then
      let rule := (compileRule av).foldl PgwRule.interpret .blank
      .ok (if rule = .blank then none else some rule)
    else .error .outOfBounds

/-! ## What a description says -/

/-- The addresses of one side with their masks, of which all bits are set where none was given. `me`,
a table or a set of addresses in a subnet is a special one. -/
inductive FlowAddr
  | ipv4 (addr mask : UInt32) (more : List (UInt32 × UInt32))
  | ipv6 (addr mask : Vector UInt32 4) (more : List PgwIp)
  | special
  deriving DecidableEq

/-- What a component of a description restricts. -/
inductive FlowRestriction
  | proto (number : UInt16)
  | src (addr : FlowAddr)
  | dst (addr : FlowAddr)
  | srcport (range : PgwPort) (more : List PgwPort)
  | dstport (range : PgwPort) (more : List PgwPort)
  | option
  deriving DecidableEq

/-- A component, with `not` in front of it or `or` behind it. -/
structure FlowComponent where
  restriction : FlowRestriction
  negated : Bool
  alternative : Bool
  deriving DecidableEq

/-- The fields of a rule. -/
inductive FlowField
  | proto
  | src
  | dst
  | srcport
  | dstport
  deriving DecidableEq

namespace FlowAddr

/-- A single address goes without its mask. -/
def srcOpcode : FlowAddr → IpfwOpcode
  | ipv4 addr mask more =>
    if mask = 0xffffffff ∧ more = [] then .ipSrc addr else .ipSrcMask addr mask more
  | ipv6 addr mask more =>
    if mask = n2mask 128 ∧ more = [] then .ip6Src addr else .ip6SrcMask addr mask more
  | special => .other

def dstOpcode : FlowAddr → IpfwOpcode
  | ipv4 addr mask more =>
    if mask = 0xffffffff ∧ more = [] then .ipDst addr else .ipDstMask addr mask more
  | ipv6 addr mask more =>
    if mask = n2mask 128 ∧ more = [] then .ip6Dst addr else .ip6DstMask addr mask more
  | special => .other

/-- One address with its mask -/
def Single : FlowAddr → Prop
  | ipv4 _ _ more => more = []
  | ipv6 _ _ more => more = []
  | special => False

end FlowAddr

namespace FlowRestriction

def opcode : FlowRestriction → IpfwOpcode
  | proto number => .proto number
  | src addr => addr.srcOpcode
  | dst addr => addr.dstOpcode
  | srcport range more => .ipSrcport range more
  | dstport range more => .ipDstport range more
  | option => .other

/-- The field of the rule that a restriction is for. -/
def field : FlowRestriction → Option FlowField
  | proto _ => some .proto
  | src _ => some .src
  | dst _ => some .dst
  | srcport .. => some .srcport
  | dstport .. => some .dstport
  | option => none

/-- A protocol is an octet of the rule, and there is room for one entry of a list. -/
def Single : FlowRestriction → Prop
  | proto number => number < 256
  | src addr | dst addr => addr.Single
  | srcport _ more | dstport _ more => more = []
  | option => True

/-- The rule with a single restriction: the source is the local side. -/
def rule? : FlowRestriction → Option PgwRule
  | proto number =>
    if number < 256 then some { PgwRule.blank with proto := number.toUInt8 } else none
  | src (.ipv4 addr mask []) =>
    some { PgwRule.blank with ipv4Local := true, ipLocal := PgwIp.blank.setIpv4 addr mask }
  | src (.ipv6 addr mask []) =>
    some { PgwRule.blank with ipv6Local := true, ipLocal := ⟨addr, mask⟩ }
  | dst (.ipv4 addr mask []) =>
    some { PgwRule.blank with ipv4Remote := true, ipRemote := PgwIp.blank.setIpv4 addr mask }
  | dst (.ipv6 addr mask []) =>
    some { PgwRule.blank with ipv6Remote := true, ipRemote := ⟨addr, mask⟩ }
  | srcport range [] => some { PgwRule.blank with portLocal := range }
  | dstport range [] => some { PgwRule.blank with portRemote := range }
  | _ => none

/-- Written to a rule, the restriction leaves the field as it is in a blank one. -/
def Zero : FlowRestriction → Prop
  | proto number => number % 256 = 0
  | srcport range _ | dstport range _ => range = ⟨0, 0⟩
  | _ => False

end FlowRestriction

def FlowComponent.insn (c : FlowComponent) : IpfwInsn :=
  ⟨c.restriction.opcode, c.negated, c.alternative⟩

/-- The field of the rule that an instruction writes. -/
def IpfwInsn.field (insn : IpfwInsn) : Option FlowField :=
  match insn.opcode with
  | .proto _ => some .proto
  | .ipSrc _ | .ipSrcMask .. | .ip6Src _ | .ip6SrcMask .. => some .src
  | .ipDst _ | .ipDstMask .. | .ip6Dst _ | .ip6DstMask .. => some .dst
  | .ipSrcport .. => some .srcport
  | .ipDstport .. => some .dstport
  | .other => none

/-- The rule with one of its fields. -/
def PgwRule.only (rule : PgwRule) : FlowField → PgwRule
  | .proto => { PgwRule.blank with proto := rule.proto }
  | .src => { PgwRule.blank with
      ipv4Local := rule.ipv4Local, ipv6Local := rule.ipv6Local, ipLocal := rule.ipLocal }
  | .dst => { PgwRule.blank with
      ipv4Remote := rule.ipv4Remote, ipv6Remote := rule.ipv6Remote, ipRemote := rule.ipRemote }
  | .srcport => { PgwRule.blank with portLocal := rule.portLocal }
  | .dstport => { PgwRule.blank with portRemote := rule.portRemote }

/-- `compile_rule` emits one instruction for each component, those for one field in the order of the
components. Between them are any others. -/
def EmitsComponents (compileRule : List Bytes → List IpfwInsn)
    (components : List Bytes → List FlowComponent) : Prop :=
  ∀ av field, (compileRule av).filter (·.field = some field) =
    ((components av).map FlowComponent.insn).filter (·.field = some field)

/-- What a description says of a field, if a rule can say it. -/
def described (components : List FlowComponent) (field : FlowField) : Option PgwRule :=
  match components.filter (·.restriction.field = some field) with
  | [] => some .blank
  | [c] => if c.negated then none else c.restriction.rule?
  | _ => none

/-- The rule has the fields of the description, of which no component is only an alternative. -/
def PgwRule.Says (rule : PgwRule) (components : List FlowComponent) : Prop :=
  (∀ c ∈ components, c.alternative = false) ∧
    ∀ field, described components field = some (rule.only field)

/-- The words of a description with the direction at the end. -/
def flowWords (description : CString) : List Bytes :=
  permit :: ((tokens description.octets).drop 2 ++ [out])

/-- The compilation returns, with the rule that the handlers of Gx work with, and a rule that it
gives has the fields of the description. -/
def CompilesWell (compileRule : List Bytes → List IpfwInsn)
    (components : List Bytes → List FlowComponent) (description : CString) : Prop :=
  ∃ result, compilePacketFilter compileRule description = .ok result ∧
    pgwCompilePacketFilter (fun av => some (compileRule av)) description = result ∧
      ∀ rule, result = some rule → rule.Says (components (flowWords description))

/-- The words that are compared are there, and not too many follow those of a filter. -/
def WordsFit : List Bytes → Prop
  | [] => False
  | [action] => action ≠ permit
  | action :: dir :: rest => action = permit → dir = out → rest.length ≤ 28

/-- Each field has at most one component, of one entry. None is negated or an alternative. -/
structure Plain (components : List FlowComponent) : Prop where
  nodup : (components.filterMap (·.restriction.field)).Nodup
  alternative : ∀ c ∈ components, c.alternative = false
  negated : ∀ c ∈ components, c.restriction.field ≠ none → c.negated = false
  single : ∀ c ∈ components, c.restriction.Single

/-- The last component for each field restricts nothing, and there is no address that is read. -/
def SaysNothing (components : List FlowComponent) : Prop :=
  ∀ field c, (components.filter (·.insn.field = some field)).getLast? = some c → c.restriction.Zero

/-! ## Fields of a rule -/

namespace PgwRule

/-- A rule is what its fields are. -/
theorem ext_only {a b : PgwRule} (h : ∀ field, a.only field = b.only field) : a = b := by
  obtain ⟨⟩ := a
  obtain ⟨⟩ := b
  have hproto := h .proto
  have hsrc := h .src
  have hdst := h .dst
  have hsrcport := h .srcport
  have hdstport := h .dstport
  simp only [only, mk.injEq] at hproto hsrc hdst hsrcport hdstport
  simp only [hproto, hsrc, hdst, hsrcport, hdstport]

theorem only_blank (field : FlowField) : PgwRule.blank.only field = .blank := by
  cases field <;> rfl

theorem only_interpret_of_ne (rule : PgwRule) {insn : IpfwInsn} {field : FlowField}
    (h : insn.field ≠ some field) : (rule.interpret insn).only field = rule.only field := by
  obtain ⟨opcode, fNot, fOr⟩ := insn
  cases opcode <;> cases field <;> first | rfl | exact absurd rfl h

theorem only_interpret_of_eq (rule : PgwRule) {insn : IpfwInsn} {field : FlowField}
    (h : insn.field = some field) :
    (rule.interpret insn).only field = (rule.only field).interpret insn := by
  obtain ⟨opcode, fNot, fOr⟩ := insn
  cases opcode <;> cases h <;> rfl

/-- A field comes from the instructions for it. -/
theorem only_foldl (insns : List IpfwInsn) (rule : PgwRule) (field : FlowField) :
    (insns.foldl interpret rule).only field =
      (insns.filter (·.field = some field)).foldl interpret (rule.only field) := by
  induction insns generalizing rule with
  | nil => rfl
  | cons insn insns ih =>
    rw [List.foldl_cons, ih]
    by_cases hfield : insn.field = some field
    · rw [only_interpret_of_eq rule hfield, List.filter_cons_of_pos (by simpa using hfield),
        List.foldl_cons]
    · rw [only_interpret_of_ne rule hfield, List.filter_cons_of_neg (by simpa using hfield)]

end PgwRule

variable {compileRule : List Bytes → List IpfwInsn}
  {components : List Bytes → List FlowComponent} {description : CString}

/-- The rule of the instructions is that of the components. -/
theorem EmitsComponents.foldl (h : EmitsComponents compileRule components) (av : List Bytes) :
    (compileRule av).foldl PgwRule.interpret .blank =
      ((components av).map FlowComponent.insn).foldl PgwRule.interpret .blank := by
  apply PgwRule.ext_only
  intro field
  rw [PgwRule.only_foldl, PgwRule.only_foldl, h av field]

namespace FlowComponent

/-- An instruction writes the field of its component, or none for an address that is special. -/
theorem field_insn (c : FlowComponent) :
    c.insn.field = c.restriction.field ∨ c.insn.field = none := by
  obtain ⟨restriction, negated, alternative⟩ := c
  cases restriction with
  | src addr =>
    rcases addr with ⟨addr, mask, more⟩ | ⟨addr, mask, more⟩ | _
    · left
      simp only [insn, FlowRestriction.opcode, FlowAddr.srcOpcode, IpfwInsn.field]
      split_ifs <;> rfl
    · left
      simp only [insn, FlowRestriction.opcode, FlowAddr.srcOpcode, IpfwInsn.field]
      split_ifs <;> rfl
    · exact .inr rfl
  | dst addr =>
    rcases addr with ⟨addr, mask, more⟩ | ⟨addr, mask, more⟩ | _
    · left
      simp only [insn, FlowRestriction.opcode, FlowAddr.dstOpcode, IpfwInsn.field]
      split_ifs <;> rfl
    · left
      simp only [insn, FlowRestriction.opcode, FlowAddr.dstOpcode, IpfwInsn.field]
      split_ifs <;> rfl
    · exact .inr rfl
  | proto => exact .inl rfl
  | srcport => exact .inl rfl
  | dstport => exact .inl rfl
  | option => exact .inl rfl

end FlowComponent

/-! ## What the rule says -/

theorem UInt16.toUInt8_eq_zero_iff (n : UInt16) : n.toUInt8 = 0 ↔ n % 256 = 0 := by
  rw [← UInt8.toNat_inj, ← UInt16.toNat_inj, UInt16.toNat_toUInt8, UInt16.toNat_mod]
  rfl

/-- An instruction that is read is for the field of its component. -/
theorem FlowComponent.field_of_insn {c : FlowComponent} {field : FlowField}
    (h : c.insn.field = some field) : c.restriction.field = some field := by
  rcases c.field_insn with heq | hnone
  · rw [← heq, h]
  · rw [hnone] at h
    cases h

/-- An address that is read is not a blank one. -/
theorem PgwRule.only_src_ne_blank (rule : PgwRule) {addr : FlowAddr} {negated alternative : Bool}
    (h : (FlowComponent.mk (.src addr) negated alternative).insn.field ≠ none) :
    (rule.interpret (FlowComponent.mk (.src addr) negated alternative).insn).only .src ≠ .blank := by
  simp only [FlowComponent.insn, FlowRestriction.opcode, IpfwInsn.field] at h ⊢
  rcases addr with ⟨addr, mask, more⟩ | ⟨addr, mask, more⟩ | _
  · intro hblank
    rw [FlowAddr.srcOpcode] at hblank
    split_ifs at hblank
    all_goals exact Bool.noConfusion (congrArg PgwRule.ipv4Local hblank)
  · intro hblank
    rw [FlowAddr.srcOpcode] at hblank
    split_ifs at hblank
    all_goals exact Bool.noConfusion (congrArg PgwRule.ipv6Local hblank)
  · exact absurd rfl h

theorem PgwRule.only_dst_ne_blank (rule : PgwRule) {addr : FlowAddr} {negated alternative : Bool}
    (h : (FlowComponent.mk (.dst addr) negated alternative).insn.field ≠ none) :
    (rule.interpret (FlowComponent.mk (.dst addr) negated alternative).insn).only .dst ≠ .blank := by
  simp only [FlowComponent.insn, FlowRestriction.opcode, IpfwInsn.field] at h ⊢
  rcases addr with ⟨addr, mask, more⟩ | ⟨addr, mask, more⟩ | _
  · intro hblank
    rw [FlowAddr.dstOpcode] at hblank
    split_ifs at hblank
    all_goals exact Bool.noConfusion (congrArg PgwRule.ipv4Remote hblank)
  · intro hblank
    rw [FlowAddr.dstOpcode] at hblank
    split_ifs at hblank
    all_goals exact Bool.noConfusion (congrArg PgwRule.ipv6Remote hblank)
  · exact absurd rfl h

/-- An instruction leaves its field blank if its component restricts nothing. -/
theorem PgwRule.only_interpret_eq_blank (rule : PgwRule) {c : FlowComponent} {field : FlowField}
    (h : c.insn.field = some field) :
    (rule.interpret c.insn).only field = .blank ↔ c.restriction.Zero := by
  have hfield := FlowComponent.field_of_insn h
  have hread : c.insn.field ≠ none := by
    rw [h]
    exact Option.some_ne_none field
  obtain ⟨restriction, negated, alternative⟩ := c
  cases restriction with
  | proto number =>
    cases hfield
    rw [FlowRestriction.Zero, ← UInt16.toUInt8_eq_zero_iff]
    exact ⟨congrArg PgwRule.proto, congrArg fun value => { PgwRule.blank with proto := value }⟩
  | src addr =>
    cases hfield
    exact iff_of_false (rule.only_src_ne_blank hread) id
  | dst addr =>
    cases hfield
    exact iff_of_false (rule.only_dst_ne_blank hread) id
  | srcport range more =>
    cases hfield
    refine ⟨congrArg PgwRule.portLocal, fun hzero => ?_⟩
    cases (hzero : range = ⟨0, 0⟩)
    rfl
  | dstport range more =>
    cases hfield
    refine ⟨congrArg PgwRule.portRemote, fun hzero => ?_⟩
    cases (hzero : range = ⟨0, 0⟩)
    rfl
  | option => cases hfield

/-- The field of a rule is blank if the last component for it restricts nothing. -/
theorem only_eq_blank_iff (cs : List FlowComponent) (field : FlowField) :
    ((cs.map FlowComponent.insn).foldl PgwRule.interpret .blank).only field = .blank ↔
      ∀ c, (cs.filter (·.insn.field = some field)).getLast? = some c → c.restriction.Zero := by
  induction cs using List.reverseRecOn with
  | nil => exact iff_of_true (PgwRule.only_blank field) fun c hc => by cases hc
  | append_singleton cs c ih =>
    rw [List.map_append, List.foldl_append, List.filter_append]
    by_cases hfield : c.insn.field = some field
    · rw [List.filter_cons_of_pos (by simpa using hfield), List.filter_nil, List.getLast?_concat]
      refine (PgwRule.only_interpret_eq_blank _ hfield).trans
        ⟨fun hzero c' hc' => ?_, fun h => h c rfl⟩
      cases hc'
      exact hzero
    · rw [List.filter_cons_of_neg (by simpa using hfield), List.filter_nil, List.append_nil, ← ih,
        List.map_singleton, List.foldl_cons, List.foldl_nil, PgwRule.only_interpret_of_ne _ hfield]

/-- A description without any restriction that is read gives a blank rule. -/
theorem saysNothing_iff (cs : List FlowComponent) :
    SaysNothing cs ↔ (cs.map FlowComponent.insn).foldl PgwRule.interpret .blank = .blank := by
  constructor
  · intro h
    apply PgwRule.ext_only
    intro field
    rw [PgwRule.only_blank]
    exact (only_eq_blank_iff cs field).mpr (h field)
  · intro h field
    apply (only_eq_blank_iff cs field).mp
    rw [h, PgwRule.only_blank]

/-- The components for a field are at most one if and only if the fields of them all differ. -/
theorem nodup_fields_iff (cs : List FlowComponent) :
    (cs.filterMap (·.restriction.field)).Nodup ↔
      ∀ field, (cs.filter (·.restriction.field = some field)).length ≤ 1 := by
  rw [List.nodup_iff_count_le_one]
  refine forall_congr' fun field => ?_
  rw [List.count_filterMap, List.countP_eq_length_filter]
  have hfilter : cs.filter (fun c => c.restriction.field == some field) =
      cs.filter (·.restriction.field = some field) :=
    List.filter_congr fun _ _ => by rw [Bool.eq_iff_iff, beq_iff_eq, decide_eq_true_eq]
  rw [hfilter]

namespace FlowComponent

/-- A rule can have a single restriction, which is what its instruction makes. -/
theorem rule_of_single {c : FlowComponent} {field : FlowField} (hsingle : c.restriction.Single)
    (hfield : c.restriction.field = some field) :
    c.insn.field = some field ∧ c.restriction.rule? = some (PgwRule.blank.interpret c.insn) := by
  obtain ⟨restriction, negated, alternative⟩ := c
  cases restriction with
  | proto number => exact ⟨hfield, if_pos hsingle⟩
  | srcport range more =>
    cases (hsingle : more = [])
    exact ⟨hfield, rfl⟩
  | dstport range more =>
    cases (hsingle : more = [])
    exact ⟨hfield, rfl⟩
  | src addr =>
    cases hfield
    rcases addr with ⟨addr, mask, more⟩ | ⟨addr, mask, more⟩ | _
    · cases (hsingle : more = [])
      simp only [insn, FlowRestriction.opcode, FlowAddr.srcOpcode, and_true]
      split_ifs with hmask
      · rw [hmask]
        exact ⟨rfl, rfl⟩
      · exact ⟨rfl, rfl⟩
    · cases (hsingle : more = [])
      simp only [insn, FlowRestriction.opcode, FlowAddr.srcOpcode, and_true]
      split_ifs with hmask
      · rw [hmask]
        exact ⟨rfl, rfl⟩
      · exact ⟨rfl, rfl⟩
    · exact hsingle.elim
  | dst addr =>
    cases hfield
    rcases addr with ⟨addr, mask, more⟩ | ⟨addr, mask, more⟩ | _
    · cases (hsingle : more = [])
      simp only [insn, FlowRestriction.opcode, FlowAddr.dstOpcode, and_true]
      split_ifs with hmask
      · rw [hmask]
        exact ⟨rfl, rfl⟩
      · exact ⟨rfl, rfl⟩
    · cases (hsingle : more = [])
      simp only [insn, FlowRestriction.opcode, FlowAddr.dstOpcode, and_true]
      split_ifs with hmask
      · rw [hmask]
        exact ⟨rfl, rfl⟩
      · exact ⟨rfl, rfl⟩
    · exact hsingle.elim
  | option => cases hfield

theorem single_of_rule {c : FlowComponent} {rule : PgwRule} (h : c.restriction.rule? = some rule) :
    c.restriction.Single := by
  obtain ⟨restriction, negated, alternative⟩ := c
  cases restriction with
  | proto number =>
    simp only [FlowRestriction.rule?] at h
    split_ifs at h with hoctet
    exact hoctet
  | src addr => rcases addr with ⟨_, _, _ | _⟩ | ⟨_, _, _ | _⟩ | _ <;> first | rfl | cases h
  | dst addr => rcases addr with ⟨_, _, _ | _⟩ | ⟨_, _, _ | _⟩ | _ <;> first | rfl | cases h
  | srcport range more => cases more <;> first | rfl | cases h
  | dstport range more => cases more <;> first | rfl | cases h
  | option => trivial

/-- The instructions for a field come from the components for it. -/
theorem filter_insn (cs : List FlowComponent) (field : FlowField) :
    (cs.map insn).filter (·.field = some field) =
      ((cs.filter (·.restriction.field = some field)).map insn).filter (·.field = some field) := by
  rw [List.filter_map, List.filter_map, List.filter_filter]
  refine congrArg (List.map insn) (List.filter_congr fun c _ => ?_)
  rw [Function.comp_apply, Bool.eq_iff_iff, Bool.and_eq_true, decide_eq_true_eq, decide_eq_true_eq]
  exact ⟨fun h => ⟨h, field_of_insn h⟩, And.left⟩

end FlowComponent

/-- What plain components say of a field is what the instructions write. -/
theorem described_of_plain {cs : List FlowComponent} (h : Plain cs) (field : FlowField) :
    described cs field =
      some (((cs.map FlowComponent.insn).foldl PgwRule.interpret .blank).only field) := by
  have hone := (nodup_fields_iff cs).mp h.nodup field
  rw [PgwRule.only_foldl, PgwRule.only_blank, FlowComponent.filter_insn, described]
  cases hfor : cs.filter (·.restriction.field = some field) with
  | nil => rfl
  | cons c rest =>
    rw [hfor, List.length_cons] at hone
    obtain rfl := List.eq_nil_of_length_eq_zero (Nat.le_zero.mp (Nat.le_of_succ_le_succ hone))
    obtain ⟨hmem, hfield⟩ := List.mem_filter.mp (hfor ▸ List.mem_cons_self)
    have hfield : c.restriction.field = some field := of_decide_eq_true hfield
    obtain ⟨hinsn, hrule⟩ := FlowComponent.rule_of_single (h.single c hmem) hfield
    have hnegated := h.negated c hmem (by rw [hfield]; exact Option.some_ne_none field)
    simp only [hnegated, Bool.false_eq_true, if_false, hrule, List.map_cons, List.map_nil]
    rw [List.filter_cons_of_pos (by simpa using hinsn)]
    rfl

/-- A component for which a rule can say what the description does. -/
theorem plain_of_described {cs : List FlowComponent} {c : FlowComponent} {field : FlowField}
    {rule : PgwRule} (h : described cs field = some rule) (hc : c ∈ cs)
    (hfield : c.restriction.field = some field) :
    c.negated = false ∧ c.restriction.Single := by
  have hmem : c ∈ cs.filter (·.restriction.field = some field) :=
    List.mem_filter.mpr ⟨hc, decide_eq_true hfield⟩
  rw [described] at h
  cases hfor : cs.filter (·.restriction.field = some field) with
  | nil =>
    rw [hfor] at hmem
    exact absurd hmem List.not_mem_nil
  | cons c' rest =>
    cases rest with
    | nil =>
      rw [hfor, List.mem_singleton] at hmem
      subst hmem
      simp only [hfor] at h
      split_ifs at h with hnegated
      exact ⟨Bool.eq_false_of_not_eq_true hnegated, FlowComponent.single_of_rule h⟩
    | cons c'' rest => simp only [hfor, reduceCtorEq] at h

/-- The rule that the instructions make says what the description does if and only if the components
are plain. -/
theorem says_iff (cs : List FlowComponent) :
    ((cs.map FlowComponent.insn).foldl PgwRule.interpret .blank).Says cs ↔ Plain cs := by
  constructor
  · rintro ⟨halternative, hdescribed⟩
    refine ⟨(nodup_fields_iff cs).mpr fun field => ?_, halternative, fun c hc hfield => ?_,
      fun c hc => ?_⟩
    · have h := hdescribed field
      rw [described] at h
      split at h
      · rename_i hfor
        rw [hfor]
        exact Nat.zero_le 1
      · rename_i hfor
        rw [hfor]
        exact le_rfl
      · cases h
    · obtain ⟨field, hfield⟩ := Option.ne_none_iff_exists'.mp hfield
      exact (plain_of_described (hdescribed field) hc hfield).1
    · cases hfield : c.restriction.field with
      | none =>
        obtain ⟨restriction, negated, alternative⟩ := c
        cases restriction <;> trivial
      | some field => exact (plain_of_described (hdescribed field) hc hfield).2
  · exact fun h => ⟨h.alternative, described_of_plain h⟩

/-- Of `53,80` a rule has the first port only. -/
example : ¬Plain [⟨.dstport ⟨53, 53⟩ [⟨80, 80⟩], false, false⟩] := fun h =>
  List.cons_ne_nil _ _ (h.single _ List.mem_cons_self)

/-! ## The array of words -/

/-- The words are stored if there is an entry for each. -/
theorem foldlM_pushToken (words av : List Bytes) : words.foldlM pushToken av =
    if words = [] ∨ av.length + words.length < maxNumOfToken then .ok (av ++ words)
    else .error .outOfBounds := by
  induction words generalizing av with
  | nil => rw [if_pos (.inl rfl), List.foldlM_nil, Fallible.pure_eq_ok, List.append_nil]
  | cons word words ih =>
    have hne : word :: words ≠ [] := List.cons_ne_nil _ _
    rw [List.foldlM_cons, pushToken, List.length_cons]
    by_cases hfirst : av.length + 1 < maxNumOfToken
    · have hiff : (words = [] ∨ av.length + 1 + words.length < maxNumOfToken) ↔
          (word :: words = [] ∨ av.length + (words.length + 1) < maxNumOfToken) := by
        rw [or_iff_right hne, or_iff_right_of_imp]
        · omega
        · rintro rfl
          exact hfirst
      rw [if_pos hfirst, Fallible.ok_bind, ih, List.append_assoc, List.singleton_append,
        List.length_append, List.length_singleton]
      exact if_congr hiff rfl rfl
    · have hnot : ¬(word :: words = [] ∨ av.length + (words.length + 1) < maxNumOfToken) := by
        rw [or_iff_right hne]
        omega
      rw [if_neg hfirst, if_neg hnot, Fallible.error_bind]

theorem tokenIs_self (word : Bytes) : tokenIs (some word) word = .ok true :=
  congrArg Except.ok (beq_self_eq_true word)

theorem tokenIs_none (word : Bytes) : tokenIs none word = .error .dangling := rfl

theorem tokenIs_of_ne {token word : Bytes} (h : token ≠ word) :
    tokenIs (some token) word = .ok false :=
  congrArg Except.ok (beq_eq_false_iff_ne.mpr h)

/-- The rule that is read from the instructions for some words. -/
def ruleOf (compileRule : List Bytes → List IpfwInsn) (av : List Bytes) : Option PgwRule :=
  let rule := (compileRule av).foldl PgwRule.interpret .blank
  if rule = .blank then none else some rule

/-- Two words that are those of a filter, and the others. -/
theorem compilePacketFilter_of_filter (compileRule : List Bytes → List IpfwInsn)
    {rest : List Bytes}
    (hwords : tokens description.octets = permit :: out :: rest) :
    compilePacketFilter compileRule description =
      if rest.length ≤ 28 then .ok (ruleOf compileRule (permit :: (rest ++ [out])))
      else .error .outOfBounds := by
  have hstart : compilePacketFilter compileRule description =
      (rest ++ [out]).foldlM pushToken [permit] >>= fun av =>
        if av.length + 1 < maxNumOfToken then .ok (ruleOf compileRule av)
        else .error .outOfBounds := by
    rw [compilePacketFilter, List.foldlM_append, bind_assoc]
    simp only [hwords, List.getElem?_cons_zero, List.getElem?_cons_succ, tokenIs_self,
      Fallible.ok_bind, Bool.not_true, Bool.false_eq_true, if_false, List.drop_succ_cons,
      List.drop_zero, ruleOf, List.foldlM_cons, List.foldlM_nil, bind_pure]
  have hlen : (rest ++ [out]).length = rest.length + 1 := by
    rw [List.length_append, List.length_singleton]
  have hall : ([permit] ++ (rest ++ [out])).length = rest.length + 2 := by
    rw [List.length_append, hlen, List.length_singleton, Nat.add_comm]
  have hne : rest ++ [out] ≠ [] := by simp
  rw [hstart, foldlM_pushToken]
  by_cases hstored : [permit].length + (rest ++ [out]).length < maxNumOfToken
  · rw [if_pos (.inr hstored), Fallible.ok_bind, hall]
    refine if_congr ?_ rfl rfl
    rw [maxNumOfToken]
    omega
  · have hmany : ¬rest.length ≤ 28 := by
      rw [hlen, List.length_singleton, maxNumOfToken] at hstored
      omega
    rw [if_neg (not_or_intro hne hstored), Fallible.error_bind, if_neg hmany]

/-- Words that are not those of a filter. -/
theorem compilePacketFilter_of_other (compileRule : List Bytes → List IpfwInsn) {action : Bytes}
    {rest : List Bytes}
    (hwords : tokens description.octets = action :: rest) :
    (action ≠ permit → compilePacketFilter compileRule description = .ok none) ∧
      (action = permit → rest = [] → compilePacketFilter compileRule description =
        .error .dangling) ∧
      ∀ dir rest', action = permit → rest = dir :: rest' → dir ≠ out →
        compilePacketFilter compileRule description = .ok none := by
  refine ⟨fun haction => ?_, fun haction hrest => ?_, fun dir rest' haction hrest hdir => ?_⟩
  · rw [compilePacketFilter]
    simp only [hwords, List.getElem?_cons_zero, tokenIs_of_ne haction, Fallible.ok_bind,
      Bool.not_false, if_true]
  · rw [compilePacketFilter]
    simp only [hwords, haction, hrest, List.getElem?_cons_zero, tokenIs_self, Fallible.ok_bind,
      Bool.not_true, Bool.false_eq_true, if_false, List.getElem?_cons_succ, List.getElem?_nil,
      tokenIs_none, Fallible.error_bind]
  · rw [compilePacketFilter]
    simp only [hwords, haction, hrest, List.getElem?_cons_zero, tokenIs_self, Fallible.ok_bind,
      Bool.not_true, Bool.false_eq_true, if_false, List.getElem?_cons_succ, tokenIs_of_ne hdir,
      Bool.not_false, if_true]

/-- A description that is compiled has the rule that the handlers of Gx work with. -/
theorem pgwCompilePacketFilter_eq {result : Option PgwRule}
    (h : compilePacketFilter compileRule description = .ok result) :
    pgwCompilePacketFilter (fun av => some (compileRule av)) description = result := by
  rw [pgwCompilePacketFilter]
  cases hwords : tokens description.octets with
  | nil =>
    rw [compilePacketFilter] at h
    simp only [hwords, List.getElem?_nil, tokenIs_none, Fallible.error_bind] at h
    cases h
  | cons action rest =>
    obtain ⟨hother, hmissing, hdirection⟩ := compilePacketFilter_of_other
      compileRule hwords
    by_cases haction : action = permit
    · cases rest with
      | nil =>
        rw [hmissing haction rfl] at h
        cases h
      | cons dir rest =>
        by_cases hdir : dir = out
        · rw [haction, hdir] at hwords ⊢
          rw [compilePacketFilter_of_filter compileRule hwords] at h
          split_ifs at h
          cases h
          simp only [and_self, if_true]
          rfl
        · rw [hdirection dir rest haction rfl hdir] at h
          cases h
          exact if_neg fun hboth => hdir hboth.2
    · rw [hother haction] at h
      cases h
      cases rest with
      | nil => rfl
      | cons dir rest => exact if_neg fun hboth => haction hboth.1

theorem compilesWell_of_eq_none (h : compilePacketFilter compileRule description = .ok none) :
    CompilesWell compileRule components description :=
  ⟨none, h, pgwCompilePacketFilter_eq h, fun _ hrule => absurd hrule.symm (Option.some_ne_none _)⟩

theorem not_compilesWell_of_error {e : Fault IpfwSite}
    (h : compilePacketFilter compileRule description = .error e) :
    ¬CompilesWell compileRule components description := by
  rintro ⟨result, hresult, -⟩
  rw [h] at hresult
  cases hresult

/-- A filter whose words fit has the rule of its components, which may be blank. -/
theorem compilesWell_filter_iff (hemits : EmitsComponents compileRule components)
    {rest : List Bytes} (hwords : tokens description.octets = permit :: out :: rest)
    (hfits : rest.length ≤ 28) :
    CompilesWell compileRule components description ↔
      Plain (components (flowWords description)) ∨
        SaysNothing (components (flowWords description)) := by
  have hflow : flowWords description = permit :: (rest ++ [out]) := by
    rw [flowWords, hwords]
    rfl
  have heq := compilePacketFilter_of_filter compileRule hwords
  rw [if_pos hfits, ← hflow, ruleOf, hemits.foldl] at heq
  rw [← says_iff, saysNothing_iff]
  generalize ((components (flowWords description)).map FlowComponent.insn).foldl
    PgwRule.interpret .blank = rule at heq
  by_cases hblank : rule = .blank
  · rw [if_pos hblank] at heq
    exact iff_of_true (compilesWell_of_eq_none heq) (.inr hblank)
  · rw [if_neg hblank] at heq
    rw [or_iff_left hblank]
    constructor
    · rintro ⟨result, hresult, -, hsays⟩
      rw [heq] at hresult
      cases hresult
      exact hsays rule rfl
    · intro hsays
      refine ⟨some rule, heq, pgwCompilePacketFilter_eq heq, fun rule' hrule' => ?_⟩
      cases hrule'
      exact hsays

/-- `"permit out 17 from any to any 53"` -/
def dnsDescription : CString := ⟨permit ++ [0x20] ++ out ++ [0x20, 0x31, 0x37, 0x20, 0x66, 0x72,
  0x6f, 0x6d, 0x20, 0x61, 0x6e, 0x79, 0x20, 0x74, 0x6f, 0x20, 0x61, 0x6e, 0x79, 0x20, 0x35, 0x33],
  by decide⟩

def dnsComponents : List FlowComponent :=
  [⟨.proto 17, false, false⟩, ⟨.dstport ⟨53, 53⟩ [], false, false⟩]

end NextEpc
