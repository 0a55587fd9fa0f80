import NextEpc.Hss.Air

/-!
# Fresh sequence numbers

No SQN is used for two vectors, and the stored SQN never moves backwards, as long as no handler
writes an SQN back that others have left behind in the meantime, and the SQN does not reach
`HSS_MAX_SQN`. The three calls of a handler are separate critical sections, so nothing prevents
the former; `HSS_MAX_SQN` has 43 bits, not 48.
-/

namespace NextEpc

theorem toNat_and_hssMaxSqn (n : UInt64) : (n &&& hssMaxSqn).toNat = n.toNat % 2 ^ 43 := by
  have hmax : hssMaxSqn.toNat = 2 ^ 43 - 1 := rfl
  rw [UInt64.toNat_and, hmax, Nat.and_two_pow_sub_one_eq_mod]

theorem toNat_incSqn {db : HssDbAuthInfo} (h : db.sqn.toNat + 32 ≤ hssMaxSqn.toNat) :
    db.incSqn.sqn.toNat = db.sqn.toNat + 32 := by
  have hmax : hssMaxSqn.toNat = 2 ^ 43 - 1 := rfl
  have hadd : db.incSqn.sqn.toNat = (db.sqn.toNat + 32) % 2 ^ 64 := UInt64.toNat_add db.sqn 32
  rw [hadd, Nat.mod_eq_of_lt (by omega)]

/-- Below `HSS_MAX_SQN` the mask changes nothing. -/
theorem toNat_bitSqn_incSqn {db : HssDbAuthInfo} (h : db.sqn.toNat + 32 ≤ hssMaxSqn.toNat) :
    db.incSqn.bitSqn.sqn.toNat = db.sqn.toNat + 32 := by
  have hmax : hssMaxSqn.toNat = 2 ^ 43 - 1 := rfl
  have hbit : db.incSqn.bitSqn.sqn.toNat = db.incSqn.sqn.toNat % 2 ^ 43 := toNat_and_hssMaxSqn _
  rw [hbit, toNat_incSqn h, Nat.mod_eq_of_lt (by omega)]

/-- What follows SQN_MS, within 43 bits. -/
theorem toNat_resyncSqn [OgsConv] (sqnMs : Octets6) :
    ((OgsConv.bufferToUint64 sqnMs.toList + 32 + 1) &&& hssMaxSqn).toNat =
      (Octets.value sqnMs.toList + 33) % 2 ^ 43 := by
  have hlt := Octets.value_lt sqnMs.toList
  have hnum := OgsConv.toNat_bufferToUint64 sqnMs.toList (by simp)
  rw [Vector.length_toList] at hlt
  have hadd : (OgsConv.bufferToUint64 sqnMs.toList + 32 + 1).toNat =
      Octets.value sqnMs.toList + 33 := by
    rw [UInt64.toNat_add, UInt64.toNat_add, hnum]
    simp only [UInt64.reduceToNat]
    omega
  rw [toNat_and_hssMaxSqn, hadd]

namespace HssDbAuthInfo
variable [OgsConv] [Milenage] {info info' : HssDbAuthInfo} {request : AirRequest}
  {random random' : Octets16}

omit [OgsConv] [Milenage] in
theorem withRand_eq (info : HssDbAuthInfo) (random : Octets16) :
    ∃ rand, info.withRand random = { info with rand := rand } := by
  unfold withRand
  split
  · exact ⟨random, rfl⟩
  · exact ⟨info.rand, rfl⟩

/-- The keys stay, so that SQN_MS is that of the subscriber. -/
theorem sqnMs_of_prepare (h : info.prepare request random random' = some info') :
    info'.sqnMs request = info.sqnMs request := by
  obtain ⟨rand, hrand⟩ := withRand_eq info random
  rw [prepare, hrand, resynchronize] at h
  split at h
  · cases h
    rfl
  · split at h <;> cases h
    rfl

/-- The SQN of a vector is the one stored, or what follows SQN_MS within 43 bits. -/
theorem sqn_of_prepare (h : info.prepare request random random' = some info') :
    (info'.sqnMs request = none ∧ info'.sqn = info.sqn) ∨
      ∃ sqnMs, info'.sqnMs request = some sqnMs ∧
        info'.sqn.toNat = (Octets.value sqnMs.toList + 33) % 2 ^ 43 := by
  rw [sqnMs_of_prepare h]
  obtain ⟨rand, hrand⟩ := withRand_eq info random
  rw [prepare, hrand, resynchronize] at h
  split at h
  · rename_i hnone
    cases h
    exact .inl ⟨by rw [sqnMs, hnone]; rfl, rfl⟩
  · rename_i auts hauts
    split at h
    · cases h
      exact .inr ⟨(hssAucSqn info.milenageOpc info.k auts).1, by rw [sqnMs, hauts]; rfl,
        toNat_resyncSqn _⟩
    · cases h

/-- Without the right MAC-S the request ends. -/
theorem prepare_eq_none {auts : ReSynchronizationInfo}
    (hauts : request.reSynchronizationInfo = some auts)
    (hmac : (hssAucSqn info.milenageOpc info.k auts).2 ≠ auts.macS) :
    info.prepare request random random' = none := by
  obtain ⟨rand, hrand⟩ := withRand_eq info random
  rw [prepare, hrand, resynchronize, hauts]
  exact if_neg hmac

end HssDbAuthInfo

namespace HssAir
variable {s t : HssAir} {op : Op} {i j : Nat} {request : AirRequest} {info : HssDbAuthInfo}

/-! ## What a step does -/

/-- The handler has written its SQN and has yet to answer with it. -/
def Waits (s : HssAir) (i : Nat) (request : AirRequest) (info : HssDbAuthInfo) : Prop :=
  s.handlers i = some ⟨request, .updated info⟩ ∨ s.handlers i = some ⟨request, .incremented info⟩

/-- The handler has the data in its `auth_info`. -/
def Holds (s : HssAir) (i : Nat) (request : AirRequest) (info : HssDbAuthInfo) : Prop :=
  s.handlers i = some ⟨request, .read info⟩ ∨ s.Waits i request info

/-- The handler that a step is about. -/
def Op.handler : Op → Nat
  | .receive i _ => i
  | .dbAuthInfo i _ _ => i
  | .dbUpdateRandAndSqn i => i
  | .dbIncrementSqn i => i
  | .answer i => i

section
variable [OgsConv] [Milenage]

/-- The other handlers stay where they are. -/
theorem Step.handlers_ne (hstep : Step s op t) (hj : j ≠ op.handler) :
    t.handlers j = s.handlers j := by
  cases hstep <;> exact Function.update_of_ne hj _ _

/-- Where the handler itself goes. -/
theorem Step.handler (hstep : Step s op t) :
    t.handlers op.handler = none ∨
    (∃ request, t.handlers op.handler = some ⟨request, .received⟩) ∨
    (∃ request info random random', s.db.prepare request random random' = some info ∧
      t.db = s.db ∧ t.handlers op.handler = some ⟨request, .read info⟩) ∨
    (∃ request info, op = .dbUpdateRandAndSqn op.handler ∧
      s.handlers op.handler = some ⟨request, .read info⟩ ∧ t.db.sqn = info.sqn ∧
      t.handlers op.handler = some ⟨request, .updated info⟩) ∨
    ∃ request info, op = .dbIncrementSqn op.handler ∧
      s.handlers op.handler = some ⟨request, .updated info⟩ ∧
      t.db.sqn = s.db.incSqn.bitSqn.sqn ∧
      t.handlers op.handler = some ⟨request, .incremented info⟩ := by
  cases hstep
  case receive => exact .inr (.inl ⟨_, Function.update_self ..⟩)
  case read hprepare =>
    exact .inr (.inr (.inl ⟨_, _, _, _, hprepare, rfl, Function.update_self ..⟩))
  case update hhandler =>
    exact .inr (.inr (.inr (.inl ⟨_, _, rfl, hhandler, rfl, Function.update_self ..⟩)))
  case increment hhandler =>
    exact .inr (.inr (.inr (.inr ⟨_, _, rfl, hhandler, rfl, Function.update_self ..⟩)))
  all_goals exact .inl (Function.update_self ..)

/-- Where the data of a handler comes from. -/
theorem Step.holds (hstep : Step s op t) (h : t.Holds j request info) :
    s.Holds j request info ∨
      ∃ random random', s.db.prepare request random random' = some info ∧ t.db = s.db := by
  by_cases hj : j = op.handler
  · subst hj
    rcases hstep.handler with hnone | ⟨_, hnew⟩ | ⟨_, _, _, _, hprepare, hdb, hread⟩ |
      ⟨_, _, -, hread, -, hupdated⟩ | ⟨_, _, -, hupdated, -, hincremented⟩
    · rw [Holds, Waits, hnone] at h
      rcases h with h | h | h <;> cases h
    · rw [Holds, Waits, hnew] at h
      rcases h with h | h | h <;> cases h
    · rw [Holds, Waits, hread] at h
      rcases h with h | h | h <;> cases h
      exact .inr ⟨_, _, hprepare, hdb⟩
    · rw [Holds, Waits, hupdated] at h
      rcases h with h | h | h <;> cases h
      exact .inl (.inl hread)
    · rw [Holds, Waits, hincremented] at h
      rcases h with h | h | h <;> cases h
      exact .inl (.inr (.inl hupdated))
  · rw [Holds, Waits, hstep.handlers_ne hj] at h
    exact .inl h

/-- A handler waits for its increment after it has written its SQN. -/
theorem Step.updated (hstep : Step s op t) (h : t.handlers j = some ⟨request, .updated info⟩) :
    s.handlers j = some ⟨request, .updated info⟩ ∨
      op = .dbUpdateRandAndSqn j ∧ s.handlers j = some ⟨request, .read info⟩ ∧
        t.db.sqn = info.sqn := by
  by_cases hj : j = op.handler
  · subst hj
    rcases hstep.handler with hnone | ⟨_, hnew⟩ | ⟨_, _, _, _, -, -, hread⟩ |
      ⟨_, _, hop, hread, hsqn, hupdated⟩ | ⟨_, _, -, -, -, hincremented⟩
    · rw [hnone] at h
      cases h
    · rw [hnew] at h
      cases h
    · rw [hread] at h
      cases h
    · rw [hupdated] at h
      cases h
      exact .inr ⟨hop, hread, hsqn⟩
    · rw [hincremented] at h
      cases h
  · rw [hstep.handlers_ne hj] at h
    exact .inl h

/-- A handler answers after it has incremented the SQN. -/
theorem Step.incremented (hstep : Step s op t)
    (h : t.handlers j = some ⟨request, .incremented info⟩) :
    s.handlers j = some ⟨request, .incremented info⟩ ∨
      op = .dbIncrementSqn j ∧ s.handlers j = some ⟨request, .updated info⟩ ∧
        t.db.sqn = s.db.incSqn.bitSqn.sqn := by
  by_cases hj : j = op.handler
  · subst hj
    rcases hstep.handler with hnone | ⟨_, hnew⟩ | ⟨_, _, _, _, -, -, hread⟩ |
      ⟨_, _, -, -, -, hupdated⟩ | ⟨_, _, hop, hupdated, hsqn, hincremented⟩
    · rw [hnone] at h
      cases h
    · rw [hnew] at h
      cases h
    · rw [hread] at h
      cases h
    · rw [hupdated] at h
      cases h
    · rw [hincremented] at h
      cases h
      exact .inr ⟨hop, hupdated, hsqn⟩
  · rw [hstep.handlers_ne hj] at h
    exact .inl h

/-- A handler waits from its update on. -/
theorem Step.waits (hstep : Step s op t) (h : t.Waits j request info) :
    s.Waits j request info ∨
      op = .dbUpdateRandAndSqn j ∧ s.handlers j = some ⟨request, .read info⟩ := by
  rcases h with h | h
  · rcases hstep.updated h with h | ⟨hop, hread, -⟩
    · exact .inl (.inl h)
    · exact .inr ⟨hop, hread⟩
  · rcases hstep.incremented h with h | ⟨-, hupdated, -⟩
    · exact .inl (.inr h)
    · exact .inl (.inl hupdated)

/-- A vector is returned by a handler that has made its increment. -/
theorem Step.answers (hstep : Step s op t) :
    t.answers = s.answers ∨
      ∃ i request info, op = .answer i ∧ s.handlers i = some ⟨request, .incremented info⟩ ∧
        t.handlers i = none ∧ t.db.sqn = s.db.sqn ∧
        t.answers = ⟨request, info⟩ :: s.answers := by
  cases hstep
  case answer hhandler => exact .inr ⟨_, _, _, rfl, hhandler, Function.update_self .., rfl, rfl⟩
  all_goals exact .inl rfl

/-- Who writes the SQN, and what. -/
theorem Step.sqn (hstep : Step s op t) :
    t.db.sqn = s.db.sqn ∨
      (∃ i request info, op = .dbUpdateRandAndSqn i ∧
        s.handlers i = some ⟨request, .read info⟩ ∧ t.db.sqn = info.sqn) ∨
      ∃ i, op = .dbIncrementSqn i ∧
        (t.db.sqn = s.db.incSqn.sqn ∨ t.db.sqn = s.db.incSqn.bitSqn.sqn) := by
  cases hstep
  case update hhandler => exact .inr (.inl ⟨_, _, _, rfl, hhandler, rfl⟩)
  case updateLost hhandler => exact .inr (.inl ⟨_, _, _, rfl, hhandler, rfl⟩)
  case increment => exact .inr (.inr ⟨_, rfl, .inr rfl⟩)
  case bitFailed => exact .inr (.inr ⟨_, rfl, .inl rfl⟩)
  case incrementLost => exact .inr (.inr ⟨_, rfl, .inr rfl⟩)
  all_goals exact .inl rfl

/-! ## The stored SQN goes forward -/

omit [OgsConv] [Milenage] in
/-- A handler writes its SQN back only if the stored one has not passed it, and the increment
stays below `HSS_MAX_SQN`. -/
def WritesForward (s : HssAir) : Op → Prop
  | .dbUpdateRandAndSqn i => ∀ request info, s.handlers i = some ⟨request, .read info⟩ →
    s.db.sqn.toNat ≤ info.sqn.toNat
  | .dbIncrementSqn _ => s.db.sqn.toNat + 32 ≤ hssMaxSqn.toNat
  | _ => True

/-- The SQN of a handler is one that was stored or has 43 bits. The stored one is not below those
that were written back, and above those that have been incremented and those of the vectors. -/
structure Forward (s : HssAir) : Prop where
  stored : ∀ i request info, s.Holds i request info → info.sqnMs request = none →
    info.sqn.toNat ≤ s.db.sqn.toNat
  resynchronized : ∀ i request info sqnMs, s.Holds i request info →
    info.sqnMs request = some sqnMs →
    info.sqn.toNat = (Octets.value sqnMs.toList + 33) % 2 ^ 43
  updated : ∀ i request info, s.handlers i = some ⟨request, .updated info⟩ →
    info.sqn.toNat ≤ s.db.sqn.toNat
  incremented : ∀ i request info, s.handlers i = some ⟨request, .incremented info⟩ →
    info.sqn.toNat < s.db.sqn.toNat ∧ info.sqn.toNat ≤ hssMaxSqn.toNat
  answered : ∀ a ∈ s.answers,
    a.info.sqn.toNat < s.db.sqn.toNat ∧ a.info.sqn.toNat ≤ hssMaxSqn.toNat

omit [OgsConv] in
theorem forward_initial (db : HssDbAuthInfo) : (initial db).Forward := by
  constructor
  · intro i request info h
    rcases h with h | h | h <;> cases h
  · intro i request info sqnMs h
    rcases h with h | h | h <;> cases h
  · intro i request info h
    cases h
  · intro i request info h
    cases h
  · intro a ha
    cases ha

theorem Step.sqn_le (hstep : Step s op t) (hforward : s.WritesForward op) :
    s.db.sqn.toNat ≤ t.db.sqn.toNat := by
  rcases hstep.sqn with h | ⟨i, request, info, rfl, hread, h⟩ | ⟨i, rfl, h | h⟩
  · rw [h]
  · rw [h]
    exact hforward request info hread
  · rw [h, toNat_incSqn hforward]
    omega
  · rw [h, toNat_bitSqn_incSqn hforward]
    omega

theorem Forward.step (hs : s.Forward) (hstep : Step s op t) (hforward : s.WritesForward op) :
    t.Forward := by
  have hle := hstep.sqn_le hforward
  constructor
  · intro i request info h hnone
    rcases hstep.holds h with h | ⟨random, random', hprepare, hdb⟩
    · exact (hs.stored i request info h hnone).trans hle
    · rw [hdb]
      rcases HssDbAuthInfo.sqn_of_prepare hprepare with ⟨-, heq⟩ | ⟨sqnMs, hsome, -⟩
      · rw [heq]
      · rw [hnone] at hsome
        cases hsome
  · intro i request info sqnMs h hsome
    rcases hstep.holds h with h | ⟨random, random', hprepare, -⟩
    · exact hs.resynchronized i request info sqnMs h hsome
    · rcases HssDbAuthInfo.sqn_of_prepare hprepare with ⟨hnone, -⟩ | ⟨sqnMs', hsome', heq⟩
      · rw [hnone] at hsome
        cases hsome
      · rw [hsome] at hsome'
        cases hsome'
        exact heq
  · intro i request info h
    rcases hstep.updated h with h | ⟨-, -, heq⟩
    · exact (hs.updated i request info h).trans hle
    · rw [heq]
  · intro i request info h
    rcases hstep.incremented h with h | ⟨rfl, hupdated, hsqn⟩
    · have hbefore := hs.incremented i request info h
      exact ⟨hbefore.1.trans_le hle, hbefore.2⟩
    · have hinfo := hs.updated i request info hupdated
      have hmax : s.db.sqn.toNat + 32 ≤ hssMaxSqn.toNat := hforward
      rw [hsqn, toNat_bitSqn_incSqn hforward]
      omega
  · intro a ha
    rcases hstep.answers with h | ⟨i, request, info, rfl, hincremented, -, hsqn, h⟩
    · rw [h] at ha
      have hanswered := hs.answered a ha
      exact ⟨hanswered.1.trans_le hle, hanswered.2⟩
    · rw [h] at ha
      rw [hsqn]
      rcases List.mem_cons.mp ha with rfl | ha
      · exact hs.incremented i request info hincremented
      · exact hs.answered a ha

omit [OgsConv] in
/-- The SQN that a handler holds has 43 bits or was stored before. -/
theorem Forward.held (hs : s.Forward) (h : s.Holds i request info) :
    info.sqn.toNat ≤ hssMaxSqn.toNat ∨ info.sqn.toNat ≤ s.db.sqn.toNat := by
  cases hms : info.sqnMs request with
  | none => exact .inr (hs.stored i request info h hms)
  | some sqnMs =>
    left
    have hmax : hssMaxSqn.toNat = 2 ^ 43 - 1 := rfl
    have heq := hs.resynchronized i request info sqnMs h hms
    omega

/-- Forward in the numbers is forward modulo 2^48, since none of them is that far away. -/
theorem Step.serial_le (hstep : Step s op t) (hs : s.Forward) (hforward : s.WritesForward op) :
    Serial.Le (2 ^ 48) s.db.sqn.toNat t.db.sqn.toNat := by
  have hmax : hssMaxSqn.toNat = 2 ^ 43 - 1 := rfl
  rcases hstep.sqn with h | ⟨i, request, info, rfl, hread, h⟩ | ⟨i, rfl, h | h⟩
  · rw [h]
    exact Serial.Le.refl (by decide)
  · have hle : s.db.sqn.toNat ≤ info.sqn.toNat := hforward request info hread
    rw [h]
    rcases hs.held (.inl hread) with hinfo | hinfo
    · apply Serial.le_of_le hle
      omega
    · rw [hle.antisymm hinfo]
      exact Serial.Le.refl (by decide)
  · have hsum : s.db.sqn.toNat + 32 ≤ hssMaxSqn.toNat := hforward
    rw [h, toNat_incSqn hforward]
    apply Serial.le_of_le <;> omega
  · have hsum : s.db.sqn.toNat + 32 ≤ hssMaxSqn.toNat := hforward
    rw [h, toNat_bitSqn_incSqn hforward]
    apply Serial.le_of_le <;> omega

/-! ## No SQN is used twice -/

omit [OgsConv] [Milenage] in
/-- No other handler has written the same SQN and has yet to increment it. -/
def WritesFresh (s : HssAir) : Op → Prop
  | .dbUpdateRandAndSqn i => ∀ request info, s.handlers i = some ⟨request, .read info⟩ →
    ∀ j request' info', s.handlers j = some ⟨request', .updated info'⟩ → info'.sqn ≠ info.sqn
  | _ => True

/-- The SQNs of the vectors and of the handlers that have yet to answer are different. -/
structure Fresh (s : HssAir) : Prop where
  answers : (s.answers.map fun a => a.info.sqn).Nodup
  waiting : ∀ i request info, s.Waits i request info → ∀ a ∈ s.answers, a.info.sqn ≠ info.sqn
  apart : ∀ i j request request' info info', s.Waits i request info →
    s.Waits j request' info' → i ≠ j → info.sqn ≠ info'.sqn

omit [OgsConv] [Milenage] in
theorem fresh_initial (db : HssDbAuthInfo) : (initial db).Fresh := by
  constructor
  · exact List.nodup_nil
  · intro i request info h
    rcases h with h | h <;> cases h
  · intro i j request request' info info' h
    rcases h with h | h <;> cases h

omit [OgsConv] in
/-- An SQN that is written is not one with which another handler has yet to answer. -/
theorem Forward.write_ne (hs : s.Forward) (hwrites : s.WritesForward (.dbUpdateRandAndSqn i))
    (hfresh : s.WritesFresh (.dbUpdateRandAndSqn i))
    (hread : s.handlers i = some ⟨request, .read info⟩) {request' : AirRequest}
    {info' : HssDbAuthInfo} (hwaits : s.Waits j request' info') : info'.sqn ≠ info.sqn := by
  rcases hwaits with hupdated | hincremented
  · exact hfresh request info hread j request' info' hupdated
  · -- the stored SQN has been incremented since
    have hlt := (hs.incremented j request' info' hincremented).1
    have hle : s.db.sqn.toNat ≤ info.sqn.toNat := hwrites request info hread
    intro heq
    rw [heq] at hlt
    omega

theorem Fresh.step (hs : s.Fresh) (hstep : Step s op t) (hforward : s.Forward)
    (hwrites : s.WritesForward op) (hfresh : s.WritesFresh op) : t.Fresh := by
  constructor
  · rcases hstep.answers with h | ⟨i, request, info, -, hincremented, -, -, h⟩
    · rw [h]
      exact hs.answers
    · rw [h, List.map_cons, List.nodup_cons]
      constructor
      · intro hmem
        obtain ⟨a, ha, heq⟩ := List.mem_map.mp hmem
        exact hs.waiting i request info (.inr hincremented) a ha heq
      · exact hs.answers
  · intro j request info hj a ha
    rcases hstep.answers with h | ⟨i, request', info', rfl, hincremented, hnone, -, h⟩
    · rw [h] at ha
      rcases hstep.waits hj with hj | ⟨rfl, hread⟩
      · exact hs.waiting j request info hj a ha
      · -- the stored SQN is above those of the vectors
        have hlt := (hforward.answered a ha).1
        have hle : s.db.sqn.toNat ≤ info.sqn.toNat := hwrites request info hread
        intro heq
        rw [heq] at hlt
        omega
    · rw [h] at ha
      have hji : i ≠ j := by
        rintro rfl
        rw [Waits, hnone] at hj
        rcases hj with hj | hj <;> cases hj
      rcases hstep.waits hj with hj | ⟨hop, -⟩
      · rcases List.mem_cons.mp ha with rfl | ha
        · exact hs.apart i j request' request info' info (.inr hincremented) hj hji
        · exact hs.waiting j request info hj a ha
      · cases hop
  · intro i j request request' info info' hi hj hij
    rcases hstep.waits hi with hi | ⟨rfl, hread⟩
    · rcases hstep.waits hj with hj | ⟨rfl, hread⟩
      · exact hs.apart i j request request' info info' hi hj hij
      · exact hforward.write_ne hwrites hfresh hread hi
    · rcases hstep.waits hj with hj | ⟨hop, -⟩
      · exact (hforward.write_ne hwrites hfresh hread hj).symm
      · cases hop
        exact absurd rfl hij

/-- Below 2^48 different SQNs are different octets. -/
theorem Fresh.nodup_sqn (hs : s.Fresh) (hforward : s.Forward) :
    (s.answers.map AirAnswer.sqn).Nodup := by
  have hmax : hssMaxSqn.toNat = 2 ^ 43 - 1 := rfl
  have hlt : ∀ n ∈ s.answers.map (fun a => a.info.sqn), n.toNat < 2 ^ 48 := by
    intro n hn
    obtain ⟨a, ha, rfl⟩ := List.mem_map.mp hn
    have hle := (hforward.answered a ha).2
    omega
  have hmap : s.answers.map AirAnswer.sqn =
      (s.answers.map fun a => a.info.sqn).map fun n => OgsConv.uint64ToBuffer n 6 := by
    rw [List.map_map]
    rfl
  rw [hmap]
  apply List.Nodup.map_on
  · intro n hn m hm heq
    have hvalue := OgsConv.value_uint64ToBuffer n 6
    rw [heq, OgsConv.value_uint64ToBuffer] at hvalue
    have hn' := hlt n hn
    have hm' := hlt m hm
    apply UInt64.toNat_inj.mp
    omega
  · exact hs.answers

/-! ## Runs -/

omit [OgsConv] [Milenage] in
/-- The condition under which SQNs are fresh. -/
def KeepsSqnFresh (s : HssAir) (op : Op) : Prop := s.WritesForward op ∧ s.WritesFresh op

theorem sqn_fresh_run {db : HssDbAuthInfo} {tr : List (Op × HssAir)}
    (h : Lts.Trace (Lts.Restrict KeepsSqnFresh Step) (initial db) tr) :
    (∀ p ∈ tr, (p.2.answers.map AirAnswer.sqn).Nodup) ∧
      List.IsChain (fun s t => Serial.Le (2 ^ 48) s.db.sqn.toNat t.db.sqn.toNat)
        (initial db :: tr.map Prod.snd) := by
  have hkeep : ∀ s op t, s.Forward ∧ s.Fresh → Lts.Restrict KeepsSqnFresh Step s op t →
      t.Forward ∧ t.Fresh := by
    intro s op t hs hstep
    obtain ⟨⟨hwrites, hfresh⟩, hstep⟩ := hstep
    exact ⟨hs.1.step hstep hwrites, hs.2.step hstep hs.1 hwrites hfresh⟩
  have hinit : (initial db).Forward ∧ (initial db).Fresh := ⟨forward_initial db, fresh_initial db⟩
  constructor
  · intro p hp
    obtain ⟨hforward, hfresh⟩ := h.invariant hkeep hinit p hp
    exact hfresh.nodup_sqn hforward
  · apply Lts.Trace.isChain (I := fun s => s.Forward ∧ s.Fresh) _ h hinit
    intro s op t hs hstep
    exact ⟨hkeep s op t hs hstep, hstep.2.serial_le hs.1 hstep.1.1⟩

end

/-! Plain requests, for a subscriber whose SQN has never been used. -/

def blankDb : HssDbAuthInfo :=
  ⟨Vector.replicate 16 0, true, Vector.replicate 16 0, Vector.replicate 16 0, Vector.replicate 2 0,
    Vector.replicate 16 1, 0⟩

def plainRequest : AirRequest := ⟨none, Vector.replicate 3 0⟩

theorem prepare_plainRequest [OgsConv] [Milenage] (sqn : UInt64) (random random' : Octets16) :
    HssDbAuthInfo.prepare { blankDb with sqn := sqn } plainRequest random random' =
      some { blankDb with sqn := sqn } := by
  have hrand : blankDb.rand ≠ Vector.replicate 16 0 := by decide
  rw [HssDbAuthInfo.prepare, HssDbAuthInfo.withRand, if_neg hrand]
  rfl

/-- An SQN may be written if it is not behind and no handler waits for its increment. -/
theorem keepsSqnFresh_update (hread : s.handlers i = some ⟨request, .read info⟩)
    (hle : s.db.sqn.toNat ≤ info.sqn.toNat)
    (hnone : ∀ j request info, s.handlers j ≠ some ⟨request, .updated info⟩) :
    s.KeepsSqnFresh (.dbUpdateRandAndSqn i) := by
  constructor
  · intro request' info' h
    cases hread.symm.trans h
    exact hle
  · intro _ _ _ j request' info' hj
    exact absurd hj (hnone j request' info')

/-- The second handler reads after the increment of the first, and answers before it. -/
theorem trace_plain :
    ∃ tr, Lts.Trace (Lts.Restrict KeepsSqnFresh (@Step .reference .reference)) (initial blankDb)
      tr ∧ (Lts.finalState (initial blankDb) tr).answers.map (fun a => a.info.sqn) = [0, 32] := by
  let conv := OgsConv.reference
  let milenage := Milenage.reference
  let next : HssDbAuthInfo := { blankDb with sqn := 32 }
  let s₁ := (initial blankDb).setHandler 0 (some ⟨plainRequest, .received⟩)
  let s₂ := s₁.setHandler 1 (some ⟨plainRequest, .received⟩)
  let s₃ := s₂.setHandler 0 (some ⟨plainRequest, .read blankDb⟩)
  let s₄ := (s₃.setDb (s₃.db.updateRandAndSqn blankDb.rand blankDb.sqn)).setHandler 0
    (some ⟨plainRequest, .updated blankDb⟩)
  let s₅ := (s₄.setDb s₄.db.incSqn.bitSqn).setHandler 0 (some ⟨plainRequest, .incremented blankDb⟩)
  let s₆ := s₅.setHandler 1 (some ⟨plainRequest, .read next⟩)
  let s₇ := (s₆.setDb (s₆.db.updateRandAndSqn next.rand next.sqn)).setHandler 1
    (some ⟨plainRequest, .updated next⟩)
  let s₈ := (s₇.setDb s₇.db.incSqn.bitSqn).setHandler 1 (some ⟨plainRequest, .incremented next⟩)
  let s₉ := (s₈.setHandler 1 none).answer ⟨plainRequest, next⟩
  have hfirst : s₃.KeepsSqnFresh (.dbUpdateRandAndSqn 0) := by
    apply keepsSqnFresh_update rfl (Nat.le_refl _)
    intro j _ _
    rcases j with _ | _ | j <;> rintro ⟨⟩
  have hsecond : s₆.KeepsSqnFresh (.dbUpdateRandAndSqn 1) := by
    apply keepsSqnFresh_update rfl (by decide)
    intro j _ _
    rcases j with _ | _ | j <;> rintro ⟨⟩
  have hincrement₀ : s₄.KeepsSqnFresh (.dbIncrementSqn 0) := by
    refine ⟨?_, trivial⟩
    change blankDb.sqn.toNat + 32 ≤ hssMaxSqn.toNat
    decide
  have hincrement₁ : s₇.KeepsSqnFresh (.dbIncrementSqn 1) := by
    refine ⟨?_, trivial⟩
    change next.sqn.toNat + 32 ≤ hssMaxSqn.toNat
    decide
  have hnext : s₅.db.prepare plainRequest blankDb.rand blankDb.rand = some next := by
    have hdb : s₅.db = next := by decide
    rw [hdb]
    exact prepare_plainRequest 32 blankDb.rand blankDb.rand
  have htrace : Lts.Trace (Lts.Restrict KeepsSqnFresh Step) (initial blankDb)
      [(.receive 0 plainRequest, s₁), (.receive 1 plainRequest, s₂),
        (.dbAuthInfo 0 blankDb.rand blankDb.rand, s₃), (.dbUpdateRandAndSqn 0, s₄),
        (.dbIncrementSqn 0, s₅), (.dbAuthInfo 1 blankDb.rand blankDb.rand, s₆),
        (.dbUpdateRandAndSqn 1, s₇), (.dbIncrementSqn 1, s₈), (.answer 1, s₉),
        (.answer 0, (s₉.setHandler 0 none).answer ⟨plainRequest, blankDb⟩)] := by
    apply Lts.Trace.cons ⟨⟨trivial, trivial⟩, .receive rfl⟩
    apply Lts.Trace.cons ⟨⟨trivial, trivial⟩, .receive rfl⟩
    apply Lts.Trace.cons ⟨⟨trivial, trivial⟩, .read rfl (prepare_plainRequest 0 _ _)⟩
    apply Lts.Trace.cons ⟨hfirst, .update rfl⟩
    apply Lts.Trace.cons ⟨hincrement₀, .increment rfl⟩
    apply Lts.Trace.cons ⟨⟨trivial, trivial⟩, .read rfl hnext⟩
    apply Lts.Trace.cons ⟨hsecond, .update rfl⟩
    apply Lts.Trace.cons ⟨hincrement₁, .increment rfl⟩
    apply Lts.Trace.cons ⟨⟨trivial, trivial⟩, .answer rfl⟩
    apply Lts.Trace.cons ⟨⟨trivial, trivial⟩, .answer rfl⟩
    exact Lts.Trace.nil _
  exact ⟨_, htrace, rfl⟩

theorem sqn_fresh_run_one :
    ∃ tr, Lts.Trace (Lts.Restrict KeepsSqnFresh (@Step .reference .reference)) (initial blankDb)
        tr ∧ (Lts.finalState (initial blankDb) tr).answers.map (fun a => a.info.sqn) = [0, 32] ∧
      (∀ p ∈ tr, (p.2.answers.map (@AirAnswer.sqn .reference)).Nodup) ∧
      List.IsChain (fun s t => Serial.Le (2 ^ 48) s.db.sqn.toNat t.db.sqn.toNat)
        (initial blankDb :: tr.map Prod.snd) := by
  obtain ⟨tr, htrace, hanswers⟩ := trace_plain
  obtain ⟨hnodup, hchain⟩ := @sqn_fresh_run .reference .reference blankDb tr htrace
  exact ⟨tr, htrace, hanswers, hnodup, hchain⟩

/-- Two requests that read before either of them increments: both vectors have SQN 0. -/
theorem sqn_fresh_run_interleaved : ¬ ∃ (conv : OgsConv) (milenage : Milenage),
    ∀ db tr, Lts.Trace (@Step conv milenage) (initial db) tr →
      (∀ p ∈ tr, (p.2.answers.map AirAnswer.sqn).Nodup) ∧
      List.IsChain (fun s t => Serial.Le (2 ^ 48) s.db.sqn.toNat t.db.sqn.toNat)
        (initial db :: tr.map Prod.snd) := by
  rintro ⟨conv, milenage, h⟩
  have htrace : ∃ tr, Lts.Trace (@Step conv milenage) (initial blankDb) tr ∧
      ∃ p ∈ tr, p.2.answers = [⟨plainRequest, blankDb⟩, ⟨plainRequest, blankDb⟩] := by
    apply Exists.intro
    apply And.intro
    · apply Lts.Trace.cons (@Step.receive conv milenage _ 0 plainRequest rfl)
      apply Lts.Trace.cons (@Step.receive conv milenage _ 1 plainRequest rfl)
      apply Lts.Trace.cons (Step.read (i := 0) rfl
        (prepare_plainRequest 0 (Vector.replicate 16 0) (Vector.replicate 16 0)))
      apply Lts.Trace.cons (Step.read (i := 1) rfl
        (prepare_plainRequest 0 (Vector.replicate 16 0) (Vector.replicate 16 0)))
      apply Lts.Trace.cons (Step.update (i := 0) rfl)
      apply Lts.Trace.cons (Step.update (i := 1) rfl)
      apply Lts.Trace.cons (Step.increment (i := 0) rfl)
      apply Lts.Trace.cons (Step.increment (i := 1) rfl)
      apply Lts.Trace.cons (Step.answer (i := 0) rfl)
      apply Lts.Trace.cons (Step.answer (i := 1) rfl)
      apply Lts.Trace.nil
    · apply Exists.intro
      apply And.intro
      · iterate 9 apply List.Mem.tail
        exact List.Mem.head _
      · rfl
  obtain ⟨tr, htrace, p, hp, hanswers⟩ := htrace
  have hnodup := (h blankDb tr htrace).1 p hp
  rw [hanswers] at hnodup
  simp at hnodup

end HssAir
end NextEpc
