import NextEpc.Hss.SqnFresh

/-!
# Re-synchronisation

After a Re-Synchronization-Info with the right MAC-S the SQNs of the vectors are above SQN_MS,
as long as SQN_MS is in the range of `HSS_MAX_SQN` and no vector with a smaller SQN is under way.
With a wrong MAC-S nothing is written.
-/

namespace NextEpc
namespace HssAir
variable {s t : HssAir} {op : Op} {i j : Nat} {request : AirRequest} {info : HssDbAuthInfo}

omit info in
/-- When a vector for SQN_MS is about to be returned, SQN_MS is in range, and the other handlers
that have written an SQN and have yet to answer have larger ones. -/
def ResyncInOrder [Milenage] (s : HssAir) : Op → Prop
  | .answer i => ∀ request info sqnMs, s.handlers i = some ⟨request, .incremented info⟩ →
    info.sqnMs request = some sqnMs →
    Octets.value sqnMs.toList + 33 ≤ hssMaxSqn.toNat ∧
      ∀ j request' info', j ≠ i → s.Waits j request' info' →
        Octets.value sqnMs.toList < info'.sqn.toNat
  | _ => True

variable [OgsConv] [Milenage]

/-- The vector for a SQN_MS, and every vector after it, has an SQN after SQN_MS. -/
structure AboveSqnMs (s : HssAir) : Prop where
  own : ∀ a ∈ s.answers, ∀ sqnMs, a.sqnMs = some sqnMs →
    Serial.Lt (2 ^ 48) (Octets.value sqnMs.toList) (Octets.value a.sqn.toList)
  later : s.answers.Pairwise fun newer older => ∀ sqnMs, older.sqnMs = some sqnMs →
    Serial.Lt (2 ^ 48) (Octets.value sqnMs.toList) (Octets.value newer.sqn.toList)

omit [OgsConv] in
/-- The same in the numbers, and for the handlers that have yet to answer. -/
structure Resynchronized (s : HssAir) : Prop where
  own : ∀ a ∈ s.answers, ∀ sqnMs, a.sqnMs = some sqnMs →
    Octets.value sqnMs.toList < a.info.sqn.toNat
  later : s.answers.Pairwise fun newer older => ∀ sqnMs, older.sqnMs = some sqnMs →
    Octets.value sqnMs.toList < newer.info.sqn.toNat
  waiting : ∀ i request info, s.Waits i request info →
    ∀ a ∈ s.answers, ∀ sqnMs, a.sqnMs = some sqnMs →
      Octets.value sqnMs.toList < info.sqn.toNat

omit [OgsConv] in
theorem resynchronized_initial (db : HssDbAuthInfo) : (initial db).Resynchronized := by
  constructor
  · intro a ha
    cases ha
  · exact List.Pairwise.nil
  · intro i request info h
    rcases h with h | h <;> cases h

omit [OgsConv] in
/-- A resynchronised handler has the SQN that follows SQN_MS. -/
theorem Forward.sqnMs_lt (hs : s.Forward) (h : s.Holds i request info) {sqnMs : Octets6}
    (hms : info.sqnMs request = some sqnMs)
    (hrange : Octets.value sqnMs.toList + 33 ≤ hssMaxSqn.toNat) :
    Octets.value sqnMs.toList < info.sqn.toNat := by
  have hmax : hssMaxSqn.toNat = 2 ^ 43 - 1 := rfl
  have hsqn := hs.resynchronized i request info sqnMs h hms
  rw [Nat.mod_eq_of_lt (by omega)] at hsqn
  omega

theorem Resynchronized.step (hs : s.Resynchronized) (hstep : Step s op t) (hforward : s.Forward)
    (hwrites : s.WritesForward op) (horder : s.ResyncInOrder op) : t.Resynchronized := by
  rcases hstep.answers with h | ⟨i, request, info, rfl, hincremented, hnone, -, h⟩
  · constructor
    · rw [h]
      exact hs.own
    · rw [h]
      exact hs.later
    · intro j request info hj a ha sqnMs hms
      rw [h] at ha
      rcases hstep.waits hj with hj | ⟨rfl, hread⟩
      · exact hs.waiting j request info hj a ha sqnMs hms
      · -- the stored SQN is above those of the vectors
        have hown := hs.own a ha sqnMs hms
        have hlt := (hforward.answered a ha).1
        have hle : s.db.sqn.toNat ≤ info.sqn.toNat := hwrites request info hread
        omega
  · constructor
    · intro a ha sqnMs hms
      rw [h] at ha
      rcases List.mem_cons.mp ha with rfl | ha
      · exact hforward.sqnMs_lt (.inr (.inr hincremented)) hms
          (horder request info sqnMs hincremented hms).1
      · exact hs.own a ha sqnMs hms
    · rw [h, List.pairwise_cons]
      constructor
      · intro a ha sqnMs hms
        exact hs.waiting i request info (.inr hincremented) a ha sqnMs hms
      · exact hs.later
    · intro j request' info' hj a ha sqnMs hms
      have hji : j ≠ i := by
        rintro rfl
        rw [Waits, hnone] at hj
        rcases hj with hj | hj <;> cases hj
      rw [h] at ha
      rcases hstep.waits hj with hj | ⟨hop, -⟩
      · rcases List.mem_cons.mp ha with rfl | ha
        · exact (horder request info sqnMs hincremented hms).2 j request' info' hji hj
        · exact hs.waiting j request' info' hj a ha sqnMs hms
      · cases hop

theorem Forward.value_sqn (hs : s.Forward) {a : AirAnswer} (ha : a ∈ s.answers) :
    Octets.value a.sqn.toList = a.info.sqn.toNat ∧ 2 * a.info.sqn.toNat < 2 ^ 48 := by
  have hmax : hssMaxSqn.toNat = 2 ^ 43 - 1 := rfl
  have hle := (hs.answered a ha).2
  have hvalue : Octets.value a.sqn.toList = a.info.sqn.toNat % 2 ^ 48 :=
    OgsConv.value_uint64ToBuffer a.info.sqn 6
  omega

theorem Resynchronized.aboveSqnMs (hs : s.Resynchronized) (hforward : s.Forward) :
    s.AboveSqnMs := by
  constructor
  · intro a ha sqnMs hms
    obtain ⟨hvalue, hhalf⟩ := hforward.value_sqn ha
    rw [hvalue]
    exact Serial.lt_of_lt (hs.own a ha sqnMs hms) hhalf
  · apply hs.later.imp_of_mem
    intro newer older hnewer _ hlt sqnMs hms
    obtain ⟨hvalue, hhalf⟩ := hforward.value_sqn hnewer
    rw [hvalue]
    exact Serial.lt_of_lt (hlt sqnMs hms) hhalf

/-- Exactly when the SQN for a SQN_MS is after it: it is in range, or so large that what the mask
leaves of it is after it by wrapping around. -/
theorem sqnMs_lt_iff {db : HssDbAuthInfo} {random random' : Octets16} {sqnMs : Octets6}
    (h : db.prepare request random random' = some info) (hms : info.sqnMs request = some sqnMs) :
    Serial.Lt (2 ^ 48) (Octets.value sqnMs.toList)
        (Octets.value (OgsConv.uint64ToBuffer info.sqn 6).toList) ↔
      Octets.value sqnMs.toList + 33 < 2 ^ 43 ∨ 17 * 2 ^ 43 ≤ Octets.value sqnMs.toList + 33 := by
  have hlt : Octets.value sqnMs.toList < 2 ^ (8 * sqnMs.toList.length) :=
    Octets.value_lt sqnMs.toList
  have hsqn : info.sqn.toNat = (Octets.value sqnMs.toList + 33) % 2 ^ 43 := by
    rcases HssDbAuthInfo.sqn_of_prepare h with ⟨hnone, -⟩ | ⟨sqnMs', hsome, heq⟩
    · rw [hms] at hnone
      cases hnone
    · rw [hms] at hsome
      cases hsome
      exact heq
  rw [Vector.length_toList] at hlt
  rw [OgsConv.value_uint64ToBuffer, hsqn]
  generalize Octets.value sqnMs.toList = n at hlt
  unfold Serial.Lt Serial.ahead
  omega

/-! ## Runs -/

omit [OgsConv] in
/-- The condition under which re-synchronisation works. -/
def KeepsSqnMs (s : HssAir) (op : Op) : Prop := s.WritesForward op ∧ s.ResyncInOrder op

/-- The vectors of a run, and, in any state, a request whose MAC-S is wrong. -/
theorem resync_run {db : HssDbAuthInfo} :
    (∀ tr, Lts.Trace (Lts.Restrict KeepsSqnMs Step) (initial db) tr → ∀ p ∈ tr, p.2.AboveSqnMs) ∧
    ∀ s i random random' t request auts, s.handlers i = some ⟨request, .received⟩ →
      request.reSynchronizationInfo = some auts →
      (hssAucSqn s.db.milenageOpc s.db.k auts).2 ≠ auts.macS →
      Step s (.dbAuthInfo i random random') t →
      t.db = s.db ∧ t.handlers i = none ∧ t.answers = s.answers := by
  constructor
  · intro tr h p hp
    have hkeep : ∀ s op t, s.Forward ∧ s.Resynchronized → Lts.Restrict KeepsSqnMs Step s op t →
        t.Forward ∧ t.Resynchronized := by
      intro s op t hs hstep
      obtain ⟨⟨hwrites, horder⟩, hstep⟩ := hstep
      exact ⟨hs.1.step hstep hwrites, hs.2.step hstep hs.1 hwrites horder⟩
    obtain ⟨hforward, hresync⟩ :=
      h.invariant hkeep ⟨forward_initial db, resynchronized_initial db⟩ p hp
    exact hresync.aboveSqnMs hforward
  · intro s i random random' t request auts hhandler hauts hmac hstep
    have hnone : s.db.prepare request random random' = none :=
      HssDbAuthInfo.prepare_eq_none hauts hmac
    cases hstep
    case unknown => exact ⟨rfl, Function.update_self .., rfl⟩
    case macFailed => exact ⟨rfl, Function.update_self .., rfl⟩
    case read hread hprepare =>
      rw [hhandler] at hread
      cases hread
      rw [hnone] at hprepare
      cases hprepare

end HssAir

/-! The AUTS that a UE with the keys of the subscriber sends. -/

section
variable [Milenage]

def HssDbAuthInfo.auts (db : HssDbAuthInfo) (sqnMs : Octets6) : ReSynchronizationInfo where
  rand := Vector.replicate 16 0
  concSqnMs := Vector.zipWith (fun a b => a ^^^ b)
    (Milenage.f2345 db.milenageOpc db.k (Vector.replicate 16 0)) sqnMs
  macS := Milenage.f1 db.milenageOpc db.k (Vector.replicate 16 0) sqnMs (Vector.replicate 2 0)

theorem hssAucSqn_auts (db : HssDbAuthInfo) (sqnMs : Octets6) :
    hssAucSqn db.milenageOpc db.k (db.auts sqnMs) = (sqnMs, (db.auts sqnMs).macS) := by
  have hms : (hssAucSqn db.milenageOpc db.k (db.auts sqnMs)).1 = sqnMs := by
    ext k hk
    simp [hssAucSqn, HssDbAuthInfo.auts]
  apply Prod.ext hms
  change Milenage.f1 _ _ _ (hssAucSqn db.milenageOpc db.k (db.auts sqnMs)).1 _ = _
  rw [hms]
  rfl

def resyncRequest (sqnMs : Octets6) : AirRequest where
  reSynchronizationInfo := some (HssAir.blankDb.auts sqnMs)
  visitedPlmnId := Vector.replicate 3 0

end

def resyncInfo [OgsConv] (sqnMs : Octets6) : HssDbAuthInfo :=
  { HssAir.blankDb with sqn := (OgsConv.bufferToUint64 sqnMs.toList + 32 + 1) &&& hssMaxSqn }

theorem sqnMs_resyncInfo [OgsConv] [Milenage] (sqnMs : Octets6) :
    (resyncInfo sqnMs).sqnMs (resyncRequest sqnMs) = some sqnMs := by
  apply congrArg some
  change (hssAucSqn HssAir.blankDb.milenageOpc HssAir.blankDb.k (HssAir.blankDb.auts sqnMs)).1 = _
  rw [hssAucSqn_auts]

theorem prepare_resyncRequest [OgsConv] [Milenage] (sqnMs : Octets6) (random : Octets16) :
    HssAir.blankDb.prepare (resyncRequest sqnMs) random HssAir.blankDb.rand =
      some (resyncInfo sqnMs) := by
  have hrand : HssAir.blankDb.rand ≠ Vector.replicate 16 0 := by decide
  rw [HssDbAuthInfo.prepare, HssDbAuthInfo.withRand, if_neg hrand]
  apply (if_pos _).trans
  · rw [hssAucSqn_auts]
    rfl
  · rw [hssAucSqn_auts]

namespace HssAir

/-- A vector for a SQN_MS is returned while the handler of a plain request, which has read after
it, has yet to answer. -/
theorem trace_resync :
    let conv := OgsConv.reference
    let milenage := Milenage.reference
    ∃ tr, Lts.Trace (Lts.Restrict KeepsSqnMs (@Step conv milenage)) (initial blankDb) tr ∧
      (Lts.finalState (initial blankDb) tr).answers.map (fun a => (a.sqnMs, a.info.sqn)) =
        [(none, 97), (some #v[0, 0, 0, 0, 0, 32], 65)] := by
  intro conv milenage
  let sqnMs : Octets6 := #v[0, 0, 0, 0, 0, 32]
  let request := resyncRequest sqnMs
  let info := resyncInfo sqnMs
  let next : HssDbAuthInfo := { blankDb with sqn := 97 }
  have hms : info.sqnMs request = some sqnMs := sqnMs_resyncInfo _
  let s₁ := (initial blankDb).setHandler 0 (some ⟨request, .received⟩)
  let s₂ := s₁.setHandler 1 (some ⟨plainRequest, .received⟩)
  let s₃ := s₂.setHandler 0 (some ⟨request, .read info⟩)
  let s₄ := (s₃.setDb (s₃.db.updateRandAndSqn info.rand info.sqn)).setHandler 0
    (some ⟨request, .updated info⟩)
  let s₅ := (s₄.setDb s₄.db.incSqn.bitSqn).setHandler 0 (some ⟨request, .incremented info⟩)
  let s₆ := s₅.setHandler 1 (some ⟨plainRequest, .read next⟩)
  let s₇ := (s₆.setDb (s₆.db.updateRandAndSqn next.rand next.sqn)).setHandler 1
    (some ⟨plainRequest, .updated next⟩)
  let s₈ := (s₇.setHandler 0 none).answer ⟨request, info⟩
  let s₉ := (s₈.setDb s₈.db.incSqn.bitSqn).setHandler 1 (some ⟨plainRequest, .incremented next⟩)
  have hfirst : s₃.KeepsSqnMs (.dbUpdateRandAndSqn 0) :=
    ⟨fun _ _ _ => Nat.zero_le _, trivial⟩
  have hsecond : s₆.KeepsSqnMs (.dbUpdateRandAndSqn 1) := by
    refine ⟨?_, trivial⟩
    intro _ _ h
    cases h
    decide
  have hincrement₀ : s₄.KeepsSqnMs (.dbIncrementSqn 0) := by
    refine ⟨?_, trivial⟩
    change info.sqn.toNat + 32 ≤ hssMaxSqn.toNat
    decide
  have hincrement₁ : s₈.KeepsSqnMs (.dbIncrementSqn 1) := by
    refine ⟨?_, trivial⟩
    change next.sqn.toNat + 32 ≤ hssMaxSqn.toNat
    decide
  have hanswer₀ : s₇.KeepsSqnMs (.answer 0) := by
    refine ⟨trivial, ?_⟩
    intro _ _ sqnMs' h hms'
    cases h
    cases hms.symm.trans hms'
    refine ⟨by decide, ?_⟩
    intro j _ _ hj h
    rcases j with _ | _ | j
    · exact absurd rfl hj
    · rcases h with h | h <;> cases h
      decide
    · rcases h with h | h <;> cases h
  have hanswer₁ : s₉.KeepsSqnMs (.answer 1) := by
    refine ⟨trivial, ?_⟩
    intro _ _ _ h hms'
    cases h
    cases hms'
  have hnext : s₅.db.prepare plainRequest blankDb.rand blankDb.rand = some next := by
    have hdb : s₅.db = next := by decide
    rw [hdb]
    exact prepare_plainRequest 97 blankDb.rand blankDb.rand
  have htrace : Lts.Trace (Lts.Restrict KeepsSqnMs Step) (initial blankDb)
      [(.receive 0 request, s₁), (.receive 1 plainRequest, s₂),
        (.dbAuthInfo 0 blankDb.rand blankDb.rand, s₃), (.dbUpdateRandAndSqn 0, s₄),
        (.dbIncrementSqn 0, s₅), (.dbAuthInfo 1 blankDb.rand blankDb.rand, s₆),
        (.dbUpdateRandAndSqn 1, s₇), (.answer 0, s₈), (.dbIncrementSqn 1, s₉),
        (.answer 1, (s₉.setHandler 1 none).answer ⟨plainRequest, next⟩)] := by
    apply Lts.Trace.cons ⟨⟨trivial, trivial⟩, .receive rfl⟩
    apply Lts.Trace.cons ⟨⟨trivial, trivial⟩, .receive rfl⟩
    apply Lts.Trace.cons ⟨⟨trivial, trivial⟩, .read rfl (prepare_resyncRequest _ _)⟩
    apply Lts.Trace.cons ⟨hfirst, .update rfl⟩
    apply Lts.Trace.cons ⟨hincrement₀, .increment rfl⟩
    apply Lts.Trace.cons ⟨⟨trivial, trivial⟩, .read rfl hnext⟩
    apply Lts.Trace.cons ⟨hsecond, .update rfl⟩
    apply Lts.Trace.cons ⟨hanswer₀, .answer rfl⟩
    apply Lts.Trace.cons ⟨hincrement₁, .increment rfl⟩
    apply Lts.Trace.cons ⟨hanswer₁, .answer rfl⟩
    exact Lts.Trace.nil _
  have hsqn : info.sqn = 65 := by decide
  refine ⟨_, htrace, ?_⟩
  change [(none, next.sqn), (info.sqnMs request, info.sqn)] = _
  rw [hms, hsqn]

/-- The AUTS for a SQN_MS with another MAC-S -/
def wrongAuts [OgsConv] [Milenage] (sqnMs : Octets6) : ReSynchronizationInfo :=
  { blankDb.auts sqnMs with macS := (blankDb.auts sqnMs).macS.map fun octet => octet + 1 }

theorem macS_wrongAuts [OgsConv] [Milenage] (sqnMs : Octets6) :
    (hssAucSqn blankDb.milenageOpc blankDb.k (wrongAuts sqnMs)).2 ≠ (wrongAuts sqnMs).macS := by
  have heq : (hssAucSqn blankDb.milenageOpc blankDb.k (wrongAuts sqnMs)).2 =
      (blankDb.auts sqnMs).macS := congrArg Prod.snd (hssAucSqn_auts blankDb sqnMs)
  rw [heq]
  intro h
  have hoctet := congrArg (fun v : Octets8 => v[0]) h
  simp [wrongAuts] at hoctet

/-- The vector is above the SQN_MS, and nothing is changed by the wrong MAC-S. -/
theorem resync_run_one :
    let conv := OgsConv.reference
    let milenage := Milenage.reference
    (∃ tr, Lts.Trace (Lts.Restrict KeepsSqnMs (@Step conv milenage)) (initial blankDb) tr ∧
      (Lts.finalState (initial blankDb) tr).answers.map (fun a => (a.sqnMs, a.info.sqn)) =
        [(none, 97), (some #v[0, 0, 0, 0, 0, 32], 65)] ∧ ∀ p ∈ tr, p.2.AboveSqnMs) ∧
    ∃ s t, @Step conv milenage s (.dbAuthInfo 0 blankDb.rand blankDb.rand) t ∧ t.db = s.db ∧
        t.handlers 0 = none ∧ t.answers = s.answers := by
  intro conv milenage
  obtain ⟨tr, htrace, hanswers⟩ := trace_resync
  have hmac := macS_wrongAuts #v[0, 0, 0, 0, 0, 32]
  let wrong : ReSynchronizationInfo := wrongAuts #v[0, 0, 0, 0, 0, 32]
  let s := (initial blankDb).setHandler 0 (some ⟨⟨some wrong, Vector.replicate 3 0⟩, .received⟩)
  have hstep : Step s (.dbAuthInfo 0 blankDb.rand blankDb.rand) (s.setHandler 0 none) :=
    Step.macFailed rfl (HssDbAuthInfo.prepare_eq_none rfl hmac)
  have hsame := (@resync_run _ _ blankDb).2 s 0 _ _ _ _ wrong rfl rfl hmac hstep
  exact ⟨⟨tr, htrace, hanswers, resync_run.1 tr htrace⟩, s, _, hstep, hsame⟩

/-- SQN_MS is 2^43, one more than `HSS_MAX_SQN`: the vector has SQN 33. -/
theorem resync_run_masked : ¬ ∃ (conv : OgsConv) (milenage : Milenage),
    ∀ db tr, Lts.Trace (@Step conv milenage) (initial db) tr → ∀ p ∈ tr, p.2.AboveSqnMs := by
  rintro ⟨conv, milenage, h⟩
  have htrace : ∃ tr, Lts.Trace (@Step conv milenage) (initial blankDb) tr ∧
      ∃ p ∈ tr, p.2.answers =
        [⟨resyncRequest #v[8, 0, 0, 0, 0, 0], resyncInfo #v[8, 0, 0, 0, 0, 0]⟩] := by
    apply Exists.intro
    apply And.intro
    · apply Lts.Trace.cons
        (@Step.receive conv milenage _ 0 (resyncRequest #v[8, 0, 0, 0, 0, 0]) rfl)
      apply Lts.Trace.cons (Step.read (i := 0) rfl
        (prepare_resyncRequest _ (Vector.replicate 16 0)))
      apply Lts.Trace.cons (Step.update (i := 0) rfl)
      apply Lts.Trace.cons (Step.increment (i := 0) rfl)
      apply Lts.Trace.cons (Step.answer (i := 0) rfl)
      apply Lts.Trace.nil
    · apply Exists.intro
      apply And.intro
      · exact .tail _ (.tail _ (.tail _ (.tail _ (.head _))))
      · rfl
  obtain ⟨tr, htrace, p, hp, hanswers⟩ := htrace
  have habove := (h blankDb tr htrace p hp).own
  rw [hanswers] at habove
  have hlt := habove _ List.mem_cons_self _ (sqnMs_resyncInfo _)
  rw [AirAnswer.sqn, sqnMs_lt_iff (prepare_resyncRequest _ (Vector.replicate 16 0))
    (sqnMs_resyncInfo _)] at hlt
  revert hlt
  decide

end HssAir
end NextEpc
