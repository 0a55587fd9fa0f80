import NextEpc.Mme.EmmTurns

/-!
# The moves of a run

A step of a run is a sequence of moves: operations of the handlers, the moves of the event
queue and the entering of states. Between two steps the context is settled.
-/

namespace NextEpc

section
variable [OgsCrypt]

/-! ## Decoding -/

/-- What decoding a PDU does to the context: the code is checked if there is one and the
context can be used. -/
structure MmeUe.Decodes (ue : MmeUe) (pdu : Bytes) (ue' : MmeUe) : Prop where
  shape : ∃ ulCount failed,
    ue' = { ue with ulCount := ulCount, macFailed := ue.macFailed || failed }
  checked : ∀ count ok, NasChecked ue pdu count ok →
    ue' = ({ ue with ulCount := count }).checked ok
  isChecked : NasIntegrityProtected pdu → ue.securityContextAvailable = true →
    NasIntegrityAlgorithm ue.selectedIntAlgorithm → ∃ count ok, NasChecked ue pdu count ok

/-- The type and the buffer of an event are those of its PDU. -/
def NasEvent.Stripped (e : NasEvent) : Prop :=
  ∃ stripped, s1apStripSecurityHeader e.origin.pdu = .ok (some (e.nasType, stripped)) ∧
    (e.origin.decoded = none → e.pkbuf = stripped)

variable {ue ue' : MmeUe} {pdu : Bytes} {type : NasSecurityHeaderType} {nasbuf nasbuf' : Pkbuf}
  {rv : Rv} {count : UlCount} {ok : Bool}

theorem nasSecurityDecodeServiceRequest_shape
    (hr : nasSecurityDecodeServiceRequest ue nasbuf = .ok (ue', nasbuf', rv)) :
    ∃ ulCount failed,
      ue' = { ue with ulCount := ulCount, macFailed := ue.macFailed || failed } := by
  unfold nasSecurityDecodeServiceRequest at hr
  split at hr
  · cases hr
    exact ⟨ue.ulCount, false, by rw [Bool.or_false]⟩
  · split at hr
    · obtain ⟨_, _, hr⟩ := Fallible.bind_eq_ok.mp hr
      cases hr
      rw [MmeUe.checked_eq]
      exact ⟨_, _, rfl⟩
    · cases hr

/-- The check and the deciphering in turn. -/
theorem nasSecurityUnprotect_bind (octets : NasSecurityHeaderOctets) :
    nasSecurityUnprotect ue type octets nasbuf =
      ((if type.integrityProtected then
        nasMacCalculate ue.selectedIntAlgorithm ue.knasInt ue.ulCount.i32 nasSecurityBearer
          nasSecurityUplinkDirection nasbuf (Vector.replicate 4 0) >>= fun r =>
        .ok (ue.checked (octets.messageAuthenticationCode = r.2),
          r.1.writeBefore octets.messageAuthenticationCode.toList)
      else .ok (ue, nasbuf)) >>= fun checked =>
      Fallible.assertSome .nasSecurityDecode (checked.2.pull 1) >>= fun pulled =>
      (if type.ciphered then
        nasEncrypt checked.1.selectedEncAlgorithm checked.1.knasEnc checked.1.ulCount.i32
          nasSecurityBearer nasSecurityUplinkDirection pulled
      else .ok pulled) >>= fun deciphered =>
      .ok (checked.1, deciphered)) := by
  unfold nasSecurityUnprotect
  simp only [MmeUe.checked_eq]
  cases type.integrityProtected with
  | false => cases type.ciphered <;> rfl
  | true =>
    cases nasMacCalculate ue.selectedIntAlgorithm ue.knasInt ue.ulCount.i32 nasSecurityBearer
      nasSecurityUplinkDirection nasbuf (Vector.replicate 4 0)
    · cases type.ciphered <;> rfl
    · cases type.ciphered <;> rfl

theorem nasSecurityUnprotect_shape {octets : NasSecurityHeaderOctets}
    (hr : nasSecurityUnprotect ue type octets nasbuf = .ok (ue', nasbuf')) :
    ∃ failed, ue' = { ue with macFailed := ue.macFailed || failed } := by
  rw [nasSecurityUnprotect_bind] at hr
  obtain ⟨checked, hchecked, hr⟩ := Fallible.bind_eq_ok.mp hr
  obtain ⟨_, _, hr⟩ := Fallible.bind_eq_ok.mp hr
  obtain ⟨_, _, hr⟩ := Fallible.bind_eq_ok.mp hr
  cases hr
  split at hchecked
  · obtain ⟨_, _, hchecked⟩ := Fallible.bind_eq_ok.mp hchecked
    cases hchecked
    exact ⟨_, rfl⟩
  · cases hchecked
    exact ⟨false, by rw [Bool.or_false]⟩

theorem nasSecurityDecode_shape (hr : nasSecurityDecode ue type nasbuf = .ok (ue', nasbuf', rv)) :
    ∃ ulCount failed,
      ue' = { ue with ulCount := ulCount, macFailed := ue.macFailed || failed } := by
  unfold nasSecurityDecode at hr
  split at hr
  · exact nasSecurityDecodeServiceRequest_shape hr
  · have hbase : ∃ ulCount, (if (type.available ue).newSecurityContext then
        { ue with ulCount := .zero } else ue) = { ue with ulCount := ulCount } := by
      split
      · exact ⟨_, rfl⟩
      · exact ⟨ue.ulCount, rfl⟩
    obtain ⟨ulCount, hbase⟩ := hbase
    simp only [hbase] at hr
    split at hr
    · obtain ⟨_, _, hr⟩ := Fallible.bind_eq_ok.mp hr
      obtain ⟨_, _, hr⟩ := Fallible.bind_eq_ok.mp hr
      obtain ⟨_, _, hr⟩ := Fallible.bind_eq_ok.mp hr
      obtain ⟨⟨after, _⟩, hunprotect, hr⟩ := Fallible.bind_eq_ok.mp hr
      cases hr
      obtain ⟨failed, rfl⟩ := nasSecurityUnprotect_shape hunprotect
      exact ⟨_, failed, rfl⟩
    · cases hr
      exact ⟨ulCount, false, by rw [Bool.or_false]⟩

/-- A PDU whose code is checked, decoded as its header says or without deciphering. -/
theorem NasChecked.decoded (hchecked : NasChecked ue pdu count ok)
    {stripped : Pkbuf} {ciphered : Bool}
    (hstrip : s1apStripSecurityHeader pdu = .ok (some (type, stripped)))
    (hciphered : type.integrityProtected = true ∨ ciphered = type.ciphered)
    (hr : nasSecurityDecode ue { type with ciphered := ciphered } stripped =
      .ok (ue', nasbuf', .ok)) :
    ue' = ({ ue with ulCount := count }).checked ok := by
  cases hchecked with
  | message htype havailable halgorithm hcount =>
    obtain ⟨proto, htype⟩ := Option.isSome_iff_exists.mp htype
    obtain ⟨hprotected, hservice, -, hnew, -, -⟩ := nasProtectedHeaderType_some htype
    rw [s1apStripSecurityHeader_message htype] at hstrip
    cases hstrip
    obtain ⟨headroom', hdecode⟩ := nasSecurityDecode_message
      { type with ciphered := ciphered } _ _ hprotected hservice hnew havailable halgorithm hcount
    rw [hdecode] at hr
    obtain ⟨_, _, hr⟩ := Fallible.bind_eq_ok.mp hr
    cases hr
    rfl
  | @serviceRequest first q m0 m1 rest count hfirst halgorithm hcount =>
    have hsame : ciphered = type.ciphered := by
      rcases hciphered with hprotected | hsame
      · simp only [s1apStripSecurityHeader, hfirst, NasSecurityHeader.forServiceRequestMessage,
          NasSecurityHeader.plainNasMessage] at hstrip
        cases hstrip
        cases hprotected
      · exact hsame
    have hreceive : nasReceive ue (first :: q :: m0 :: m1 :: rest) = .ok (ue', nasbuf') := by
      rw [nasReceive, hstrip, Fallible.ok_bind, Fallible.assertSome_some, Fallible.ok_bind]
      subst hsame
      change nasSecurityDecode ue type stripped = _ at hr
      simp only [hr]
      rfl
    exact nasReceive_checked (.serviceRequest hfirst halgorithm hcount) hreceive

theorem MmeUe.Decodes.of_decode {stripped : Pkbuf} {ciphered : Bool}
    (hstrip : s1apStripSecurityHeader pdu = .ok (some (type, stripped)))
    (hciphered : type.integrityProtected = true ∨ ciphered = type.ciphered)
    (hr : nasSecurityDecode ue { type with ciphered := ciphered } stripped =
      .ok (ue', nasbuf', .ok)) : ue.Decodes pdu ue' where
  shape := nasSecurityDecode_shape hr
  checked _ _ hchecked := hchecked.decoded hstrip hciphered hr
  isChecked hprotected havailable halgorithm :=
    nasSecurityDecode_isChecked hprotected havailable halgorithm hstrip hr

/-! ## Moves -/

/-- The context after an Authentication-Information-Answer. -/
def Mme.stored (m : Mme) (ue : MmeUe) (id : Nat) (vector : EUtranVector)
    (pendingAirs : List Nat) : Mme :=
  ({ m with
    ue := { ue with
      t3460 := { pkbuf := some (.authenticationRequest vector.rand vector.autn) } }
    pendingAirs := pendingAirs } : Mme).say (.aia id vector)

section
omit [OgsCrypt]
variable {m : Mme} {id : Nat} {vector : EUtranVector} {pendingAirs : List Nat}

theorem Mme.log_stored : (m.stored ue id vector pendingAirs).log =
    ⟨m.handling, .aia id vector⟩ :: m.log := rfl

theorem Mme.handling_stored : (m.stored ue id vector pendingAirs).handling = m.handling := rfl

theorem Mme.emmState_stored :
    (m.stored ue id vector pendingAirs).log.emmState = m.log.emmState := rfl

end

/-- The moves of a run. -/
inductive MmeMove (cfg : MmeConfig) : Mme → Mme → Prop
  | op {m m' : Mme} (hop : MmeOp m m') : MmeMove cfg m m'
  | enbUes {m : Mme} (enbUes : EnbUeId → EnbUeOwner) (enbUe : Option EnbUeId) :
      MmeMove cfg m { m with enbUes := enbUes, ue := { m.ue with enbUe := enbUe } }
  | queue {m : Mme} (queue : List MmeEvent) : MmeMove cfg m { m with queue := queue }
  | pendingAirs {m : Mme} (pendingAirs : List Nat) :
      MmeMove cfg m { m with pendingAirs := pendingAirs }
  | decode {m : Mme} {pdu : Bytes} {ue' : MmeUe} (hhandling : m.handling = none)
      (hdecodes : m.ue.Decodes pdu ue') :
      MmeMove cfg m (({ m with ue := ue' } : Mme).say (.nasSecurityDecode m.ue pdu))
  | decodeAgain {m : Mme} (ulCount : UlCount) (failed : Bool) : MmeMove cfg m
      { m with ue := { m.ue with ulCount := ulCount, macFailed := m.ue.macFailed || failed } }
  | message {m : Mme} {h : Handling} (hhandling : m.handling = none) (hue : h.ue = m.ue)
      (hstate : m.log.emmState = m.ue.sm) (hstripped : ∃ stripped,
        s1apStripSecurityHeader h.event.origin.pdu = .ok (some (h.event.nasType, stripped))) :
      MmeMove cfg m (({ m with handling := some h } : Mme).say .emmMessage)
  | handled {m : Mme} : MmeMove cfg m { m with handling := none }
  | esmMessage {m : Mme} (origin : Option NasOrigin) (hhandling : m.handling = none) :
      MmeMove cfg m (m.say (.esmMessage origin))
  | aia {m : Mme} {id : Nat} {vector : EUtranVector} {pendingAirs : List Nat}
      (hhandling : m.handling = none) (hpending : id ∈ m.pendingAirs)
      (hlen : vector.xres.length ≤ 16) :
      MmeMove cfg m (m.stored (m.ue.storeVector vector) id vector pendingAirs)
  | kdfNh {m : Mme} (hhandling : m.handling = none) : MmeMove cfg m m.kdfNh
  | enter {m : Mme} {target : EmmState} (henters : m.Enters target)
      (htarget : target = .authentication ∨ target = .initialContextSetup ∨
        target = .registered) :
      MmeMove cfg m (m.say (.tran m.log.emmState target))
  | leave {m : Mme} {target : EmmState} (henters : m.Enters target)
      (htarget : target = .deRegistered ∨ target = .exception) :
      MmeMove cfg m (m.say (.tran m.log.emmState target)).clearAllTimers
  | enterSecurityMode {m : Mme} (dlCount : UInt32) (pdu : Bytes)
      (henters : m.Enters .securityMode)
      (hstate : m.log.emmState = .authentication)
      (halgorithm : NasIntegrityAlgorithm (m.ue.selectAlgorithms cfg).selectedIntAlgorithm) :
      MmeMove cfg m { m with
        ue := { m.ue.selectAlgorithms cfg with
          dlCount := dlCount
          ulCount := .zero
          securityContextAvailable := true
          t3460 := { pkbuf := some (.securityModeCommand pdu) } }
        log := ⟨m.handling, .securityModeCommand m.ue.kasme (m.ue.selectAlgorithms cfg).knasInt⟩ ::
          ⟨m.handling, .tran .authentication .securityMode⟩ :: m.log }
  | attachAgain {m : Mme} {h : Handling} (hhandling : m.handling = some h)
      (hsm : h.ue.sm = .securityMode) (hstate : m.log.emmState = .securityMode) :
      MmeMove cfg m
        (((mmeS6aSendAir m).fsmTran .authentication).say (.tran .securityMode .authentication))

/-- Some moves lead from the first state to the second. -/
abbrev MmeMoves (cfg : MmeConfig) : Mme → Mme → Prop := Relation.ReflTransGen (MmeMove cfg)

variable {cfg : MmeConfig} {env : MmeEnv} {plain : Bytes} {m m' m₁ : Mme} {h : Handling}
  {past : MmeLog}

theorem MmeOps.moves (hops : MmeOps m m') : MmeMoves cfg m m' :=
  Relation.ReflTransGen.mono (fun _ _ hop => MmeMove.op hop) _ _ hops

theorem MmeMoves.of_move (hmove : MmeMove cfg m m') : MmeMoves cfg m m' := .single hmove

/-! ## States -/

/-- The state is the one that was entered last, with a Security Mode Command in its
timer. -/
structure Mme.Rests (m : Mme) : Prop where
  emmState : m.log.emmState = m.ue.sm
  t3460 : m.ue.sm = .securityMode → m.ue.t3460.pkbuf ≠ none

/-- No event is being handled. -/
structure Mme.Settled (m : Mme) : Prop where
  handling : m.handling = none
  rests : m.Rests
  queue : ∀ e, .emm e ∈ m.queue → e.Stripped

/-- Moves that put no message of the UE into the queue. -/
structure Mme.Runs (cfg : MmeConfig) (m m' : Mme) : Prop where
  moves : MmeMoves cfg m m'
  handling : m'.handling = m.handling
  queue : ∀ e ∈ m'.queue, e ∈ m.queue ∨ e = .esm none

theorem Mme.Runs.refl : Mme.Runs cfg m m := ⟨.refl, rfl, fun _ he => Or.inl he⟩

theorem Mme.Runs.trans {m₂ : Mme} (h₁ : m.Runs cfg m₁) (h₂ : m₁.Runs cfg m₂) :
    m.Runs cfg m₂ where
  moves := h₁.moves.trans h₂.moves
  handling := h₂.handling.trans h₁.handling
  queue e he := by
    rcases h₂.queue e he with hmem | hnew
    · exact h₁.queue e hmem
    · exact Or.inr hnew

theorem MmeOps.runs (hops : MmeOps m m') : m.Runs cfg m' :=
  ⟨hops.moves, hops.handling, hops.queue⟩

theorem Mme.Runs.settled (hruns : m.Runs cfg m') (hs : m.Settled) (hrests : m'.Rests) :
    m'.Settled where
  handling := hruns.handling.trans hs.handling
  rests := hrests
  queue e he := by
    rcases hruns.queue _ he with hmem | hnew
    · exact hs.queue e hmem
    · exact nomatch hnew

theorem Mme.Enters.leave {target : EmmState} (henters : m.Enters target)
    (htarget : target = .deRegistered ∨ target = .exception) (hsm : m.ue.sm = target) :
    m.Runs cfg (m.say (.tran m.log.emmState target)).clearAllTimers ∧
      (m.say (.tran m.log.emmState target)).clearAllTimers.Rests := by
  refine ⟨⟨.of_move (.leave henters htarget), rfl, fun _ he => Or.inl he⟩, hsm.symm, ?_⟩
  intro heq
  rcases htarget with rfl | rfl
  · exact nomatch hsm.symm.trans heq
  · exact nomatch hsm.symm.trans heq

theorem Mme.Enters.enter {target : EmmState} (henters : m.Enters target)
    (htarget : target = .authentication ∨ target = .initialContextSetup ∨ target = .registered)
    (hsm : m.ue.sm = target) :
    m.Runs cfg (m.say (.tran m.log.emmState target)) ∧
      (m.say (.tran m.log.emmState target)).Rests := by
  refine ⟨⟨.of_move (.enter henters htarget), rfl, fun _ he => Or.inl he⟩, hsm.symm, ?_⟩
  intro heq
  rcases htarget with rfl | rfl | rfl
  · exact nomatch hsm.symm.trans heq
  · exact nomatch hsm.symm.trans heq
  · exact nomatch hsm.symm.trans heq

/-- A Security Mode Command is sent when its state is entered. -/
theorem Mme.Enters.enterSecurityMode (henters : m.Enters .securityMode)
    (hsm : m.ue.sm = .securityMode)
    (hr : nasSendSecurityModeCommand cfg plain
      (m.say (.tran m.log.emmState .securityMode)).clearT3460 = .ok m') :
    m.Runs cfg m' ∧ m'.Rests := by
  have hstate : m.log.emmState = .authentication := by
    cases henters with
    | securityMode _ hstate hsource => exact hstate.trans hsource
    | complete htarget => rcases htarget with heq | heq <;> cases heq
  obtain ⟨⟨built, pkbuf⟩, hbuild, hr⟩ := Fallible.bind_eq_ok.mp hr
  cases hr
  obtain ⟨dlCount, rfl, halgorithm⟩ := emmBuildSecurityModeCommand_ok hbuild
  rw [hstate]
  have hmove : MmeMove cfg m _ :=
    .enterSecurityMode dlCount pkbuf.data henters hstate halgorithm
  exact ⟨⟨.of_move hmove, rfl, fun _ he => Or.inl he⟩, hsm.symm, fun _ h => nomatch h⟩

/-- The end of `ogs_fsm_dispatch`. -/
theorem ogsFsmEnter_ok {source : EmmState} (hstate : m.log.emmState = source)
    (henters : m.ue.sm = source ∨ m.Enters m.ue.sm)
    (ht3460 : m.ue.sm = .securityMode → m.ue.sm = source → m.ue.t3460.pkbuf ≠ none)
    (hr : ogsFsmEnter cfg env source m = .ok m') : m.Runs cfg m' ∧ m'.Rests := by
  unfold ogsFsmEnter at hr
  split at hr
  case isTrue hsame =>
    cases hr
    exact ⟨Mme.Runs.refl, hstate.trans hsame.symm, fun hsm => ht3460 hsm hsame⟩
  case isFalse hne =>
    replace henters : m.Enters m.ue.sm := henters.resolve_left hne
    subst hstate
    have hentered : ∀ target, m.ue.sm = target →
        (m.say (.tran m.log.emmState target)).ue.sm = target := fun _ hsm => hsm
    cases hsm : m.ue.sm with
    | deRegistered =>
      rw [hsm] at henters
      rw [hsm, emmStateEntry, hentered _ hsm] at hr
      cases hr
      exact henters.leave (Or.inl rfl) hsm
    | exception =>
      rw [hsm] at henters
      rw [hsm, emmStateEntry, hentered _ hsm] at hr
      cases hr
      exact henters.leave (Or.inr rfl) hsm
    | authentication =>
      rw [hsm] at henters
      rw [hsm, emmStateEntry, hentered _ hsm] at hr
      cases hr
      exact henters.enter (Or.inl rfl) hsm
    | initialContextSetup =>
      rw [hsm] at henters
      rw [hsm, emmStateEntry, hentered _ hsm] at hr
      cases hr
      exact henters.enter (Or.inr (Or.inl rfl)) hsm
    | registered =>
      rw [hsm] at henters
      rw [hsm, emmStateEntry, hentered _ hsm] at hr
      cases hr
      exact henters.enter (Or.inr (Or.inr rfl)) hsm
    | securityMode =>
      rw [hsm] at henters
      rw [hsm, emmStateEntry, hentered _ hsm] at hr
      exact henters.enterSecurityMode hsm hr

/-! ## Timers -/

/-- The message that is kept for T3460 is sent again. -/
theorem nasSendT3460_ok {pkbuf : T3460Message} (hpkbuf : m.ue.t3460.pkbuf = some pkbuf) :
    MmeOps m (nasSendT3460 pkbuf m) ∧ (nasSendT3460 pkbuf m).ue.sm = m.ue.sm ∧
      (nasSendT3460 pkbuf m).ue.t3460.pkbuf ≠ none := by
  have hkeep : MmeOps m
      { m with ue := { m.ue with t3460 := { m.ue.t3460 with pkbuf := some pkbuf } } } :=
    MmeOps.keep ⟨rfl, Or.inl rfl, Or.inl hpkbuf.symm⟩
  unfold nasSendT3460 nasSendToDownlinkNasTransport
  split
  · split
    · exact ⟨hkeep.tail (.authenticationRequest rfl), rfl, fun h => nomatch h⟩
    · exact ⟨hkeep, rfl, fun h => nomatch h⟩
  · exact ⟨hkeep, rfl, fun h => nomatch h⟩

theorem commonRegisterTimer_ok (id : MmeTimerId) : m.Goes (commonRegisterTimer cfg id m) := by
  cases id with
  | t3470 =>
    unfold commonRegisterTimer
    dsimp only
    split
    · exact Mme.Goes.exception (MmeOps.keep ⟨rfl, Or.inl rfl, Or.inl rfl⟩)
    · exact Mme.Goes.stay (MmeOps.keep ⟨rfl, Or.inl rfl, Or.inl rfl⟩) rfl
  | _ => exact Mme.Goes.stay .refl rfl

theorem emmStateAuthenticationTimer_ok {id : MmeTimerId}
    (hr : emmStateAuthenticationTimer cfg id m = .ok m') : m.Goes m' := by
  cases id with
  | t3460 =>
    unfold emmStateAuthenticationTimer at hr
    dsimp only at hr
    split at hr
    · cases hr
      exact Mme.Goes.exception .refl
    · unfold nasSendAuthenticationRequest at hr
      split at hr
      case h_1 pkbuf hpkbuf =>
        cases hr
        obtain ⟨hops, hsm, -⟩ := nasSendT3460_ok hpkbuf
        have hkeep : MmeOps m { m with
            ue := { m.ue with t3460 := { m.ue.t3460 with
              retryCount := m.ue.t3460.retryCount + 1 } } } :=
          MmeOps.keep ⟨rfl, Or.inl rfl, Or.inl rfl⟩
        exact Mme.Goes.stay (hkeep.trans hops) hsm
      case h_2 => cases hr
  | _ =>
    cases hr
    exact Mme.Goes.stay .refl rfl

theorem emmStateSecurityModeTimer_ok {id : MmeTimerId} (ht3460 : m.ue.t3460.pkbuf ≠ none)
    (hr : emmStateSecurityModeTimer cfg env id m = .ok m') :
    m.Goes m' ∧ (m'.ue.sm = m.ue.sm → m'.ue.t3460.pkbuf ≠ none) := by
  cases id with
  | t3460 =>
    unfold emmStateSecurityModeTimer at hr
    dsimp only at hr
    split at hr
    · cases hr
      exact ⟨Mme.Goes.exception .refl, fun _ => ht3460⟩
    · unfold nasSendSecurityModeCommand at hr
      split at hr
      case h_1 pkbuf hpkbuf =>
        cases hr
        obtain ⟨hops, hsm, hkept⟩ := nasSendT3460_ok hpkbuf
        have hkeep : MmeOps m { m with
            ue := { m.ue with t3460 := { m.ue.t3460 with
              retryCount := m.ue.t3460.retryCount + 1 } } } :=
          MmeOps.keep ⟨rfl, Or.inl rfl, Or.inl rfl⟩
        exact ⟨Mme.Goes.stay (hkeep.trans hops) hsm, fun _ => hkept⟩
      case h_2 hnone => exact absurd hnone ht3460
  | _ =>
    cases hr
    exact ⟨Mme.Goes.stay .refl rfl, fun _ => ht3460⟩

theorem emmStateInitialContextSetupTimer_ok {id : MmeTimerId} (hhandling : m.handling = none)
    (hstate : m.log.emmState = m.ue.sm)
    (hr : emmStateInitialContextSetupTimer cfg env id m = .ok m') : m.Goes m' := by
  cases id with
  | t3450 =>
    unfold emmStateInitialContextSetupTimer at hr
    dsimp only at hr
    split at hr
    · cases hr
      exact Mme.Goes.exception .refl
    · set counted : Mme := { m with
        ue := { m.ue with t3450 := { m.ue.t3450 with
          retryCount := m.ue.t3450.retryCount + 1 } } }
      have hkeep : MmeOps m counted := MmeOps.keep ⟨rfl, Or.inl rfl, Or.inl rfl⟩
      have hcounted : counted.handling = none ∧ counted.log.emmState = counted.ue.sm :=
        ⟨hhandling, hstate⟩
      obtain ⟨hops, hsm, -⟩ := nasSendAttachAccept_ok hcounted.1 hcounted.2 hr
      exact Mme.Goes.stay (hkeep.trans hops) hsm
  | _ =>
    cases hr
    exact Mme.Goes.stay .refl rfl

theorem emmStateTimer_ok {id : MmeTimerId} (hs : m.Settled)
    (hr : emmStateTimer cfg env id m = .ok m') :
    m.Goes m' ∧ (m'.ue.sm = .securityMode → m'.ue.sm = m.ue.sm →
      m'.ue.t3460.pkbuf ≠ none) := by
  unfold emmStateTimer at hr
  have hother : m.Goes m' → m.ue.sm ≠ .securityMode → m.Goes m' ∧
      (m'.ue.sm = .securityMode → m'.ue.sm = m.ue.sm → m'.ue.t3460.pkbuf ≠ none) :=
    fun hgoes hne => ⟨hgoes, fun heq hsame => absurd (hsame.symm.trans heq) hne⟩
  split at hr
  case h_1 hsm =>
    cases hr
    exact hother (commonRegisterTimer_ok id) (by rw [hsm]; decide)
  case h_2 hsm =>
    cases hr
    exact hother (commonRegisterTimer_ok id) (by rw [hsm]; decide)
  case h_3 hsm => exact hother (emmStateAuthenticationTimer_ok hr) (by rw [hsm]; decide)
  case h_4 hsm =>
    obtain ⟨hgoes, hkept⟩ := emmStateSecurityModeTimer_ok (hs.rests.t3460 hsm) hr
    exact ⟨hgoes, fun _ => hkept⟩
  case h_5 hsm =>
    exact hother (emmStateInitialContextSetupTimer_ok hs.handling hs.rests.emmState hr)
      (by rw [hsm]; decide)
  case h_6 hsm =>
    cases hr
    exact hother (Mme.Goes.stay .refl rfl) (by rw [hsm]; decide)

theorem ogsFsmDispatchTimer_ok {id : MmeTimerId} (hs : m.Settled)
    (hr : ogsFsmDispatchTimer cfg env id m = .ok m') : m.Runs cfg m' ∧ m'.Rests := by
  obtain ⟨m₁, hstate, hr⟩ := Fallible.bind_eq_ok.mp hr
  obtain ⟨hgoes, ht3460⟩ := emmStateTimer_ok hs hstate
  have hsource : m₁.log.emmState = m.ue.sm := hgoes.ops.emmState.trans hs.rests.emmState
  obtain ⟨hruns, hrests⟩ := ogsFsmEnter_ok hsource hgoes.enters ht3460 hr
  exact ⟨(MmeOps.runs hgoes.ops).trans hruns, hrests⟩

/-! ## Messages -/

theorem ogsFsmDispatchMessage_ok (hb : m.Begins h past)
    (ht3460 : m.ue.sm = .securityMode → m.ue.t3460.pkbuf ≠ none)
    (hr : ogsFsmDispatchMessage cfg env h m = .ok m') : m.Runs cfg m' ∧ m'.Rests := by
  obtain ⟨m₁, hstate, hr⟩ := Fallible.bind_eq_ok.mp hr
  have hsource : m.log.emmState = m.ue.sm := hb.emmState.trans (congrArg _ hb.ue.symm)
  rcases emmStateMessage_ok hb hstate with ⟨hgoes, hsame⟩ | ⟨m₂, hops, hsm, rfl⟩
  · have hkept : m₁.ue.sm = .securityMode → m₁.ue.sm = m.ue.sm → m₁.ue.t3460.pkbuf ≠ none := by
      intro heq hstay
      have hsm : m.ue.sm = .securityMode := hstay.symm.trans heq
      rw [hsame hsm heq]
      exact ht3460 hsm
    obtain ⟨hruns, hrests⟩ :=
      ogsFsmEnter_ok (hgoes.ops.emmState.trans hsource) hgoes.enters hkept hr
    exact ⟨(MmeOps.runs hgoes.ops).trans hruns, hrests⟩
  · have hmode : m.ue.sm = .securityMode := (congrArg _ hb.ue).trans hsm
    have hstate₂ : m₂.log.emmState = .securityMode :=
      (MmeOps.emmState hops).trans (hsource.trans hmode)
    have hhandling : m₂.handling = some h := (MmeOps.handling hops).trans hb.handling
    rw [hmode] at hr
    cases hr
    have hruns : m₂.Runs cfg
        (((mmeS6aSendAir m₂).fsmTran .authentication).say
          (.tran .securityMode .authentication)) :=
      ⟨.of_move (.attachAgain hhandling hsm hstate₂), rfl, fun _ he => Or.inl he⟩
    exact ⟨(MmeOps.runs hops).trans hruns, rfl, fun heq => nomatch heq⟩

/-- A message is handled, and the context is settled again. -/
theorem handle_ok {e : NasEvent} {message : EmmMessage} {stripped : Pkbuf} (hs : m.Settled)
    (hstripped : s1apStripSecurityHeader e.origin.pdu = .ok (some (e.nasType, stripped)))
    (hr : m.handle cfg env e message = .ok m') : MmeMoves cfg m m' ∧ m'.Settled := by
  obtain ⟨m₁, hdispatch, hr⟩ := Fallible.bind_eq_ok.mp hr
  cases hr
  set h : Handling := ⟨e, message, m.ue, env.tail⟩
  have hmessage : MmeMove cfg m (({ m with handling := some h } : Mme).say .emmMessage) :=
    .message hs.handling rfl hs.rests.emmState ⟨stripped, hstripped⟩
  have hb : (({ m with handling := some h } : Mme).say .emmMessage).Begins h m.log :=
    ⟨rfl, rfl, hs.rests.emmState, rfl⟩
  obtain ⟨hruns, hrests⟩ := ogsFsmDispatchMessage_ok hb hs.rests.t3460 hdispatch
  have hmoves : MmeMoves cfg m m₁ := .head hmessage hruns.moves
  have hqueue : ∀ e', .emm e' ∈ m₁.queue → e'.Stripped := by
    intro e' he'
    rcases hruns.queue _ he' with hmem | hnew
    · exact hs.queue e' hmem
    · exact nomatch hnew
  split
  · unfold mmeSendDeleteSessionOrUeContextRelease
    split
    · have hkeep : MmeOps m₁ (mmeGtpSendDeleteAllSessions m₁) :=
        MmeOps.keep ⟨rfl, Or.inl rfl, Or.inl rfl⟩
      exact ⟨(hmoves.trans hkeep.moves).tail .handled, rfl, ⟨hrests.emmState, hrests.t3460⟩,
        hqueue⟩
    · exact ⟨hmoves.tail .handled, rfl, ⟨hrests.emmState, hrests.t3460⟩, hqueue⟩
  · exact ⟨hmoves.tail .handled, rfl, ⟨hrests.emmState, hrests.t3460⟩, hqueue⟩

omit [OgsCrypt] in
/-- A PDU that is decoded leaves the context settled. -/
theorem Mme.Settled.decode {log : MmeLog} (hs : m.Settled)
    (hshape : ∃ ulCount failed,
      ue' = { m.ue with ulCount := ulCount, macFailed := m.ue.macFailed || failed })
    (hlog : log.emmState = m.log.emmState) :
    ({ m with ue := ue', log := log } : Mme).Settled := by
  obtain ⟨ulCount, failed, rfl⟩ := hshape
  exact ⟨hs.handling, ⟨hlog.trans hs.rests.emmState, hs.rests.t3460⟩, hs.queue⟩

theorem decodeFound_ok {e e' : NasEvent} (hs : m.Settled) (he : e.Stripped)
    (hr : m.decodeFound e = .ok (m', e')) : MmeMoves cfg m m' ∧ m'.Settled ∧
      ∃ stripped, s1apStripSecurityHeader e'.origin.pdu = .ok (some (e'.nasType, stripped)) := by
  obtain ⟨stripped, hstrip, hpkbuf⟩ := he
  unfold Mme.decodeFound at hr
  split at hr
  case isTrue hprotected =>
    obtain ⟨⟨m₁, pkbuf⟩, hdecode, hr⟩ := Fallible.bind_eq_ok.mp hr
    obtain ⟨⟨ue', nasbuf, rv⟩, hdecode, hrest⟩ := Fallible.bind_eq_ok.mp hdecode
    obtain ⟨_, hok, hrest⟩ := Fallible.bind_eq_ok.mp hrest
    cases hrest
    have hrv : rv = .ok := Fallible.assert_eq_ok.mp hok
    have hshape := nasSecurityDecode_shape hdecode
    cases hdecoded : e.origin.decoded with
    | none =>
      rw [hdecoded] at hr
      cases hr
      rw [hpkbuf hdecoded, hrv] at hdecode
      have hdecodes := MmeUe.Decodes.of_decode hstrip (Or.inl hprotected) hdecode
      exact ⟨.of_move (.decode hs.handling hdecodes), hs.decode hshape rfl, stripped, hstrip⟩
    | some p =>
      rw [hdecoded] at hr
      cases hr
      have hmove : MmeMove cfg m { m with ue := ue' } := by
        obtain ⟨ulCount, failed, rfl⟩ := hshape
        exact .decodeAgain ulCount failed
      exact ⟨.of_move hmove, hs.decode hshape rfl, stripped, hstrip⟩
  case isFalse =>
    cases hr
    exact ⟨.refl, hs, stripped, hstrip⟩

theorem mmeEmmMessage_ok [NasDecoder] {e : NasEvent} (hs : m.Settled) (he : e.Stripped)
    (hr : mmeEmmMessage cfg env e m = .ok m') : MmeMoves cfg m m' ∧ m'.Settled := by
  obtain ⟨message, _, hr⟩ := Fallible.bind_eq_ok.mp hr
  split at hr
  case h_1 =>
    obtain ⟨stripped, hstrip, -⟩ := he
    exact handle_ok hs hstrip hr
  case h_2 =>
    cases hr
    exact ⟨.refl, hs⟩
  case h_3 =>
    split at hr
    · obtain ⟨⟨m₁, e'⟩, hfound, hr⟩ := Fallible.bind_eq_ok.mp hr
      obtain ⟨hmoves, hs₁, stripped, hstrip⟩ := decodeFound_ok hs he hfound
      have hassociate : MmeMove cfg m₁ (m₁.associateEnbUe e'.enbUe) := .enbUes _ _
      have hs₂ : (m₁.associateEnbUe e'.enbUe).Settled :=
        ⟨hs₁.handling, ⟨hs₁.rests.emmState, hs₁.rests.t3460⟩, hs₁.queue⟩
      obtain ⟨hhandled, hs'⟩ := handle_ok hs₂ hstrip hr
      exact ⟨(hmoves.tail hassociate).trans hhandled, hs'⟩
    · cases hr
      exact ⟨.of_move (.enbUes _ m.ue.enbUe),
        ⟨hs.handling, ⟨hs.rests.emmState, hs.rests.t3460⟩, hs.queue⟩⟩

/-- A PDU is decoded, if its connection is associated, and put into the queue. -/
theorem s1apSendToNas_ok {enbUe : EnbUeId} {s1apCode : S1apProcedureCode} {nasPdu : Bytes}
    (hs : m.Settled) (hr : s1apSendToNas env enbUe s1apCode nasPdu m = .ok m') :
    MmeMoves cfg m m' ∧ m'.Settled := by
  obtain ⟨_, hstrip, hr⟩ := Fallible.bind_eq_ok.mp hr
  obtain ⟨⟨type, stripped⟩, hsome, hr⟩ := Fallible.bind_eq_ok.mp hr
  rw [Fallible.assertSome_eq_ok.mp hsome] at hstrip
  obtain ⟨⟨m₁, nasbuf, decoded⟩, hlinked, hr⟩ := Fallible.bind_eq_ok.mp hr
  obtain ⟨first, _, hr⟩ := Fallible.bind_eq_ok.mp hr
  have hdecoded : MmeMoves cfg m m₁ ∧ m₁.Settled ∧ (decoded = none → nasbuf = stripped) := by
    unfold Mme.decodeLinked at hlinked
    split at hlinked
    · obtain ⟨⟨m₂, pkbuf⟩, hdecode, hlinked⟩ := Fallible.bind_eq_ok.mp hlinked
      cases hlinked
      obtain ⟨⟨ue', buf, rv⟩, hdecode, hrest⟩ := Fallible.bind_eq_ok.mp hdecode
      obtain ⟨_, hok, hrest⟩ := Fallible.bind_eq_ok.mp hrest
      cases hrest
      rw [Fallible.assert_eq_ok.mp hok] at hdecode
      have hdecodes := MmeUe.Decodes.of_decode hstrip (Or.inr rfl) hdecode
      refine ⟨.of_move (.decode hs.handling hdecodes), hs.decode hdecodes.shape rfl, ?_⟩
      intro h
      cases h
    · cases hlinked
      exact ⟨.refl, hs, fun _ => rfl⟩
  obtain ⟨hmoves, hs₁, hpkbuf⟩ := hdecoded
  have hpush : ∀ {event : MmeEvent}, (∀ e, event = .emm e → e.Stripped) →
      MmeMoves cfg m (m₁.push env.pushed event) ∧ (m₁.push env.pushed event).Settled := by
    intro event hevent
    unfold Mme.push
    split
    · refine ⟨hmoves.tail (.queue _), hs₁.handling, ⟨hs₁.rests.emmState, hs₁.rests.t3460⟩, ?_⟩
      intro e he
      rcases List.mem_append.mp he with hmem | hnew
      · exact hs₁.queue e hmem
      · exact hevent e (List.mem_singleton.mp hnew).symm
    · exact ⟨hmoves, hs₁⟩
  split at hr
  · cases hr
    apply hpush
    intro e heq
    cases heq
    exact ⟨stripped, hstrip, hpkbuf⟩
  · split at hr
    · obtain ⟨_, _, hr⟩ := Fallible.bind_eq_ok.mp hr
      cases hr
      apply hpush
      intro e heq
      cases heq
    · cases hr

/-! ## Other events -/

/-- Operations that leave the state and its timer as they are. -/
theorem Mme.Settled.ops (hs : m.Settled) (hops : MmeOps m m') (hsm : m'.ue.sm = m.ue.sm)
    (ht3460 : m'.ue.t3460 = m.ue.t3460) : MmeMoves cfg m m' ∧ m'.Settled := by
  have hruns : m.Runs cfg m' := MmeOps.runs hops
  refine ⟨hruns.moves, hruns.settled hs ⟨?_, fun heq => ?_⟩⟩
  · exact hops.emmState.trans (hs.rests.emmState.trans hsm.symm)
  · rw [ht3460]
    exact hs.rests.t3460 (hsm.symm.trans heq)

theorem esmCall_ok {call : EsmCall} (hs : m.Settled) (hr : esmCall call m = .ok m') :
    MmeOps m m' ∧ m'.ue.sm = m.ue.sm ∧ m'.ue.t3460 = m.ue.t3460 := by
  cases call with
  | downlink plain =>
    obtain ⟨dlCount, rfl⟩ := emmBuildCiphered_ok hr
    exact ⟨.single (.protect dlCount), rfl, rfl⟩
  | attachAccept plain =>
    have hkeep : MmeOps m m.clearT3450 := MmeOps.keep ⟨rfl, Or.inr rfl, Or.inl rfl⟩
    have hcleared : m.clearT3450.handling = none ∧
        m.clearT3450.log.emmState = m.clearT3450.ue.sm := ⟨hs.handling, hs.rests.emmState⟩
    obtain ⟨hops, hsm, ht3460⟩ := nasSendAttachAccept_ok hcleared.1 hcleared.2 hr
    exact ⟨hkeep.trans hops, hsm, ht3460⟩
  | detach plain => exact mmeSendDeleteSessionOrDetach_ok hr
  | sessions sgwS11Teid willDeleted =>
    cases hr
    exact ⟨MmeOps.keep ⟨rfl, Or.inl rfl, Or.inl rfl⟩, rfl, rfl⟩

theorem esmCalls_ok {calls : List EsmCall} (hs : m.Settled) (hr : esmCalls calls m = .ok m') :
    MmeMoves cfg m m' ∧ m'.Settled := by
  induction calls generalizing m with
  | nil =>
    cases hr
    exact ⟨.refl, hs⟩
  | cons call calls ih =>
    obtain ⟨m₁, hcall, hr⟩ := Fallible.bind_eq_ok.mp hr
    obtain ⟨hops, hsm, ht3460⟩ := esmCall_ok hs hcall
    obtain ⟨hmoves, hs₁⟩ := hs.ops hops hsm ht3460
    obtain ⟨hrest, hs'⟩ := ih hs₁ hr
    exact ⟨hmoves.trans hrest, hs'⟩

theorem mmeS11HandleDeleteSessionResponse_ok {lastSession : Bool} (hs : m.Settled)
    (hr : mmeS11HandleDeleteSessionResponse lastSession plain m = .ok m') :
    MmeMoves cfg m m' ∧ m'.Settled := by
  obtain ⟨_, hassert, hr⟩ := Fallible.bind_eq_ok.mp hr
  have hne : m.ue.sm ≠ .securityMode := Fallible.assert_eq_ok.mp hassert
  split at hr
  · obtain ⟨m₁, hlast, hr⟩ := Fallible.bind_eq_ok.mp hr
    cases hr
    have hops : MmeOps m m₁ ∧ m₁.ue.sm = m.ue.sm ∧ m₁.ue.t3460 = m.ue.t3460 := by
      unfold mmeS11LastSession at hlast
      split at hlast
      · cases hlast
        have hair : m.log.emmState ≠ .securityMode := by
          rw [hs.rests.emmState]
          exact hne
        exact ⟨.single (.air hair), rfl, rfl⟩
      · obtain ⟨_, _, hlast⟩ := Fallible.bind_eq_ok.mp hlast
        split at hlast
        · cases hlast
          exact ⟨.refl, rfl, rfl⟩
        · obtain ⟨dlCount, rfl⟩ := emmBuildCiphered_ok hlast
          exact ⟨.single (.protect dlCount), rfl, rfl⟩
      · cases hlast
        exact ⟨.refl, rfl, rfl⟩
    obtain ⟨hops, hsm, ht3460⟩ := hops
    have hclear : MmeOps m₁ m₁.clearSessionContext := MmeOps.keep ⟨rfl, Or.inl rfl, Or.inl rfl⟩
    exact hs.ops (hops.trans hclear) hsm ht3460
  · cases hr
    exact ⟨.refl, hs⟩

omit [OgsCrypt] in
theorem Mme.Settled.store {id : Nat} {vector : EUtranVector} {pendingAirs : List Nat}
    (hs : m.Settled) (hsm : ue.sm = m.ue.sm) : (m.stored ue id vector pendingAirs).Settled :=
  ⟨hs.handling, ⟨hs.rests.emmState.trans hsm.symm, fun _ h => nomatch h⟩, hs.queue⟩

omit [OgsCrypt] in
theorem nasSendAuthenticationRequest_stored {id : Nat} {vector : EUtranVector}
    {pendingAirs : List Nat} (hclear : ue.t3460 = .clear) :
    nasSendAuthenticationRequest (some vector)
      (({ m with ue := ue, pendingAirs := pendingAirs } : Mme).say (.aia id vector)) =
      .ok (nasSendToDownlinkNasTransport (.authenticationRequest vector.rand vector.autn)
        (m.stored ue id vector pendingAirs)) := by
  have hpkbuf : ue.t3460.pkbuf = none := by
    rw [hclear]
    rfl
  have hcount : ue.t3460.retryCount = 0 := by
    rw [hclear]
    rfl
  simp only [nasSendAuthenticationRequest, Mme.say, hpkbuf, Fallible.assertSome_some,
    Fallible.ok_bind, nasSendT3460, Mme.stored, hcount]

theorem mmeS6aHandleAia_ok {id : Nat} {vector : EUtranVector} (hs : m.Settled)
    (hpending : id ∈ m.pendingAirs) (hr : mmeS6aHandleAia id vector m = .ok m') :
    MmeMoves cfg m m' ∧ m'.Settled := by
  unfold mmeS6aHandleAia at hr
  split at hr
  case isTrue => cases hr
  case isFalse hlen =>
    have hclear : (m.ue.storeVector vector).t3460 = .clear := by simp only [MmeUe.storeVector]
    have hsm : (m.ue.storeVector vector).sm = m.ue.sm := by simp only [MmeUe.storeVector]
    have hmove : MmeMove cfg m
        (m.stored (m.ue.storeVector vector) id vector (m.pendingAirs.erase id)) :=
      .aia hs.handling hpending (not_lt.mp hlen)
    generalize m.ue.storeVector vector = ue at hr hclear hsm hmove
    rw [nasSendAuthenticationRequest_stored hclear] at hr
    cases hr
    have hstored : (m.stored ue id vector (m.pendingAirs.erase id)).Settled := hs.store hsm
    unfold nasSendToDownlinkNasTransport
    dsimp only
    split
    · obtain ⟨hmoves, hs'⟩ := hstored.ops (.single (.authenticationRequest rfl)) rfl rfl
      exact ⟨.head hmove hmoves, hs'⟩
    · exact ⟨.of_move hmove, hstored⟩

theorem mmeS6aUla_ok (hs : m.Settled) (hr : mmeS6aUla env m = .ok m') :
    MmeMoves cfg m m' ∧ m'.Settled := by
  unfold mmeS6aUla at hr
  split at hr
  · obtain ⟨queue, rfl, hqueue⟩ := nasSendEmmToEsm_ok hr
    have hops : MmeOps m _ := .single (.emmToEsm (Or.inl hs.handling) hqueue)
    exact hs.ops hops rfl rfl
  · rename_i hsm _
    obtain ⟨hops, hsame, ht3460⟩ := nasSendTauAccept_ok (Or.inl hs.handling)
      (fun dlCount _ => .updateLocation hs.handling (hs.rests.emmState.trans hsm)) hr
    exact hs.ops hops hsame ht3460
  · rename_i hsm _
    rw [s1apSendInitialContextSetup_ok hr]
    have hops : MmeOps m _ := .single (.initialContextSetupRequest
      (.updateLocation hs.handling (hs.rests.emmState.trans hsm)))
    exact hs.ops hops rfl rfl
  · cases hr

/-! ## Steps -/

/-- Each step is a sequence of moves from a settled context to a settled one. -/
theorem Mme.Step.moves [NasDecoder] {label : MmeLabel} (hstep : m.Step cfg label m')
    (hs : m.Settled) : MmeMoves cfg m m' ∧ m'.Settled := by
  obtain ⟨hanswers, hr⟩ := hstep
  cases label with
  | uplink env enbUe s1apCode nasPdu => exact s1apSendToNas_ok hs hr
  | message env bearer =>
    change m.message cfg env bearer = .ok m' at hr
    unfold Mme.message at hr
    have hpop : ∀ {e : MmeEvent} {queue : List MmeEvent}, m.queue = e :: queue →
        MmeMove cfg m { m with queue := queue } ∧ ({ m with queue := queue } : Mme).Settled := by
      intro e queue hqueue
      refine ⟨.queue queue, hs.handling, ⟨hs.rests.emmState, hs.rests.t3460⟩, fun e' he' => ?_⟩
      apply hs.queue
      rw [hqueue]
      exact List.mem_cons_of_mem e he'
    split at hr
    case h_1 e queue hqueue =>
      obtain ⟨hmove, hpopped⟩ := hpop hqueue
      have he : e.Stripped := hs.queue e (by rw [hqueue]; exact List.mem_cons_self)
      obtain ⟨hmoves, hs'⟩ := mmeEmmMessage_ok hpopped he hr
      exact ⟨.head hmove hmoves, hs'⟩
    case h_2 origin queue hqueue =>
      obtain ⟨hmove, hpopped⟩ := hpop hqueue
      unfold mmeEsmMessage at hr
      split at hr
      · have hsaid : (({ m with queue := queue } : Mme).say (.esmMessage origin)).Settled :=
          ⟨hs.handling, ⟨hs.rests.emmState, hs.rests.t3460⟩, hpopped.queue⟩
        obtain ⟨hmoves, hs'⟩ := esmCalls_ok hsaid hr
        exact ⟨.head hmove (.head (.esmMessage origin hs.handling) hmoves), hs'⟩
      · cases hr
        exact ⟨.of_move hmove, hpopped⟩
    case h_3 =>
      cases hr
      exact ⟨.refl, hs⟩
  | timer env id =>
    obtain ⟨hruns, hrests⟩ := ogsFsmDispatchTimer_ok hs hr
    exact ⟨hruns.moves, hruns.settled hs hrests⟩
  | aia id vector => exact mmeS6aHandleAia_ok hs hanswers hr
  | s6aError id =>
    obtain ⟨_, _, hr⟩ := Fallible.bind_eq_ok.mp hr
    cases hr
    exact ⟨.of_move (.pendingAirs _), hs.handling, ⟨hs.rests.emmState, hs.rests.t3460⟩, hs.queue⟩
  | ula env => exact mmeS6aUla_ok hs hr
  | deleteSessionResponse lastSession plain => exact mmeS11HandleDeleteSessionResponse_ok hs hr
  | bearers calls => exact esmCalls_ok hs hr
  | pathSwitchRequest eea eia =>
    cases hr
    unfold s1apHandlePathSwitchRequest
    split
    · have hkdf : m.kdfNh.Settled :=
        ⟨hs.handling, ⟨hs.rests.emmState, hs.rests.t3460⟩, hs.queue⟩
      have hkeep : MmeOps m.kdfNh (m.kdfNh.setUeNetworkCapability eea eia) :=
        MmeOps.keep ⟨rfl, Or.inl rfl, Or.inl rfl⟩
      obtain ⟨hmoves, hs'⟩ := hkdf.ops hkeep rfl rfl
      exact ⟨.head (.kdfNh hs.handling) hmoves, hs'⟩
    · exact ⟨.refl, hs⟩
  | handoverRequired =>
    cases hr
    unfold s1apHandleHandoverRequired
    split
    · exact ⟨.of_move (.kdfNh hs.handling), hs.handling,
        ⟨hs.rests.emmState, hs.rests.t3460⟩, hs.queue⟩
    · exact ⟨.refl, hs⟩
  | enbUes enbUes enbUe =>
    cases hr
    exact ⟨.of_move (.enbUes enbUes enbUe), hs.handling, ⟨hs.rests.emmState, hs.rests.t3460⟩,
      hs.queue⟩

omit [OgsCrypt] in
theorem Mme.Initial.settled (hinitial : m.Initial) : m.Settled where
  handling := hinitial.handling
  rests := ⟨by rw [hinitial.log, hinitial.sm]; rfl, fun heq => nomatch hinitial.sm.symm.trans heq⟩
  queue e he := by
    obtain ⟨e', heq, hdecoded, hstrip⟩ := hinitial.queue _ he
    cases heq
    exact ⟨e.pkbuf, hstrip, fun _ => rfl⟩

theorem MmeMove.log (hmove : MmeMove cfg m m') : ∃ calls, m'.log = calls ++ m.log := by
  cases hmove with
  | op hop => exact hop.log
  | enbUes | queue | pendingAirs | decodeAgain | handled => exact ⟨[], rfl⟩
  | enterSecurityMode => exact ⟨[_, _], rfl⟩
  | attachAgain => exact ⟨[_, _], rfl⟩
  | _ => exact ⟨[_], rfl⟩

/-- What each move preserves, as long as the record is in order, holds in every state of a
run whose record is in order. -/
theorem Mme.Initial.invariant [NasDecoder] {I : Mme → Prop} {C : MmeLogItem → MmeLog → Prop}
    (hmove : ∀ m m', I m → MmeMove cfg m m' → History.Always C m'.log → I m')
    (hinitial : m.Initial) (hI : I m) (hreaches : Lts.Reaches (Mme.Step cfg) m m')
    (hcond : History.Always C m'.log) : I m' := by
  have hmoves : ∀ m m', (History.Always C m.log → I m) → MmeMoves cfg m m' →
      History.Always C m'.log → I m' := by
    intro m m' hI hmoves
    induction hmoves with
    | refl => exact hI
    | tail _ hlast ih =>
      intro hlog
      obtain ⟨calls, hcalls⟩ := hlast.log
      have hbefore := hlog
      rw [hcalls] at hbefore
      exact hmove _ _ (ih hbefore.of_append) hlast hlog
  have hboth : m'.Settled ∧ (History.Always C m'.log → I m') := by
    apply Lts.Reaches.invariant (I := fun m => m.Settled ∧ (History.Always C m.log → I m)) _
      hreaches ⟨hinitial.settled, fun _ => hI⟩
    intro s label t hs hstep
    obtain ⟨hsteps, ht⟩ := hstep.moves hs.1
    exact ⟨ht, hmoves s t hs.2 hsteps⟩
  exact hboth.2 hcond

/-! ## Runs of given labels -/

omit [OgsCrypt] in
instance (m : Mme) (label : MmeLabel) : Decidable (m.Answers label) := by
  cases label <;> unfold Mme.Answers <;> infer_instance

/-- The state after some labels, if no step fails. -/
def Mme.run [NasDecoder] (cfg : MmeConfig) (m : Mme) : List MmeLabel → Option Mme
  | [] => some m
  | label :: labels =>
    if m.Answers label then
      match m.step cfg label with
      | .ok m' => m'.run cfg labels
      | .error _ => none
    else none

theorem Mme.run_reaches [NasDecoder] {labels : List MmeLabel} (hr : m.run cfg labels = some m') :
    Lts.Reaches (Mme.Step cfg) m m' := by
  induction labels generalizing m with
  | nil =>
    cases hr
    exact .refl
  | cons label labels ih =>
    unfold Mme.run at hr
    split at hr
    · split at hr
      case h_1 m₁ hstep =>
        exact .head ⟨label, ‹_›, hstep⟩ (ih hr)
      case h_2 => cases hr
    · cases hr

end

/-- A field with a length octet in front of it, and what follows. -/
def nasLengthValue : Bytes → Option (Bytes × Bytes)
  | len :: rest =>
    if len.toNat ≤ rest.length then some (rest.take len.toNat, rest.drop len.toNat) else none
  | [] => none

/-- The body of an Attach Request without optional fields. -/
def nasDecodeAttachRequest (type : UInt8) (rest : Bytes) : Option EmmBody := do
  let identity ← nasLengthValue rest
  let capability ← nasLengthValue identity.2
  let container ← nasLengthValue (capability.2.drop 1)
  some (.attachRequest ⟨type, capability.1.getD 0 0, capability.1.getD 1 0,
    if identity.1.getD 0 0 &&& 0x07 = 1 then some identity.1.length else none, container.1⟩)

/-- Some messages as they are decoded when they have no optional fields, for runs on concrete
inputs. -/
@[reducible] def NasDecoder.reference : NasDecoder where
  emmDecode
    | [0xc7, ksiAndSequenceNumber, _, _] => some ⟨some (ksiAndSequenceNumber >>> 5), .unknown⟩
    | 0x07 :: 0x41 :: type :: rest => (nasDecodeAttachRequest type rest).map fun body => ⟨none, body⟩
    | 0x07 :: 0x43 :: rest =>
      (nasLengthValue (rest.drop 1)).map fun field => ⟨none, .attachComplete field.1⟩
    | 0x07 :: 0x45 :: type :: _ => some ⟨none, .detachRequest type⟩
    | 0x07 :: 0x48 :: type :: _ => some ⟨none, .trackingAreaUpdateRequest ⟨type, none⟩⟩
    | 0x07 :: 0x53 :: rest =>
      (nasLengthValue rest).map fun field => ⟨none, .authenticationResponse field.1⟩
    | [0x07, 0x5e] => some ⟨none, .securityModeComplete⟩
    | _ => none

/-- A configuration with EIA2 and without ciphering. -/
def sampleConfig : MmeConfig := ⟨[2], [0], 4, 4, 4⟩

/-- A context before its first message. -/
def sampleMme : Mme where
  ue := MmeUe.zero
  enbUes := fun _ => .none
  airs := 0
  pendingAirs := []
  queue := []
  handling := none
  log := []

theorem sampleMme_initial : sampleMme.Initial where
  sm := rfl
  t3450 := rfl
  t3460 := rfl
  t3470 := rfl
  airs := rfl
  pendingAirs := rfl
  queue := fun _ he => absurd he List.not_mem_nil
  handling := rfl
  log := rfl

def sampleAttachRequest : Bytes :=
  [0x07, 0x41, 0x71, 0x08, 0x29, 0x26, 0x24, 0x00, 0x00, 0x00, 0x00, 0x10, 0x02, 0xe0, 0xe0,
    0x00, 0x05, 0x02, 0x01, 0xd0, 0x11, 0xd1]

def sampleVector : EUtranVector where
  xres := [1, 2, 3, 4, 5, 6, 7, 8]
  kasme := Vector.replicate 32 9
  rand := Vector.replicate 16 10
  autn := Vector.replicate 16 11

/-- A UE attaches and is asked to authenticate itself. -/
def sampleAttach : List MmeLabel :=
  [.uplink {} 0 .initialUeMessage sampleAttachRequest, .message { found := true } none,
    .aia 0 sampleVector]

/-- An uplink message on the connection of the UE, which is handled at once. -/
def sampleUplink (nasPdu : Bytes) : List MmeLabel :=
  [.uplink {} 0 .uplinkNasTransport nasPdu, .message {} none]

/-- The state after some labels, or the first one if a step fails. -/
@[irreducible] def sampleRun [OgsCrypt] [NasDecoder] (labels : List MmeLabel) : Mme :=
  (sampleMme.run sampleConfig labels).getD sampleMme

theorem sampleRun_reaches [OgsCrypt] [NasDecoder] {labels : List MmeLabel}
    (hrun : (sampleMme.run sampleConfig labels).isSome = true) :
    Lts.Reaches (Mme.Step sampleConfig) sampleMme (sampleRun labels) := by
  apply Mme.run_reaches
  obtain ⟨m', hm'⟩ := Option.isSome_iff_exists.mp hrun
  rw [sampleRun, hm']
  rfl

end NextEpc
