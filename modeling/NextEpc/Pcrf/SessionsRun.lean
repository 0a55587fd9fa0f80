import NextEpc.Pcrf.SessionsInv

/-!
# Runs of the PCRF

With handlers in several threads, the books are kept in every run whose steps meet a condition on
the state before them, and no handler fails an assertion.
-/

namespace NextEpc

namespace Pcrf
open Custody (Alive Exclusive Replaced)

variable {maxNumOfFlow : Nat}

/-! ## One step -/

section
variable {env : PcrfEnv maxNumOfFlow} {s : PcrfSystem maxNumOfFlow} {thread : Nat}
  {handler : PcrfHandler maxNumOfFlow} {p : PcrfContext maxNumOfFlow}

/-- The invariant after a thread has gone on to another handler, or ended. -/
theorem Inv.goesTo (hinv : Inv s) {next : Option (PcrfHandler maxNumOfFlow)}
    {g : CString → GxSess maxNumOfFlow → Prop} {r : CString → RxSess → Prop}
    (hgx : Exclusive p.gx (Function.update (gxHeld s) thread (next.bind heldGx)) ∧
      Alive p.gx (Function.update (gxHeld s) thread (next.bind heldGx)) = g)
    (hrx : Exclusive p.rx (Function.update (rxHeld s) thread (next.bind heldRx)) ∧
      Alive p.rx (Function.update (rxHeld s) thread (next.bind heldRx)) = r)
    (hsound : Sound g r) (hnext : ∀ handler, next = some handler → HandlerSound handler)
    (outstanding : List CString) :
    Inv ⟨p, Function.update s.running thread next, outstanding⟩ := by
  have hheld {α : Type} (f : PcrfHandler maxNumOfFlow → Option α) :
      (fun thread' => (Function.update s.running thread next thread').bind f) =
        Function.update (fun thread' => (s.running thread').bind f) thread (next.bind f) := by
    funext thread'
    rw [Function.update_apply, Function.update_apply]
    split <;> rfl
  have hgxHeld : gxHeld ⟨p, Function.update s.running thread next, outstanding⟩ =
      Function.update (gxHeld s) thread (next.bind heldGx) := hheld heldGx
  have hrxHeld : rxHeld ⟨p, Function.update s.running thread next, outstanding⟩ =
      Function.update (rxHeld s) thread (next.bind heldRx) := hheld heldRx
  constructor
  · rw [hgxHeld]
    exact hgx.1
  · rw [hrxHeld]
    exact hrx.1
  · rw [GxAlive, RxAlive, hgxHeld, hrxHeld, hgx.2, hrx.2]
    exact hsound
  · intro thread' handler' hrunning
    change Function.update s.running thread next thread' = some handler' at hrunning
    rw [Function.update_apply] at hrunning
    split at hrunning
    · exact hnext handler' hrunning
    · exact hinv.handlers thread' handler' hrunning

theorem gxHeld_of (h : s.running thread = some handler) : gxHeld s thread = heldGx handler := by
  rw [gxHeld, h, Option.bind_some]

theorem rxHeld_of (h : s.running thread = some handler) : rxHeld s thread = heldRx handler := by
  rw [rxHeld, h, Option.bind_some]

/-- A state is stored under the key of a handler that has taken one. -/
theorem store_of {α : Type} {stored : CString → Option α}
    {held : Nat → Option (CString × Option α)} {sid : CString} {o : Option α}
    (h : Exclusive stored held) (ht : held thread = some (sid, o)) (a : α) :
    store stored sid a = some (Function.update stored sid (some a)) := by
  rw [store, h.absent thread sid o ht]

/-- What a handler that goes on leads to. -/
def GoesOnTo (env : PcrfEnv maxNumOfFlow) (s : PcrfSystem maxNumOfFlow) (thread : Nat)
    (handler : PcrfHandler maxNumOfFlow) : Prop :=
  ∃ p next rars, goOn env s.stored handler = some (p, next, rars) ∧
    ∀ outstanding, Inv ⟨p, Function.update s.running thread next, outstanding⟩

theorem Inv.goesOnTo (hinv : Inv s) (gxs : CString → Option (GxSess maxNumOfFlow))
    (rxs : CString → Option RxSess) (next : Option (PcrfHandler maxNumOfFlow))
    (rars : List CString) {g : CString → GxSess maxNumOfFlow → Prop}
    {r : CString → RxSess → Prop}
    (hgoOn : goOn env s.stored handler = some (⟨gxs, rxs⟩, next, rars))
    (hgx : Exclusive gxs (Function.update (gxHeld s) thread (next.bind heldGx)) ∧
      Alive gxs (Function.update (gxHeld s) thread (next.bind heldGx)) = g)
    (hrx : Exclusive rxs (Function.update (rxHeld s) thread (next.bind heldRx)) ∧
      Alive rxs (Function.update (rxHeld s) thread (next.bind heldRx)) = r)
    (hsound : Sound g r) (hnext : ∀ handler, next = some handler → HandlerSound handler) :
    GoesOnTo env s thread handler :=
  ⟨⟨gxs, rxs⟩, next, rars, hgoOn, fun outstanding => hinv.goesTo hgx hrx hsound hnext outstanding⟩

/-- The state of an Rx session that a request has taken is new, or that of the session. -/
theorem rxAlive_of_held (hinv : Inv s) {sid : CString} {rx state : RxSess} {isNew : Bool}
    (hheld : rxHeld s thread = some (sid, if isNew then none else some rx))
    (halive : RxAlive s sid state) : isNew = false ∧ state = rx := by
  cases isNew with
  | true => exact absurd halive (hinv.rx.not_alive hheld)
  | false =>
    refine ⟨rfl, hinv.rx.unique halive ?_⟩
    exact Or.inr ⟨thread, hheld⟩

/-- A request that does not get a Gx session cleans its Rx session up. -/
theorem goOn_aarNone (hinv : Inv s) {sid : CString} {rx : RxSess} {isNew : Bool}
    {gxSid : Option CString} {avps : List Avp}
    (hrun : s.running thread = some (.aar sid rx isNew gxSid avps))
    (hgone : isNew = true ∨ rx.aborted = true)
    (hgoOn : goOn env s.stored (.aar sid rx isNew gxSid avps) =
      some (s.stored, some (.aarEnd sid none), [])) :
    GoesOnTo env s thread (.aar sid rx isNew gxSid avps) := by
  have hheld := rxHeld_of hrun
  apply hinv.goesOnTo _ _ _ _ hgoOn (hinv.gx.stays (gxHeld_of hrun)) (hinv.rx.works hheld none)
  · apply hinv.sound.dropRx
    intro state halive
    obtain ⟨hold, rfl⟩ := rxAlive_of_held hinv hheld halive
    rcases hgone with hnew | haborted
    · cases hold.symm.trans hnew
    · exact haborted
  · rintro _ ⟨⟩
    trivial

theorem goOn_aar (hinv : Inv s) {sid : CString} {rx : RxSess} {isNew : Bool}
    {gxSid : Option CString} {avps : List Avp}
    (hrun : s.running thread = some (.aar sid rx isNew gxSid avps))
    (hok : GoesOn env s.stored (.aar sid rx isNew gxSid avps)) :
    GoesOnTo env s thread (.aar sid rx isNew gxSid avps) := by
  obtain ⟨-, hwell, hsid⟩ := hinv.handlers thread _ hrun
  cases gxSid with
  | none => exact goOn_aarNone hinv hrun hok rfl
  | some gxSid =>
    obtain ⟨hfits, hgone⟩ := hok
    obtain ⟨msg, hmsg⟩ : ∃ msg, Rx.decodeAar maxNumOfFlow rx.peerHost avps = some msg :=
      (Rx.decodeAar_iff hwell).mpr hfits
    cases hgx : s.stored.gx gxSid with
    | none =>
      apply goOn_aarNone hinv hrun (hgone hgx)
      simp only [goOn, hmsg, hgx, Option.bind_eq_bind, Option.bind_some]
    | some gx =>
      apply hinv.goesOnTo (Function.update s.stored.gx gxSid none) s.stored.rx
        (some (.aarRar sid rx isNew gxSid msg gx)) [] _ (hinv.gx.takes hgx (gxHeld_of hrun))
        (hinv.rx.stays (rxHeld_of hrun)) hinv.sound
      · rintro _ ⟨⟩
        exact decodeAar_peerHost hsid hmsg
      · simp only [goOn, hmsg, hgx, Option.bind_eq_bind, Option.bind_some]

theorem goOn_aarRar (hinv : Inv s) {sid : CString} {rx : RxSess} {isNew : Bool}
    {gxSid : CString} {msg : RxMessage maxNumOfFlow} {gx : GxSess maxNumOfFlow}
    (hrun : s.running thread = some (.aarRar sid rx isNew gxSid msg gx))
    (hok : GoesOn env s.stored (.aarRar sid rx isNew gxSid msg gx)) :
    GoesOnTo env s thread (.aarRar sid rx isNew gxSid msg gx) := by
  obtain ⟨hgxSid, hopen, haccepted⟩ := hok
  have hheldGx := gxHeld_of hrun
  have hheldRx := rxHeld_of hrun
  have halive : GxAlive s gxSid gx := Or.inr ⟨thread, hheldGx⟩
  obtain ⟨gx', rar, hsend, hsids, hhost, hsingle⟩ := sendRarAa_accepted
    (hinv.sound.gxHost _ _ halive) (hinv.sound.single _ _ halive) haccepted
  let rx' : RxSess := { rx with
    gxSid := rx.gxSid <|> some gxSid
    peerHost := msg.peerHost }
  have hgxSid' : rx'.gxSid = some gxSid := by
    rcases hgxSid with hnone | hsome
    · simp only [rx', hnone]
      rfl
    · simp only [rx', hsome]
      rfl
  apply hinv.goesOnTo (Function.update s.stored.gx gxSid (some gx')) s.stored.rx
    (some (.aarEnd sid (some rx'))) (if rar.isSome then [gxSid] else []) _
    (hinv.gx.putsAs hheldGx (some gx')) (hinv.rx.works hheldRx (some rx'))
  · apply hinv.sound.bind halive _ ⟨hgxSid', hopen, hinv.handlers thread _ hrun⟩ hsids _ hsingle
    · intro state hstate
      obtain ⟨-, rfl⟩ := rxAlive_of_held hinv hheldRx hstate
      rcases hgxSid with hnone | hsome
      · have hbound := (hinv.sound.rxHost _ _ hstate).1
        rw [hnone] at hbound
        cases hbound
      · exact hsome
    · rw [hhost]
      exact hinv.sound.gxHost _ _ halive
  · rintro _ ⟨⟩
    trivial
  · simp only [goOn, hsend, store_of hinv.gx hheldGx, Option.bind_eq_bind, Option.bind_some]
    rfl

theorem goOn_aarEnd (hinv : Inv s) {sid : CString} {rx : Option RxSess}
    (hrun : s.running thread = some (.aarEnd sid rx)) :
    GoesOnTo env s thread (.aarEnd sid rx) := by
  have hheldRx := rxHeld_of hrun
  have hstays := hinv.gx.stays (gxHeld_of hrun)
  cases rx with
  | none =>
    exact hinv.goesOnTo s.stored.gx s.stored.rx none [] rfl hstays (hinv.rx.releases hheldRx)
      hinv.sound (fun _ h => nomatch h)
  | some rx =>
    apply hinv.goesOnTo s.stored.gx (Function.update s.stored.rx sid (some rx)) none [] _ hstays
      (hinv.rx.puts hheldRx) hinv.sound (fun _ h => nomatch h)
    simp only [goOn, store_of hinv.rx hheldRx, Option.bind_eq_bind, Option.bind_some]

/-! ### Session-Termination-Requests -/

theorem goOn_str (hinv : Inv s) {sid : CString} {rx : RxSess}
    (hrun : s.running thread = some (.str sid rx)) (hok : GoesOn env s.stored (.str sid rx)) :
    GoesOnTo env s thread (.str sid rx) := by
  have hheldGx := gxHeld_of hrun
  have hheldRx := rxHeld_of hrun
  have halive : RxAlive s sid rx := Or.inr ⟨thread, hheldRx⟩
  obtain ⟨gxSid, hgxSid⟩ := Option.isSome_iff_exists.mp (hinv.sound.rxHost _ _ halive).1
  by_cases haborted : rx.aborted = true
  · apply hinv.goesOnTo s.stored.gx s.stored.rx (some (.strEnd sid)) [] _ (hinv.gx.stays hheldGx)
      (hinv.rx.works hheldRx none)
    · apply hinv.sound.dropRx
      intro state hstate
      rw [hinv.rx.unique hstate halive]
      exact haborted
    · rintro _ ⟨⟩
      trivial
    · simp only [goOn, hgxSid, haborted, Option.bind_eq_bind, Option.bind_some, ↓reduceIte]
  · obtain ⟨gxSid', hgxSid', hsome⟩ := hok.resolve_left haborted
    cases hgxSid.symm.trans hgxSid'
    obtain ⟨gx, hgx⟩ := Option.isSome_iff_exists.mp hsome
    apply hinv.goesOnTo (Function.update s.stored.gx gxSid none) s.stored.rx
      (some (.strRar sid rx gxSid gx)) [] _ (hinv.gx.takes hgx hheldGx)
      (hinv.rx.stays hheldRx) hinv.sound
    · rintro _ ⟨⟩
      exact ⟨hgxSid, by simpa using haborted⟩
    · simp only [goOn, hgxSid, haborted, hgx, Option.bind_eq_bind, Option.bind_some]
      rfl

theorem goOn_strRar (hinv : Inv s) {sid : CString} {rx : RxSess} {gxSid : CString}
    {gx : GxSess maxNumOfFlow} (hrun : s.running thread = some (.strRar sid rx gxSid gx)) :
    GoesOnTo env s thread (.strRar sid rx gxSid gx) := by
  have hheldGx := gxHeld_of hrun
  have hheldRx := rxHeld_of hrun
  obtain ⟨hgxSid, hopen⟩ := hinv.handlers thread _ hrun
  have halive : GxAlive s gxSid gx := Or.inr ⟨thread, hheldGx⟩
  have haliveRx : RxAlive s sid rx := Or.inr ⟨thread, hheldRx⟩
  have hmem : sid ∈ sids gx :=
    (hinv.sound.entry _ _ _ halive).mpr ⟨rx, haliveRx, hgxSid, hopen⟩
  obtain ⟨gx', rar, hsend, hsids, hhost, hsingle⟩ := sendRarStr_ok
    (hinv.sound.gxHost _ _ halive) (hinv.sound.single _ _ halive) hmem
  apply hinv.goesOnTo (Function.update s.stored.gx gxSid (some gx')) s.stored.rx
    (some (.strEnd sid)) (if rar.isSome then [gxSid] else []) _
    (hinv.gx.putsAs hheldGx (some gx')) (hinv.rx.works hheldRx none)
  · apply hinv.sound.unbind halive _ _ hsids _ hsingle
    · intro state hstate
      rw [hinv.rx.unique hstate haliveRx]
      exact hgxSid
    · rintro _ ⟨⟩
    · rw [hhost]
      exact hinv.sound.gxHost _ _ halive
  · rintro _ ⟨⟩
    trivial
  · simp only [goOn, hsend, store_of hinv.gx hheldGx, Option.bind_eq_bind, Option.bind_some]

/-! ### Credit-Control-Requests and Re-Auth-Answers -/

/-- A handler stores the Gx session that it has taken. -/
theorem goOn_puts (hinv : Inv s) {gxSid : CString} {gx : GxSess maxNumOfFlow}
    (hgx : gxHeld s thread = some (gxSid, some gx)) (hrx : rxHeld s thread = none)
    (hgoOn : goOn env s.stored handler =
      (store s.stored.gx gxSid gx).map fun gxs => ({ s.stored with gx := gxs }, none, [])) :
    GoesOnTo env s thread handler := by
  apply hinv.goesOnTo (Function.update s.stored.gx gxSid (some gx)) s.stored.rx none [] _
    (hinv.gx.puts hgx) (hinv.rx.stays hrx) hinv.sound (fun _ h => nomatch h)
  rw [hgoOn, store_of hinv.gx hgx, Option.map_some]

theorem goOn_ccrTerminate (hinv : Inv s) {gxSid : CString} {gx : GxSess maxNumOfFlow}
    (hrun : s.running thread = some (.ccrTerminate gxSid gx))
    (hok : GoesOn env s.stored (.ccrTerminate gxSid gx)) :
    GoesOnTo env s thread (.ccrTerminate gxSid gx) := by
  have hheldGx := gxHeld_of hrun
  have hheldRx := rxHeld_of hrun
  cases hlist : gx.rxList with
  | nil =>
    apply hinv.goesOnTo s.stored.gx s.stored.rx none [] _ (hinv.gx.drops hheldGx)
      (hinv.rx.stays hheldRx) (hinv.sound.dropGx (Or.inr ⟨thread, hheldGx⟩) hlist)
      (fun _ h => nomatch h)
    simp only [goOn, hlist]
  | cons entry rest =>
    obtain ⟨rx, hrx⟩ := Option.isSome_iff_exists.mp (hok entry (by simp [hlist]))
    apply hinv.goesOnTo s.stored.gx (Function.update s.stored.rx entry.sid none)
      (some (.ccrAsr gxSid gx entry.sid rx)) [] _ (hinv.gx.stays hheldGx)
      (hinv.rx.takes hrx hheldRx) hinv.sound
    · rintro _ ⟨⟩
      exact ⟨entry, rest, hlist, rfl⟩
    · simp only [goOn, hlist, hrx, Option.bind_eq_bind, Option.bind_some]

theorem goOn_ccrAsr (hinv : Inv s) {gxSid sid : CString} {gx : GxSess maxNumOfFlow} {rx : RxSess}
    (hrun : s.running thread = some (.ccrAsr gxSid gx sid rx)) :
    GoesOnTo env s thread (.ccrAsr gxSid gx sid rx) := by
  have hheldGx := gxHeld_of hrun
  have hheldRx := rxHeld_of hrun
  obtain ⟨entry, rest, hlist, hsid⟩ := hinv.handlers thread _ hrun
  have halive : GxAlive s gxSid gx := Or.inr ⟨thread, hheldGx⟩
  have haliveRx : RxAlive s sid rx := Or.inr ⟨thread, hheldRx⟩
  have hsids : sids gx = sid :: rest.map (·.sid) := by rw [sids, hlist, List.map_cons, hsid]
  obtain ⟨hsome, hpeer⟩ := hinv.sound.rxHost _ _ haliveRx
  obtain ⟨peerHost, hpeerHost⟩ := Option.isSome_iff_exists.mp hpeer
  have hbound : BoundTo (RxAlive s) gxSid sid := by
    apply (hinv.sound.entry _ _ _ halive).mp
    rw [hsids]
    exact List.mem_cons_self
  apply hinv.goesOnTo s.stored.gx
    (Function.update s.stored.rx sid (some { rx with aborted := true }))
    (some (.ccrTerminate gxSid { gx with rxList := gx.rxList.tail })) [] _
    (hinv.gx.works hheldGx (some { gx with rxList := gx.rxList.tail }))
    (hinv.rx.putsAs hheldRx (some { rx with aborted := true }))
  · apply hinv.sound.unbind halive
    · intro state hstate
      obtain ⟨state', hstate', hgxSid, -⟩ := hbound
      rw [hinv.rx.unique hstate hstate']
      exact hgxSid
    · rintro _ ⟨⟩
      exact ⟨rfl, hsome, hpeer⟩
    · rw [hsids, List.erase_cons_head, sids, hlist, List.tail_cons]
    · exact hinv.sound.gxHost gxSid gx halive
    · exact fun entry hentry => hinv.sound.single _ _ halive entry (List.mem_of_mem_tail hentry)
  · rintro _ ⟨⟩
    trivial
  · simp only [goOn, hpeerHost, store_of hinv.rx hheldRx, Option.bind_eq_bind, Option.bind_some]

/-- A handler that has what it needs goes on, and keeps the invariant. -/
theorem goOn_inv (hinv : Inv s) (hrun : s.running thread = some handler)
    (hok : GoesOn env s.stored handler) : GoesOnTo env s thread handler := by
  cases handler with
  | aar => exact goOn_aar hinv hrun hok
  | aarRar => exact goOn_aarRar hinv hrun hok
  | aarEnd => exact goOn_aarEnd hinv hrun
  | str => exact goOn_str hinv hrun hok
  | strRar => exact goOn_strRar hinv hrun
  | strEnd sid =>
    exact hinv.goesOnTo s.stored.gx s.stored.rx none [] rfl (hinv.gx.stays (gxHeld_of hrun))
      (hinv.rx.releases (rxHeld_of hrun)) hinv.sound (fun _ h => nomatch h)
  | ccrUpdate gxSid gx =>
    apply goOn_puts hinv (gxHeld_of hrun) (rxHeld_of hrun)
    rw [goOn, Option.map_eq_bind]
    rfl
  | ccrTerminate => exact goOn_ccrTerminate hinv hrun hok
  | ccrAsr => exact goOn_ccrAsr hinv hrun
  | raa gxSid gx =>
    apply goOn_puts hinv (gxHeld_of hrun) (rxHeld_of hrun)
    rw [goOn, Option.map_eq_bind]
    rfl

/-! ### Messages -/

/-- What a message that begins leads to. -/
def BeginsTo (env : PcrfEnv maxNumOfFlow) (s : PcrfSystem maxNumOfFlow) (thread : Nat)
    (event : PcrfEvent) : Prop :=
  ∃ p next, begin env s.stored event = some (p, next) ∧
    ∀ outstanding, Inv ⟨p, Function.update s.running thread next, outstanding⟩

theorem Inv.beginsTo (hinv : Inv s) {event : PcrfEvent}
    (gxs : CString → Option (GxSess maxNumOfFlow)) (rxs : CString → Option RxSess)
    (next : Option (PcrfHandler maxNumOfFlow)) {g : CString → GxSess maxNumOfFlow → Prop}
    {r : CString → RxSess → Prop} (hbegin : begin env s.stored event = some (⟨gxs, rxs⟩, next))
    (hgx : Exclusive gxs (Function.update (gxHeld s) thread (next.bind heldGx)) ∧
      Alive gxs (Function.update (gxHeld s) thread (next.bind heldGx)) = g)
    (hrx : Exclusive rxs (Function.update (rxHeld s) thread (next.bind heldRx)) ∧
      Alive rxs (Function.update (rxHeld s) thread (next.bind heldRx)) = r)
    (hsound : Sound g r) (hnext : ∀ handler, next = some handler → HandlerSound handler) :
    BeginsTo env s thread event :=
  ⟨⟨gxs, rxs⟩, next, hbegin, fun outstanding => hinv.goesTo hgx hrx hsound hnext outstanding⟩

theorem held_of_idle {α : Type} (h : s.running thread = none)
    (f : PcrfHandler maxNumOfFlow → Option α) : (s.running thread).bind f = none := by
  rw [h, Option.bind_none]

theorem begin_aar (hinv : Inv s) (hidle : s.running thread = none) {sid : CString}
    {prefixLen : Option UInt8} {gxSid : Option CString} {avps : List Avp}
    (hwell : WellFormedAar avps) (hok : Allowed env s thread (.aar sid prefixLen gxSid avps)) :
    BeginsTo env s thread (.aar sid prefixLen gxSid avps) := by
  obtain ⟨hlen, hfree⟩ := hok
  have hstays := hinv.gx.stays (held_of_idle hidle heldGx)
  have hidleRx : rxHeld s thread = none := held_of_idle hidle heldRx
  cases hrx : s.stored.rx sid with
  | none =>
    have habsent : Function.update s.stored.rx sid none = s.stored.rx :=
      Function.update_eq_self_iff.mpr hrx.symm
    apply hinv.beginsTo s.stored.gx s.stored.rx
      (some (.aar sid ⟨none, none, false⟩ true gxSid avps)) _ hstays
      (hinv.rx.reserves hrx hfree hidleRx) hinv.sound
    · rintro _ ⟨⟩
      exact ⟨fun _ => rfl, hwell⟩
    · simp only [begin, hlen, retrieveOrNew, hrx, habsent, ↓reduceIte]
      rfl
  | some rx =>
    apply hinv.beginsTo s.stored.gx (Function.update s.stored.rx sid none)
      (some (.aar sid rx false gxSid avps)) _ hstays (hinv.rx.takes hrx hidleRx) hinv.sound
    · rintro _ ⟨⟩
      exact ⟨fun hnew => absurd hnew Bool.false_ne_true, hwell⟩
    · simp only [begin, hlen, retrieveOrNew, hrx, ↓reduceIte]
      rfl

theorem begin_str (hinv : Inv s) (hidle : s.running thread = none) {sid : CString}
    (hok : Allowed env s thread (.str sid)) : BeginsTo env s thread (.str sid) := by
  obtain ⟨rx, hrx⟩ := Option.isSome_iff_exists.mp hok
  obtain ⟨gxSid, hgxSid⟩ := Option.isSome_iff_exists.mp (hinv.sound.rxHost sid rx (Or.inl hrx)).1
  apply hinv.beginsTo s.stored.gx (Function.update s.stored.rx sid none) (some (.str sid rx)) _
    (hinv.gx.stays (held_of_idle hidle heldGx)) (hinv.rx.takes hrx (held_of_idle hidle heldRx))
    hinv.sound
  · rintro _ ⟨⟩
    trivial
  · simp only [begin, hrx, hgxSid, Option.bind_eq_bind, Option.bind_some]

/-- A message about a Gx session that is not stored is answered with an error. -/
theorem begin_unknown (hinv : Inv s) (hidle : s.running thread = none) {event : PcrfEvent}
    (hbegin : begin env s.stored event = some (s.stored, none)) : BeginsTo env s thread event :=
  hinv.beginsTo _ _ none hbegin (hinv.gx.stays (held_of_idle hidle heldGx))
    (hinv.rx.stays (held_of_idle hidle heldRx)) hinv.sound (fun _ h => nomatch h)

theorem begin_ccrUpdate (hinv : Inv s) (hidle : s.running thread = none) {gxSid : CString}
    {msg : CcrMessage} (hok : Allowed env s thread (.ccrUpdate gxSid msg)) :
    BeginsTo env s thread (.ccrUpdate gxSid msg) := by
  cases hgx : s.stored.gx gxSid with
  | none =>
    apply begin_unknown hinv hidle
    simp only [begin, hgx]
  | some gx =>
    have hlen : msg.framedIpv6PrefixLen.all (· == 128) = true := hok (by rw [hgx]; rfl)
    obtain ⟨hlist, hhost⟩ := readCcr_kept env msg gx
    apply hinv.beginsTo (Function.update s.stored.gx gxSid none) s.stored.rx
      (some (.ccrUpdate gxSid (readCcr env msg gx).1)) _
      (hinv.gx.takesAs hgx (held_of_idle hidle heldGx) (some (readCcr env msg gx).1))
      (hinv.rx.stays (held_of_idle hidle heldRx))
      (hinv.sound.updateGx (Or.inl hgx) hlist hhost)
    · rintro _ ⟨⟩
      trivial
    · simp only [begin, hgx, hlen, ↓reduceIte]

theorem begin_ccrTerminate (hinv : Inv s) (hidle : s.running thread = none) {gxSid : CString}
    {msg : CcrMessage} (hok : Allowed env s thread (.ccrTerminate gxSid msg)) :
    BeginsTo env s thread (.ccrTerminate gxSid msg) := by
  have hidleGx : gxHeld s thread = none := held_of_idle hidle heldGx
  have hidleRx : rxHeld s thread = none := held_of_idle hidle heldRx
  cases hgx : s.stored.gx gxSid with
  | none =>
    apply begin_unknown hinv hidle
    simp only [begin, hgx]
  | some gx =>
    obtain ⟨hlen, hserved⟩ := hok gx hgx
    obtain ⟨hlist, hhost⟩ := readCcr_kept env msg gx
    by_cases hread : (readCcr env msg gx).2 = true
    · apply hinv.beginsTo (Function.update s.stored.gx gxSid none) s.stored.rx
        (some (.ccrTerminate gxSid (readCcr env msg gx).1)) _
        (hinv.gx.takesAs hgx hidleGx (some (readCcr env msg gx).1)) (hinv.rx.stays hidleRx)
        (hinv.sound.updateGx (Or.inl hgx) hlist hhost)
      · rintro _ ⟨⟩
        trivial
      · simp only [begin, hgx, hlen, hread, ↓reduceIte]
    · -- the session is cleaned up without aborting its Rx sessions, of which there are none
      have hnil := hserved.resolve_left fun h => hread (readCcr_served h)
      obtain ⟨hexcl, halive⟩ := hinv.gx.takesAs hgx hidleGx none
      have hdrop := hexcl.releases (Function.update_self thread _ _)
      rw [Function.update_idem, halive] at hdrop
      apply hinv.beginsTo (Function.update s.stored.gx gxSid none) s.stored.rx none _ hdrop
        (hinv.rx.stays hidleRx) (hinv.sound.dropGx (Or.inl hgx) hnil) (fun _ h => nomatch h)
      simp only [begin, hgx, hlen, hread, ↓reduceIte]
      rfl

theorem begin_raa (hinv : Inv s) (hidle : s.running thread = none) {gxSid : CString}
    (hok : Allowed env s thread (.raa gxSid)) : BeginsTo env s thread (.raa gxSid) := by
  obtain ⟨gx, hgx⟩ := Option.isSome_iff_exists.mp hok
  apply hinv.beginsTo (Function.update s.stored.gx gxSid none) s.stored.rx (some (.raa gxSid gx)) _
    (hinv.gx.takes hgx (held_of_idle hidle heldGx)) (hinv.rx.stays (held_of_idle hidle heldRx))
    hinv.sound
  · rintro _ ⟨⟩
    trivial
  · simp only [begin, hgx, Option.bind_eq_bind, Option.bind_some]

/-- A step that meets the condition fails no assertion, and keeps the invariant. -/
theorem exec_inv (hinv : Inv s) {event : PcrfEvent} (henabled : Enabled s thread event)
    (hok : Allowed env s thread event) : ∃ s', exec env s thread event = some s' ∧ Inv s' := by
  have hbegins {event : PcrfEvent} (h : BeginsTo env s thread event) (hnext : event ≠ .next) :
      ∃ s', exec env s thread event = some s' ∧ Inv s' := by
    obtain ⟨p, next, hbegin, hinv'⟩ := h
    obtain ⟨outstanding, hexec⟩ : ∃ outstanding, exec env s thread event =
        some ⟨p, Function.update s.running thread next, outstanding⟩ := by
      cases event with
      | next => exact absurd rfl hnext
      | _ =>
        simp only [exec, hbegin]
        exact ⟨_, rfl⟩
    exact ⟨_, hexec, hinv' outstanding⟩
  cases event with
  | aar => exact hbegins (begin_aar hinv henabled.1 henabled.2 hok) nofun
  | str => exact hbegins (begin_str hinv henabled hok) nofun
  | ccrUpdate => exact hbegins (begin_ccrUpdate hinv henabled hok) nofun
  | ccrTerminate => exact hbegins (begin_ccrTerminate hinv henabled hok) nofun
  | raa => exact hbegins (begin_raa hinv henabled.1 hok) nofun
  | next =>
    obtain ⟨handler, hrun⟩ := Option.isSome_iff_exists.mp henabled
    obtain ⟨p, next, rars, hgoOn, hinv'⟩ := goOn_inv hinv hrun (hok handler hrun)
    refine ⟨_, ?_, hinv' (rars ++ s.outstanding)⟩
    rw [exec, hrun]
    simp only [hgoOn, Option.bind_eq_bind, Option.bind_some]

end

/-! ## Runs -/

/-- The condition on a state of the system, where no assertion has failed yet. -/
def Guard (env : PcrfEnv maxNumOfFlow) (s : Option (PcrfSystem maxNumOfFlow))
    (step : Nat × PcrfEvent) : Prop :=
  ∀ system, s = some system → Allowed env system step.1 step.2

/-- What is claimed of a state: no assertion has failed, and the books are kept. -/
def Kept (s : Option (PcrfSystem maxNumOfFlow)) : Prop :=
  ∃ system, s = some system ∧ Booked (GxAlive system) (RxAlive system)

theorem step_inv {env : PcrfEnv maxNumOfFlow} {s s' : Option (PcrfSystem maxNumOfFlow)}
    {a : Nat × PcrfEvent} (hinv : ∃ system, s = some system ∧ Inv system)
    (hstep : Lts.Restrict (Guard env) (Step env) s a s') :
    ∃ system, s' = some system ∧ Inv system := by
  obtain ⟨system, rfl, hinv⟩ := hinv
  obtain ⟨hguard, hstep⟩ := hstep
  cases hstep with
  | run henabled => exact exec_inv hinv henabled (hguard system rfl)

section
variable {env : PcrfEnv maxNumOfFlow} {s : PcrfSystem maxNumOfFlow}
  {trace : List ((Nat × PcrfEvent) × Option (PcrfSystem maxNumOfFlow))}

theorem trace_cons {t : Option (PcrfSystem maxNumOfFlow)} (thread : Nat) (event : PcrfEvent)
    (hexec : exec env s thread event = t) (henabled : Enabled s thread event)
    (hrest : Lts.Trace (Step env) t trace) :
    Lts.Trace (Step env) (some s) (((thread, event), t) :: trace) :=
  Lts.Trace.cons (hexec ▸ Step.run henabled) hrest

theorem guarded_cons {t : Option (PcrfSystem maxNumOfFlow)} (thread : Nat) (event : PcrfEvent)
    (hexec : exec env s thread event = t) (henabled : Enabled s thread event)
    (hallowed : Allowed env s thread event)
    (hrest : Lts.Trace (Lts.Restrict (Guard env) (Step env)) t trace) :
    Lts.Trace (Lts.Restrict (Guard env) (Step env)) (some s) (((thread, event), t) :: trace) := by
  apply Lts.Trace.cons _ hrest
  refine ⟨?_, hexec ▸ Step.run henabled⟩
  rintro _ ⟨⟩
  exact hallowed

end

/-- The PCRF with one Gx session. -/
def attached : PcrfSystem 4 := ⟨started idle, fun _ => none, []⟩

/-- The AVPs of an AA-Request with its Session-Id. -/
def request (mediaType : UInt32) : List Avp :=
  [.octetString ⟨Rx.acSessionId, 0⟩ [114], component mediaType [permitOut1]]

def terminate : CcrMessage := ⟨CString.copy [112], none, none, none⟩

theorem attached_initial : Initial attached := by
  refine ⟨fun _ => rfl, rfl, ?_, fun _ => rfl⟩
  intro sid gx hgx
  simp only [attached, started] at hgx
  split at hgx
  · cases hgx
    exact ⟨rfl, rfl⟩
  · cases hgx

theorem request_wellFormed (mediaType : UInt32) : WellFormedAar (request mediaType) := by
  constructor
  · have hsub : Avp.WellTyped Rx.dict (.grouped ⟨Rx.mediaSubComponent, 10415⟩
        [.word ⟨Rx.flowNumber, 10415⟩ 1, .octetString ⟨Rx.flowDescription, 10415⟩ permitOut1]) := by
      apply Avp.WellTyped.of_grouped rfl
      simp only [List.forall_mem_cons]
      exact ⟨.of_word rfl, .of_octetString rfl, List.forall_mem_nil _⟩
    have hcomponent : Avp.WellTyped Rx.dict (component mediaType [permitOut1]) := by
      apply Avp.WellTyped.of_grouped rfl
      simp only [List.forall_mem_cons]
      exact ⟨.of_word rfl, .of_word rfl, hsub, List.forall_mem_nil _⟩
    simp only [request, List.forall_mem_cons]
    exact ⟨.of_octetString rfl, hcomponent, List.forall_mem_nil _⟩
  · exact ⟨_, List.mem_cons_self, rfl⟩

theorem voice_accepted : ∀ msg, Rx.decodeAar 4 none (request mediaTypeAudio) = some msg →
    Accepted voice rxSid idle msg.mediaComponent := by
  rintro msg ⟨⟩
  refine ⟨_, rfl, ?_⟩
  intro c hc
  rw [List.mem_singleton.mp hc]
  refine ⟨by decide, by decide, ?_⟩
  rintro _ ⟨⟩
  exact ⟨rfl, fun _ h => nomatch h⟩

end Pcrf

open Pcrf

/-- In every run whose steps meet the condition, with any number of threads, no handler fails an
assertion, and the list of every Gx session has exactly one entry for each Rx session that is bound
to it and neither terminated nor aborted. -/
theorem pcrf_sessions_booked {maxNumOfFlow : Nat} (env : PcrfEnv maxNumOfFlow)
    (s : PcrfSystem maxNumOfFlow) (hinitial : Initial s)
    (trace : List ((Nat × PcrfEvent) × Option (PcrfSystem maxNumOfFlow)))
    (hrun : Lts.Trace (Lts.Restrict (Guard env) (Step env)) (some s) trace) :
    ∀ step ∈ trace, Kept step.2 := by
  intro step hstep
  obtain ⟨system, hsystem, hinv⟩ := hrun.invariant
    (fun _ _ _ hs hst => step_inv hs hst) ⟨s, rfl, hinitial.inv⟩ step hstep
  exact ⟨system, hsystem, hinv.sound.toBooked⟩

/-- A call is set up by one thread, and aborted by another one that ends its Gx session. -/
theorem pcrf_sessions_booked_call :
    ∃ trace : List ((Nat × PcrfEvent) × Option (PcrfSystem 4)), trace.length = 8 ∧
      Lts.Trace (Lts.Restrict (Guard voice) (Step voice)) (some attached) trace ∧
      ∀ step ∈ trace, Kept step.2 := by
  have hrun : ∃ trace : List ((Nat × PcrfEvent) × Option (PcrfSystem 4)), trace.length = 8 ∧
      Lts.Trace (Lts.Restrict (Guard voice) (Step voice)) (some attached) trace := by
    refine ⟨_, ?_, guarded_cons 0 (.aar rxSid none (some gxSid) (request mediaTypeAudio)) rfl
        ⟨rfl, request_wellFormed _⟩ ⟨rfl, fun _ _ h => nomatch h⟩
      (guarded_cons 0 .next rfl rfl ?_
      (guarded_cons 0 .next rfl rfl ?_
      (guarded_cons 0 .next rfl rfl ?_
      (guarded_cons 1 (.ccrTerminate gxSid terminate) rfl rfl ?_
      (guarded_cons 1 .next rfl rfl ?_
      (guarded_cons 1 .next rfl rfl ?_
      (guarded_cons 1 .next rfl rfl ?_ (.nil _))))))))⟩
    · rfl
    · rintro _ ⟨⟩
      exact ⟨(@Rx.decodeAar_iff 4 _ none (request_wellFormed _).1).mp ⟨_, rfl⟩, nofun⟩
    · rintro _ ⟨⟩
      exact ⟨Or.inl rfl, rfl, voice_accepted _ rfl⟩
    · rintro _ ⟨⟩
      trivial
    · rintro gx hgx
      refine ⟨rfl, Or.inl ?_⟩
      cases hgx
      exact ⟨nofun, _, _, rfl, rfl, rfl⟩
    · rintro _ ⟨⟩ entry hentry
      cases hentry
      rfl
    · rintro _ ⟨⟩
      trivial
    · rintro _ ⟨⟩ entry hentry
      cases hentry
  obtain ⟨trace, hlength, hrun⟩ := hrun
  exact ⟨trace, hlength, hrun, pcrf_sessions_booked voice attached attached_initial trace hrun⟩

/-- A request for video is not accepted, and the Rx session stays in the list of the Gx session,
which cannot end any more: an assertion fails. -/
theorem pcrf_sessions_lost : ∃ trace : List ((Nat × PcrfEvent) × Option (PcrfSystem 4)),
    Initial attached ∧ Lts.Trace (Step voice) (some attached) trace ∧
    ¬∀ step ∈ trace, Kept step.2 := by
  refine ⟨_, attached_initial,
    trace_cons 0 (.aar rxSid none (some gxSid) (request mediaTypeVideo)) rfl
      ⟨rfl, request_wellFormed _⟩
    (trace_cons 0 .next rfl rfl
    (trace_cons 0 .next rfl rfl
    (trace_cons 0 .next rfl rfl
    (trace_cons 1 (.ccrTerminate gxSid terminate) rfl rfl
    (@trace_cons _ _ _ _ none 1 .next rfl rfl (.nil _)))))), ?_⟩
  intro h
  obtain ⟨s, hs, -⟩ := h ((1, .next), none) (by simp)
  cases hs

end NextEpc
