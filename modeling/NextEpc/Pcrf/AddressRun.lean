import NextEpc.Pcrf.AddressMap

/-!
# Runs of the address table

The table finds the session that was the last one to report an address and still has it, in every
run whose steps meet a condition on the state before them.
-/

namespace NextEpc

namespace Pcrf
open KeyTable (Finds)

variable {η : Type}

/-- The session that should be found -/
def heldBy (p : AddressContext η) (latest : FramedIp → Option CString) (ip : FramedIp) :
    Option CString :=
  (latest ip).filter fun sid => HoldsIp p sid ip

/-- The entries are those of the sessions that should be found, and were made for places of
sessions that have an address there. -/
structure AddressInv [DecidableEq η] (hash : FramedIp → η) (p : AddressContext η)
    (latest : FramedIp → Option CString) : Prop where
  finds : Finds (keyAt p.mem) hash p.ipHash (heldBy p latest)
  owned : ∀ e ∈ p.ipHash, p.live e.key.1 = true ∧ (p.mem e.key.1).present e.key.2 = true

section
variable {p : AddressContext η} {latest : FramedIp → Option CString} {sid sid' : CString}
  {ip ip' : FramedIp}

theorem heldBy_eq_some :
    heldBy p latest ip = some sid ↔ latest ip = some sid ∧ HoldsIp p sid ip := by
  simp [heldBy, Option.filter_eq_some_iff]

theorem keyAt_write (mem : CString → GxAddress) (ip : FramedIp) (place : IpPlace) :
    keyAt (Function.update mem sid (writeIp (mem sid) ip)) place =
      if place = (sid, ip.1) then ip else keyAt mem place := by
  obtain ⟨sid', family⟩ := place
  by_cases heq : sid' = sid
  · subst heq
    by_cases hfamily : family = ip.1
    · subst hfamily
      simp [keyAt, writeIp]
    · simp [keyAt, writeIp, hfamily]
  · simp [keyAt, heq]

theorem holdsIp_write (hlive : p.live sid = true)
    (t : List (KeyTable.Entry η IpPlace CString)) :
    HoldsIp ⟨Function.update p.mem sid (writeIp (p.mem sid) ip), p.live, t⟩ sid' ip' ↔
      if sid' = sid ∧ ip'.1 = ip.1 then ip' = ip else HoldsIp p sid' ip' := by
  by_cases heq : sid' = sid
  · subst heq
    by_cases hfamily : ip'.1 = ip.1
    · simp [HoldsIp, writeIp, hfamily, hlive, Prod.ext_iff, eq_comm]
    · simp [HoldsIp, writeIp, hfamily]
  · simp [HoldsIp, heq]

/-- The new address leads to the session that reports it, whatever the old one led to. -/
theorem heldBy_report (hlive : p.live sid = true) (t : List (KeyTable.Entry η IpPlace CString)) :
    heldBy ⟨Function.update p.mem sid (writeIp (p.mem sid) ip), p.live, t⟩
        (Function.update latest ip (some sid)) =
      Function.update
        (heldBy ⟨Function.update p.mem sid (writeIp (p.mem sid) ip), p.live, t⟩ latest) ip
        (some sid) := by
  funext ip'
  rw [Function.update_apply]
  split
  · rename_i heq
    subst heq
    apply heldBy_eq_some.mpr
    refine ⟨Function.update_self _ _ _, (holdsIp_write hlive t).mpr ?_⟩
    rw [if_pos ⟨rfl, rfl⟩]
  · rename_i hne
    rw [heldBy, heldBy, Function.update_of_ne hne]

/-- For other addresses, nothing changes but what the session had before. -/
theorem heldBy_write (hlive : p.live sid = true) (t : List (KeyTable.Entry η IpPlace CString))
    (hne : ip' ≠ ip) :
    heldBy ⟨Function.update p.mem sid (writeIp (p.mem sid) ip), p.live, t⟩ latest ip' =
        some sid' ↔
      heldBy p latest ip' = some sid' ∧ ¬(sid' = sid ∧ ip'.1 = ip.1) := by
  rw [heldBy_eq_some, heldBy_eq_some, holdsIp_write hlive]
  split
  · rename_i heq
    exact iff_of_false (fun h => hne h.2) (fun h => h.2 heq)
  · rename_i hnot
    exact (and_iff_left hnot).symm

end

section
variable [DecidableEq η] [KeyTable.HashTable η] {hash : FramedIp → η} {p : AddressContext η}
  {latest : FramedIp → Option CString} {sid sid' : CString} {ip : FramedIp}

theorem AddressInv.findsLatest {s : AddressRun η} (h : AddressInv hash s.context s.latest) :
    FindsLatest hash s := by
  intro ip sid
  rw [sessFindByIp, h.finds.get_eq (KeyTable.isGet ..)]
  exact heldBy_eq_some

/-! ## States that no entry points to -/

omit [KeyTable.HashTable η] in
/-- The state of a session that is not there changes, or a new one is made. -/
theorem AddressInv.replace (h : AddressInv hash p latest) (hlive : p.live sid = false)
    (g : GxAddress) (b : Bool) (hg : b = true → ∀ family, g.present family = false) :
    AddressInv hash ⟨Function.update p.mem sid g, Function.update p.live sid b, p.ipHash⟩
      latest := by
  have hne : ∀ e ∈ p.ipHash, e.key.1 ≠ sid := by
    rintro e he rfl
    cases hlive.symm.trans (h.owned e he).1
  have hheld : heldBy ⟨Function.update p.mem sid g, Function.update p.live sid b, p.ipHash⟩ latest =
      heldBy p latest := by
    funext ip
    ext sid'
    rw [heldBy_eq_some, heldBy_eq_some]
    apply and_congr_right
    intro _
    by_cases heq : sid' = sid
    · subst heq
      apply iff_of_false
      · rintro ⟨hb, hpresent, -⟩
        simp only [Function.update_self] at hb hpresent
        cases (hg hb ip.1).symm.trans hpresent
      · rintro ⟨hl, -⟩
        cases hlive.symm.trans hl
    · simp only [HoldsIp, Function.update_of_ne heq]
  constructor
  · rw [hheld]
    apply h.finds.congr
    intro e he
    simp only [keyAt, Function.update_of_ne (hne e he)]
  · intro e he
    simp only [Function.update_of_ne (hne e he)]
    exact h.owned e he

/-! ## An address is reported -/

theorem AddressInv.framedIp (h : AddressInv hash p latest) (hlive : p.live sid = true)
    (hok : Reportable hash p sid ip) :
    AddressInv hash (framedIp hash sid p ip) (Function.update latest ip (some sid)) := by
  let mem := Function.update p.mem sid (writeIp (p.mem sid) ip)
  let table := KeyTable.set (keyAt mem) hash p.ipHash (sid, ip.1) sid
  have hkey : keyAt mem (sid, ip.1) = ip := by rw [keyAt_write, if_pos rfl]
  have hread (place : IpPlace) (hne : place ≠ (sid, ip.1)) :
      keyAt mem place = keyAt p.mem place := by rw [keyAt_write, if_neg hne]
  have hset : KeyTable.IsSet (keyAt mem) hash p.ipHash (sid, ip.1) sid table :=
    KeyTable.isSet ..
  have hfinds : Finds (keyAt mem) hash table
      (Function.update (heldBy ⟨mem, p.live, table⟩ latest) ip (some sid)) := by
    by_cases hchange : (p.mem sid).present ip.1 = true ∧ (p.mem sid).addr ip.1 ≠ ip.2
    · obtain ⟨hpresent, hdiffers⟩ := hchange
      obtain ⟨hmine, hquiet⟩ := hok hpresent hdiffers
      have hoverwrite := @Finds.overwrite _ _ _ _ _ _ _ (keyAt mem) hash _ table _
        (heldBy ⟨mem, p.live, table⟩ latest) h.finds (sid, ip.1) sid _ rfl hread hmine
        (by rwa [hkey])
      rw [hkey] at hoverwrite
      refine hoverwrite ?_ hset
      intro ip' sid' hne
      rw [heldBy_write hlive table hne]
      apply and_congr_right
      intro hheld
      obtain ⟨-, -, haddr⟩ := (heldBy_eq_some.mp hheld).2
      apply not_congr
      constructor
      · rintro ⟨rfl, hfamily⟩
        exact ⟨Prod.ext hfamily (by rw [keyAt, ← hfamily, haddr]), rfl⟩
      · rintro ⟨rfl, rfl⟩
        exact ⟨rfl, rfl⟩
    · have hsame : (p.mem sid).present ip.1 = true → (p.mem sid).addr ip.1 = ip.2 := by
        intro hpresent
        by_contra hdiffers
        exact hchange ⟨hpresent, hdiffers⟩
      have hcongr : Finds (keyAt mem) hash p.ipHash (heldBy p latest) := by
        apply h.finds.congr
        intro e he
        by_cases hplace : e.key = (sid, ip.1)
        · have howned := (h.owned e he).2
          rw [hplace] at howned ⊢
          rw [hkey, keyAt, hsame howned]
        · exact hread _ hplace
      have hfound := hcongr.set hset
      rw [hkey] at hfound
      convert hfound using 1
      funext ip'
      rw [Function.update_apply, Function.update_apply]
      split
      · rfl
      · rename_i hne
        ext sid'
        rw [heldBy_write hlive table hne]
        apply and_iff_left_of_imp
        rintro hheld ⟨rfl, hfamily⟩
        obtain ⟨-, hpresent, haddr⟩ := (heldBy_eq_some.mp hheld).2
        rw [hfamily] at hpresent haddr
        exact hne (Prod.ext hfamily (haddr.symm.trans (hsame hpresent)))
  constructor
  · change Finds (keyAt mem) hash table _
    rw [← heldBy_report hlive] at hfinds
    exact hfinds
  · intro e he
    have hwritten (place : IpPlace) (hplace : (p.mem place.1).present place.2 = true) :
        (mem place.1).present place.2 = true := by
      simp only [mem, Function.update_apply]
      split
      · rename_i heq
        simp only [writeIp, Function.update_apply]
        split
        · rfl
        · rw [← heq]
          exact hplace
      · exact hplace
    change p.live e.key.1 = true ∧ (mem e.key.1).present e.key.2 = true
    rcases KeyTable.key_of_isSet hset he with hplace | ⟨e', he', hkey'⟩
    · rw [hplace]
      exact ⟨hlive, by simp [mem, writeIp]⟩
    · rw [← hkey']
      exact ⟨(h.owned e' he').1, hwritten _ (h.owned e' he').2⟩

/-- The addresses of a request, one after another -/
theorem AddressInv.framedAll {ips : List FramedIp} (h : AddressInv hash p latest)
    (hlive : p.live sid = true) (hok : ReportableAll hash sid p ips) :
    AddressInv hash (framedAll hash sid p ips) (report sid latest ips) ∧
      (Pcrf.framedAll hash sid p ips).live = p.live := by
  induction ips generalizing p latest with
  | nil => exact ⟨h, rfl⟩
  | cons ip ips ih => exact ih (h.framedIp hlive hok.1) hlive hok.2

/-! ## A session ends -/

theorem ite_update_eq_some {f : FramedIp → Option CString} {b : Prop} [Decidable b]
    {ip' : FramedIp} :
    (if b then Function.update f ip none else f) ip' = some sid ↔
      f ip' = some sid ∧ ¬(b ∧ ip' = ip) := by
  by_cases hb : b
  · by_cases heq : ip' = ip
    · simp [hb, heq]
    · simp [hb, heq]
  · simp [hb]

/-- The table without the address of one family -/
theorem dropIp_spec {f : FramedIp → Option CString} (family : IpFamily)
    (hfinds : Finds (keyAt p.mem) hash p.ipHash f)
    (hactive : ∀ e ∈ p.ipHash, e.key = (sid, family) →
      e.Active (keyAt p.mem) hash ∧ (p.mem sid).present family = true) :
    ∃ t, dropIp hash sid p family = { p with ipHash := t } ∧ (∀ e ∈ t, e ∈ p.ipHash) ∧
      (∀ e ∈ t, e.key ≠ (sid, family)) ∧
      Finds (keyAt p.mem) hash t (if (p.mem sid).present family = true then
        Function.update f (keyAt p.mem (sid, family)) none else f) := by
  rw [dropIp]
  split
  · have hunset := KeyTable.isUnset (keyAt p.mem) hash p.ipHash (keyAt p.mem (sid, family))
    refine ⟨_, rfl, fun e he => KeyTable.mem_of_isUnset hunset he, ?_, hfinds.unset hunset⟩
    intro e he hplace
    obtain ⟨hact, -⟩ := hactive e (KeyTable.mem_of_isUnset hunset he) hplace
    apply KeyTable.not_matches_of_isUnset hfinds.unique hunset he
    rw [← hplace]
    exact hact.matches
  · rename_i habsent
    refine ⟨p.ipHash, rfl, fun _ h => h, ?_, hfinds⟩
    intro e he hplace
    exact habsent (hactive e he hplace).2

theorem AddressInv.cleanup (h : AddressInv hash p latest) (hok : Endable hash p sid) :
    AddressInv hash (addressCleanup hash p sid) latest := by
  have hactive (family : IpFamily) (e : KeyTable.Entry η IpPlace CString) (he : e ∈ p.ipHash)
      (hplace : e.key = (sid, family)) :
      e.Active (keyAt p.mem) hash ∧ (p.mem sid).present family = true := by
    have hpresent := (h.owned e he).2
    rw [hplace] at hpresent
    exact ⟨(hok family hpresent).2 e he hplace, hpresent⟩
  obtain ⟨t₄, heq₄, hsub₄, hgone₄, hfinds₄⟩ := dropIp_spec .ipv4 h.finds (hactive .ipv4)
  obtain ⟨t₆, heq₆, hsub₆, hgone₆, hfinds₆⟩ := @dropIp_spec _ _ _ hash { p with ipHash := t₄ } sid _
    .ipv6 hfinds₄ fun e he => hactive .ipv6 e (hsub₄ e he)
  have hcleanup : addressCleanup hash p sid =
      ⟨p.mem, Function.update p.live sid false, t₆⟩ := by
    rw [addressCleanup, heq₄, heq₆]
  -- an address of the session leads to it, if to any session
  have hmine (family : IpFamily) (sid' : CString) (hpresent : (p.mem sid).present family = true)
      (hheld : heldBy p latest (keyAt p.mem (sid, family)) = some sid') : sid' = sid := by
    apply (hok family hpresent).1
    rw [sessFindByIp, h.finds.get_eq (KeyTable.isGet ..), hheld]
  rw [hcleanup]
  constructor
  · convert hfinds₆ using 1
    funext ip
    ext sid'
    rw [ite_update_eq_some, ite_update_eq_some, heldBy_eq_some]
    constructor
    · rintro ⟨hlatest, hlive, hpresent, haddr⟩
      have hne : sid' ≠ sid := by
        rintro rfl
        simp at hlive
      have hheld : heldBy p latest ip = some sid' := by
        apply heldBy_eq_some.mpr
        exact ⟨hlatest, by simpa only [Function.update_of_ne hne] using hlive, hpresent, haddr⟩
      refine ⟨⟨hheld, ?_⟩, ?_⟩
      · rintro ⟨hpresent₄, rfl⟩
        exact hne (hmine .ipv4 sid' hpresent₄ hheld)
      · rintro ⟨hpresent₆, rfl⟩
        exact hne (hmine .ipv6 sid' hpresent₆ hheld)
    · rintro ⟨⟨hheld, hnot₄⟩, hnot₆⟩
      obtain ⟨hlatest, hlive, hpresent, haddr⟩ := heldBy_eq_some.mp hheld
      refine ⟨hlatest, ?_, hpresent, haddr⟩
      have hne : sid' ≠ sid := by
        rintro rfl
        have hkey : ip = keyAt p.mem (sid', ip.1) := by rw [keyAt, haddr]
        cases hfamily : ip.1 with
        | ipv4 =>
          rw [hfamily] at hkey hpresent
          exact hnot₄ ⟨hpresent, hkey⟩
        | ipv6 =>
          rw [hfamily] at hkey hpresent
          exact hnot₆ ⟨hpresent, hkey⟩
      simpa only [Function.update_of_ne hne] using hlive
  · intro e he
    have hne : e.key.1 ≠ sid := by
      intro heq
      cases hfamily : e.key.2 with
      | ipv4 => exact hgone₄ e (hsub₆ e he) (Prod.ext heq hfamily)
      | ipv6 => exact hgone₆ e he (Prod.ext heq hfamily)
    have howned := h.owned e (hsub₄ e (hsub₆ e he))
    simp only [Function.update_of_ne hne]
    exact howned

/-! ## One step -/

theorem AddressInv.addressCb (h : AddressInv hash p latest) {event : AddressEvent}
    (hok : AddressAllowed hash p event) :
    AddressInv hash (addressCb hash p event) (reported p latest event) := by
  cases event with
  | ccrInitial sid ipv4 ipv6 =>
    have hnew : ∃ p', (if p.live sid then p else newAddress p sid) = p' ∧ p'.live sid = true ∧
        AddressInv hash p' latest := by
      cases hlive : p.live sid with
      | true => exact ⟨p, rfl, hlive, h⟩
      | false =>
        exact ⟨newAddress p sid, rfl, Function.update_self _ _ _,
          h.replace hlive _ true fun _ _ => rfl⟩
    obtain ⟨p', hp', hlive, hinv⟩ := hnew
    simp only [AddressAllowed, Pcrf.addressCb, hp', reported] at hok ⊢
    exact (hinv.framedAll hlive hok).1
  | ccrUpdate sid ipv4 ipv6 =>
    simp only [Pcrf.addressCb, reported]
    split
    · rename_i hlive
      exact (h.framedAll hlive (hok hlive)).1
    · exact h
  | ccrTerminate sid ipv4 ipv6 =>
    simp only [Pcrf.addressCb, reported]
    split
    · rename_i hlive
      obtain ⟨hreport, hend⟩ := hok hlive
      exact (h.framedAll hlive hreport).1.cleanup hend
    · exact h
  | cleanup sid =>
    simp only [Pcrf.addressCb, reported]
    split
    · rename_i hlive
      exact h.cleanup (hok hlive)
    · exact h
  | reuse sid other =>
    simp only [Pcrf.addressCb, reported]
    split
    · exact h
    · rename_i hlive
      have hlive : p.live sid = false := by simpa using hlive
      have hsame : Function.update p.live sid false = p.live :=
        Function.update_eq_self_iff.mpr hlive.symm
      have hreplace := h.replace hlive other false nofun
      rwa [hsame] at hreplace

/-! ## The other sessions -/

/-- A session is the same in two states. -/
def SameState (p p' : AddressContext η) (sid : CString) : Prop :=
  p'.live sid = p.live sid ∧ p'.mem sid = p.mem sid

theorem framedAll_same (hne : sid' ≠ sid) (p : AddressContext η) (ips : List FramedIp) :
    SameState p (framedAll hash sid p ips) sid' := by
  induction ips generalizing p with
  | nil => exact ⟨rfl, rfl⟩
  | cons ip ips ih =>
    obtain ⟨hlive, hmem⟩ := ih (framedIp hash sid p ip)
    exact ⟨hlive, hmem.trans (Function.update_of_ne hne _ _)⟩

theorem dropIp_same (p : AddressContext η) (family : IpFamily) :
    SameState p (dropIp hash sid p family) sid' := by
  rw [dropIp]
  split
  · exact ⟨rfl, rfl⟩
  · exact ⟨rfl, rfl⟩

theorem addressCleanup_same (hne : sid' ≠ sid) (p : AddressContext η) :
    SameState p (addressCleanup hash p sid) sid' := by
  obtain ⟨hlive₄, hmem₄⟩ := @dropIp_same _ _ _ hash sid sid' p .ipv4
  obtain ⟨hlive₆, hmem₆⟩ := @dropIp_same _ _ _ hash sid sid' (dropIp hash sid p .ipv4) .ipv6
  exact ⟨(Function.update_of_ne hne _ _).trans (hlive₆.trans hlive₄), hmem₆.trans hmem₄⟩

/-- The session of an event -/
def eventSid : AddressEvent → CString
  | .ccrInitial sid _ _ | .ccrUpdate sid _ _ | .ccrTerminate sid _ _ | .cleanup sid
  | .reuse sid _ => sid

theorem addressCb_same {event : AddressEvent} (hne : sid' ≠ eventSid event) :
    SameState p (addressCb hash p event) sid' := by
  cases event with
  | ccrInitial sid ipv4 ipv6 =>
    rw [addressCb]
    split
    · exact framedAll_same hne p _
    · obtain ⟨hlive, hmem⟩ := @framedAll_same _ _ _ hash sid sid' hne (newAddress p sid)
        (framedIps ipv4 ipv6)
      exact ⟨hlive.trans (Function.update_of_ne hne _ _),
        hmem.trans (Function.update_of_ne hne _ _)⟩
  | ccrUpdate sid ipv4 ipv6 =>
    rw [addressCb]
    split
    · exact framedAll_same hne p _
    · exact ⟨rfl, rfl⟩
  | ccrTerminate sid ipv4 ipv6 =>
    rw [addressCb]
    split
    · obtain ⟨hlive, hmem⟩ := @framedAll_same _ _ _ hash sid sid' hne p (framedIps ipv4 ipv6)
      obtain ⟨hlive', hmem'⟩ := @addressCleanup_same _ _ _ hash sid sid' hne
        (framedAll hash sid p (framedIps ipv4 ipv6))
      exact ⟨hlive'.trans hlive, hmem'.trans hmem⟩
    · exact ⟨rfl, rfl⟩
  | cleanup sid =>
    rw [addressCb]
    split
    · exact addressCleanup_same hne p
    · exact ⟨rfl, rfl⟩
  | reuse sid other =>
    rw [addressCb]
    split
    · exact ⟨rfl, rfl⟩
    · exact ⟨rfl, Function.update_of_ne hne _ _⟩

end

/-! ## Runs -/

section
variable [DecidableEq η] [KeyTable.HashTable η] {hash : FramedIp → η}

def AddressStep (hash : FramedIp → η) (s : AddressRun η) (event : AddressEvent)
    (t : AddressRun η) : Prop :=
  t = addressNext hash s event

/-- The condition on a state and on what happens to it -/
def AddressGuard (hash : FramedIp → η) (s : AddressRun η) (event : AddressEvent) : Prop :=
  AddressAllowed hash s.context event

/-- A session that ends takes no address from another one. -/
def KeepsOthers (hash : FramedIp → η) (s t : AddressRun η) : Prop :=
  ∀ sid sid' ip, s.context.live sid = true → t.context.live sid = false → sid' ≠ sid →
    sessFindByIp hash s.context ip = some sid' → t.latest ip = some sid' →
    sessFindByIp hash t.context ip = some sid'

omit [KeyTable.HashTable η] in
theorem addressStart_inv (mem : CString → GxAddress) :
    AddressInv hash (addressStart η mem).context (addressStart η mem).latest := by
  constructor
  · have hnone : heldBy (addressStart η mem).context (addressStart η mem).latest =
        fun _ => none := rfl
    rw [hnone]
    exact Finds.nil
  · simp [addressStart]

theorem addressStep_inv {s t : AddressRun η} {event : AddressEvent}
    (h : AddressInv hash s.context s.latest)
    (hstep : Lts.Restrict (AddressGuard hash) (AddressStep hash) s event t) :
    AddressInv hash t.context t.latest := by
  obtain ⟨hguard, rfl⟩ := hstep
  exact h.addressCb hguard

theorem addressStep_keeps {s t : AddressRun η} {event : AddressEvent}
    (h : AddressInv hash s.context s.latest)
    (hstep : Lts.Restrict (AddressGuard hash) (AddressStep hash) s event t) :
    KeepsOthers hash s t := by
  have hinv := addressStep_inv h hstep
  obtain ⟨-, rfl⟩ := hstep
  intro sid sid' ip hlive hended hne hfind hlatest
  apply (hinv.findsLatest ip sid').mpr
  refine ⟨hlatest, ?_⟩
  have hevent : sid = eventSid event := by
    by_contra hother
    have hsame := (@addressCb_same _ _ _ hash s.context sid event hother).1
    cases hlive.symm.trans (hsame.symm.trans hended)
  obtain ⟨hlive', hmem'⟩ := @addressCb_same _ _ _ hash s.context sid' event (hevent ▸ hne)
  obtain ⟨-, hholds⟩ := (h.findsLatest ip sid').mp hfind
  simp only [HoldsIp, addressNext, hlive', hmem']
  exact hholds

end

/-! ## Two sessions -/

def firstSid : CString := CString.copy [49]
def secondSid : CString := CString.copy [50]

/-- 10.45.0.2 and 10.45.0.3 -/
def pool2 : Bytes := [10, 45, 0, 2]
def pool3 : Bytes := [10, 45, 0, 3]

/-- Nothing is in the memory of sessions that never were. -/
def noMemory : CString → GxAddress := fun _ => ⟨fun _ => [], fun _ => false⟩

instance : KeyTable.HashTable FramedIp := .first FramedIp

/-- The run that some events lead to -/
def addressTrace (s : AddressRun FramedIp) :
    List AddressEvent → List (AddressEvent × AddressRun FramedIp)
  | [] => []
  | event :: events =>
    (event, addressNext id s event) :: addressTrace (addressNext id s event) events

theorem trace_addressTrace (s : AddressRun FramedIp) (events : List AddressEvent) :
    Lts.Trace (AddressStep id) s (addressTrace s events) := by
  induction events generalizing s with
  | nil => exact .nil s
  | cons event events ih => exact .cons rfl (ih _)

end Pcrf

open Pcrf

/-- In every run whose steps meet the condition, an address leads to the live session that was the
last one to report it, if that has it still, and ending a session takes no address from another
one. -/
theorem sessFindByIp_iff_latest {η : Type} [DecidableEq η] [KeyTable.HashTable η]
    (hash : FramedIp → η) (mem : CString → GxAddress) (trace : List (AddressEvent × AddressRun η))
    (hrun : Lts.Trace (Lts.Restrict (AddressGuard hash) (AddressStep hash))
      (addressStart η mem) trace) :
    (∀ step ∈ trace, FindsLatest hash step.2) ∧
      List.IsChain (KeepsOthers hash) (addressStart η mem :: trace.map Prod.snd) := by
  constructor
  · intro step hstep
    apply AddressInv.findsLatest
    exact hrun.invariant (I := fun s => AddressInv hash s.context s.latest)
      (fun _ _ _ hs hst => addressStep_inv hs hst) (addressStart_inv mem) step hstep
  · exact hrun.isChain (I := fun s => AddressInv hash s.context s.latest)
      (fun _ _ _ hs hst => ⟨addressStep_inv hs hst, addressStep_keeps hs hst⟩)
      (addressStart_inv mem)

/-- One session moves to another address and one comes to an end. -/
theorem sessFindByIp_iff_latest_moved :
    ∃ trace : List (AddressEvent × AddressRun FramedIp), trace.length = 4 ∧
      Lts.Trace (Lts.Restrict (AddressGuard id) (AddressStep id))
        (addressStart FramedIp noMemory) trace ∧
      (∀ step ∈ trace, FindsLatest id step.2) ∧
      List.IsChain (KeepsOthers id) (addressStart FramedIp noMemory :: trace.map Prod.snd) := by
  have hrun : ∃ trace : List (AddressEvent × AddressRun FramedIp), trace.length = 4 ∧
      Lts.Trace (Lts.Restrict (AddressGuard id) (AddressStep id))
        (addressStart FramedIp noMemory) trace := by
    refine ⟨_, ?_, .cons (a := .ccrInitial firstSid (some pool2) none) ⟨?_, rfl⟩
      (.cons (a := .ccrUpdate firstSid (some pool3) none) ⟨?_, rfl⟩
      (.cons (a := .ccrInitial secondSid (some pool2) none) ⟨?_, rfl⟩
      (.cons (a := .ccrTerminate secondSid none none) ⟨?_, rfl⟩ (.nil _))))⟩
    · rfl
    · exact ⟨fun h => absurd h (by decide), trivial⟩
    · rintro -
      refine ⟨fun _ _ => ⟨?_, ?_⟩, trivial⟩
      · decide
      · decide
    · exact ⟨fun h => absurd h (by decide), trivial⟩
    · rintro -
      refine ⟨trivial, ?_⟩
      intro family hpresent
      cases family with
      | ipv4 =>
        refine ⟨?_, by decide⟩
        rintro _ ⟨⟩
        rfl
      | ipv6 => cases hpresent
  obtain ⟨trace, hlength, hrun⟩ := hrun
  exact ⟨trace, hlength, hrun, sessFindByIp_iff_latest id noMemory trace hrun⟩

/-- A second session reports the address of a first one, and loses it when the first one ends. -/
theorem sessFindByIp_taken :
    Lts.Trace (AddressStep id) (addressStart FramedIp noMemory)
      (addressTrace (addressStart FramedIp noMemory)
        [.ccrInitial firstSid (some pool2) none, .ccrInitial secondSid (some pool2) none,
          .ccrTerminate firstSid none none]) ∧
    ¬∀ step ∈ addressTrace (addressStart FramedIp noMemory)
        [.ccrInitial firstSid (some pool2) none, .ccrInitial secondSid (some pool2) none,
          .ccrTerminate firstSid none none], FindsLatest id step.2 := by
  refine ⟨trace_addressTrace _ _, ?_⟩
  intro h
  have hfind := (h _ (List.mem_cons_of_mem _ (List.mem_cons_of_mem _ List.mem_cons_self))
    (.ipv4, pool2) secondSid).mpr (by decide)
  revert hfind
  decide

end NextEpc
