import NextEpc.Pcrf.AarAccepted
import NextEpc.Pcrf.Sessions

/-!
# The books of the PCRF

What the list of a Gx session should hold, and what keeps it so: an Rx session is entered and
bound, taken out and ended or aborted. Which states are alive is a relation here, whatever holds
them.
-/

namespace NextEpc

namespace Pcrf
open Custody (Replaced)

variable {maxNumOfFlow : Nat}

/-- The identities of the Rx sessions in the list. -/
def sids (gx : GxSess maxNumOfFlow) : List CString := gx.rxList.map (·.sid)

/-- An Rx session that is bound to a Gx session and not aborted. -/
def BoundTo (rx : CString → RxSess → Prop) (gxSid sid : CString) : Prop :=
  ∃ state, rx sid state ∧ state.gxSid = some gxSid ∧ state.aborted = false

/-- The list of every Gx session has exactly one entry for each Rx session bound to it, and no
other one. An Rx session that is bound has its Gx session. -/
structure Booked (gx : CString → GxSess maxNumOfFlow → Prop) (rx : CString → RxSess → Prop) :
    Prop where
  nodup : ∀ gxSid state, gx gxSid state → (sids state).Nodup
  entry : ∀ gxSid state sid, gx gxSid state → (sid ∈ sids state ↔ BoundTo rx gxSid sid)
  ended : ∀ gxSid sid, BoundTo rx gxSid sid → ∃ state, gx gxSid state

/-- What handlers need of the states. -/
structure Sound (gx : CString → GxSess maxNumOfFlow → Prop) (rx : CString → RxSess → Prop) :
    Prop extends Booked gx rx where
  gxHost : ∀ gxSid state, gx gxSid state → state.peerHost.isSome
  single : ∀ gxSid state, gx gxSid state → ∀ entry ∈ state.rxList, Single entry.pccRule
  rxHost : ∀ sid state, rx sid state → state.gxSid.isSome ∧ state.peerHost.isSome

section
variable {gx : CString → GxSess maxNumOfFlow → Prop} {rx : CString → RxSess → Prop}
  {gxSid sid : CString} {g g' : GxSess maxNumOfFlow} {state : RxSess} {o : Option RxSess}

theorem boundTo_replaced_self :
    BoundTo (Replaced rx sid o) gxSid sid ↔
      ∃ state, o = some state ∧ state.gxSid = some gxSid ∧ state.aborted = false := by
  simp [BoundTo, Replaced]

theorem boundTo_replaced_of_ne {sid' : CString} (h : sid' ≠ sid) :
    BoundTo (Replaced rx sid o) gxSid sid' ↔ BoundTo rx gxSid sid' := by
  simp [BoundTo, Replaced, h]

/-- Members of a Gx session other than its list. -/
theorem Sound.updateGx (h : Sound gx rx) (hg : gx gxSid g) (hlist : g'.rxList = g.rxList)
    (hhost : g'.peerHost.isSome) : Sound (Replaced gx gxSid (some g')) rx := by
  have hsids : sids g' = sids g := by rw [sids, hlist, sids]
  constructor
  · constructor
    · rintro gxSid' state (⟨rfl, hstate⟩ | ⟨hne, hstate⟩)
      · cases hstate
        rw [hsids]
        exact h.nodup _ _ hg
      · exact h.nodup _ _ hstate
    · rintro gxSid' state sid (⟨rfl, hstate⟩ | ⟨hne, hstate⟩)
      · cases hstate
        rw [hsids]
        exact h.entry _ _ _ hg
      · exact h.entry _ _ _ hstate
    · intro gxSid' sid hbound
      by_cases heq : gxSid' = gxSid
      · exact ⟨g', Or.inl ⟨heq, rfl⟩⟩
      · obtain ⟨state, hstate⟩ := h.ended _ _ hbound
        exact ⟨state, Or.inr ⟨heq, hstate⟩⟩
  · rintro gxSid' state (⟨rfl, hstate⟩ | ⟨hne, hstate⟩)
    · cases hstate
      exact hhost
    · exact h.gxHost _ _ hstate
  · rintro gxSid' state (⟨rfl, hstate⟩ | ⟨hne, hstate⟩)
    · cases hstate
      rw [hlist]
      exact h.single _ _ hg
    · exact h.single _ _ hstate
  · exact h.rxHost

/-- A Gx session without Rx sessions ends. -/
theorem Sound.dropGx (h : Sound gx rx) (hg : gx gxSid g) (hlist : g.rxList = []) :
    Sound (Replaced gx gxSid none) rx := by
  constructor
  · constructor
    · rintro gxSid' state (⟨-, hstate⟩ | ⟨-, hstate⟩)
      · cases hstate
      · exact h.nodup _ _ hstate
    · rintro gxSid' state sid (⟨-, hstate⟩ | ⟨-, hstate⟩)
      · cases hstate
      · exact h.entry _ _ _ hstate
    · intro gxSid' sid hbound
      obtain ⟨state, hstate⟩ := h.ended _ _ hbound
      refine ⟨state, Or.inr ⟨?_, hstate⟩⟩
      rintro rfl
      have hmem := (h.entry _ _ _ hg).mpr hbound
      rw [sids, hlist] at hmem
      cases hmem
  · rintro gxSid' state (⟨-, hstate⟩ | ⟨-, hstate⟩)
    · cases hstate
    · exact h.gxHost _ _ hstate
  · rintro gxSid' state (⟨-, hstate⟩ | ⟨-, hstate⟩)
    · cases hstate
    · exact h.single _ _ hstate
  · exact h.rxHost

/-- An Rx session that is aborted, or is not there, ends. -/
theorem Sound.dropRx (h : Sound gx rx) (haborted : ∀ state, rx sid state → state.aborted = true) :
    Sound gx (Replaced rx sid none) := by
  have hbound (gxSid sid' : CString) :
      BoundTo (Replaced rx sid none) gxSid sid' ↔ BoundTo rx gxSid sid' := by
    by_cases heq : sid' = sid
    · subst heq
      rw [boundTo_replaced_self]
      apply iff_of_false
      · rintro ⟨state, hnone, -⟩
        cases hnone
      · rintro ⟨state, hstate, -, hopen⟩
        rw [haborted state hstate] at hopen
        cases hopen
    · exact boundTo_replaced_of_ne heq
  constructor
  · constructor
    · exact h.nodup
    · intro gxSid' state sid' hstate
      rw [hbound]
      exact h.entry _ _ _ hstate
    · intro gxSid' sid' hb
      exact h.ended _ _ ((hbound _ _).mp hb)
  · exact h.gxHost
  · exact h.single
  · rintro sid' state (⟨-, hnone⟩ | ⟨-, hstate⟩)
    · cases hnone
    · exact h.rxHost _ _ hstate

/-- A Gx session and one Rx session change together. The Rx session belongs to no other Gx session
before and after. -/
theorem Sound.replace (h : Sound gx rx) (hnodup : (sids g').Nodup) (hg : gx gxSid g)
    (hsame : ∀ sid', sid' ≠ sid → (sid' ∈ sids g' ↔ sid' ∈ sids g))
    (hentry : sid ∈ sids g' ↔
      ∃ state, o = some state ∧ state.gxSid = some gxSid ∧ state.aborted = false)
    (hbefore : ∀ gxSid', gxSid' ≠ gxSid → ¬BoundTo rx gxSid' sid)
    (hafter : ∀ gxSid', gxSid' ≠ gxSid →
      ¬∃ state, o = some state ∧ state.gxSid = some gxSid' ∧ state.aborted = false)
    (hhost : g'.peerHost.isSome) (hsingle : ∀ entry ∈ g'.rxList, Single entry.pccRule)
    (ho : ∀ state, o = some state → state.gxSid.isSome ∧ state.peerHost.isSome) :
    Sound (Replaced gx gxSid (some g')) (Replaced rx sid o) := by
  constructor
  · constructor
    · rintro gxSid' state (⟨-, hstate⟩ | ⟨-, hstate⟩)
      · cases hstate
        exact hnodup
      · exact h.nodup _ _ hstate
    · rintro gxSid' state sid' (⟨rfl, hstate⟩ | ⟨hne, hstate⟩)
      · cases hstate
        by_cases heq : sid' = sid
        · rw [heq, hentry, boundTo_replaced_self]
        · rw [hsame sid' heq, boundTo_replaced_of_ne heq]
          exact h.entry _ _ _ hg
      · by_cases heq : sid' = sid
        · rw [heq, boundTo_replaced_self, h.entry _ _ _ hstate]
          exact iff_of_false (hbefore gxSid' hne) (hafter gxSid' hne)
        · rw [boundTo_replaced_of_ne heq]
          exact h.entry _ _ _ hstate
    · intro gxSid' sid' hbound
      by_cases heq : gxSid' = gxSid
      · exact ⟨g', Or.inl ⟨heq, rfl⟩⟩
      · have hbound' : BoundTo rx gxSid' sid' := by
          by_cases hsid : sid' = sid
          · rw [hsid, boundTo_replaced_self] at hbound
            exact absurd hbound (hafter gxSid' heq)
          · exact (boundTo_replaced_of_ne hsid).mp hbound
        obtain ⟨state, hstate⟩ := h.ended _ _ hbound'
        exact ⟨state, Or.inr ⟨heq, hstate⟩⟩
  · rintro gxSid' state (⟨-, hstate⟩ | ⟨-, hstate⟩)
    · cases hstate
      exact hhost
    · exact h.gxHost _ _ hstate
  · rintro gxSid' state (⟨-, hstate⟩ | ⟨-, hstate⟩)
    · cases hstate
      exact hsingle
    · exact h.single _ _ hstate
  · rintro sid' state (⟨-, hstate⟩ | ⟨-, hstate⟩)
    · exact ho state hstate
    · exact h.rxHost _ _ hstate

/-- An Rx session is entered into the list, unless it is there, and bound. -/
theorem Sound.bind (h : Sound gx rx) (hg : gx gxSid g)
    (hbefore : ∀ state', rx sid state' → state'.gxSid = some gxSid)
    (hstate : state.gxSid = some gxSid ∧ state.aborted = false ∧ state.peerHost.isSome)
    (hsids : sids g' = if sid ∈ sids g then sids g else sids g ++ [sid])
    (hhost : g'.peerHost.isSome) (hsingle : ∀ entry ∈ g'.rxList, Single entry.pccRule) :
    Sound (Replaced gx gxSid (some g')) (Replaced rx sid (some state)) := by
  obtain ⟨hgxSid, hopen, hpeer⟩ := hstate
  have hmem : sid ∈ sids g' := by
    rw [hsids]
    split
    · assumption
    · exact List.mem_append_right _ List.mem_cons_self
  apply h.replace _ hg _ _ _ _ hhost hsingle
  · intro state' hstate'
    cases hstate'
    exact ⟨by rw [hgxSid]; rfl, hpeer⟩
  · rw [hsids]
    split
    · exact h.nodup _ _ hg
    · rename_i hnot
      exact (h.nodup _ _ hg).append (List.nodup_singleton _) (by simpa using hnot)
  · intro sid' hne
    rw [hsids]
    split
    · exact Iff.rfl
    · simp [hne]
  · exact iff_of_true hmem ⟨state, rfl, hgxSid, hopen⟩
  · rintro gxSid' hne ⟨state', hstate', hgxSid', -⟩
    exact hne (Option.some.inj (hgxSid'.symm.trans (hbefore state' hstate')))
  · rintro gxSid' hne ⟨state', hstate', hgxSid', -⟩
    cases hstate'
    exact hne (Option.some.inj (hgxSid'.symm.trans hgxSid))

/-- An Rx session is taken out of the list, and ends or is aborted. -/
theorem Sound.unbind (h : Sound gx rx) (hg : gx gxSid g)
    (hbefore : ∀ state', rx sid state' → state'.gxSid = some gxSid)
    (ho : ∀ state', o = some state' →
      state'.aborted = true ∧ state'.gxSid.isSome ∧ state'.peerHost.isSome)
    (hsids : sids g' = (sids g).erase sid) (hhost : g'.peerHost.isSome)
    (hsingle : ∀ entry ∈ g'.rxList, Single entry.pccRule) :
    Sound (Replaced gx gxSid (some g')) (Replaced rx sid o) := by
  have hended (gxSid' : CString) :
      ¬∃ state, o = some state ∧ state.gxSid = some gxSid' ∧ state.aborted = false := by
    rintro ⟨state', hstate', -, hopen⟩
    rw [(ho state' hstate').1] at hopen
    cases hopen
  have hnodup := h.nodup _ _ hg
  apply h.replace _ hg _ _ _ (fun gxSid' _ => hended gxSid') hhost hsingle
    (fun state' hstate' => (ho state' hstate').2)
  · rw [hsids]
    exact hnodup.erase sid
  · intro sid' hne
    rw [hsids, List.mem_erase_of_ne hne]
  · rw [hsids]
    exact iff_of_false hnodup.not_mem_erase (hended gxSid)
  · rintro gxSid' hne ⟨state', hstate', hgxSid', -⟩
    exact hne (Option.some.inj (hgxSid'.symm.trans (hbefore state' hstate')))

end

end Pcrf

end NextEpc
