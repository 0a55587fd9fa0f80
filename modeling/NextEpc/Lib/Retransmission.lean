import NextEpc.Lib.Trace

/-!
# Retransmission

A message that is sent again each time a timer expires, up to a number of times. `procedures`
counts what makes a first transmission possible, `sent` all transmissions and `retries` those of
the procedure that is going on; `armed` says that the timer may still expire. A timer may be
stopped and started in any order with what else goes on: however that is, no more is sent than
one message for each procedure and its retries.
-/

structure Retransmission where
  procedures : Nat
  sent : Nat
  retries : Nat
  armed : Bool
  deriving DecidableEq, Repr

namespace Retransmission

/-- Nothing has been sent yet. -/
def initial (max : Nat) : Retransmission := ⟨0, 0, max, false⟩

inductive Step (max : Nat) : Retransmission → Unit → Retransmission → Prop
  /-- A new procedure sends at most one message. -/
  | procedure {s : Retransmission} {n : Nat} {armed : Bool} (hn : n ≤ 1) :
      Step max s () ⟨s.procedures + 1, s.sent + n, 0, armed⟩
  /-- The timer has expired. -/
  | again {s : Retransmission} (harmed : s.armed = true) (hretries : s.retries < max) :
      Step max s () ⟨s.procedures, s.sent + 1, s.retries + 1, true⟩
  /-- The procedure goes on without a transmission, or it ends. -/
  | rest {s : Retransmission} {retries : Nat} {armed : Bool} (hretries : s.retries ≤ retries)
      (harmed : armed = true → s.armed = true) :
      Step max s () ⟨s.procedures, s.sent, retries, armed⟩

/-- What is sent and what may still be sent is paid for by the procedures. -/
structure Paid (max : Nat) (s : Retransmission) : Prop where
  idle : s.procedures = 0 → s.armed = false ∧ s.sent = 0
  bound : 0 < s.procedures → s.sent + (max - s.retries) ≤ (max + 1) * s.procedures

variable {max : Nat} {s t : Retransmission} {u : Unit}

theorem paid_initial : (initial max).Paid max where
  idle _ := ⟨rfl, rfl⟩
  bound h := absurd h (lt_irrefl 0)

theorem Paid.sent_le (h : s.Paid max) : s.sent ≤ (max + 1) * s.procedures := by
  cases hprocedures : s.procedures with
  | zero =>
    rw [(h.idle hprocedures).2]
    exact Nat.zero_le _
  | succ n =>
    have hbound := h.bound (by omega)
    rw [← hprocedures]
    omega

theorem Paid.step (h : s.Paid max) (hstep : Step max s u t) : t.Paid max := by
  cases hstep with
  | procedure hn =>
    have hle := h.sent_le
    constructor
    · intro hzero
      exact absurd hzero (Nat.succ_ne_zero _)
    · intro _
      have hmul : (max + 1) * (s.procedures + 1) = (max + 1) * s.procedures + (max + 1) := by ring
      simp only [hmul]
      omega
  | again harmed hretries =>
    have hpos : 0 < s.procedures := by
      by_contra hzero
      have hidle := h.idle (by omega)
      rw [harmed] at hidle
      cases hidle.1
    have hbound := h.bound hpos
    constructor
    · intro hzero
      exact absurd hzero hpos.ne'
    · intro _
      simp only
      omega
  | rest hretries harmed =>
    constructor
    · intro hzero
      obtain ⟨hidle, hsent⟩ := h.idle hzero
      refine ⟨?_, hsent⟩
      cases harm : ‹Bool› with
      | false => rfl
      | true =>
        rw [harmed harm] at hidle
        cases hidle
    · intro hpos
      have hbound := h.bound hpos
      simp only
      omega

/-- In every run, each procedure pays for one message and `max` retries. -/
theorem sent_le_of_reaches (h : Lts.Reaches (Step max) (initial max) s) :
    s.sent ≤ (max + 1) * s.procedures :=
  (h.invariant (I := Paid max) (fun _ _ _ hs hstep => hs.step hstep) paid_initial).sent_le

end Retransmission
