import NextEpc.Lib.Incarnation
import NextEpc.Lib.Trace

/-!
# Contexts in the event queue

The events of the MME point to the contexts that they are about. An event is processed after those
that were queued before it, and these may remove contexts: the timers of a context are deleted
with it, but its events stay.
-/

namespace NextEpc

/-- A context, by its index in the pool of its kind. -/
inductive MmePtr
  | enb (n : Nat)
  | enbUe (n : Nat)
  | mmeUe (n : Nat)
  | sess (n : Nat)
  | bearer (n : Nat)
  deriving DecidableEq

/-- `mme_timer_e`, as far as the timer belongs to a context -/
inductive MmeTimerE
  | ueContextRelease
  | t3413
  | t3422
  | t3450
  | t3460
  | t3470
  | t3489
  deriving DecidableEq

/-- The context that has a timer, and that is the data of its callback. -/
def MmeTimerE.context : MmeTimerE → Nat → MmePtr
  | .ueContextRelease => .enbUe
  | .t3489 => .bearer
  | .t3413 | .t3422 | .t3450 | .t3460 | .t3470 => .mmeUe

/-- `mme_event_e` -/
inductive MmeEventId
  | s1apMessage
  | s1apTimer
  | s1apLoAccept
  | s1apLoSctpCommUp
  | s1apLoConnrefused
  | emmMessage
  | emmTimer
  | esmMessage
  | esmTimer
  | s11Message
  | s6aMessage
  | sgsapMessage
  | sgsapTimer
  | sgsapLoSctpCommUp
  | sgsapLoConnrefused
  deriving DecidableEq

/-- `mme_event_t`, as it is queued -/
structure MmeQueueEvent where
  id : MmeEventId
  enb : Option (Slots.Ref MmePtr)
  enbUe : Option (Slots.Ref MmePtr)
  mmeUe : Option (Slots.Ref MmePtr)
  bearer : Option (Slots.Ref MmePtr)
  deriving DecidableEq

namespace MmeQueueEvent

/-- `mme_event_new` -/
def new (id : MmeEventId) : MmeQueueEvent := ⟨id, none, none, none, none⟩

def contexts (e : MmeQueueEvent) : List (Slots.Ref MmePtr) :=
  e.enb.toList ++ e.enbUe.toList ++ e.mmeUe.toList ++ e.bearer.toList

end MmeQueueEvent

/-- The contexts, and what points to them from outside. -/
structure MmeQueue where
  slots : Slots MmePtr
  /-- `enb_ue->enb`: `enb_ue_list` of an eNB has the connections that point to it. -/
  enbUeEnb : Nat → Nat
  /-- `sess->mme_ue`, with `sess_list` -/
  sessMmeUe : Nat → Nat
  /-- `bearer->sess`, with `bearer_list` -/
  bearerSess : Nat → Nat
  /-- `bearer->mme_ue` -/
  bearerMmeUe : Nat → Nat
  /-- Running timers, with the data of the callback -/
  timers : MmeTimerE → Nat → Option (Slots.Ref MmePtr)
  /-- Events of `s1ap_delayed_send_to_enb_ue` whose timers run -/
  delayed : List MmeQueueEvent
  queue : List MmeQueueEvent

namespace MmeQueue

def initial : MmeQueue where
  slots := Slots.unused
  enbUeEnb := fun _ => 0
  sessMmeUe := fun _ => 0
  bearerSess := fun _ => 0
  bearerMmeUe := fun _ => 0
  timers := fun _ _ => none
  delayed := []
  queue := []

/-! ## Contexts -/

def mmeEnbAdd (s : MmeQueue) (enb : Nat) : MmeQueue := { s with slots := s.slots.alloc (.enb enb) }

def enbUeAdd (s : MmeQueue) (enbUe enb : Nat) : MmeQueue :=
  { s with
    slots := s.slots.alloc (.enbUe enbUe)
    enbUeEnb := Function.update s.enbUeEnb enbUe enb }

def enbUeSwitchToEnb (s : MmeQueue) (enbUe newEnb : Nat) : MmeQueue :=
  { s with enbUeEnb := Function.update s.enbUeEnb enbUe newEnb }

def mmeUeAdd (s : MmeQueue) (mmeUe : Nat) : MmeQueue :=
  { s with slots := s.slots.alloc (.mmeUe mmeUe) }

def mmeBearerAdd (s : MmeQueue) (bearer sess : Nat) : MmeQueue :=
  { s with
    slots := s.slots.alloc (.bearer bearer)
    bearerSess := Function.update s.bearerSess bearer sess
    bearerMmeUe := Function.update s.bearerMmeUe bearer (s.sessMmeUe sess) }

/-- `mme_sess_add`, before it adds the default bearer -/
def sessAlloc (s : MmeQueue) (sess mmeUe : Nat) : MmeQueue :=
  { s with
    slots := s.slots.alloc (.sess sess)
    sessMmeUe := Function.update s.sessMmeUe sess mmeUe }

def mmeSessAdd (s : MmeQueue) (sess mmeUe bearer : Nat) : MmeQueue :=
  (s.sessAlloc sess mmeUe).mmeBearerAdd bearer sess

/-- Contexts are freed, after their timers were deleted. -/
def remove (s : MmeQueue) (gone : MmePtr → Bool) : MmeQueue :=
  { s with
    slots := s.slots.free gone
    timers := fun timer n => if gone (timer.context n) then none else s.timers timer n }

/-- `mme_enb_remove`, with `enb_ue_remove_in_enb` -/
def inEnb (s : MmeQueue) (enb : Nat) : MmePtr → Bool
  | .enb n => n == enb
  | .enbUe n => s.enbUeEnb n == enb
  | _ => false

/-- `mme_sess_remove`, with `mme_bearer_remove_all` -/
def inSess (s : MmeQueue) (sess : Nat) : MmePtr → Bool
  | .sess n => n == sess
  | .bearer n => s.bearerSess n == sess
  | _ => false

/-- `mme_ue_remove`, with `mme_sess_remove_all` -/
def inMmeUe (s : MmeQueue) (mmeUe : Nat) : MmePtr → Bool
  | .mmeUe n => n == mmeUe
  | .sess n => s.sessMmeUe n == mmeUe
  | .bearer n => s.sessMmeUe (s.bearerSess n) == mmeUe
  | _ => false

/-! ## Events -/

/-- `ogs_queue_push`. An event that the queue does not take is freed. -/
def push (s : MmeQueue) (taken : Bool) (e : MmeQueueEvent) : MmeQueue :=
  if taken then { s with queue := s.queue ++ [e] } else s

/-- `s1ap_send_to_nas`, for an EMM message -/
def s1apSendToNas (s : MmeQueue) (enbUe : Nat) (taken : Bool) : MmeQueue :=
  s.push taken { MmeQueueEvent.new .emmMessage with enbUe := some (s.slots.refer (.enbUe enbUe)) }

def s1apSendToEsm (s : MmeQueue) (mmeUe : Nat) (taken : Bool) : MmeQueue :=
  s.push taken { MmeQueueEvent.new .esmMessage with mmeUe := some (s.slots.refer (.mmeUe mmeUe)) }

/-- `mme_s6a_aia_cb` and `mme_s6a_ula_cb` -/
def s6aAnswer (s : MmeQueue) (mmeUe : Nat) (taken : Bool) : MmeQueue :=
  s.push taken { MmeQueueEvent.new .s6aMessage with mmeUe := some (s.slots.refer (.mmeUe mmeUe)) }

/-- The event of an S1 timer -/
def s1apTimerEvent (s : MmeQueue) (enbUe : Nat) : MmeQueueEvent :=
  { MmeQueueEvent.new .s1apTimer with
    enbUe := some (s.slots.refer (.enbUe enbUe))
    enb := some (s.slots.refer (.enb (s.enbUeEnb enbUe))) }

/-- `s1ap_delayed_send_to_enb_ue`, with a duration -/
def s1apDelayedSendToEnbUe (s : MmeQueue) (enbUe : Nat) : MmeQueue :=
  { s with delayed := s.s1apTimerEvent enbUe :: s.delayed }

/-- `mme_timer_s1_delayed_send` -/
def mmeTimerS1DelayedSend (s : MmeQueue) (e : MmeQueueEvent) (taken : Bool) : MmeQueue :=
  { s with delayed := s.delayed.erase e }.push taken e

def s1TimerEventSend (s : MmeQueue) (enbUe : Nat) (taken : Bool) : MmeQueue :=
  s.push taken (s.s1apTimerEvent enbUe)

def emmTimerEventSend (s : MmeQueue) (mmeUe : Nat) (taken : Bool) : MmeQueue :=
  s.push taken { MmeQueueEvent.new .emmTimer with mmeUe := some (s.slots.refer (.mmeUe mmeUe)) }

def esmTimerEventSend (s : MmeQueue) (bearer : Nat) (taken : Bool) : MmeQueue :=
  s.push taken { MmeQueueEvent.new .esmTimer with
    mmeUe := some (s.slots.refer (.mmeUe (s.bearerMmeUe bearer)))
    bearer := some (s.slots.refer (.bearer bearer)) }

def timerStart (s : MmeQueue) (timer : MmeTimerE) (n : Nat) : MmeQueue :=
  { s with
    timers := Function.update s.timers timer
      (Function.update (s.timers timer) n (some (s.slots.refer (timer.context n)))) }

def timerStop (s : MmeQueue) (timer : MmeTimerE) (n : Nat) : MmeQueue :=
  { s with timers := Function.update s.timers timer (Function.update (s.timers timer) n none) }

/-- `mme_timer_ue_context_release`, `mme_timer_t3413_expire` and the others, of a timer that has
run -/
def timerExpire (s : MmeQueue) (timer : MmeTimerE) (n : Nat) (taken : Bool) : MmeQueue :=
  let s := s.timerStop timer n
  match timer with
  | .ueContextRelease => s.s1TimerEventSend n taken
  | .t3489 => s.esmTimerEventSend n taken
  | .t3413 | .t3422 | .t3450 | .t3460 | .t3470 => s.emmTimerEventSend n taken

end MmeQueue

/-! ## Runs -/

/-- What changes contexts, timers and the queue. `message` is an event that points to no context:
from a socket, or for a VLR. `dispatch` takes an event from the queue, and what it does are the
actions up to the next one. -/
inductive MmeAction
  | mmeEnbAdd (enb : Nat)
  | enbUeAdd (enbUe enb : Nat)
  | enbUeSwitchToEnb (enbUe newEnb : Nat)
  | mmeUeAdd (mmeUe : Nat)
  | mmeSessAdd (sess mmeUe bearer : Nat)
  | mmeBearerAdd (bearer sess : Nat)
  | mmeEnbRemove (enb : Nat)
  | enbUeRemove (enbUe : Nat)
  | mmeUeRemove (mmeUe : Nat)
  | mmeSessRemove (sess : Nat)
  | mmeBearerRemove (bearer : Nat)
  | message (id : MmeEventId) (taken : Bool)
  | s1apSendToNas (enbUe : Nat) (taken : Bool)
  | s1apSendToEsm (mmeUe : Nat) (taken : Bool)
  | s6aAnswer (mmeUe : Nat) (taken : Bool)
  | s1apDelayedSendToEnbUe (enbUe : Nat)
  | delayedExpire (e : MmeQueueEvent) (taken : Bool)
  | timerStart (timer : MmeTimerE) (n : Nat)
  | timerStop (timer : MmeTimerE) (n : Nat)
  | timerExpire (timer : MmeTimerE) (n : Nat) (taken : Bool)
  | dispatch

namespace MmeQueue

def exec (s : MmeQueue) : MmeAction → MmeQueue
  | .mmeEnbAdd enb => s.mmeEnbAdd enb
  | .enbUeAdd enbUe enb => s.enbUeAdd enbUe enb
  | .enbUeSwitchToEnb enbUe newEnb => s.enbUeSwitchToEnb enbUe newEnb
  | .mmeUeAdd mmeUe => s.mmeUeAdd mmeUe
  | .mmeSessAdd sess mmeUe bearer => s.mmeSessAdd sess mmeUe bearer
  | .mmeBearerAdd bearer sess => s.mmeBearerAdd bearer sess
  | .mmeEnbRemove enb => s.remove (s.inEnb enb)
  | .enbUeRemove enbUe => s.remove (· == .enbUe enbUe)
  | .mmeUeRemove mmeUe => s.remove (s.inMmeUe mmeUe)
  | .mmeSessRemove sess => s.remove (s.inSess sess)
  | .mmeBearerRemove bearer => s.remove (· == .bearer bearer)
  | .message id taken => s.push taken (MmeQueueEvent.new id)
  | .s1apSendToNas enbUe taken => s.s1apSendToNas enbUe taken
  | .s1apSendToEsm mmeUe taken => s.s1apSendToEsm mmeUe taken
  | .s6aAnswer mmeUe taken => s.s6aAnswer mmeUe taken
  | .s1apDelayedSendToEnbUe enbUe => s.s1apDelayedSendToEnbUe enbUe
  | .delayedExpire e taken => s.mmeTimerS1DelayedSend e taken
  | .timerStart timer n => s.timerStart timer n
  | .timerStop timer n => s.timerStop timer n
  | .timerExpire timer n taken => s.timerExpire timer n taken
  | .dispatch => { s with queue := s.queue.tail }

/-- A pool gives free slots, only timers that run expire, and a queue is not empty when an event
is taken from it. -/
def Admits (s : MmeQueue) : MmeAction → Prop
  | .mmeEnbAdd enb => s.slots.live (.enb enb) = false
  | .enbUeAdd enbUe _ => s.slots.live (.enbUe enbUe) = false
  | .mmeUeAdd mmeUe => s.slots.live (.mmeUe mmeUe) = false
  | .mmeSessAdd sess _ bearer =>
      s.slots.live (.sess sess) = false ∧ s.slots.live (.bearer bearer) = false
  | .mmeBearerAdd bearer _ => s.slots.live (.bearer bearer) = false
  | .delayedExpire e _ => e ∈ s.delayed
  | .timerExpire timer n _ => s.timers timer n ≠ none
  | .dispatch => s.queue ≠ []
  | _ => True

/-- The label is the action and the state that it meets. -/
inductive Step : MmeQueue → MmeAction × MmeQueue → MmeQueue → Prop
  | run {s : MmeQueue} {action : MmeAction} (h : s.Admits action) :
      Step s (action, s) (s.exec action)

/-- The event that is processed, or the callback of a timer, has contexts that are those which
they were when it was made. -/
def Proper (step : (MmeAction × MmeQueue) × MmeQueue) : Prop :=
  match step.1.1 with
  | .dispatch => ∀ e ∈ step.1.2.queue.head?, ∀ r ∈ e.contexts, step.1.2.slots.Valid r
  | .timerExpire timer n _ => ∀ r ∈ step.1.2.timers timer n, step.1.2.slots.Valid r
  | _ => True

/-! ## The condition -/

/-- No event that is to be processed has a context of the set. -/
def Unqueued (s : MmeQueue) (gone : MmePtr → Bool) : Prop :=
  ∀ e ∈ s.queue ++ s.delayed, ∀ r ∈ e.contexts, gone r.slot = false

/-- No context is removed that an event has, and contexts that are given owners, timers or events
are there. -/
def QueueGuard (_ : MmeQueue) (label : MmeAction × MmeQueue) : Prop :=
  let s := label.2
  match label.1 with
  | .mmeEnbRemove enb => s.Unqueued (s.inEnb enb)
  | .enbUeRemove enbUe => s.Unqueued (· == .enbUe enbUe)
  | .mmeUeRemove mmeUe => s.Unqueued (s.inMmeUe mmeUe)
  | .mmeSessRemove sess => s.Unqueued (s.inSess sess)
  | .mmeBearerRemove bearer => s.Unqueued (· == .bearer bearer)
  | .enbUeAdd _ enb | .enbUeSwitchToEnb _ enb => s.slots.live (.enb enb) = true
  | .mmeSessAdd _ mmeUe _ => s.slots.live (.mmeUe mmeUe) = true
  | .mmeBearerAdd _ sess => s.slots.live (.sess sess) = true
  | .s1apSendToNas enbUe _ | .s1apDelayedSendToEnbUe enbUe => s.slots.live (.enbUe enbUe) = true
  | .s1apSendToEsm mmeUe _ | .s6aAnswer mmeUe _ => s.slots.live (.mmeUe mmeUe) = true
  | .timerStart timer n => s.slots.live (timer.context n) = true
  | _ => True

/-! ## The invariant -/

/-- What a context points to as its owner -/
def owner (s : MmeQueue) : MmePtr → Option MmePtr
  | .enbUe n => some (.enb (s.enbUeEnb n))
  | .sess n => some (.mmeUe (s.sessMmeUe n))
  | .bearer n => some (.sess (s.bearerSess n))
  | .enb _ | .mmeUe _ => none

/-- Owners are there, and all that events and timers point to. -/
structure Sound (s : MmeQueue) : Prop where
  owned : s.slots.Closed s.owner
  bearerMmeUe : ∀ n, s.slots.live (.bearer n) = true →
    s.bearerMmeUe n = s.sessMmeUe (s.bearerSess n)
  timers : ∀ timer n r, s.timers timer n = some r →
    r.slot = timer.context n ∧ s.slots.Valid r
  events : ∀ e ∈ s.queue ++ s.delayed, ∀ r ∈ e.contexts, s.slots.Valid r

section
variable {s : MmeQueue} {e : MmeQueueEvent} {timer : MmeTimerE} {n : Nat} {gone : MmePtr → Bool}
  {r : Slots.Ref MmePtr}

theorem initial_sound : initial.Sound where
  owned := fun _ _ h => nomatch h
  bearerMmeUe := fun _ h => nomatch h
  timers := fun _ _ _ h => nomatch h
  events := fun _ h => nomatch h

theorem Sound.push (hs : s.Sound) (taken : Bool) (he : ∀ r ∈ e.contexts, s.slots.Valid r) :
    (s.push taken e).Sound := by
  cases taken with
  | false => exact hs
  | true =>
    refine ⟨hs.owned, hs.bearerMmeUe, hs.timers, ?_⟩
    intro e' he'
    change e' ∈ (s.queue ++ [e]) ++ s.delayed at he'
    rw [List.append_assoc, List.mem_append, List.mem_append, List.mem_singleton] at he'
    rcases he' with hqueue | rfl | hdelayed
    · exact hs.events e' (List.mem_append_left _ hqueue)
    · exact he
    · exact hs.events e' (List.mem_append_right _ hdelayed)

/-- An event about one context -/
theorem Sound.push_one (hs : s.Sound) (taken : Bool) {p : MmePtr} (hlive : s.slots.live p = true)
    (he : e.contexts = [s.slots.refer p]) : (s.push taken e).Sound := by
  apply hs.push taken
  rw [he, List.forall_mem_singleton]
  exact Slots.valid_refer_iff.mpr hlive

theorem contexts_s1apTimerEvent (s : MmeQueue) (enbUe : Nat) : (s.s1apTimerEvent enbUe).contexts =
    [s.slots.refer (.enb (s.enbUeEnb enbUe)), s.slots.refer (.enbUe enbUe)] := rfl

/-- The eNB of a connection is there as long as the connection is. -/
theorem Sound.s1apTimerEvent (hs : s.Sound) (hlive : s.slots.live (.enbUe n) = true) :
    ∀ r ∈ (s.s1apTimerEvent n).contexts, s.slots.Valid r := by
  have henb : s.slots.live (.enb (s.enbUeEnb n)) = true := hs.owned (.enbUe n) _ hlive rfl
  rw [contexts_s1apTimerEvent, List.forall_mem_cons, List.forall_mem_singleton]
  exact ⟨Slots.valid_refer_iff.mpr henb, Slots.valid_refer_iff.mpr hlive⟩

theorem Sound.esmTimerEventSend (hs : s.Sound) (taken : Bool)
    (hlive : s.slots.live (.bearer n) = true) : (s.esmTimerEventSend n taken).Sound := by
  have hsess : s.slots.live (.sess (s.bearerSess n)) = true := hs.owned (.bearer n) _ hlive rfl
  have hmmeUe : s.slots.live (.mmeUe (s.bearerMmeUe n)) = true := by
    rw [hs.bearerMmeUe n hlive]
    exact hs.owned (.sess (s.bearerSess n)) _ hsess rfl
  apply hs.push taken
  change ∀ r ∈ [s.slots.refer (.mmeUe (s.bearerMmeUe n)), s.slots.refer (.bearer n)], _
  rw [List.forall_mem_cons, List.forall_mem_singleton]
  exact ⟨Slots.valid_refer_iff.mpr hmmeUe, Slots.valid_refer_iff.mpr hlive⟩

theorem timerStop_eq_some {timer' : MmeTimerE} {n' : Nat}
    (h : (s.timerStop timer n).timers timer' n' = some r) : s.timers timer' n' = some r := by
  change Function.update s.timers timer (Function.update (s.timers timer) n none) timer' n' = _
    at h
  by_cases htimer : timer' = timer
  · subst htimer
    rw [Function.update_self] at h
    by_cases hn : n' = n
    · subst hn
      rw [Function.update_self] at h
      cases h
    · rwa [Function.update_of_ne hn] at h
  · rwa [Function.update_of_ne htimer] at h

theorem Sound.timerStop (hs : s.Sound) (timer : MmeTimerE) (n : Nat) :
    (s.timerStop timer n).Sound where
  owned := hs.owned
  bearerMmeUe := hs.bearerMmeUe
  timers := fun timer' n' r h => hs.timers timer' n' r (timerStop_eq_some h)
  events := hs.events

theorem Sound.timerStart (hs : s.Sound) (hlive : s.slots.live (timer.context n) = true) :
    (s.timerStart timer n).Sound := by
  refine ⟨hs.owned, hs.bearerMmeUe, ?_, hs.events⟩
  intro timer' n' r h
  change Function.update s.timers timer (Function.update (s.timers timer) n
    (some (s.slots.refer (timer.context n)))) timer' n' = some r at h
  by_cases htimer : timer' = timer
  · subst htimer
    rw [Function.update_self] at h
    by_cases hn : n' = n
    · subst hn
      rw [Function.update_self] at h
      cases h
      exact ⟨rfl, Slots.valid_refer_iff.mpr hlive⟩
    · rw [Function.update_of_ne hn] at h
      exact hs.timers timer' n' r h
  · rw [Function.update_of_ne htimer] at h
    exact hs.timers timer' n' r h

theorem Sound.timerExpire (hs : s.Sound) (taken : Bool) (hrun : s.timers timer n ≠ none) :
    (s.timerExpire timer n taken).Sound := by
  obtain ⟨r, hr⟩ := Option.ne_none_iff_exists'.mp hrun
  obtain ⟨hslot, hvalid⟩ := hs.timers timer n r hr
  have hlive : s.slots.live (timer.context n) = true := hslot ▸ hvalid.1
  have hstop := hs.timerStop timer n
  cases timer with
  | ueContextRelease => exact hstop.push taken (hstop.s1apTimerEvent hlive)
  | t3489 => exact hstop.esmTimerEventSend taken hlive
  | t3413 => exact hstop.push_one taken hlive rfl
  | t3422 => exact hstop.push_one taken hlive rfl
  | t3450 => exact hstop.push_one taken hlive rfl
  | t3460 => exact hstop.push_one taken hlive rfl
  | t3470 => exact hstop.push_one taken hlive rfl

theorem Sound.delayedExpire (hs : s.Sound) (taken : Bool) (he : e ∈ s.delayed) :
    (s.mmeTimerS1DelayedSend e taken).Sound := by
  have herase : { s with delayed := s.delayed.erase e }.Sound := by
    refine ⟨hs.owned, hs.bearerMmeUe, hs.timers, ?_⟩
    intro e' he'
    apply hs.events e'
    rcases List.mem_append.mp he' with hqueue | hdelayed
    · exact List.mem_append_left _ hqueue
    · exact List.mem_append_right _ (List.mem_of_mem_erase hdelayed)
  exact herase.push taken (hs.events e (List.mem_append_right _ he))

/-- A context gets a free slot, and its owner is there. -/
theorem Sound.alloc {t : MmeQueue} {k : MmePtr} (hs : s.Sound) (hfree : s.slots.live k = false)
    (hslots : t.slots = s.slots.alloc k) (hother : ∀ x, x ≠ k → t.owner x = s.owner x)
    (howner : ∀ o, t.owner k = some o → s.slots.live o = true)
    (hbearer : ∀ n, t.slots.live (.bearer n) = true →
      t.bearerMmeUe n = t.sessMmeUe (t.bearerSess n))
    (htimers : t.timers = s.timers) (hqueue : t.queue = s.queue)
    (hdelayed : t.delayed = s.delayed) : t.Sound := by
  refine ⟨?_, hbearer, ?_, ?_⟩
  · rw [hslots]
    exact hs.owned.alloc hother howner
  · intro timer n r hr
    rw [htimers] at hr
    rw [hslots]
    obtain ⟨hslot, hvalid⟩ := hs.timers timer n r hr
    exact ⟨hslot, hvalid.alloc hfree⟩
  · intro e he r hr
    rw [hqueue, hdelayed] at he
    rw [hslots]
    exact (hs.events e he r hr).alloc hfree

theorem live_alloc_ne {x : MmePtr} (k : MmePtr) (hne : x ≠ k)
    (h : (s.slots.alloc k).live x = true) : s.slots.live x = true :=
  (Slots.live_alloc.mp h).resolve_left hne

theorem Sound.mmeEnbAdd (hs : s.Sound) (hfree : s.slots.live (.enb n) = false) :
    (s.mmeEnbAdd n).Sound := by
  apply hs.alloc hfree rfl
  · exact fun _ _ => rfl
  · exact fun _ h => nomatch h
  · exact fun b hb => hs.bearerMmeUe b (live_alloc_ne (.enb n) nofun hb)
  · rfl
  · rfl
  · rfl

theorem Sound.mmeUeAdd (hs : s.Sound) (hfree : s.slots.live (.mmeUe n) = false) :
    (s.mmeUeAdd n).Sound := by
  apply hs.alloc hfree rfl
  · exact fun _ _ => rfl
  · exact fun _ h => nomatch h
  · exact fun b hb => hs.bearerMmeUe b (live_alloc_ne (.mmeUe n) nofun hb)
  · rfl
  · rfl
  · rfl

/-- The owner after one connection was given an eNB -/
theorem owner_update_enbUeEnb {enb : Nat} {x : MmePtr} (hne : x ≠ .enbUe n) :
    { s with enbUeEnb := Function.update s.enbUeEnb n enb }.owner x = s.owner x := by
  cases x with
  | enbUe m =>
    have hm : m ≠ n := by
      rintro rfl
      exact hne rfl
    simp [owner, hm]
  | _ => rfl

theorem Sound.enbUeAdd {enb : Nat} (hs : s.Sound) (hfree : s.slots.live (.enbUe n) = false)
    (henb : s.slots.live (.enb enb) = true) : (s.enbUeAdd n enb).Sound := by
  apply hs.alloc hfree rfl
  · exact fun x hne => owner_update_enbUeEnb hne
  · intro o ho
    simp only [MmeQueue.enbUeAdd, owner, Function.update_self, Option.some.injEq] at ho
    exact ho ▸ henb
  · exact fun b hb => hs.bearerMmeUe b (live_alloc_ne (.enbUe n) nofun hb)
  · rfl
  · rfl
  · rfl

theorem Sound.enbUeSwitchToEnb {enb : Nat} (hs : s.Sound) (henb : s.slots.live (.enb enb) = true) :
    (s.enbUeSwitchToEnb n enb).Sound := by
  refine ⟨?_, hs.bearerMmeUe, hs.timers, hs.events⟩
  intro k o hk ho
  by_cases hkn : k = .enbUe n
  · subst hkn
    simp only [MmeQueue.enbUeSwitchToEnb, owner, Function.update_self, Option.some.injEq] at ho
    exact ho ▸ henb
  · change { s with enbUeEnb := Function.update s.enbUeEnb n enb }.owner k = some o at ho
    rw [owner_update_enbUeEnb hkn] at ho
    exact hs.owned k o hk ho

theorem Sound.mmeBearerAdd {sess : Nat} (hs : s.Sound)
    (hfree : s.slots.live (.bearer n) = false) (hsess : s.slots.live (.sess sess) = true) :
    (s.mmeBearerAdd n sess).Sound := by
  apply hs.alloc hfree rfl
  · intro x hne
    cases x with
    | bearer m =>
      have hm : m ≠ n := by
        rintro rfl
        exact hne rfl
      simp [MmeQueue.mmeBearerAdd, owner, hm]
    | _ => rfl
  · intro o ho
    simp only [MmeQueue.mmeBearerAdd, owner, Function.update_self, Option.some.injEq] at ho
    exact ho ▸ hsess
  · intro m hm
    change Function.update s.bearerMmeUe n (s.sessMmeUe sess) m =
      s.sessMmeUe (Function.update s.bearerSess n sess m)
    by_cases hmn : m = n
    · subst hmn
      rw [Function.update_self, Function.update_self]
    · rw [Function.update_of_ne hmn, Function.update_of_ne hmn]
      apply hs.bearerMmeUe m (live_alloc_ne (.bearer n) _ hm)
      rintro ⟨⟩
      exact hmn rfl
  · rfl
  · rfl
  · rfl

/-- No bearer points to a session that is not there. -/
theorem Sound.sessAlloc {mmeUe : Nat} (hs : s.Sound) (hfree : s.slots.live (.sess n) = false)
    (hmmeUe : s.slots.live (.mmeUe mmeUe) = true) : (s.sessAlloc n mmeUe).Sound := by
  apply hs.alloc hfree rfl
  · intro x hne
    cases x with
    | sess m =>
      have hm : m ≠ n := by
        rintro rfl
        exact hne rfl
      simp [MmeQueue.sessAlloc, owner, hm]
    | _ => rfl
  · intro o ho
    simp only [MmeQueue.sessAlloc, owner, Function.update_self, Option.some.injEq] at ho
    exact ho ▸ hmmeUe
  · intro b hb
    have hlive : s.slots.live (.bearer b) = true := live_alloc_ne (.sess n) nofun hb
    have hsess : s.slots.live (.sess (s.bearerSess b)) = true := hs.owned (.bearer b) _ hlive rfl
    have hne : s.bearerSess b ≠ n := by
      intro heq
      rw [heq, hfree] at hsess
      cases hsess
    change s.bearerMmeUe b = Function.update s.sessMmeUe n mmeUe (s.bearerSess b)
    rw [Function.update_of_ne hne]
    exact hs.bearerMmeUe b hlive
  · rfl
  · rfl
  · rfl

theorem Sound.mmeSessAdd {mmeUe bearer : Nat} (hs : s.Sound)
    (hsess : s.slots.live (.sess n) = false) (hbearer : s.slots.live (.bearer bearer) = false)
    (hmmeUe : s.slots.live (.mmeUe mmeUe) = true) : (s.mmeSessAdd n mmeUe bearer).Sound := by
  apply (hs.sessAlloc hsess hmmeUe).mmeBearerAdd
  · apply Bool.eq_false_of_not_eq_true
    intro hlive
    cases hbearer.symm.trans (live_alloc_ne (.sess n) nofun hlive)
  · exact Slots.live_alloc.mpr (Or.inl rfl)

/-- What a set of contexts owns is removed with it. -/
theorem Sound.remove (hs : s.Sound)
    (hgone : ∀ k o, s.owner k = some o → gone o = true → gone k = true)
    (hunqueued : s.Unqueued gone) : (s.remove gone).Sound where
  owned := hs.owned.free hgone
  bearerMmeUe := fun n hn => hs.bearerMmeUe n (Slots.live_free.mp hn).1
  timers := by
    intro timer n r hr
    change (if gone (timer.context n) then none else s.timers timer n) = some r at hr
    split at hr
    · cases hr
    · rename_i hkept
      obtain ⟨hslot, hvalid⟩ := hs.timers timer n r hr
      refine ⟨hslot, hvalid.free ?_⟩
      rw [hslot]
      exact Bool.eq_false_of_not_eq_true hkept
  events := fun e he r hr => (hs.events e he r hr).free (hunqueued e he r hr)

theorem inEnb_owned (s : MmeQueue) (enb : Nat) (k o : MmePtr) (ho : s.owner k = some o)
    (h : s.inEnb enb o = true) : s.inEnb enb k = true := by
  cases k with
  | enb n => cases ho
  | mmeUe n => cases ho
  | enbUe n =>
    cases ho
    exact h
  | sess n =>
    cases ho
    cases h
  | bearer n =>
    cases ho
    cases h

theorem inMmeUe_owned (s : MmeQueue) (mmeUe : Nat) (k o : MmePtr) (ho : s.owner k = some o)
    (h : s.inMmeUe mmeUe o = true) : s.inMmeUe mmeUe k = true := by
  cases k with
  | enb n => cases ho
  | mmeUe n => cases ho
  | enbUe n =>
    cases ho
    cases h
  | sess n =>
    cases ho
    exact h
  | bearer n =>
    cases ho
    exact h

theorem inSess_owned (s : MmeQueue) (sess : Nat) (k o : MmePtr) (ho : s.owner k = some o)
    (h : s.inSess sess o = true) : s.inSess sess k = true := by
  cases k with
  | enb n => cases ho
  | mmeUe n => cases ho
  | enbUe n =>
    cases ho
    cases h
  | sess n =>
    cases ho
    cases h
  | bearer n =>
    cases ho
    exact h

theorem owner_ne (k : MmePtr) : s.owner k ≠ some (.enbUe n) ∧ s.owner k ≠ some (.bearer n) := by
  cases k with
  | _ => exact ⟨nofun, nofun⟩

/-- What an action with its condition keeps -/
theorem Sound.exec {action : MmeAction} (hs : s.Sound) (hadmits : s.Admits action)
    (hguard : QueueGuard s (action, s)) : (s.exec action).Sound := by
  cases action with
  | mmeEnbAdd enb => exact hs.mmeEnbAdd hadmits
  | enbUeAdd enbUe enb => exact hs.enbUeAdd hadmits hguard
  | enbUeSwitchToEnb enbUe newEnb => exact hs.enbUeSwitchToEnb hguard
  | mmeUeAdd mmeUe => exact hs.mmeUeAdd hadmits
  | mmeSessAdd sess mmeUe bearer => exact hs.mmeSessAdd hadmits.1 hadmits.2 hguard
  | mmeBearerAdd bearer sess => exact hs.mmeBearerAdd hadmits hguard
  | mmeEnbRemove enb => exact hs.remove (s.inEnb_owned enb) hguard
  | enbUeRemove enbUe =>
    have hunqueued : s.Unqueued (· == .enbUe enbUe) := hguard
    apply hs.remove _ hunqueued
    intro k o ho heq
    rw [eq_of_beq heq] at ho
    exact absurd ho (owner_ne k).1
  | mmeUeRemove mmeUe => exact hs.remove (s.inMmeUe_owned mmeUe) hguard
  | mmeSessRemove sess => exact hs.remove (s.inSess_owned sess) hguard
  | mmeBearerRemove bearer =>
    have hunqueued : s.Unqueued (· == .bearer bearer) := hguard
    apply hs.remove _ hunqueued
    intro k o ho heq
    rw [eq_of_beq heq] at ho
    exact absurd ho (owner_ne k).2
  | message id taken => exact hs.push taken (List.forall_mem_nil _)
  | s1apSendToNas enbUe taken => exact hs.push_one taken hguard rfl
  | s1apSendToEsm mmeUe taken => exact hs.push_one taken hguard rfl
  | s6aAnswer mmeUe taken => exact hs.push_one taken hguard rfl
  | s1apDelayedSendToEnbUe enbUe =>
    refine ⟨hs.owned, hs.bearerMmeUe, hs.timers, ?_⟩
    intro e he
    rcases List.mem_append.mp he with hqueue | hdelayed
    · exact hs.events e (List.mem_append_left _ hqueue)
    · rcases List.mem_cons.mp hdelayed with rfl | hdelayed
      · exact hs.s1apTimerEvent hguard
      · exact hs.events e (List.mem_append_right _ hdelayed)
  | delayedExpire e taken => exact hs.delayedExpire taken hadmits
  | timerStart timer n => exact hs.timerStart hguard
  | timerStop timer n => exact hs.timerStop timer n
  | timerExpire timer n taken => exact hs.timerExpire taken hadmits
  | dispatch =>
    refine ⟨hs.owned, hs.bearerMmeUe, hs.timers, ?_⟩
    intro e he
    apply hs.events e
    rcases List.mem_append.mp he with hqueue | hdelayed
    · exact List.mem_append_left _ (List.mem_of_mem_tail hqueue)
    · exact List.mem_append_right _ hdelayed

theorem Sound.proper {action : MmeAction} (hs : s.Sound) (t : MmeQueue) :
    Proper ((action, s), t) := by
  cases action with
  | dispatch =>
    intro e he
    exact hs.events e (List.mem_append_left _ (List.mem_of_mem_head? he))
  | timerExpire timer n taken => exact fun r hr => (hs.timers timer n r hr).2
  | _ => trivial

end

end MmeQueue

open MmeQueue

/-- In every run whose actions meet the condition, the contexts of the events that are processed
and of the callbacks of timers are those for which they were made. -/
theorem mmeQueue_contexts_live (trace : List ((MmeAction × MmeQueue) × MmeQueue))
    (hrun : Lts.Trace (Lts.Restrict QueueGuard Step) initial trace) :
    ∀ step ∈ trace, Proper step := by
  have hinv := hrun.invariant_of (I := Sound) (Q := fun _ => True)
    (fun s label t hs hstep _ => by
      obtain ⟨hguard, ⟨hadmits⟩⟩ := hstep
      exact hs.exec hadmits hguard)
    (fun _ _ => trivial) initial_sound
  intro step hmem
  obtain ⟨s, hs, ⟨-, hstep⟩, -⟩ := hinv step hmem
  obtain ⟨⟨action, s'⟩, t⟩ := step
  cases hstep
  exact hs.proper _

namespace MmeQueue

theorem trace_cons {s : MmeQueue} {trace : List ((MmeAction × MmeQueue) × MmeQueue)}
    (action : MmeAction) (hadmits : s.Admits action) (h : Lts.Trace Step (s.exec action) trace) :
    Lts.Trace Step s (((action, s), s.exec action) :: trace) :=
  .cons (.run hadmits) h

theorem guarded_cons {s : MmeQueue} {trace : List ((MmeAction × MmeQueue) × MmeQueue)}
    (action : MmeAction) (hadmits : s.Admits action) (hguard : QueueGuard s (action, s))
    (h : Lts.Trace (Lts.Restrict QueueGuard Step) (s.exec action) trace) :
    Lts.Trace (Lts.Restrict QueueGuard Step) s (((action, s), s.exec action) :: trace) :=
  .cons ⟨hguard, .run hadmits⟩ h

end MmeQueue

/-- A message of a UE is processed, and then its connection is lost. -/
theorem mmeQueue_contexts_live_uplink :
    ∃ trace : List ((MmeAction × MmeQueue) × MmeQueue), trace.length = 9 ∧
      ∀ step ∈ trace, Proper step := by
  refine ⟨_, ?_, mmeQueue_contexts_live _
    (guarded_cons (.mmeEnbAdd 0) rfl trivial
    (guarded_cons (.enbUeAdd 1 0) rfl rfl
    (guarded_cons (.timerStart .ueContextRelease 1) trivial rfl
    (guarded_cons (.message .s1apMessage true) trivial trivial
    (guarded_cons .dispatch nofun trivial
    (guarded_cons (.s1apSendToNas 1 true) trivial rfl
    (guarded_cons .dispatch nofun trivial
    (guarded_cons (.timerExpire .ueContextRelease 1 false) nofun trivial
    (guarded_cons (.mmeEnbRemove 0) trivial ?_ (.nil _))))))))))⟩
  · rfl
  · intro e he
    cases he

/-- An eNB is lost while a release command to one of its UEs is delayed. -/
theorem mmeQueue_context_lost : ¬∀ trace : List ((MmeAction × MmeQueue) × MmeQueue),
    Lts.Trace Step initial trace → ∀ step ∈ trace, Proper step := by
  intro hclaim
  have hproper := hclaim _
    (trace_cons (.mmeEnbAdd 0) rfl
    (trace_cons (.enbUeAdd 1 0) rfl
    (trace_cons (.s1apDelayedSendToEnbUe 1) trivial
    (trace_cons (.message .s1apLoConnrefused true) trivial
    (trace_cons .dispatch nofun
    (trace_cons (.mmeEnbRemove 0) trivial
    (trace_cons (.delayedExpire _ true) List.mem_cons_self
    (trace_cons .dispatch nofun (.nil _))))))))) _ (List.mem_of_getElem? (i := 7) rfl)
  have hlive := (hproper _ rfl _ List.mem_cons_self).1
  cases hlive

end NextEpc
